import Mathlib.Data.List.Basic
import Mathlib.Logic.Relation

namespace Lib

variable {σ ℓ : Type*}

/-- The state after taking the labelled steps of `ops` in order. -/
def run (step : σ → ℓ → σ) (s : σ) (ops : List ℓ) : σ := ops.foldl step s

/-- `P` holds at every step of the run, of the state before the step and
the label taken there. Conditions on a run and conclusions about its steps
are both stated with it. -/
def Along (step : σ → ℓ → σ) (P : σ → ℓ → Prop) : σ → List ℓ → Prop
  | _, [] => True
  | s, op :: ops => P s op ∧ Along step P (step s op) ops

instance Along.decidable (step : σ → ℓ → σ) (P : σ → ℓ → Prop) [∀ s op, Decidable (P s op)] :
    ∀ s ops, Decidable (Along step P s ops)
  | _, [] => inferInstanceAs (Decidable True)
  | s, op :: ops =>
    have := Along.decidable step P (step s op) ops
    inferInstanceAs (Decidable (P s op ∧ Along step P (step s op) ops))

variable {step : σ → ℓ → σ} {P Q : σ → ℓ → Prop} {I : σ → Prop} {s : σ} {ops : List ℓ}

@[simp] theorem run_nil : run step s [] = s := rfl

@[simp] theorem run_cons (op : ℓ) : run step s (op :: ops) = run step (step s op) ops := rfl

theorem run_append (first last : List ℓ) :
    run step s (first ++ last) = run step (run step s first) last :=
  List.foldl_append ..

@[simp] theorem along_nil : Along step P s [] := trivial

@[simp] theorem along_cons {op : ℓ} :
    Along step P s (op :: ops) ↔ P s op ∧ Along step P (step s op) ops := Iff.rfl

theorem along_append {first last : List ℓ} :
    Along step P s (first ++ last) ↔ Along step P s first ∧ Along step P (run step s first) last := by
  induction first generalizing s with
  | nil => simp
  | cons op first ih => simp only [List.cons_append, along_cons, run_cons, ih, and_assoc]

theorem Along.of_forall (all : ∀ s op, P s op) (s : σ) (ops : List ℓ) : Along step P s ops := by
  induction ops generalizing s with
  | nil => trivial
  | cons op ops ih => exact ⟨all s op, ih (step s op)⟩

theorem Along.and (left : Along step P s ops) (right : Along step Q s ops) :
    Along step (fun s op => P s op ∧ Q s op) s ops := by
  induction ops generalizing s with
  | nil => trivial
  | cons op ops ih => exact ⟨⟨left.1, right.1⟩, ih left.2 right.2⟩

/-- The invariant rule: what the start satisfies and each permitted step
keeps holds of every state a permitted run reaches. -/
theorem Along.invariant (along : Along step P s ops) (start : I s)
    (keep : ∀ s op, I s → P s op → I (step s op)) : I (run step s ops) := by
  induction ops generalizing s with
  | nil => exact start
  | cons op ops ih => exact ih along.2 (keep s op start along.1)

theorem run_invariant (start : I s) (keep : ∀ s op, I s → I (step s op)) (ops : List ℓ) :
    I (run step s ops) := by
  induction ops generalizing s with
  | nil => exact start
  | cons op ops ih => exact ih (keep s op start)

/-- Under an invariant of the permitted steps, the permission at each step
may be traded for anything it implies there. -/
theorem Along.imp (along : Along step P s ops) (start : I s)
    (keep : ∀ s op, I s → P s op → I (step s op))
    (imp : ∀ s op, I s → P s op → Q s op) : Along step Q s ops := by
  induction ops generalizing s with
  | nil => trivial
  | cons op ops ih => exact ⟨imp s op start along.1, ih along.2 (keep s op start along.1)⟩

/-- Under an invariant of all steps, two conditions that agree at each step
permit the same runs. -/
theorem along_congr (start : I s) (keep : ∀ s op, I s → I (step s op)) (same : ∀ s op, I s → (P s op ↔ Q s op)) :
    Along step P s ops ↔ Along step Q s ops := by
  induction ops generalizing s with
  | nil => exact Iff.rfl
  | cons op ops ih => rw [along_cons, along_cons, same s op start, ih (keep s op start)]

end Lib

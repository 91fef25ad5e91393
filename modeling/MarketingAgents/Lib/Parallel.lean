import MarketingAgents.Lib.Run

namespace Lib

variable {σ ℓ : Type*}

/-- Two runs that take the same steps but for those that `skips` admits, each
run for itself. `P` holds at every step they share. -/
inductive Parallel (step : σ → ℓ → σ) (skips : ℓ → Prop) (P : σ → σ → ℓ → Prop) : σ → σ → List ℓ → List ℓ → Prop
  | done (s t : σ) : Parallel step skips P s t [] []
  | first {s t : σ} {op : ℓ} {ops ops' : List ℓ} (skipped : skips op)
      (rest : Parallel step skips P (step s op) t ops ops') : Parallel step skips P s t (op :: ops) ops'
  | second {s t : σ} {op : ℓ} {ops ops' : List ℓ} (skipped : skips op)
      (rest : Parallel step skips P s (step t op) ops ops') : Parallel step skips P s t ops (op :: ops')
  | both {s t : σ} {op : ℓ} {ops ops' : List ℓ} (shared : P s t op)
      (rest : Parallel step skips P (step s op) (step t op) ops ops') : Parallel step skips P s t (op :: ops) (op :: ops')

variable {step : σ → ℓ → σ} {skips : ℓ → Prop} {P : σ → σ → ℓ → Prop} {R : σ → σ → Prop} {s t : σ} {ops ops' : List ℓ}

/-- The two-run rule: what relates the starts, and stays through a step of
either run alone and through the steps that are shared, relates the ends. -/
theorem Parallel.invariant (parallel : Parallel step skips P s t ops ops') (start : R s t)
    (left : ∀ s t op, skips op → R s t → R (step s op) t) (right : ∀ s t op, skips op → R s t → R s (step t op))
    (both : ∀ s t op, P s t op → R s t → R (step s op) (step t op)) : R (run step s ops) (run step t ops') := by
  induction parallel with
  | done s t => exact start
  | first skipped rest ih => exact ih (left _ _ _ skipped start)
  | second skipped rest ih => exact ih (right _ _ _ skipped start)
  | both shared rest ih => exact ih (both _ _ _ shared start)

/-- A run beside itself. -/
theorem Parallel.same (shared : ∀ s op, P s s op) (s : σ) {ops ops' : List ℓ} (before : List ℓ)
    (rest : Parallel step skips P (run step s before) (run step s before) ops ops') :
    Parallel step skips P s s (before ++ ops) (before ++ ops') := by
  induction before generalizing s with
  | nil => exact rest
  | cons op before ih => exact .both (shared s op) (ih (step s op) rest)

end Lib

import Mathlib.Data.List.Basic

namespace Lib

universe u v w

variable {ε : Type u} {α β : Type v} {ι : Type w}

def require (condition : Prop) [Decidable condition] (error : ε) : Except ε Unit :=
  if condition then .ok () else .error error

@[simp] theorem require_eq_ok {condition : Prop} [Decidable condition] {error : ε} {u : Unit} :
    require condition error = .ok u ↔ condition := by
  unfold require
  split <;> simp [*]

def orRaise (found : Option α) (error : ε) : Except ε α :=
  match found with
  | some a => .ok a
  | none => .error error

@[simp] theorem orRaise_eq_ok {found : Option α} {error : ε} {a : α} :
    orRaise found error = .ok a ↔ found = some a := by
  cases found <;> simp [orRaise]

/-- A computation that returns went through every statement before it. -/
@[simp] theorem bind_eq_ok {x : Except ε α} {f : α → Except ε β} {b : β} :
    (x >>= f) = .ok b ↔ ∃ a, x = .ok a ∧ f a = .ok b := by
  cases x with
  | error e => simp [bind, Except.bind]
  | ok a => simp [bind, Except.bind]

@[simp] theorem pure_eq_ok {a b : α} : (pure a : Except ε α) = .ok b ↔ a = b := by
  simp [pure, Except.pure]

/-- A computation fails where its first part does, or what follows it. -/
theorem bind_eq_error {x : Except ε α} {f : α → Except ε β} {error : ε} :
    (x >>= f) = .error error ↔ x = .error error ∨ ∃ a, x = .ok a ∧ f a = .error error := by
  cases x with
  | error e => simp [bind, Except.bind]
  | ok a => simp [bind, Except.bind]

theorem orRaise_eq_error {found : Option α} {error error' : ε} :
    orRaise found error = .error error' ↔ found = none ∧ error = error' := by
  cases found <;> simp [orRaise]

theorem require_eq_error {condition : Prop} [Decidable condition] {error error' : ε} :
    require condition error = .error error' ↔ ¬ condition ∧ error = error' := by
  unfold require
  split <;> simp [*]

theorem mapError_eq_ok {ε' : Type*} {result : Except ε α} {f : ε → ε'} {value : α} :
    result.mapError f = .ok value ↔ result = .ok value := by
  cases result <;> simp [Except.mapError]

theorem map_eq_ok {x : Except ε α} {f : α → β} {b : β} : x.map f = .ok b ↔ ∃ a, x = .ok a ∧ f a = b := by
  cases x <;> simp [Except.map]

theorem isOk_iff {result : Except ε α} : result.isOk = true ↔ ∃ a, result = .ok a := by
  cases result <;> simp [Except.isOk, Except.toBool]

theorem ok_of_mem {result : Except ε α} {a : α} (member : a ∈ result.toOption) : result = .ok a := by
  cases result with
  | error error => cases member
  | ok found => exact congrArg Except.ok (Option.some.inj member)

theorem ok_some_of_mem {result : Except ε (Option α)} {a : α} (member : a ∈ result.toOption.join) : result = .ok (some a) := by
  cases result with
  | error error => cases member
  | ok found => exact congrArg Except.ok member

/-- The loop rule: an invariant of the accumulator that each iteration over
an element of the list keeps holds when the loop returns. -/
theorem foldlM_invariant {f : β → ι → Except ε β} {items : List ι} {b b' : β} {I : β → Prop}
    (done : items.foldlM f b = .ok b') (start : I b)
    (keep : ∀ a ∈ items, ∀ b b', I b → f b a = .ok b' → I b') : I b' := by
  induction items generalizing b with
  | nil =>
    simp only [List.foldlM_nil, pure_eq_ok] at done
    exact done ▸ start
  | cons a items ih =>
    simp only [List.foldlM_cons, bind_eq_ok] at done
    obtain ⟨next, first, rest⟩ := done
    exact ih rest (keep a (List.mem_cons_self ..) b next start first)
      fun a member => keep a (List.mem_cons_of_mem _ member)

/-- A loop that fails does so in one of its iterations. -/
theorem foldlM_error {f : β → ι → Except ε β} {items : List ι} {b : β} {error : ε}
    (failed : items.foldlM f b = .error error) : ∃ a ∈ items, ∃ mid, f mid a = .error error := by
  induction items generalizing b with
  | nil => cases failed
  | cons a items ih =>
    rw [List.foldlM_cons, bind_eq_error] at failed
    rcases failed with here | ⟨mid, _, later⟩
    · exact ⟨a, List.mem_cons_self .., b, here⟩
    · obtain ⟨next, member, mid, fails⟩ := ih later
      exact ⟨next, List.mem_cons_of_mem _ member, mid, fails⟩

/-- A loop that returns passed through every cut of its list. -/
theorem foldlM_append_ok {f : β → ι → Except ε β} {first last : List ι} {b b' : β} :
    (first ++ last).foldlM f b = .ok b' ↔ ∃ mid, first.foldlM f b = .ok mid ∧ last.foldlM f mid = .ok b' := by
  rw [List.foldlM_append, bind_eq_ok]

/-- A loop that returns did so through an iteration of each element. -/
theorem foldlM_ok_at {f : β → ι → Except ε β} {items : List ι} {b b' : β} (done : items.foldlM f b = .ok b') {a : ι}
    (member : a ∈ items) : ∃ first last mid next, items = first ++ a :: last ∧ first.foldlM f b = .ok mid ∧
      f mid a = .ok next ∧ last.foldlM f next = .ok b' := by
  obtain ⟨first, last, rfl⟩ := List.append_of_mem member
  obtain ⟨mid, before, rest⟩ := foldlM_append_ok.mp done
  rw [List.foldlM_cons, bind_eq_ok] at rest
  obtain ⟨next, here, after⟩ := rest
  exact ⟨first, last, mid, next, rfl, before, here, after⟩

/-- What each call of a comprehension guarantees holds of all its results. -/
theorem mapM_ok_forall {f : ι → Except ε α} {P : α → Prop} (each : ∀ i a, f i = .ok a → P a)
    {items : List ι} {results : List α} (done : items.mapM f = .ok results) : ∀ a ∈ results, P a := by
  induction items generalizing results with
  | nil =>
    rw [List.mapM_nil, pure_eq_ok] at done
    subst done
    simp
  | cons i items ih =>
    simp only [List.mapM_cons, bind_eq_ok, pure_eq_ok] at done
    obtain ⟨a, first, rest, later, rfl⟩ := done
    exact List.forall_mem_cons.mpr ⟨each i a first, ih later⟩

theorem mapM_ok_iff {f : ι → Except ε α} {items : List ι} :
    (∃ results, items.mapM f = .ok results) ↔ ∀ i ∈ items, ∃ a, f i = .ok a := by
  induction items with
  | nil => simp [pure, Except.pure]
  | cons i items ih =>
    simp only [List.mapM_cons, bind_eq_ok, pure_eq_ok, List.forall_mem_cons, ← ih]
    constructor
    · rintro ⟨_, a, first, rest, later, rfl⟩
      exact ⟨⟨a, first⟩, rest, later⟩
    · rintro ⟨⟨a, first⟩, rest, later⟩
      exact ⟨a :: rest, a, first, rest, later, rfl⟩

/-- The result of each call is among those of the comprehension. -/
theorem mapM_ok_mem {f : ι → Except ε α} {items : List ι} {results : List α} (done : items.mapM f = .ok results)
    {i : ι} (member : i ∈ items) : ∃ a ∈ results, f i = .ok a := by
  induction items generalizing results with
  | nil => cases member
  | cons head items ih =>
    simp only [List.mapM_cons, bind_eq_ok, pure_eq_ok] at done
    obtain ⟨a, first, rest, later, rfl⟩ := done
    rcases List.mem_cons.mp member with rfl | more
    · exact ⟨a, List.mem_cons_self .., first⟩
    · obtain ⟨b, listed, here⟩ := ih later more
      exact ⟨b, List.mem_cons_of_mem _ listed, here⟩

theorem mapM_some_iff {f : ι → Option α} {items : List ι} :
    (∃ results, items.mapM f = some results) ↔ ∀ i ∈ items, ∃ a, f i = some a := by
  induction items with
  | nil => simp
  | cons i items ih =>
    simp only [List.mapM_cons, Option.bind_eq_bind, Option.bind_eq_some_iff, Option.pure_def, Option.some.injEq,
      List.forall_mem_cons, ← ih]
    constructor
    · rintro ⟨_, a, here, later, below, rfl⟩
      exact ⟨⟨a, here⟩, later, below⟩
    · rintro ⟨⟨a, here⟩, later, below⟩
      exact ⟨a :: later, a, here, later, below, rfl⟩

/-- A comprehension that fails does so in one of its calls. -/
theorem mapM_error {f : ι → Except ε α} {items : List ι} {error : ε} (failed : items.mapM f = .error error) :
    ∃ i ∈ items, f i = .error error := by
  induction items with
  | nil => cases failed
  | cons i items ih =>
    rw [List.mapM_cons, bind_eq_error] at failed
    rcases failed with here | ⟨_, _, later⟩
    · exact ⟨i, List.mem_cons_self .., here⟩
    · rcases bind_eq_error.mp later with below | ⟨_, _, impossible⟩
      · obtain ⟨j, member, fails⟩ := ih below
        exact ⟨j, List.mem_cons_of_mem _ member, fails⟩
      · cases impossible

end Lib

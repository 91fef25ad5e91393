import MarketingAgents.Lib.Result

namespace Lib

universe u v w

/-- Two computations that fail alike, or return related values. -/
inductive Alike {ε : Type u} {α : Type v} {β : Type w} (R : α → β → Prop) : Except ε α → Except ε β → Prop
  | error (e : ε) : Alike R (.error e) (.error e)
  | ok {a : α} {b : β} (related : R a b) : Alike R (.ok a) (.ok b)

namespace Alike

section Rules

variable {ε ε' : Type u} {α β γ : Type v} {ι : Type w} {R : α → α → Prop} {S : β → β → Prop}

protected theorem pure {a b : α} (related : R a b) : Alike R (pure a : Except ε α) (pure b) := .ok related

theorem mono {R' : α → α → Prop} {x y : Except ε α} (alike : Alike R x y) (weaker : ∀ a b, R a b → R' a b) :
    Alike R' x y := by
  cases alike with
  | error e => exact .error e
  | ok related => exact .ok (weaker _ _ related)

protected theorem bind {x y : Except ε α} {f g : α → Except ε β} (first : Alike R x y)
    (rest : ∀ a b, R a b → Alike S (f a) (g b)) : Alike S (x >>= f) (y >>= g) := by
  cases first with
  | error e => exact .error e
  | ok related => exact rest _ _ related

/-- Both read the same value, and go on alike from it. -/
theorem read {x : Except ε γ} {f g : γ → Except ε β} (rest : ∀ c, x = .ok c → Alike S (f c) (g c)) :
    Alike S (x >>= f) (x >>= g) := by
  cases x with
  | error e => exact .error e
  | ok c => exact rest c rfl

theorem map {x y : Except ε α} {f g : α → β} (alike : Alike R x y) (related : ∀ a b, R a b → S (f a) (g b)) :
    Alike S (x.map f) (y.map g) := by
  cases alike with
  | error e => exact .error e
  | ok here => exact .ok (related _ _ here)

theorem mapError {x y : Except ε α} (alike : Alike R x y) (f : ε → ε') : Alike R (x.mapError f) (y.mapError f) := by
  cases alike with
  | error e => exact .error (f e)
  | ok related => exact .ok related

/-- The loop rule: iterations that keep the accumulators related leave them so. -/
theorem foldlM {f g : α → ι → Except ε α} {items : List ι} {a b : α} (start : R a b)
    (keep : ∀ i ∈ items, ∀ a b, R a b → Alike R (f a i) (g b i)) : Alike R (items.foldlM f a) (items.foldlM g b) := by
  induction items generalizing a b with
  | nil => exact .pure start
  | cons i items ih =>
    rw [List.foldlM_cons, List.foldlM_cons]
    exact (keep i (List.mem_cons_self ..) a b start).bind fun a b related =>
      ih related fun j member => keep j (List.mem_cons_of_mem _ member)

/-- Results that agree on what is looked at are equal there. -/
theorem map_eq {p q : α → β} {x y : Except ε α} (alike : Alike R x y) (agree : ∀ a b, R a b → p a = q b) :
    x.map p = y.map q := by
  cases alike with
  | error e => rfl
  | ok related => exact congrArg Except.ok (agree _ _ related)

end Rules

end Alike

end Lib

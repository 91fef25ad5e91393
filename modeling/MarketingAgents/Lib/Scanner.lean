import Mathlib.Data.List.Basic

namespace Lib

/-- What is looked for in a text: a pattern that is found at the start of a text or not
there, spells what it takes, looks no further than that, and opens with certain elements only. -/
structure Scanner (α μ : Type*) where
  at? : List α → Option μ
  source : μ → List α
  opening : α → Bool
  nonempty : ∀ {text m}, at? text = some m → source m ≠ []
  here : ∀ {text m}, at? text = some m → source m <+: text
  stable : ∀ {text m}, at? text = some m → ∀ rest, at? (source m ++ rest) = some m
  opens : ∀ {a rest m}, at? (a :: rest) = some m → opening a = true

namespace Scanner

variable {α μ : Type*} (S : Scanner α μ)

/-- `finditer` with what stands between the matches; the elements of the match before are passed over. -/
def piecesFrom : Nat → List α → List (α ⊕ μ)
  | _, [] => []
  | skip + 1, _ :: rest => piecesFrom skip rest
  | 0, a :: rest =>
    match S.at? (a :: rest) with
    | some m => .inr m :: piecesFrom ((S.source m).length - 1) rest
    | none => .inl a :: piecesFrom 0 rest

def pieces (text : List α) : List (α ⊕ μ) := S.piecesFrom 0 text

/-- `re.sub`: a match for which `f` has nothing stays as it is. -/
def substituteFrom (f : μ → Option (List α)) : Nat → List α → List α
  | _, [] => []
  | skip + 1, _ :: rest => substituteFrom f skip rest
  | 0, a :: rest =>
    match S.at? (a :: rest) with
    | some m => (f m).getD (S.source m) ++ substituteFrom f ((S.source m).length - 1) rest
    | none => a :: substituteFrom f 0 rest

def substitute (f : μ → Option (List α)) (text : List α) : List α := S.substituteFrom f 0 text

/-- What a piece spells, and what it becomes. -/
def spell : α ⊕ μ → List α
  | .inl a => [a]
  | .inr m => S.source m

def fill (f : μ → Option (List α)) : α ⊕ μ → List α
  | .inl a => [a]
  | .inr m => (f m).getD (S.source m)

variable {S} {text : List α} {f : μ → Option (List α)}

theorem flatMap_spell_map_inl (value : List α) : (value.map .inl).flatMap S.spell = value := by
  rw [List.flatMap_map]
  exact List.flatMap_singleton' value

theorem piecesFrom_eq (skip : Nat) (text : List α) : S.piecesFrom skip text = S.pieces (text.drop skip) := by
  induction text generalizing skip with
  | nil =>
    rw [List.drop_nil]
    cases skip <;> rfl
  | cons a rest ih =>
    cases skip with
    | zero => rfl
    | succ skip => exact ih skip

theorem pieces_of_none {a : α} {rest : List α} (none_ : S.at? (a :: rest) = none) :
    S.pieces (a :: rest) = .inl a :: S.pieces rest := by
  rw [pieces, piecesFrom, none_]
  rfl

theorem pieces_of_some {m : μ} (found : S.at? text = some m) :
    S.pieces text = .inr m :: S.pieces (text.drop (S.source m).length) := by
  cases text with
  | nil => exact absurd (List.prefix_nil.mp (S.here found)) (S.nonempty found)
  | cons a rest =>
    obtain ⟨n, length⟩ := Nat.exists_eq_succ_of_ne_zero fun zero => S.nonempty found (List.length_eq_zero_iff.mp zero)
    rw [pieces, piecesFrom, found]
    simp only
    rw [piecesFrom_eq, length, List.drop_succ_cons, Nat.succ_sub_one]

/-- The pieces are found in the text one after the other. -/
theorem pieces_induction {P : List α → Prop} (nil : P []) (char : ∀ a rest, S.at? (a :: rest) = none → P rest → P (a :: rest))
    (hit : ∀ m rest, S.at? (S.source m ++ rest) = some m → P rest → P (S.source m ++ rest)) (text : List α) : P text := by
  induction length : text.length using Nat.strongRecOn generalizing text with
  | _ n ih =>
    cases text with
    | nil => exact nil
    | cons a rest =>
      cases found : S.at? (a :: rest) with
      | none => exact char a rest found (ih rest.length (by rw [← length]; exact Nat.lt_succ_self _) rest rfl)
      | some m =>
        obtain ⟨later, split⟩ := S.here found
        have shorter : later.length < n := by
          have positive := List.length_pos_iff.mpr (S.nonempty found)
          rw [← length, ← split, List.length_append]
          omega
        rw [← split] at found ⊢
        exact hit m later found (ih later.length shorter later rfl)

theorem pieces_source_append {m : μ} {rest : List α} (found : S.at? (S.source m ++ rest) = some m) :
    S.pieces (S.source m ++ rest) = .inr m :: S.pieces rest := by
  rw [pieces_of_some found, List.drop_left]

/-- The pieces spell the text. -/
theorem flatMap_spell_pieces (text : List α) : (S.pieces text).flatMap S.spell = text := by
  induction text using S.pieces_induction with
  | nil => rfl
  | char a rest none_ ih =>
    rw [pieces_of_none none_, List.flatMap_cons, ih]
    rfl
  | hit m rest found ih =>
    rw [pieces_source_append found, List.flatMap_cons, ih]
    rfl

theorem substituteFrom_eq (skip : Nat) (text : List α) :
    S.substituteFrom f skip text = (S.piecesFrom skip text).flatMap (S.fill f) := by
  induction text generalizing skip with
  | nil => cases skip <;> rfl
  | cons a rest ih =>
    cases skip with
    | succ skip => exact ih skip
    | zero =>
      rw [substituteFrom, piecesFrom]
      cases S.at? (a :: rest) with
      | none =>
        simp only
        rw [ih, List.flatMap_cons]
        rfl
      | some m =>
        simp only
        rw [ih, List.flatMap_cons]
        rfl

/-- A substitution fills in the matches and leaves the rest in place. -/
theorem substitute_eq (text : List α) : S.substitute f text = (S.pieces text).flatMap (S.fill f) := substituteFrom_eq 0 text

/-- A match of some text. -/
def Matches (S : Scanner α μ) (m : μ) : Prop := ∃ text, S.at? text = some m

theorem matches_of_mem_pieces {m : μ} (member : .inr m ∈ S.pieces text) : S.Matches m := by
  induction text using S.pieces_induction with
  | nil => cases member
  | char a rest none_ ih =>
    rw [pieces_of_none none_] at member
    rcases List.mem_cons.mp member with same | later
    · cases same
    · exact ih later
  | hit m' rest found ih =>
    rw [pieces_source_append found] at member
    rcases List.mem_cons.mp member with same | later
    · cases same
      exact ⟨_, found⟩
    · exact ih later

/-- No element outside of the matches could open one. -/
def Plain (S : Scanner α μ) (items : List (α ⊕ μ)) : Prop := ∀ a, .inl a ∈ items → S.opening a = false

instance (items : List (α ⊕ μ)) : Decidable (S.Plain items) :=
  decidable_of_iff (∀ a ∈ items.filterMap Sum.getLeft?, S.opening a = false) (by
    simp only [List.mem_filterMap, Sum.getLeft?_eq_some_iff, exists_eq_right]
    rfl)

/-- Matches among elements that open none are read back as they are spelled. -/
theorem pieces_flatMap_spell {items : List (α ⊕ μ)} (plain : S.Plain items) (found : ∀ m, .inr m ∈ items → S.Matches m) :
    S.pieces (items.flatMap S.spell) = items := by
  induction items with
  | nil => rfl
  | cons item items ih =>
    have rest := ih (fun a member => plain a (List.mem_cons_of_mem _ member)) fun m member =>
      found m (List.mem_cons_of_mem _ member)
    rw [List.flatMap_cons]
    cases item with
    | inl a =>
      have none_ : S.at? (a :: items.flatMap S.spell) = none := by
        cases hit : S.at? (a :: items.flatMap S.spell) with
        | none => rfl
        | some m => exact absurd (S.opens hit) (Bool.eq_false_iff.mp (plain a (List.mem_cons_self ..)))
      rw [spell, List.singleton_append, pieces_of_none none_, rest]
    | inr m =>
      obtain ⟨text, hit⟩ := found m (List.mem_cons_self ..)
      rw [spell, pieces_source_append (S.stable hit _), rest]

/-- A piece after the substitution: what is filled in has no matches of its own. -/
def refill (f : μ → Option (List α)) : α ⊕ μ → List (α ⊕ μ)
  | .inl a => [.inl a]
  | .inr m =>
    match f m with
    | some value => value.map .inl
    | none => [.inr m]

theorem inl_mem_refill {item : α ⊕ μ} {a : α} (member : .inl a ∈ refill f item) :
    item = .inl a ∨ ∃ m value, item = .inr m ∧ f m = some value ∧ a ∈ value := by
  cases item with
  | inl b =>
    rw [refill, List.mem_singleton] at member
    exact Or.inl member.symm
  | inr m =>
    rw [refill] at member
    cases filled : f m with
    | none =>
      rw [filled, List.mem_singleton] at member
      cases member
    | some value =>
      rw [filled] at member
      obtain ⟨b, there, same⟩ := List.mem_map.mp member
      cases same
      exact Or.inr ⟨m, value, rfl, filled, there⟩

theorem inr_mem_refill {item : α ⊕ μ} {m : μ} (member : .inr m ∈ refill f item) : item = .inr m := by
  cases item with
  | inl b =>
    rw [refill, List.mem_singleton] at member
    cases member
  | inr m' =>
    rw [refill] at member
    cases filled : f m' with
    | none =>
      rw [filled, List.mem_singleton] at member
      exact member.symm
    | some value =>
      rw [filled] at member
      obtain ⟨b, _, same⟩ := List.mem_map.mp member
      cases same

/-- Each piece after the substitution spells what the substitution has for it. -/
theorem flatMap_spell_refill (item : α ⊕ μ) : (refill f item).flatMap S.spell = S.fill f item := by
  cases item with
  | inl a => rfl
  | inr m =>
    rw [fill, refill]
    cases f m with
    | none => exact List.append_nil _
    | some value => exact flatMap_spell_map_inl value

/-- Where neither what surrounds the matches nor what is filled in could open one, the matches
left are those that `f` has nothing for. -/
theorem pieces_substitute (plain : S.Plain (S.pieces text)) (values : ∀ m, .inr m ∈ S.pieces text →
    ∀ value ∈ f m, ∀ a ∈ value, S.opening a = false) :
    S.pieces (S.substitute f text) = (S.pieces text).flatMap (refill f) := by
  have spelled : S.substitute f text = ((S.pieces text).flatMap (refill f)).flatMap S.spell := by
    rw [substitute_eq, List.flatMap_assoc]
    exact List.flatMap_congr fun item _ => (flatMap_spell_refill item).symm
  rw [spelled]
  refine pieces_flatMap_spell ?_ ?_
  · intro a member
    obtain ⟨item, listed, inside⟩ := List.mem_flatMap.mp member
    rcases inl_mem_refill inside with rfl | ⟨m, value, rfl, filled, there⟩
    · exact plain _ listed
    · exact values m listed value filled a there
  · intro m member
    obtain ⟨item, listed, inside⟩ := List.mem_flatMap.mp member
    exact matches_of_mem_pieces (inr_mem_refill inside ▸ listed)

/-- `finditer`. -/
def found (S : Scanner α μ) (text : List α) : List μ := (S.pieces text).filterMap Sum.getRight?

theorem mem_found {m : μ} : m ∈ S.found text ↔ .inr m ∈ S.pieces text := by
  rw [found, List.mem_filterMap]
  constructor
  · rintro ⟨item, listed, right⟩
    rwa [← Sum.getRight?_eq_some_iff.mp right]
  · intro listed
    exact ⟨.inr m, listed, rfl⟩

theorem found_substitute (plain : S.Plain (S.pieces text)) (values : ∀ m, .inr m ∈ S.pieces text →
    ∀ value ∈ f m, ∀ a ∈ value, S.opening a = false) :
    S.found (S.substitute f text) = (S.found text).filter fun m => (f m).isNone := by
  rw [found, pieces_substitute plain values, found]
  induction S.pieces text with
  | nil => rfl
  | cons item items ih =>
    rw [List.flatMap_cons, List.filterMap_append, ih]
    cases item with
    | inl a => rfl
    | inr m =>
      change _ = (m :: items.filterMap Sum.getRight?).filter _
      rw [refill, List.filter_cons]
      cases f m with
      | none => rfl
      | some value =>
        have emptied : ((value.map .inl : List (α ⊕ μ)).filterMap Sum.getRight?) = [] := by
          rw [List.filterMap_map]
          exact List.filterMap_eq_nil_iff.mpr fun _ _ => rfl
        simp only [emptied, List.nil_append, Option.isNone_some, Bool.false_eq_true, if_false]

/-- Where there is nothing to fill in, the text is not changed. -/
theorem substitute_eq_self (nothing : ∀ m ∈ S.found text, f m = none) : S.substitute f text = text := by
  rw [substitute_eq]
  conv_rhs => rw [← flatMap_spell_pieces (S := S) text]
  refine List.flatMap_congr fun item listed => ?_
  cases item with
  | inl a => rfl
  | inr m => rw [fill, spell, nothing m (mem_found.mpr listed), Option.getD_none]

end Scanner

end Lib

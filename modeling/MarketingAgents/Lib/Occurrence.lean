import Mathlib.Data.List.Basic
import Mathlib.Data.List.Forall2

namespace Lib

universe u

variable {α : Type u}

section Words

variable {like : α → α → Bool}

/-- The text begins with a run that is like the word. -/
def startsLike (like : α → α → Bool) : List α → List α → Bool
  | [], _ => true
  | _ :: _, [] => false
  | a :: word, b :: text => like a b && startsLike like word text

theorem startsLike_iff {word text : List α} :
    startsLike like word text = true ↔ ∃ run rest, text = run ++ rest ∧ List.Forall₂ (fun a b => like a b = true) word run := by
  induction word generalizing text with
  | nil => simp [startsLike]
  | cons a word ih =>
    cases text with
    | nil =>
      refine ⟨fun starts => (nomatch starts), fun ⟨run, rest, split, same⟩ => ?_⟩
      cases same
      cases split
    | cons b text =>
      rw [startsLike, Bool.and_eq_true, ih]
      constructor
      · rintro ⟨first, run, rest, rfl, same⟩
        exact ⟨b :: run, rest, rfl, .cons first same⟩
      · rintro ⟨run, rest, split, same⟩
        cases same with
        | cons first same =>
          cases split
          exact ⟨first, _, rest, rfl, same⟩

end Words

section Scan

variable {here : Option α → List α → Bool} {width : Nat}

/-- Where a scan from left to right finds runs of the given width that do not
overlap; `here` sees the element before a place and the rest of the text. -/
def occurrences (here : Option α → List α → Bool) (width : Nat) : Nat → Nat → Option α → List α → List (Nat × Nat)
  | _, _, _, [] => []
  | 0, start, before, a :: rest =>
    if here before (a :: rest) then
      (start, start + width) :: occurrences here width (width - 1) (start + 1) (some a) rest
    else occurrences here width 0 (start + 1) (some a) rest
  | skip + 1, start, _, a :: rest => occurrences here width skip (start + 1) (some a) rest

/-- The element before the place that comes after a list. -/
def elementBefore (before : Option α) (first : List α) : Option α := first.getLast?.or before

theorem elementBefore_cons (before : Option α) (a : α) (first : List α) :
    elementBefore before (a :: first) = elementBefore (some a) first := by
  cases first with
  | nil => rfl
  | cons b first => simp [elementBefore, List.getLast?_cons]

/-- What is found is there. -/
theorem of_mem_occurrences {skip start : Nat} {before : Option α} {text : List α} {span : Nat × Nat}
    (found : span ∈ occurrences here width skip start before text) :
    ∃ first rest, text = first ++ rest ∧ rest ≠ [] ∧ span = (start + first.length, start + first.length + width) ∧
      here (elementBefore before first) rest = true := by
  induction text generalizing skip start before with
  | nil => cases found
  | cons a text ih =>
    have later : ∀ {skip}, span ∈ occurrences here width skip (start + 1) (some a) text →
        ∃ first rest, a :: text = first ++ rest ∧ rest ≠ [] ∧
          span = (start + first.length, start + first.length + width) ∧ here (elementBefore before first) rest = true := by
      intro skip found
      obtain ⟨first, rest, rfl, some_left, rfl, holds⟩ := ih found
      refine ⟨a :: first, rest, rfl, some_left, ?_, by rwa [elementBefore_cons]⟩
      rw [List.length_cons, Nat.add_assoc start 1, Nat.add_comm 1]
    cases skip with
    | succ skip => exact later found
    | zero =>
      rw [occurrences] at found
      split at found
      · rename_i holds
        rcases List.mem_cons.mp found with rfl | found
        · exact ⟨[], a :: text, rfl, List.cons_ne_nil _ _, rfl, holds⟩
        · exact later found
      · exact later found

/-- A scan finds something wherever there is something to find. -/
theorem occurrences_ne_nil {start : Nat} {before : Option α} {first rest : List α} (some_left : rest ≠ [])
    (holds : here (elementBefore before first) rest = true) : occurrences here width 0 start before (first ++ rest) ≠ [] := by
  induction first generalizing start before with
  | nil =>
    obtain ⟨a, rest, rfl⟩ := List.exists_cons_of_ne_nil some_left
    have here_now : here before (a :: rest) = true := holds
    rw [List.nil_append, occurrences, if_pos here_now]
    exact List.cons_ne_nil _ _
  | cons a first ih =>
    rw [List.cons_append, occurrences]
    split
    · exact List.cons_ne_nil _ _
    · exact ih (by rwa [← elementBefore_cons before])

end Scan

/-- A run that lies within another one is a part of it. -/
theorem infix_of_inside {inner outer first last first' last' : List α}
    (same : first ++ inner ++ last = first' ++ outer ++ last') (left : first'.length ≤ first.length)
    (right : last'.length ≤ last.length) : inner <:+: outer := by
  have starts : first' <+: first ++ inner ++ last := ⟨outer ++ last', by rw [same, List.append_assoc]⟩
  have starts' : first <+: first ++ inner ++ last := ⟨inner ++ last, by rw [List.append_assoc]⟩
  have ends : last' <:+ first ++ inner ++ last := ⟨first' ++ outer, same.symm⟩
  have front : first' <+: first := List.prefix_of_prefix_length_le starts starts' left
  have back : last' <:+ last := List.suffix_of_suffix_length_le ends (List.suffix_append _ last) right
  obtain ⟨a, rfl⟩ := front
  obtain ⟨b, rfl⟩ := back
  have same : first' ++ (a ++ inner ++ b ++ last') = first' ++ (outer ++ last') := by simpa using same
  exact ⟨a, b, List.append_cancel_right (List.append_cancel_left same)⟩

end Lib

import MarketingAgents.Lib.Dict

namespace Lib

variable {α : Type*} [DecidableEq α]

/-- The text after its first `skip` items, its occurrences of `tag` replaced from left to right. -/
def replaceFrom (tag value : List α) : Nat → List α → List α
  | _, [] => []
  | skip + 1, _ :: rest => replaceFrom tag value skip rest
  | 0, a :: rest =>
    if tag.isPrefixOf (a :: rest) then value ++ replaceFrom tag value (tag.length - 1) rest
    else a :: replaceFrom tag value 0 rest

/-- `text.replace(tag, value)`, of a tag that is not empty. -/
def replaceAll (tag value text : List α) : List α := if tag = [] then text else replaceFrom tag value 0 text

/-- All replacements of a dictionary, one after the other. -/
def replaceEach (d : Dict (List α) (List α)) (text : List α) : List α :=
  d.foldl (fun text entry => replaceAll entry.1 entry.2 text) text

theorem count_replaceFrom {tag value : List α} (nonempty : tag ≠ []) {a : α} (untagged : a ∉ tag) (unvalued : a ∉ value)
    (skip : Nat) (text : List α) : (replaceFrom tag value skip text).count a = (text.drop skip).count a := by
  induction text generalizing skip with
  | nil => simp [replaceFrom]
  | cons b rest ih =>
    cases skip with
    | succ skip => exact ih skip
    | zero =>
      rw [replaceFrom, List.drop_zero]
      split
      · rename_i occurs
        -- what is skipped is the rest of the tag, in which the item does not occur
        obtain ⟨after, shape⟩ := List.isPrefixOf_iff_prefix.mp occurs
        obtain ⟨c, tail, rfl⟩ := List.exists_cons_of_ne_nil nonempty
        rw [List.cons_append, List.cons.injEq] at shape
        obtain ⟨rfl, rfl⟩ := shape
        have skipped : (tail ++ after).drop ((c :: tail).length - 1) = after := List.drop_left
        rw [List.count_append, List.count_eq_zero.mpr unvalued, Nat.zero_add, ih, skipped, ← List.cons_append,
          List.count_append, List.count_eq_zero.mpr untagged, Nat.zero_add]
      · rw [List.count_cons, List.count_cons, ih, List.drop_zero]

/-- An item that neither the tags nor their values contain occurs as often as before. -/
theorem count_replaceEach (d : Dict (List α) (List α)) (text : List α) {a : α}
    (foreign : ∀ entry ∈ d, a ∉ entry.1 ∧ a ∉ entry.2) : (replaceEach d text).count a = text.count a := by
  unfold replaceEach
  induction d generalizing text with
  | nil => rfl
  | cons entry d ih =>
    obtain ⟨untagged, unvalued⟩ := foreign entry (List.mem_cons_self ..)
    rw [List.foldl_cons, ih _ fun later member => foreign later (List.mem_cons_of_mem _ member)]
    unfold replaceAll
    split
    · rfl
    · rename_i nonempty
      exact count_replaceFrom nonempty untagged unvalued 0 text

end Lib

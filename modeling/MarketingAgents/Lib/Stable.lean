import Mathlib.Data.List.Sort

namespace Lib

universe u

variable {α : Type u}

section Order

variable (r : α → α → Prop) [DecidableRel r]

theorem filter_orderedInsert [IsTrans α r] (p : α → Bool) (a : α) {rows : List α} (sorted : rows.Pairwise r) :
    (rows.orderedInsert r a).filter p =
      if p a = true then (rows.filter p).orderedInsert r a else rows.filter p := by
  induction rows with
  | nil => by_cases kept : p a = true <;> simp [kept]
  | cons b rows ih =>
    obtain ⟨below, sorted⟩ := List.pairwise_cons.mp sorted
    rw [List.orderedInsert]
    by_cases first : r a b
    · rw [if_pos first]
      by_cases kept : p a = true
      · rw [List.filter_cons_of_pos kept, if_pos kept]
        -- What the filter leaves first is still not before `a`.
        cases rest : (b :: rows).filter p with
        | nil => rfl
        | cons c others =>
          have member : c ∈ b :: rows := (List.mem_filter.mp (rest ▸ List.mem_cons_self ..)).1
          have before : r a c := by
            rcases List.mem_cons.mp member with rfl | later
            · exact first
            · exact IsTrans.trans a b c first (below c later)
          rw [List.orderedInsert, if_pos before]
      · rw [List.filter_cons_of_neg kept, if_neg kept]
    · rw [if_neg first]
      by_cases head : p b = true
      · rw [List.filter_cons_of_pos head, List.filter_cons_of_pos head, ih sorted]
        by_cases kept : p a = true
        · simp only [if_pos kept, List.orderedInsert, if_neg first]
        · simp only [if_neg kept]
      · rw [List.filter_cons_of_neg head, List.filter_cons_of_neg head, ih sorted]

/-- A stable sort leaves the same rows in the same order, whether they are
filtered before or after it. -/
theorem filter_insertionSort [IsTrans α r] [Std.Total r] (p : α → Bool) (rows : List α) :
    (rows.insertionSort r).filter p = (rows.filter p).insertionSort r := by
  induction rows with
  | nil => rfl
  | cons a rows ih =>
    rw [List.insertionSort_cons, filter_orderedInsert r p a (List.pairwise_insertionSort r rows), ih]
    by_cases kept : p a = true
    · rw [if_pos kept, List.filter_cons_of_pos kept, List.insertionSort_cons]
    · rw [if_neg kept, List.filter_cons_of_neg kept]

end Order

end Lib

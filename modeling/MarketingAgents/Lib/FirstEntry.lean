import Mathlib.Data.List.Nodup

namespace Lib

variable {α β κ γ : Type*} [DecidableEq κ] [DecidableEq γ]

/-- `INSERT … ON CONFLICT DO NOTHING`: a row enters where its key is new. -/
def insertNew (key : α → κ) (rows : List α) (new : α) : List α := if key new ∈ rows.map key then rows else rows ++ [new]

/-- The same of several rows, one after the other. -/
def insertEach (key : α → κ) (rows news : List α) : List α := news.foldl (insertNew key) rows

variable {key : α → κ} {rows news : List α}

theorem insertEach_append (more : List α) : insertEach key rows (news ++ more) = insertEach key (insertEach key rows news) more :=
  List.foldl_append ..

theorem insertNew_of_mem {new : α} (known : key new ∈ rows.map key) : insertNew key rows new = rows := if_pos known

theorem insertNew_of_not_mem {new : α} (free : key new ∉ rows.map key) : insertNew key rows new = rows ++ [new] := if_neg free

/-- Rows whose keys are all known enter nowhere. -/
theorem insertEach_of_known (known : ∀ new ∈ news, key new ∈ rows.map key) : insertEach key rows news = rows := by
  induction news with
  | nil => rfl
  | cons new news ih =>
    rw [insertEach, List.foldl_cons, insertNew_of_mem (known new (List.mem_cons_self ..))]
    exact ih fun later member => known later (List.mem_cons_of_mem _ member)

/-- Rows with new keys that do not repeat all enter. -/
theorem insertEach_of_free (nodup : (news.map key).Nodup) (free : ∀ new ∈ news, key new ∉ rows.map key) :
    insertEach key rows news = rows ++ news := by
  induction news generalizing rows with
  | nil => exact (List.append_nil rows).symm
  | cons new news ih =>
    rw [List.map_cons, List.nodup_cons] at nodup
    rw [insertEach, List.foldl_cons, insertNew_of_not_mem (free new (List.mem_cons_self ..)), ← insertEach, ih nodup.2]
    · simp
    · intro later member there
      rw [List.map_append, List.mem_append] at there
      rcases there with old | here
      · exact free later (List.mem_cons_of_mem _ member) old
      · rw [List.map_singleton, List.mem_singleton] at here
        exact nodup.1 (here ▸ List.mem_map_of_mem member)

theorem insertNew_nodup (nodup : (rows.map key).Nodup) (new : α) : ((insertNew key rows new).map key).Nodup := by
  unfold insertNew
  split
  · exact nodup
  · rename_i free
    rw [List.map_append, List.nodup_append]
    refine ⟨nodup, List.nodup_singleton _, fun old there other here => ?_⟩
    rw [List.map_singleton, List.mem_singleton] at here
    rintro rfl
    exact free (here ▸ there)

theorem insertEach_nodup (nodup : (rows.map key).Nodup) : ((insertEach key rows news).map key).Nodup := by
  induction news generalizing rows with
  | nil => exact nodup
  | cons new news ih => exact ih (insertNew_nodup nodup new)

/-- What stands in the table stays there. -/
theorem prefix_insertEach : rows <+: insertEach key rows news := by
  induction news generalizing rows with
  | nil => exact List.prefix_rfl
  | cons new news ih =>
    have first : rows <+: insertNew key rows new := by
      unfold insertNew
      split
      · exact List.prefix_rfl
      · exact List.prefix_append ..
    exact first.trans ih

/-- Under each key stands the first row that came with it. -/
theorem find?_insertEach (k : κ) :
    (insertEach key rows news).find? (fun row => key row = k) = (rows ++ news).find? fun row => key row = k := by
  induction news generalizing rows with
  | nil => rw [List.append_nil]; rfl
  | cons new news ih =>
    rw [insertEach, List.foldl_cons, ← insertEach, ih, List.find?_append, List.find?_append, insertNew]
    split
    · rename_i known
      by_cases here : key new = k
      · obtain ⟨old, there, same⟩ := List.mem_map.mp known
        have stored : (rows.find? fun row => key row = k).isSome = true :=
          List.find?_isSome.mpr ⟨old, there, decide_eq_true (same.trans here)⟩
        obtain ⟨found, first⟩ := Option.isSome_iff_exists.mp stored
        rw [first, Option.some_or, Option.some_or]
      · rw [List.find?_cons_of_neg (decide_eq_false here ▸ Bool.false_ne_true)]
    · rw [List.find?_append, Option.or_assoc, ← List.find?_append]
      rfl

/-- What a query passes over has no say in what enters of the rest. -/
theorem filter_insertNew {p : α → Bool} {new : α} (kept : p new = true)
    (apart : ∀ row ∈ rows, p row = false → key row ≠ key new) :
    (insertNew key rows new).filter p = insertNew key (rows.filter p) new := by
  have same : key new ∈ rows.map key ↔ key new ∈ (rows.filter p).map key := by
    simp only [List.mem_map, List.mem_filter]
    constructor
    · rintro ⟨row, there, equal⟩
      refine ⟨row, ⟨there, ?_⟩, equal⟩
      by_contra dropped
      exact apart row there (Bool.eq_false_iff.mpr dropped) equal
    · rintro ⟨row, ⟨there, _⟩, equal⟩
      exact ⟨row, there, equal⟩
  unfold insertNew
  split
  · rename_i known
    rw [if_pos (same.mp known)]
  · rename_i free
    rw [if_neg fun known => free (same.mpr known), List.filter_append, List.filter_singleton, kept]
    rfl

/-- Rows may be rewritten before they enter, where their keys stay. -/
theorem map_insertNew {key' : β → κ} {f : α → β} (keep : ∀ row, key' (f row) = key row) (rows : List α) (new : α) :
    (insertNew key rows new).map f = insertNew key' (rows.map f) (f new) := by
  have same : (rows.map f).map key' = rows.map key := by
    rw [List.map_map]
    exact List.map_congr_left fun row _ => keep row
  unfold insertNew
  rw [same, keep]
  split
  · rfl
  · rw [List.map_append, List.map_singleton]

/-- Each entry of the upper table stands for some rows of the lower one: entries of
one group for rows with the same keys, entries of different groups for rows with different ones. -/
structure Unfolds (key : α → κ) (group : β → γ) (rowsOf : β → List α) : Prop where
  alike : ∀ a b, group a = group b → (rowsOf a).map key = (rowsOf b).map key
  apart : ∀ a b, ∀ x ∈ rowsOf a, ∀ y ∈ rowsOf b, key x = key y → group a = group b
  nodup : ∀ a, ((rowsOf a).map key).Nodup

/-- Where each entry stands for one row or none, the rows are as many as the entries that have one. -/
theorem length_flatMap_of_one {f : β → List α} {p : β → Bool} (one : ∀ b, (f b).length = if p b = true then 1 else 0)
    (entries : List β) : (entries.flatMap f).length = (entries.filter p).length := by
  induction entries with
  | nil => rfl
  | cons b entries ih =>
    rw [List.flatMap_cons, List.length_append, one, ih, List.filter_cons]
    split
    · rw [List.length_cons, Nat.add_comm]
    · rw [Nat.zero_add]

namespace Unfolds

variable {group : β → γ} {rowsOf : β → List α} {entries more : List β}

/-- Entering the rows of an entry is entering the entry. -/
theorem insertNew (u : Unfolds key group rowsOf) (entry : β) :
    insertEach key (entries.flatMap rowsOf) (rowsOf entry) = (Lib.insertNew group entries entry).flatMap rowsOf := by
  by_cases known : group entry ∈ entries.map group
  · rw [insertNew_of_mem known]
    refine insertEach_of_known fun new member => ?_
    obtain ⟨old, there, same⟩ := List.mem_map.mp known
    have listed : key new ∈ (rowsOf old).map key := u.alike old entry same ▸ List.mem_map_of_mem member
    obtain ⟨row, here, equal⟩ := List.mem_map.mp listed
    exact List.mem_map.mpr ⟨row, List.mem_flatMap.mpr ⟨old, there, here⟩, equal⟩
  · rw [insertNew_of_not_mem known, List.flatMap_append, List.flatMap_singleton]
    refine insertEach_of_free (u.nodup entry) fun new member there => known ?_
    obtain ⟨row, listed, equal⟩ := List.mem_map.mp there
    obtain ⟨old, here, inside⟩ := List.mem_flatMap.mp listed
    exact List.mem_map.mpr ⟨old, here, u.apart old entry row inside new member equal⟩

/-- The lower table is the upper one, unfolded. -/
theorem insertEach (u : Unfolds key group rowsOf) :
    Lib.insertEach key (entries.flatMap rowsOf) (more.flatMap rowsOf) = (Lib.insertEach group entries more).flatMap rowsOf := by
  induction more generalizing entries with
  | nil => rfl
  | cons entry more ih =>
    rw [List.flatMap_cons, insertEach_append, u.insertNew]
    exact ih

end Unfolds

end Lib

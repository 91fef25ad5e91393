import Mathlib.Data.List.Basic

namespace Lib

/-- Insertion-ordered dictionaries, as an association list. -/
abbrev Dict (κ ν : Type*) := List (κ × ν)

namespace Dict

variable {κ ν : Type*} [DecidableEq κ]

def get? : Dict κ ν → κ → Option ν
  | [], _ => none
  | (k, v) :: d, key => if k = key then some v else get? d key

/-- `{**d, key: value}`: a key already present keeps its place. -/
def set : Dict κ ν → κ → ν → Dict κ ν
  | [], key, value => [(key, value)]
  | (k, v) :: d, key, value => if k = key then (k, value) :: d else (k, v) :: set d key value

/-- `{**d, **e}`, which is also `d.update(e)`. -/
def merge (d e : Dict κ ν) : Dict κ ν := e.foldl (fun d entry => set d entry.1 entry.2) d

@[simp] theorem get?_nil (key : κ) : get? ([] : Dict κ ν) key = none := rfl

theorem get?_set (d : Dict κ ν) (key other : κ) (value : ν) :
    get? (set d key value) other = if key = other then some value else get? d other := by
  induction d with
  | nil => simp [set, get?]
  | cons entry d ih =>
    obtain ⟨k, v⟩ := entry
    by_cases here : k = key
    · subst here
      by_cases same : k = other <;> simp [set, get?, same]
    · by_cases same : k = other
      · subst same
        have different : key ≠ k := fun equal => here equal.symm
        simp [set, get?, here, different]
      · simp [set, get?, here, same, ih]

@[simp] theorem get?_set_self (d : Dict κ ν) (key : κ) (value : ν) : get? (set d key value) key = some value := by
  simp [get?_set]

theorem get?_set_ne (d : Dict κ ν) {key other : κ} (value : ν) (different : key ≠ other) :
    get? (set d key value) other = get? d other := by
  simp [get?_set, different]

theorem mem_set {d : Dict κ ν} {key : κ} {value : ν} {entry : κ × ν} (member : entry ∈ set d key value) :
    entry = (key, value) ∨ entry ∈ d := by
  induction d with
  | nil => exact Or.inl (List.mem_singleton.mp member)
  | cons first d ih =>
    rw [set] at member
    split at member
    · rename_i same
      rcases List.mem_cons.mp member with here | later
      · exact Or.inl (by rw [here, same])
      · exact Or.inr (List.mem_cons_of_mem _ later)
    · rcases List.mem_cons.mp member with here | later
      · exact Or.inr (here ▸ List.mem_cons_self ..)
      · exact (ih later).imp_right (List.mem_cons_of_mem _)

theorem nodup_set {d : Dict κ ν} (nodup : (d.map Prod.fst).Nodup) (key : κ) (value : ν) :
    ((set d key value).map Prod.fst).Nodup := by
  induction d with
  | nil => simp [set]
  | cons entry d ih =>
    obtain ⟨k, v⟩ := entry
    rw [List.map_cons, List.nodup_cons] at nodup
    by_cases here : k = key
    · subst here
      rw [set, if_pos rfl, List.map_cons, List.nodup_cons]
      exact nodup
    · rw [set, if_neg here, List.map_cons, List.nodup_cons]
      refine ⟨fun member => ?_, ih nodup.2⟩
      obtain ⟨later, stored, same⟩ := List.mem_map.mp member
      rcases mem_set stored with rfl | old
      · exact here same.symm
      · exact nodup.1 (same ▸ List.mem_map_of_mem old)

theorem get?_eq_none {d : Dict κ ν} {key : κ} (absent : ∀ entry ∈ d, entry.1 ≠ key) : get? d key = none := by
  induction d with
  | nil => rfl
  | cons entry d ih =>
    rw [get?, if_neg (absent entry (List.mem_cons_self ..))]
    exact ih fun later member => absent later (List.mem_cons_of_mem _ member)

theorem set_of_absent {d : Dict κ ν} {key : κ} (absent : ∀ entry ∈ d, entry.1 ≠ key) (value : ν) :
    set d key value = d ++ [(key, value)] := by
  induction d with
  | nil => rfl
  | cons entry d ih =>
    rw [set, if_neg (absent entry (List.mem_cons_self ..)), ih fun later member => absent later (List.mem_cons_of_mem _ member)]
    rfl

theorem mem_of_get? {d : Dict κ ν} {key : κ} {value : ν} (found : get? d key = some value) : (key, value) ∈ d := by
  induction d with
  | nil => simp at found
  | cons entry d ih =>
    rw [get?] at found
    split at found
    · rename_i same
      rw [← same, ← Option.some.inj found]
      exact List.mem_cons_self ..
    · exact List.mem_cons_of_mem _ (ih found)

theorem get?_of_mem {d : Dict κ ν} (nodup : (d.map Prod.fst).Nodup) {key : κ} {value : ν} (member : (key, value) ∈ d) :
    get? d key = some value := by
  induction d with
  | nil => cases member
  | cons entry d ih =>
    rw [List.map_cons, List.nodup_cons] at nodup
    rcases List.mem_cons.mp member with rfl | later
    · exact if_pos rfl
    · have differs : entry.1 ≠ key := fun same => nodup.1 (same ▸ List.mem_map_of_mem later)
      rw [get?, if_neg differs]
      exact ih nodup.2 later

theorem get?_merge_of_absent {d e : Dict κ ν} {key : κ} (absent : ∀ entry ∈ e, entry.1 ≠ key) :
    get? (merge d e) key = get? d key := by
  induction e generalizing d with
  | nil => rfl
  | cons entry e ih =>
    have rest := ih (d := set d entry.1 entry.2) fun later member => absent later (List.mem_cons_of_mem _ member)
    rw [← get?_set_ne d entry.2 (absent entry (List.mem_cons_self ..))]
    exact rest

/-- An update without repeated keys decides every key that it has. -/
theorem get?_merge {d e : Dict κ ν} (nodup : (e.map Prod.fst).Nodup) (key : κ) :
    get? (merge d e) key = (get? e key).or (get? d key) := by
  induction e generalizing d with
  | nil => rfl
  | cons entry e ih =>
    rw [List.map_cons, List.nodup_cons] at nodup
    have step : merge d (entry :: e) = merge (set d entry.1 entry.2) e := rfl
    by_cases here : entry.1 = key
    · have absent : ∀ later ∈ e, later.1 ≠ key := fun later member same =>
        nodup.1 (here.trans same.symm ▸ List.mem_map_of_mem member)
      rw [step, get?_merge_of_absent absent, get?_set, if_pos here]
      simp [get?, here]
    · rw [step, ih nodup.2, get?_set_ne _ _ here]
      simp [get?, here]

end Dict

end Lib

import Mathlib.Algebra.BigOperators.Group.List.Basic
import Mathlib.Data.List.Dedup
import Mathlib.Data.List.Perm.Basic
import MarketingAgents.Lib.Dict
import MarketingAgents.Lib.Rows

namespace Lib

variable {α κ ν : Type*} [DecidableEq κ]

/-- `GROUP BY key`: the keys that occur, each with its rows. -/
def groups (key : α → κ) (rows : List α) : List (κ × List α) :=
  (rows.map key).dedup.map fun k => (k, rows.filter (key · = k))

theorem groups_keys (key : α → κ) (rows : List α) : (groups key rows).map Prod.fst = (rows.map key).dedup := by
  simp [groups, Function.comp_def]

theorem groups_nodup (key : α → κ) (rows : List α) : ((groups key rows).map Prod.fst).Nodup := by
  rw [groups_keys]
  exact List.nodup_dedup _

theorem mem_groups {key : α → κ} {rows : List α} {g : κ × List α} :
    g ∈ groups key rows ↔ g.1 ∈ rows.map key ∧ g.2 = rows.filter (key · = g.1) := by
  simp only [groups, List.mem_map, List.mem_dedup]
  constructor
  · rintro ⟨k, member, rfl⟩
    exact ⟨member, rfl⟩
  · rintro ⟨member, content⟩
    exact ⟨g.1, member, by rw [← content]⟩

theorem filter_keys_perm (key : α → κ) (rows : List α) {keys : List κ} (nodup : keys.Nodup) :
    (keys.flatMap fun k => rows.filter (key · = k)).Perm (rows.filter (key · ∈ keys)) := by
  induction keys with
  | nil => simp
  | cons k keys ih =>
    obtain ⟨fresh, nodup⟩ := List.nodup_cons.mp nodup
    have split := List.filter_append_perm (key · = k) (rows.filter (key · ∈ k :: keys))
    have here : (rows.filter (key · ∈ k :: keys)).filter (key · = k) = rows.filter (key · = k) := by
      rw [List.filter_filter]
      refine List.filter_congr fun a _ => ?_
      by_cases same : key a = k <;> simp [same]
    have there : (rows.filter (key · ∈ k :: keys)).filter (fun a => !decide (key a = k)) =
        rows.filter (key · ∈ keys) := by
      rw [List.filter_filter]
      refine List.filter_congr fun a _ => ?_
      by_cases same : key a = k
      · simp [same, fresh]
      · simp [same]
    rw [here, there] at split
    rw [List.flatMap_cons]
    exact ((ih nodup).append_left _).trans split

/-- The groups hold every row once. -/
theorem groups_perm (key : α → κ) (rows : List α) : ((groups key rows).flatMap Prod.snd).Perm rows := by
  have whole := filter_keys_perm key rows (List.nodup_dedup (rows.map key))
  have all : rows.filter (key · ∈ (rows.map key).dedup) = rows := by
    refine List.filter_eq_self.mpr fun a member => ?_
    simpa using ⟨a, member, rfl⟩
  rw [all] at whole
  simpa only [groups, List.flatMap_map] using whole

/-- An aggregate that is a sum over rows adds up over the groups. -/
theorem sum_groups {M : Type*} [AddCommMonoid M] (key : α → κ) (rows : List α) (f : α → M) :
    ((groups key rows).map fun g => (g.2.map f).sum).sum = (rows.map f).sum := by
  rw [← ((groups_perm key rows).map f).sum_eq, List.map_flatMap, List.flatMap_def, List.sum_flatten, List.map_map]
  rfl

theorem sum_map_if {M : Type*} [AddCommMonoid M] (p : α → Bool) (f : α → M) (rows : List α) :
    (rows.map fun a => if p a then f a else 0).sum = ((rows.filter p).map f).sum := by
  induction rows with
  | nil => rfl
  | cons a rows ih => by_cases holds : p a <;> simp [holds, ih]

/-- The groups whose key passes account for the rows whose key does. -/
theorem sum_groups_where {M : Type*} [AddCommMonoid M] (key : α → κ) (rows : List α) (p : κ → Bool) (f : α → M) :
    ((groups key rows).map fun g => if p g.1 then (g.2.map f).sum else 0).sum =
      ((rows.filter fun a => p (key a)).map f).sum := by
  have each : ∀ g ∈ groups key rows, (if p g.1 then (g.2.map f).sum else 0) =
      (g.2.map fun a => if p (key a) then f a else 0).sum := by
    intro g member
    have keys : ∀ a ∈ g.2, key a = g.1 := by
      intro a inside
      rw [(mem_groups.mp member).2] at inside
      exact of_decide_eq_true (List.mem_filter.mp inside).2
    by_cases passes : p g.1
    · rw [if_pos passes]
      exact congrArg List.sum (List.map_congr_left fun a inside => by rw [keys a inside, if_pos passes])
    · rw [if_neg passes]
      symm
      refine List.sum_eq_zero fun x inside => ?_
      obtain ⟨a, here, rfl⟩ := List.mem_map.mp inside
      rw [keys a here, if_neg passes]
  rw [List.map_congr_left each, sum_groups, sum_map_if fun a => p (key a)]

/-- Two queries that exclude each other account for all rows exactly if every row satisfies one of them. -/
theorem filter_add_filter_iff {p q : α → Bool} (apart : ∀ row, p row = true → q row = false) (rows : List α) :
    (rows.filter p).length + (rows.filter q).length = rows.length ↔ ∀ row ∈ rows, p row = true ∨ q row = true := by
  have both : (rows.filter p).length + (rows.filter q).length = rows.countP fun row => p row || q row := by
    induction rows with
    | nil => rfl
    | cons row rows ih =>
      have here := apart row
      rw [List.countP_cons, ← ih, List.filter_cons, List.filter_cons]
      cases first : p row <;> cases second : q row <;> simp_all <;> omega
  rw [both, List.countP_eq_length]
  simp only [Bool.or_eq_true]

/-- An upsert of one key puts its value in the place of the row that had the key. -/
theorem sum_upsertWhere {M : Type*} [AddCommMonoid M] {key : α → κ} {k : κ} {f : α → M} {g : α → α} {new : α} {value : M}
    (rewritten : ∀ row, key row = k → f (g row) = value) (entered : f new = value) {rows : List α}
    (nodup : (rows.map key).Nodup) :
    ((upsertWhere (fun row => key row = k) g new rows).map f).sum +
      ((rows.find? fun row => key row = k).map f).getD 0 = (rows.map f).sum + value := by
  by_cases stored : ∃ row ∈ rows, key row = k
  · obtain ⟨row, member, rfl⟩ := stored
    have conflict : rows.any (fun other => decide (key other = key row)) = true :=
      List.any_eq_true.mpr ⟨row, member, decide_eq_true rfl⟩
    rw [upsertWhere, if_pos conflict, find?_key_eq key nodup member, Option.map_some, Option.getD_some]
    -- only the row itself has its key: the other rows keep their values
    induction rows with
    | nil => cases member
    | cons head rows ih =>
      obtain ⟨fresh, rest⟩ := List.nodup_cons.mp nodup
      by_cases here : key head = key row
      · have same : head = row := eq_of_key_eq nodup (List.mem_cons_self ..) member here
        subst same
        have others : updateWhere (fun other => decide (key other = key head)) g rows = rows := by
          refine updateWhere_eq_self fun other inside hit => ?_
          exact absurd (List.mem_map.mpr ⟨other, inside, of_decide_eq_true hit⟩) fresh
        rw [updateWhere] at others ⊢
        rw [List.map_cons, others, List.map_cons, List.sum_cons, List.map_cons, List.sum_cons, if_pos (decide_eq_true rfl),
          rewritten head rfl, add_right_comm, add_comm value, add_right_comm, add_comm (f head)]
      · have later : row ∈ rows := (List.mem_cons.mp member).resolve_left fun same => here (by rw [same])
        have tail := ih rest later (List.any_eq_true.mpr ⟨row, later, decide_eq_true rfl⟩)
        rw [updateWhere] at tail ⊢
        rw [List.map_cons, if_neg (by simpa using here), List.map_cons, List.sum_cons, List.map_cons, List.sum_cons,
          add_assoc, tail, add_assoc]
  · have free : ∀ row ∈ rows, decide (key row = k) = false := by simpa using stored
    have unmatched : rows.find? (fun row => decide (key row = k)) = none :=
      List.find?_eq_none.mpr fun row member hit => by simp [free row member] at hit
    have noConflict : rows.any (fun row => decide (key row = k)) = false :=
      List.any_eq_false.mpr fun row member hit => by simp [free row member] at hit
    rw [upsertWhere, noConflict, if_neg Bool.false_ne_true, unmatched, List.map_append, List.sum_append, List.map_singleton,
      List.sum_singleton, entered]
    simp

/-- An upsert that leaves every summand as it was. -/
theorem sum_upsertWhere_same {M : Type*} [AddCommMonoid M] {p : α → Bool} {f : α → M} {g : α → α} {new : α} {rows : List α}
    (same : ∀ row, p row = true → f (g row) = f row) (entered : f new = 0) :
    ((upsertWhere p g new rows).map f).sum = (rows.map f).sum := by
  unfold upsertWhere
  split
  · rw [updateWhere, List.map_map]
    refine congrArg List.sum (List.map_congr_left fun row _ => ?_)
    simp only [Function.comp_apply]
    split
    · rename_i hit
      exact same row hit
    · rfl
  · rw [List.map_append, List.sum_append, List.map_singleton, List.sum_singleton, entered, add_zero]

theorem nodup_upsertWhere {key : α → κ} {k : κ} {g : α → α} {new : α} (rewritten : ∀ row, key row = k → key (g row) = k)
    (entered : key new = k) {rows : List α} (nodup : (rows.map key).Nodup) :
    ((upsertWhere (fun row => key row = k) g new rows).map key).Nodup := by
  unfold upsertWhere
  split
  · rw [updateWhere_keys key rows fun row hit => (rewritten row (of_decide_eq_true hit)).trans (of_decide_eq_true hit).symm]
    exact nodup
  · rename_i free
    refine nodup_keys_append nodup (by simp) fun a member b single same => free ?_
    rw [List.mem_singleton] at single
    subst single
    exact List.any_eq_true.mpr ⟨a, member, decide_eq_true (same.trans entered)⟩

theorem find?_upsertWhere {key : α → κ} {k other : κ} {g : α → α} {new : α}
    (rewritten : ∀ row, key row = k → key (g row) = k) (entered : key new = k) (rows : List α) :
    (upsertWhere (fun row => key row = k) g new rows).find? (fun row => key row = other) =
      if k = other then some (((rows.find? fun row => key row = k).map g).getD new)
      else rows.find? fun row => key row = other := by
  have keep : ∀ row, decide (key row = k) = true → decide (key (g row) = other) = decide (key row = other) := by
    intro row hit
    rw [rewritten row (of_decide_eq_true hit), of_decide_eq_true hit]
  unfold upsertWhere
  split
  · rename_i conflict
    rw [find?_updateWhere rows keep]
    cases found : rows.find? (fun row => decide (key row = other)) with
    | none =>
      have absent : k ≠ other := by
        rintro rfl
        obtain ⟨row, member, hit⟩ := List.any_eq_true.mp conflict
        exact absurd hit (List.find?_eq_none.mp found row member)
      rw [if_neg absent, Option.map_none]
    | some row =>
      have owner : key row = other := by simpa using List.find?_some found
      by_cases same : k = other
      · subst same
        rw [if_pos rfl, found, Option.map_some, if_pos (decide_eq_true owner), Option.map_some, Option.getD_some]
      · have miss : ¬ decide (key row = k) = true := by simpa [owner] using fun equal => same equal.symm
        rw [if_neg same, Option.map_some, if_neg miss]
  · rename_i free
    have none : rows.find? (fun row => decide (key row = k)) = none :=
      List.find?_eq_none.mpr fun row member hit => free (List.any_eq_true.mpr ⟨row, member, hit⟩)
    rw [List.find?_append, none]
    by_cases same : k = other
    · subst same
      simp [none, entered]
    · have miss : key new ≠ other := by rwa [entered]
      simp [same, miss]

namespace Dict

/-- The sum of `f` over the values of a dictionary. -/
def total {M : Type*} [AddCommMonoid M] (f : ν → M) (d : Dict κ ν) : M := (d.map fun entry => f entry.2).sum

/-- An assignment puts the new value in the place of the old one. -/
theorem total_set {M : Type*} [AddCommMonoid M] (f : ν → M) (d : Dict κ ν) (key : κ) (value : ν) :
    total f (set d key value) + ((get? d key).map f).getD 0 = total f d + f value := by
  induction d with
  | nil => simp [total, set, get?]
  | cons entry d ih =>
    obtain ⟨k, v⟩ := entry
    by_cases here : k = key
    · simp only [total, set, get?, if_pos here, List.map_cons, List.sum_cons, Option.map_some, Option.getD_some]
      rw [add_right_comm, add_comm (f value), add_right_comm]
    · simp only [total, set, get?, if_neg here, List.map_cons, List.sum_cons] at ih ⊢
      rw [add_assoc, ih, add_assoc]

end Dict

end Lib

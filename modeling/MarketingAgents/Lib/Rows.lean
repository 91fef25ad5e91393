import Mathlib.Data.List.Basic
import Mathlib.Data.List.Nodup
import Mathlib.Data.List.Sort

namespace Lib

variable {α β κ : Type*}

/-- `UPDATE … WHERE p`: the rows satisfying `p` are rewritten by `f`. -/
def updateWhere (p : α → Bool) (f : α → α) (rows : List α) : List α :=
  rows.map fun row => if p row then f row else row

theorem mem_updateWhere {p : α → Bool} {f : α → α} {rows : List α} {row : α} :
    row ∈ updateWhere p f rows ↔
      (∃ old ∈ rows, p old = true ∧ f old = row) ∨ (row ∈ rows ∧ p row = false) := by
  simp only [updateWhere, List.mem_map]
  constructor
  · rintro ⟨old, member, value⟩
    split at value
    · rename_i hit
      exact Or.inl ⟨old, member, hit, value⟩
    · rename_i miss
      subst value
      exact Or.inr ⟨member, by simpa using miss⟩
  · rintro (⟨old, member, hit, value⟩ | ⟨member, miss⟩)
    · exact ⟨old, member, by simp [hit, value]⟩
    · exact ⟨row, member, by simp [miss]⟩

theorem updateWhere_keys (key : α → κ) (rows : List α) {p : α → Bool} {f : α → α}
    (keep : ∀ row, p row = true → key (f row) = key row) : (updateWhere p f rows).map key = rows.map key := by
  simp only [updateWhere, List.map_map]
  refine List.map_congr_left fun row _ => ?_
  simp only [Function.comp_apply]
  split
  · rename_i hit
    exact keep row hit
  · rfl

theorem find?_updateWhere {p q : α → Bool} {f : α → α} (rows : List α)
    (keep : ∀ row, p row = true → q (f row) = q row) :
    (updateWhere p f rows).find? q = (rows.find? q).map fun row => if p row then f row else row := by
  have same : (q ∘ fun row => if p row = true then f row else row) = q := by
    funext row
    simp only [Function.comp_apply]
    split
    · rename_i hit
      exact keep row hit
    · rfl
  rw [updateWhere, List.find?_map, same]

/-- A rewriting of rows that a query passes over, before and after, is not seen by it. -/
theorem filter_updateWhere {p q : α → Bool} {f : α → α} {rows : List α}
    (unseen : ∀ row ∈ rows, p row = true → q row = false ∧ q (f row) = false) :
    (updateWhere p f rows).filter q = rows.filter q := by
  induction rows with
  | nil => rfl
  | cons row rows ih =>
    have rest : (rows.map fun row => if p row then f row else row).filter q = rows.filter q :=
      ih fun later member => unseen later (List.mem_cons_of_mem _ member)
    rw [updateWhere, List.map_cons, List.filter_cons, List.filter_cons, rest]
    by_cases hit : p row = true
    · obtain ⟨before, after⟩ := unseen row (List.mem_cons_self ..) hit
      simp only [hit, if_true, before, after, Bool.false_eq_true, if_false]
    · simp only [hit, Bool.false_eq_true, if_false]

theorem updateWhere_eq_self {p : α → Bool} {f : α → α} {rows : List α}
    (same : ∀ row ∈ rows, p row = true → f row = row) : updateWhere p f rows = rows := by
  refine (List.map_congr_left fun row member => ?_).trans (List.map_id rows)
  split
  · rename_i hit
    exact same row member hit
  · rfl

/-- `INSERT … ON CONFLICT DO UPDATE`: the rows that conflict are rewritten, and the new one enters where there are none. -/
def upsertWhere (p : α → Bool) (f : α → α) (new : α) (rows : List α) : List α :=
  if rows.any p then updateWhere p f rows else rows ++ [new]

theorem mem_upsertWhere {p : α → Bool} {f : α → α} {new : α} {rows : List α} {row : α} :
    row ∈ upsertWhere p f new rows ↔ (∃ old ∈ rows, p old = true ∧ f old = row) ∨
      (row ∈ rows ∧ p row = false) ∨ (row = new ∧ ∀ old ∈ rows, p old = false) := by
  unfold upsertWhere
  split
  · rename_i conflict
    obtain ⟨other, there, hit⟩ := List.any_eq_true.mp conflict
    rw [mem_updateWhere]
    constructor
    · rintro (rewritten | kept)
      · exact Or.inl rewritten
      · exact Or.inr (Or.inl kept)
    · rintro (rewritten | kept | ⟨_, none⟩)
      · exact Or.inl rewritten
      · exact Or.inr kept
      · simp [none other there] at hit
  · rename_i free
    have none : ∀ old ∈ rows, p old = false := by simpa using free
    rw [List.mem_append, List.mem_singleton]
    constructor
    · rintro (old | entered)
      · exact Or.inr (Or.inl ⟨old, none row old⟩)
      · exact Or.inr (Or.inr ⟨entered, none⟩)
    · rintro (⟨old, there, hit, _⟩ | ⟨old, _⟩ | ⟨entered, _⟩)
      · simp [none old there] at hit
      · exact Or.inl old
      · exact Or.inr entered

/-- A rewriting is pointwise: each row stays in its place, related to what it becomes. -/
theorem forall₂_updateWhere {R : α → α → Prop} (refl : ∀ row, R row row) {p : α → Bool} {f : α → α} {rows : List α}
    (hit : ∀ row ∈ rows, p row = true → R row (f row)) : List.Forall₂ R rows (updateWhere p f rows) := by
  induction rows with
  | nil => exact .nil
  | cons row rows ih =>
    refine .cons ?_ (ih fun later member => hit later (List.mem_cons_of_mem _ member))
    dsimp only
    split
    · rename_i here
      exact hit row (List.mem_cons_self ..) here
    · exact refl row

theorem forall₂_trans {R : α → α → Prop} (trans : ∀ {a b c}, R a b → R b c → R a c) {first mid last : List α}
    (left : List.Forall₂ R first mid) (right : List.Forall₂ R mid last) : List.Forall₂ R first last := by
  induction left generalizing last with
  | nil =>
    cases right
    exact .nil
  | cons head _ ih =>
    cases right with
    | cons head' tail' => exact .cons (trans head head') (ih tail')

theorem forall₂_map_eq {R : α → α → Prop} (key : α → κ) (keep : ∀ {a b}, R a b → key b = key a) {rows rows' : List α}
    (related : List.Forall₂ R rows rows') : rows'.map key = rows.map key := by
  induction related with
  | nil => rfl
  | cons head _ ih => rw [List.map_cons, List.map_cons, keep head, ih]

theorem forall₂_origin {R : α → β → Prop} {rows : List α} {rows' : List β} (related : List.Forall₂ R rows rows') {new : β}
    (member : new ∈ rows') : ∃ old ∈ rows, R old new := by
  induction related with
  | nil => simp at member
  | cons head _ ih =>
    rcases List.mem_cons.mp member with rfl | later
    · exact ⟨_, List.mem_cons_self .., head⟩
    · obtain ⟨old, oldMember, rel⟩ := ih later
      exact ⟨old, List.mem_cons_of_mem _ oldMember, rel⟩

theorem forall₂_append_split {R : α → α → Prop} {first last rows' : List α}
    (related : List.Forall₂ R (first ++ last) rows') :
    ∃ first' last', rows' = first' ++ last' ∧ List.Forall₂ R first first' ∧ List.Forall₂ R last last' := by
  induction first generalizing rows' with
  | nil => exact ⟨[], rows', rfl, .nil, related⟩
  | cons row first ih =>
    obtain ⟨head, tail⟩ := List.forall₂_cons_left_iff.mp related
    obtain ⟨rest, here, below, rfl⟩ := tail
    obtain ⟨first', last', rfl, left, right⟩ := ih below
    exact ⟨head :: first', last', rfl, .cons here left, right⟩

theorem forall₂_image {R : α → β → Prop} {rows : List α} {rows' : List β} (related : List.Forall₂ R rows rows') {old : α}
    (member : old ∈ rows) : ∃ new ∈ rows', R old new := by
  obtain ⟨new, newMember, rel⟩ := forall₂_origin (R := fun a b => R b a) related.flip member
  exact ⟨new, newMember, rel⟩

/-- Of pairwise related lists, entries that belong to one entry of a list without repetition are one entry. -/
theorem forall₂_inj {R : α → β → Prop} {rows : List α} {rows' : List β} (related : List.Forall₂ R rows rows')
    (nodup : rows.Nodup) {x y : β} (memX : x ∈ rows') (memY : y ∈ rows')
    (same : ∀ a ∈ rows, ∀ b ∈ rows, R a x → R b y → a = b) : x = y := by
  induction related with
  | nil => simp at memX
  | @cons a t rows rows' head related ih =>
    rw [List.nodup_cons] at nodup
    have elsewhere : ∀ {z}, z ∈ rows' → ∃ b ∈ rows, R b z := fun later => forall₂_origin related later
    rcases List.mem_cons.mp memX with rfl | laterX
    · rcases List.mem_cons.mp memY with rfl | laterY
      · rfl
      · obtain ⟨b, member, rel⟩ := elsewhere laterY
        exact absurd (same a (List.mem_cons_self ..) b (List.mem_cons_of_mem _ member) head rel ▸ member) nodup.1
    · rcases List.mem_cons.mp memY with rfl | laterY
      · obtain ⟨b, member, rel⟩ := elsewhere laterX
        exact absurd (same b (List.mem_cons_of_mem _ member) a (List.mem_cons_self ..) rel head ▸ member) nodup.1
      · exact ih nodup.2 laterX laterY fun b memB c memC =>
          same b (List.mem_cons_of_mem _ memB) c (List.mem_cons_of_mem _ memC)

/-- What a filter map keeps stands beside what it comes from. -/
theorem forall₂_filterMap (f : α → Option β) (items : List α) :
    List.Forall₂ (fun a b => f a = some b) (items.filter fun a => (f a).isSome) (items.filterMap f) := by
  induction items with
  | nil => exact .nil
  | cons a items ih =>
    cases value : f a with
    | none =>
      rw [List.filter_cons_of_neg (by simp [value]), List.filterMap_cons_none value]
      exact ih
    | some b =>
      rw [List.filter_cons_of_pos (by simp [value]), List.filterMap_cons_some value]
      exact .cons value ih

theorem takeWhile_congr {p q : α → Bool} {items : List α} (same : ∀ item ∈ items, p item = q item) :
    items.takeWhile p = items.takeWhile q := by
  induction items with
  | nil => rfl
  | cons item items ih =>
    rw [List.takeWhile_cons, List.takeWhile_cons, same item (List.mem_cons_self ..),
      ih fun later member => same later (List.mem_cons_of_mem _ member)]

/-- Keys identify rows of a table whose keys do not repeat. -/
theorem eq_of_key_eq {key : α → κ} {rows : List α} (nodup : (rows.map key).Nodup) {a b : α}
    (memA : a ∈ rows) (memB : b ∈ rows) (same : key a = key b) : a = b :=
  List.inj_on_of_nodup_map nodup memA memB same

/-- Rows whose keys are not in the table yet are added to it. -/
theorem nodup_keys_append {key : α → κ} {rows more : List α} (first : (rows.map key).Nodup) (last : (more.map key).Nodup)
    (apart : ∀ a ∈ rows, ∀ b ∈ more, key a ≠ key b) : ((rows ++ more).map key).Nodup := by
  rw [List.map_append, List.nodup_append]
  refine ⟨first, last, fun left leftMember right rightMember => ?_⟩
  obtain ⟨a, here, rfl⟩ := List.mem_map.mp leftMember
  obtain ⟨b, there, rfl⟩ := List.mem_map.mp rightMember
  exact apart a here b there

/-- Keys from a range, then keys from the next one. -/
theorem keys_between_append [Preorder κ] {key : α → κ} {low mid high : κ} {rows more : List α}
    (first : ∀ a ∈ rows, low ≤ key a ∧ key a < mid) (last : ∀ a ∈ more, mid ≤ key a ∧ key a < high) (lower : low ≤ mid)
    (upper : mid ≤ high) : ∀ a ∈ rows ++ more, low ≤ key a ∧ key a < high := by
  intro a member
  rcases List.mem_append.mp member with here | here
  · exact ⟨(first a here).1, (first a here).2.trans_le upper⟩
  · exact ⟨lower.trans (last a here).1, (last a here).2⟩

/-- Deleting the rows under some keys leaves those under any other as they are. -/
theorem filter_key_of_not_mem [DecidableEq κ] (key : α → κ) {gone : List κ} {k : κ} (stays : k ∉ gone) (rows : List α) :
    (rows.filter fun row => key row ∉ gone).filter (fun row => key row = k) = rows.filter fun row => key row = k := by
  rw [List.filter_filter]
  refine List.filter_congr fun row _ => ?_
  by_cases here : key row = k
  · simp [here, stays]
  · simp [here]

theorem filter_key_of_mem [DecidableEq κ] (key : α → κ) {gone : List κ} {k : κ} (goes : k ∈ gone) (rows : List α) :
    (rows.filter fun row => key row ∉ gone).filter (fun row => key row = k) = [] := by
  rw [List.filter_filter, List.filter_eq_nil_iff]
  intro row _
  by_cases here : key row = k
  · simp [here, goes]
  · simp [here]

theorem filter_key_eq [DecidableEq κ] (key : α → κ) {rows : List α} (nodup : (rows.map key).Nodup) {row : α}
    (member : row ∈ rows) : rows.filter (fun other => key other = key row) = [row] := by
  induction rows with
  | nil => simp at member
  | cons head rows ih =>
    rw [List.map_cons, List.nodup_cons] at nodup
    rcases List.mem_cons.mp member with rfl | later
    · have others : rows.filter (fun other => key other = key row) = [] :=
        List.filter_eq_nil_iff.mpr fun other otherMember same =>
          nodup.1 (of_decide_eq_true same ▸ List.mem_map_of_mem otherMember)
      rw [List.filter_cons_of_pos (by simp), others]
    · have different : key head ≠ key row := fun same => nodup.1 (same ▸ List.mem_map_of_mem later)
      rw [List.filter_cons_of_neg (by simpa using different)]
      exact ih nodup.2 later

theorem find?_key_eq [DecidableEq κ] (key : α → κ) {rows : List α} (nodup : (rows.map key).Nodup) {row : α}
    (member : row ∈ rows) : rows.find? (fun other => key other = key row) = some row := by
  rw [← List.head?_filter, filter_key_eq key nodup member]
  rfl

theorem nodup_filter_map_iff {items : List α} {f : α → β} {p : β → Bool} :
    ((items.map f).filter p).Nodup ↔ items.Pairwise fun a b => f a = f b → ¬ p (f a) = true := by
  rw [List.Nodup, List.pairwise_filter, List.pairwise_map]
  refine iff_of_eq (congrArg (List.Pairwise · items) ?_)
  funext a b
  exact propext ⟨fun apart same counts => apart counts (same ▸ counts) same, fun alike counts _ same => alike same counts⟩

/-- A key with one possible value is found with it. -/
theorem find?_snd_of_iff {ν : Type*} [DecidableEq κ] {entries : List (κ × ν)} {k : κ} {found : Option ν}
    (only : ∀ value, (k, value) ∈ entries ↔ found = some value) :
    (entries.find? fun entry => decide (entry.1 = k)).map Prod.snd = found := by
  cases first : entries.find? fun entry => decide (entry.1 = k) with
  | none =>
    cases found with
    | none => rfl
    | some value =>
      have absent := List.find?_eq_none.mp first (k, value) ((only value).mpr rfl)
      simp at absent
  | some entry =>
    have key : entry.1 = k := by simpa using List.find?_some first
    have member : (k, entry.2) ∈ entries := key ▸ List.mem_of_find?_eq_some first
    rw [(only entry.2).mp member]
    rfl

/-- A query that only the row of one key can satisfy finds this row. -/
theorem find?_of_key (key : α → κ) {rows : List α} (nodup : (rows.map key).Nodup) {row : α} (member : row ∈ rows)
    {p : α → Bool} (hit : p row = true) (only : ∀ other, p other = true → key other = key row) :
    rows.find? p = some row := by
  cases found : rows.find? p with
  | none => exact absurd hit (List.find?_eq_none.mp found row member)
  | some other =>
    have same := only other (List.find?_some found)
    rw [eq_of_key_eq nodup (List.mem_of_find?_eq_some found) member same]

/-- `ORDER BY r LIMIT 1` returns a row of the table that may stand before every other. -/
theorem first_of_orderBy {r : α → α → Prop} [DecidableRel r] [Std.Total r] [IsTrans α r] {rows : List α} {a : α}
    (first : (rows.insertionSort r).head? = some a) : a ∈ rows ∧ ∀ b ∈ rows, r a b := by
  have sorted := List.pairwise_insertionSort r rows
  have perm := List.perm_insertionSort r rows
  cases shape : rows.insertionSort r with
  | nil => simp [shape] at first
  | cons head tail =>
    rw [shape] at first sorted perm
    cases Option.some.inj first
    refine ⟨perm.subset (List.mem_cons_self ..), fun b member => ?_⟩
    rcases List.mem_cons.mp (perm.symm.subset member) with rfl | later
    · exact (Std.Total.total (r := r) b b).elim id id
    · exact (List.pairwise_cons.mp sorted).1 b later

/-- The only row that may stand before `a` is `a`: `ORDER BY r LIMIT 1` returns it. -/
theorem orderBy_first {r : α → α → Prop} [DecidableRel r] [Std.Total r] [IsTrans α r] {rows : List α} {a : α}
    (member : a ∈ rows) (least : ∀ b ∈ rows, r b a → b = a) : (rows.insertionSort r).head? = some a := by
  cases first : (rows.insertionSort r).head? with
  | none =>
    have empty := List.head?_eq_none_iff.mp first
    have listed := (List.perm_insertionSort r rows).symm.subset member
    rw [empty] at listed
    cases listed
  | some b =>
    obtain ⟨here, before⟩ := first_of_orderBy first
    rw [least b here (before a member)]

end Lib

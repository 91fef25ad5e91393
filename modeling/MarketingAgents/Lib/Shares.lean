import Mathlib.Algebra.Order.BigOperators.Group.List
import Mathlib.Algebra.Order.Group.Int
import Mathlib.Algebra.Ring.Int.Defs
import Mathlib.Data.List.Sort
import Mathlib.Order.Interval.Finset.Nat

namespace Lib

variable {κ : Type*} {entries : List (κ × Int)} {bucket cumulative : Int} {key : κ} {weight : Int}

/-- The first entry whose cumulated weight is beyond the bucket. -/
def shareOf (bucket : Int) : Int → List (κ × Int) → Option κ
  | _, [] => none
  | cumulative, (key, weight) :: rest =>
    if bucket < cumulative + weight then some key else shareOf bucket (cumulative + weight) rest

theorem mem_of_shareOf (found : shareOf bucket cumulative entries = some key) : key ∈ entries.map Prod.fst := by
  induction entries generalizing cumulative with
  | nil => cases found
  | cons entry entries ih =>
    obtain ⟨first, weight⟩ := entry
    rw [shareOf] at found
    split at found
    · cases found
      exact List.mem_cons_self ..
    · exact List.mem_cons_of_mem _ (ih found)

/-- Below the sum of all weights the walk stops at an entry. -/
theorem shareOf_isSome (below : bucket < cumulative + (entries.map Prod.snd).sum) (onward : cumulative ≤ bucket) :
    (shareOf bucket cumulative entries).isSome := by
  induction entries generalizing cumulative with
  | nil =>
    rw [List.map_nil, List.sum_nil] at below
    omega
  | cons entry entries ih =>
    rw [List.map_cons, List.sum_cons] at below
    rw [shareOf]
    split
    · rfl
    · exact ih (by omega) (by omega)

/-- Each key has an interval of its weight to itself. -/
theorem shareOf_interval (distinct : (entries.map Prod.fst).Nodup) (weighed : ∀ entry ∈ entries, 0 ≤ entry.2)
    (member : (key, weight) ∈ entries) (cumulative : Int) :
    ∃ start, cumulative ≤ start ∧ start + weight ≤ cumulative + (entries.map Prod.snd).sum ∧
      ∀ bucket, cumulative ≤ bucket →
        (shareOf bucket cumulative entries = some key ↔ start ≤ bucket ∧ bucket < start + weight) := by
  induction entries generalizing cumulative with
  | nil => cases member
  | cons entry entries ih =>
    obtain ⟨first, portion⟩ := entry
    rw [List.map_cons, List.nodup_cons] at distinct
    obtain ⟨fresh, distinct⟩ := distinct
    obtain ⟨positive, others⟩ := List.forall_mem_cons.mp weighed
    rw [List.map_cons, List.sum_cons]
    rcases List.mem_cons.mp member with same | later
    · cases same
      have rest : 0 ≤ (entries.map Prod.snd).sum := by
        refine List.sum_nonneg fun portion listed => ?_
        obtain ⟨entry, inside, rfl⟩ := List.mem_map.mp listed
        exact others entry inside
      refine ⟨cumulative, le_rfl, by omega, fun bucket onward => ?_⟩
      rw [shareOf]
      split
      · rename_i inside
        exact iff_of_true rfl ⟨onward, inside⟩
      · rename_i beyond
        exact iff_of_false (fun found => fresh (mem_of_shareOf found)) fun within => beyond within.2
    · obtain ⟨start, after, within, owns⟩ := ih distinct others later (cumulative + portion)
      have listed : key ∈ entries.map Prod.fst := List.mem_map_of_mem later
      refine ⟨start, by omega, by omega, fun bucket onward => ?_⟩
      rw [shareOf]
      split
      · rename_i inside
        exact iff_of_false (fun same => fresh (Option.some.inj same ▸ listed)) (by omega)
      · exact owns bucket (by omega)

/-- Of as many buckets as all weights together each key gets its weight. -/
theorem card_shareOf (distinct : (entries.map Prod.fst).Nodup) (weighed : ∀ entry ∈ entries, 0 ≤ entry.2)
    (member : (key, weight) ∈ entries) [DecidableEq κ] :
    (((Finset.range (entries.map Prod.snd).sum.toNat).filter fun bucket : Nat =>
      shareOf bucket 0 entries = some key).card : Int) = weight := by
  obtain ⟨start, after, within, owns⟩ := shareOf_interval distinct weighed member 0
  have positive : 0 ≤ weight := weighed _ member
  have interval : (Finset.range (entries.map Prod.snd).sum.toNat).filter
      (fun bucket : Nat => shareOf bucket 0 entries = some key) = Finset.Ico start.toNat (start + weight).toNat := by
    ext bucket
    rw [Finset.mem_filter, Finset.mem_range, Finset.mem_Ico, owns bucket (Int.natCast_nonneg bucket)]
    omega
  rw [interval, Nat.card_Ico]
  omega

/-- In the order of distinct keys there is only one list of the same entries. -/
theorem sorted_keys_perm (r : κ → κ → Prop) [DecidableRel r] [Std.Total r] [IsTrans κ r] [Std.Antisymm r]
    {others : List (κ × Int)} (distinct : (entries.map Prod.fst).Nodup) (perm : entries.Perm others) :
    entries.insertionSort (fun a b => r a.1 b.1) = others.insertionSort (fun a b => r a.1 b.1) := by
  have total : Std.Total fun a b : κ × Int => r a.1 b.1 := ⟨fun a b => Std.Total.total a.1 b.1⟩
  have trans : IsTrans (κ × Int) fun a b => r a.1 b.1 := ⟨fun a b c => IsTrans.trans a.1 b.1 c.1⟩
  have sorted := (List.perm_insertionSort (fun a b : κ × Int => r a.1 b.1) entries).trans
    (perm.trans (List.perm_insertionSort (fun a b : κ × Int => r a.1 b.1) others).symm)
  refine sorted.eq_of_pairwise (fun a b here there before after => ?_) (List.pairwise_insertionSort _ _)
    (List.pairwise_insertionSort _ _)
  have first := (List.mem_insertionSort _).mp here
  have second := perm.mem_iff.mpr ((List.mem_insertionSort _).mp there)
  exact List.inj_on_of_nodup_map distinct first second (Std.Antisymm.antisymm a.1 b.1 before after)

end Lib

import Mathlib.Data.String.Basic
import MarketingAgents.AbTesting.Picks
import MarketingAgents.Lib.Shares

namespace MarketingAgents

open Lib PyText

/-- What the loop of `pick_variant_index` returns, `none` where it runs to its
end and the last key is taken. -/
def loopVariant (bucket : Int) (split : Dict String Int) : Option String :=
  shareOf bucket 0 (split.insertionSort fun a b => a.1 ≤ b.1)

section Walk

theorem walkSplit_eq (bucket : Int) (fallback : String) (cumulative : Int) (entries : List (String × Int)) :
    walkSplit bucket fallback cumulative entries =
      (shareOf bucket cumulative entries).getD (((entries.map Prod.fst).getLast?).getD fallback) := by
  induction entries generalizing fallback cumulative with
  | nil => rfl
  | cons entry entries ih =>
    obtain ⟨variant, weight⟩ := entry
    rw [walkSplit, shareOf]
    split
    · rfl
    · rw [ih, List.map_cons, List.getLast?_cons, Option.getD_some]

variable {split reordered : Dict String Int} {bucket : Int}

theorem loopVariant_perm (keys : (split.map Prod.fst).Nodup) (perm : split.Perm reordered) :
    loopVariant bucket reordered = loopVariant bucket split := by
  unfold loopVariant
  rw [sorted_keys_perm (· ≤ ·) keys perm]

/-- Below the total the loop returns a variant of the split. -/
theorem loopVariant_stops (onward : 0 ≤ bucket) (below : bucket < (split.map Prod.snd).sum) :
    ∃ entry ∈ split, loopVariant bucket split = some entry.1 := by
  have perm := List.perm_insertionSort (fun a b : String × Int => a.1 ≤ b.1) split
  have total := (perm.map Prod.snd).sum_eq
  obtain ⟨variant, found⟩ := Option.isSome_iff_exists.mp
    (shareOf_isSome (by rw [total, zero_add]; exact below) onward)
  obtain ⟨entry, member, rfl⟩ := List.mem_map.mp (mem_of_shareOf found)
  exact ⟨entry, perm.mem_iff.mp member, found⟩

theorem card_loopVariant (keys : (split.map Prod.fst).Nodup) (weighed : ∀ entry ∈ split, 0 < entry.2)
    {entry : String × Int} (member : entry ∈ split) :
    (((Finset.range (split.map Prod.snd).sum.toNat).filter fun bucket : Nat =>
      loopVariant bucket split = some entry.1).card : Int) = entry.2 := by
  have perm := List.perm_insertionSort (fun a b : String × Int => a.1 ≤ b.1) split
  rw [← (perm.map Prod.snd).sum_eq]
  exact card_shareOf ((perm.map Prod.fst).nodup_iff.mpr keys) (fun other listed => (weighed other (perm.mem_iff.mp listed)).le)
    (perm.mem_iff.mpr member)

end Walk

section Split

variable [PyText] {raw : Json} {split : Dict String Int}

theorem coerceWeight_key {entry : String × Json} {weight : Option (String × Int)}
    (done : coerceWeight entry = .ok weight) : ∀ kept ∈ weight, kept.1 = entry.1 := by
  unfold coerceWeight at done
  split at done
  · cases done
  · cases Except.ok.inj done
    intro kept member
    split at member
    · cases member
    · cases Option.some.inj member
      rfl

/-- The weights that count keep their keys and the order of these. -/
theorem coerceWeights_keys {fields : List (String × Json)} {weights : List (Option (String × Int))}
    (done : fields.mapM coerceWeight = .ok weights) :
    ((weights.filterMap id).map Prod.fst).Sublist (fields.map Prod.fst) := by
  induction fields generalizing weights with
  | nil =>
    cases Except.ok.inj done
    exact List.Sublist.refl _
  | cons entry fields ih =>
    rw [List.mapM_cons, bind_eq_ok] at done
    obtain ⟨weight, here, rest⟩ := done
    simp only [bind_eq_ok, pure_eq_ok] at rest
    obtain ⟨others, later, rfl⟩ := rest
    cases weight with
    | none => exact (ih later).cons _
    | some kept =>
      have same := coerceWeight_key here kept rfl
      show (kept.1 :: (others.filterMap id).map Prod.fst).Sublist (entry.1 :: fields.map Prod.fst)
      rw [same]
      exact (ih later).cons_cons _

theorem coerceSplit_keys (keys : ∀ fields ∈ raw.dict?, (fields.map Prod.fst).Nodup)
    (done : coerceSplit raw = .ok split) : (split.map Prod.fst).Nodup := by
  simp only [coerceSplit, bind_eq_ok, pure_eq_ok, orRaise_eq_ok] at done
  obtain ⟨fields, read, weights, coerced, rfl⟩ := done
  exact (keys fields read).sublist (coerceWeights_keys coerced)

/-- The pick is what the loop returns for the bucket of the recipient. -/
theorem pickVariantIndex_eq (positive : 0 < (split.map Prod.snd).sum) (abTestId : Uuid) (externalId : String) :
    ∃ variant, loopVariant ((blake2b (uuidStr abTestId ++ ":" ++ externalId) : Int) % (split.map Prod.snd).sum) split =
        some variant ∧
      pickVariantIndex abTestId externalId split = .ok variant := by
  have weighs : split ≠ [] := by
    rintro rfl
    exact positive.ne' rfl
  obtain ⟨entry, _, stopped⟩ := loopVariant_stops (Int.emod_nonneg _ positive.ne') (Int.emod_lt_of_pos _ positive)
  refine ⟨entry.1, stopped, ?_⟩
  have walked := walkSplit_eq ((blake2b (uuidStr abTestId ++ ":" ++ externalId) : Int) % (split.map Prod.snd).sum) "" 0
    (split.insertionSort fun a b => a.1 ≤ b.1)
  rw [← loopVariant, stopped, Option.getD_some] at walked
  simp only [pickVariantIndex, bind_eq_ok, require_eq_ok, pure_eq_ok]
  exact ⟨(), weighs, (), positive, walked⟩

/-- Over the buckets below the total each variant is selected as often as it
weighs, the loop never gets to its end, and the order of the split is all one. -/
theorem traffic_split_exact (keys : ∀ fields ∈ raw.dict?, (fields.map Prod.fst).Nodup)
    (done : coerceSplit raw = .ok split) (positive : 0 < (split.map Prod.snd).sum) :
    (∀ entry ∈ split, (((Finset.range (split.map Prod.snd).sum.toNat).filter fun bucket : Nat =>
      loopVariant bucket split = some entry.1).card : Int) = entry.2) ∧
    (∀ bucket, 0 ≤ bucket → bucket < (split.map Prod.snd).sum → ∃ entry ∈ split, loopVariant bucket split = some entry.1) ∧
    (∀ abTestId externalId, ∃ variant,
      loopVariant ((blake2b (uuidStr abTestId ++ ":" ++ externalId) : Int) % (split.map Prod.snd).sum) split = some variant ∧
        pickVariantIndex abTestId externalId split = .ok variant) ∧
    ∀ reordered, split.Perm reordered → (∀ bucket, loopVariant bucket reordered = loopVariant bucket split) ∧
      ∀ abTestId externalId, pickVariantIndex abTestId externalId reordered = pickVariantIndex abTestId externalId split := by
  have distinct := coerceSplit_keys keys done
  have weighed := coerceSplit_positive done
  refine ⟨fun entry member => card_loopVariant distinct weighed member, fun bucket => loopVariant_stops,
    pickVariantIndex_eq positive, fun reordered perm => ⟨fun bucket => loopVariant_perm distinct perm, ?_⟩⟩
  intro abTestId externalId
  have total := (perm.map Prod.snd).sum_eq
  obtain ⟨variant, stopped, here⟩ := pickVariantIndex_eq positive abTestId externalId
  obtain ⟨variant', stopped', there⟩ := pickVariantIndex_eq (total ▸ positive) abTestId externalId
  rw [← total, loopVariant_perm distinct perm, stopped] at stopped'
  cases stopped'
  rw [here, there]

end Split

namespace TrafficSplit

local instance splitText : PyText := PyText.plain

/-- Two variants with weights that count, and one without. -/
def three : Json := .obj [("c", .int 30), ("b", .int 0), ("a", .int 70)]

theorem traffic_split_three : coerceSplit three = .ok [("c", 30), ("a", 70)] ∧
    (((Finset.range 100).filter fun bucket : Nat => loopVariant bucket [("c", 30), ("a", 70)] = some "a").card : Int) = 70 ∧
    ∀ bucket, loopVariant bucket [("a", 70), ("c", 30)] = loopVariant bucket [("c", 30), ("a", 70)] := by
  have read : coerceSplit three = .ok [("c", 30), ("a", 70)] := by decide +kernel
  have keys : ∀ fields ∈ three.dict?, (fields.map Prod.fst).Nodup := by decide
  have exact_ := traffic_split_exact keys read (by decide)
  exact ⟨read, exact_.1 ("a", 70) (by decide), fun bucket => (exact_.2.2.2 _ (List.Perm.swap ..)).1 bucket⟩

end TrafficSplit

end MarketingAgents

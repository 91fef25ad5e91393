import MarketingAgents.Content.Effects
import MarketingAgents.Content.System

namespace MarketingAgents

open Lib PyText

/-- The variant of its touch that the asset is; the only one has no index. -/
def variantIndex (a : ContentAsset) : Json := (a.extraMetadata.get? "variant_index").getD (.int 0)

def touchKey (a : ContentAsset) : Option Json × Json := (a.extraMetadata.get? "touchpoint_id", variantIndex a)

theorem Traced.touchKey {old new : ContentAsset} (traced : Traced old new) :
    MarketingAgents.touchKey new = MarketingAgents.touchKey old := by
  unfold MarketingAgents.touchKey variantIndex
  rw [traced.touchpoint, traced.variant]

theorem Planted.touchKey {planned stored : ContentAsset} (planted : Planted planned stored) :
    MarketingAgents.touchKey stored = MarketingAgents.touchKey planned := by
  unfold MarketingAgents.touchKey variantIndex
  rw [planted.metadata "touchpoint_id" (by decide), planted.metadata "variant_index" (by decide)]

/-- Two assets of one variant of one touch are the same. -/
def OnePerTouch (db : Db) : Prop :=
  ∀ a ∈ db.assets, ∀ b ∈ db.assets, (touchKey a).1 ≠ none → touchKey a = touchKey b → a = b

theorem OnePerTouch.of_traced {db db' : Db} (one : OnePerTouch db) (wf : db'.Wf)
    (traced : ∀ b ∈ db'.assets, (touchKey b).1 ≠ none → ∃ old ∈ db.assets, Traced old b) : OnePerTouch db' := by
  intro a aMember b bMember touched same
  obtain ⟨old, here, first⟩ := traced a aMember touched
  obtain ⟨old', here', last⟩ := traced b bMember (same ▸ touched)
  rw [first.touchKey] at touched same
  rw [last.touchKey] at same
  have equal := one old here old' here' touched same
  exact wf.eq_of_id aMember bMember (by rw [first.id, last.id, equal])

section Seeds

variable [PyText]

/-- The key of the variant of the touchpoint. -/
def seedKey (tp : StrategyTouchpoint) (variant : Nat) : Option Json × Json := (some (.str (uuidStr tp.id)), .int variant)

theorem seedMetadata_key {tp : StrategyTouchpoint} {spec : Option AbTestSpec} {variant : Nat}
    (within : variant < (spec.map AbTestSpec.variants).getD 1) {a : ContentAsset}
    (metadata : a.extraMetadata = seedMetadata tp spec variant) : touchKey a = seedKey tp variant := by
  unfold touchKey variantIndex
  rw [metadata]
  cases spec with
  | none =>
    have only : variant = 0 := Nat.lt_one_iff.mp within
    subst only
    rfl
  | some spec => rfl

theorem seedTouchpoint_keys {db : Db} {c : Campaign} {specs : List AbTestSpec} {tp : StrategyTouchpoint}
    {group : Option AbTestSpec × List ContentAsset} (planned : seedTouchpoint db c specs tp = some group) :
    ∃ count, group.2.map touchKey = (List.range count).map (seedKey tp) := by
  unfold seedTouchpoint at planned
  obtain ⟨plan, _, rfl⟩ := Option.map_eq_some_iff.mp planned
  dsimp only
  generalize specs.reverse.find? (·.channel = tp.channelPlatform) = spec
  refine ⟨(spec.map AbTestSpec.variants).getD 1, ?_⟩
  rw [List.map_map]
  exact List.map_congr_left fun variant member => seedMetadata_key (List.mem_range.mp member) rfl

/-- The touchpoints that the campaign is seeded from. -/
def seedTouchpoints (db : Db) (campaignId : Uuid) : List StrategyTouchpoint :=
  (db.acceptedProposal? campaignId).toList.flatMap fun accepted => db.touchpoints.filter (·.proposalId = accepted.id)

theorem seedRows_touch {db : Db} {c : Campaign} {a : ContentAsset} (member : a ∈ seedRows db c) :
    ∃ tp ∈ seedTouchpoints db c.id, (touchKey a).1 = some (.str (uuidStr tp.id)) := by
  simp only [seedRows, List.mem_flatMap, List.mem_filterMap] at member
  obtain ⟨accepted, listed, group, ⟨tp, sorted, planned⟩, here⟩ := member
  have inside : tp ∈ db.touchpoints.filter (·.proposalId = accepted.id) :=
    (List.perm_insertionSort touchpointOrder _).mem_iff.mp sorted
  refine ⟨tp, List.mem_flatMap.mpr ⟨accepted, listed, inside⟩, ?_⟩
  obtain ⟨count, keys⟩ := seedTouchpoint_keys planned
  have key := List.mem_map_of_mem (f := touchKey) here
  rw [keys] at key
  obtain ⟨variant, _, same⟩ := List.mem_map.mp key
  rw [← same]
  rfl

theorem seedRows_nodup {db : Db} (distinct : (db.touchpoints.map StrategyTouchpoint.id).Nodup) (c : Campaign) :
    ((seedRows db c).map touchKey).Nodup := by
  unfold seedRows
  cases db.acceptedProposal? c.id with
  | none => simp
  | some accepted =>
    have sorted : (((db.touchpoints.filter (·.proposalId = accepted.id)).insertionSort touchpointOrder).map
        StrategyTouchpoint.id).Nodup :=
      ((List.perm_insertionSort touchpointOrder _).map _).nodup_iff.mpr (distinct.sublist (List.filter_sublist.map _))
    simp only [Option.toList_some, List.flatMap_cons, List.flatMap_nil, List.append_nil]
    generalize (db.touchpoints.filter (·.proposalId = accepted.id)).insertionSort touchpointOrder = tps at sorted
    rw [List.filterMap_eq_flatMap_toList, List.flatMap_assoc, List.map_flatMap, List.nodup_flatMap]
    have keys : ∀ tp ∈ tps, ∃ count, ((seedTouchpoint db c (parseAbTestSpecs accepted.payload) tp).toList.flatMap
        Prod.snd).map touchKey = (List.range count).map (seedKey tp) := by
      intro tp _
      cases planned : seedTouchpoint db c (parseAbTestSpecs accepted.payload) tp with
      | none => exact ⟨0, by simp⟩
      | some group => simpa using seedTouchpoint_keys planned
    refine ⟨fun tp member => ?_, ?_⟩
    · obtain ⟨count, value⟩ := keys tp member
      rw [value]
      refine List.nodup_range.map fun first last same => ?_
      simpa [seedKey] using same
    · refine (List.pairwise_map.mp sorted).imp_of_mem fun here there different => ?_
      obtain ⟨_, value⟩ := keys _ here
      obtain ⟨_, value'⟩ := keys _ there
      rw [Function.onFun_apply, value, value', List.disjoint_left]
      intro key left right
      obtain ⟨_, _, rfl⟩ := List.mem_map.mp left
      obtain ⟨_, _, same⟩ := List.mem_map.mp right
      simp only [seedKey, Prod.mk.injEq, Option.some.injEq, Json.str.injEq] at same
      exact different (uuidStr_injective same.1).symm

end Seeds

/-- The operation adds a variant to a test, the only one to give a stored touch another asset. -/
def Op.addsVariant : Op → Bool
  | .addVariant .. => true
  | _ => false

theorem Op.creates_unplanned {op : Op} (other : op.addsVariant = false) {a : ContentAsset} (creates : op.creates a) :
    (touchKey a).1 = none := by
  cases op with
  | assistant user call =>
    cases call with
    | draftOutbound => exact creates
    | _ => exact creates.elim
  | addVariant => simp [Op.addsVariant] at other
  | _ => exact creates.elim

section Steps

variable [PyText] {now : Int} {db db' : Db}

theorem OnePerTouch.seed (one : OnePerTouch db) (wf : db.Wf) {c : Campaign} {ids : List Uuid}
    (done : seedAssetsForCampaign db c now = .ok (db', ids)) (distinct : (db.touchpoints.map StrategyTouchpoint.id).Nodup)
    (unlinked : ∀ tp ∈ seedTouchpoints db c.id, ∀ a ∈ db.assets, (touchKey a).1 ≠ some (.str (uuidStr tp.id))) :
    OnePerTouch db' := by
  obtain ⟨rows, assets, _, _, planted⟩ := (seedAssetsForCampaign_seeded wf done).rows
  have keys : (rows.map touchKey).Nodup := by
    rw [forall₂_map_eq touchKey (fun plant => plant.touchKey) planted]
    exact seedRows_nodup distinct c
  have fresh : ∀ a ∈ db.assets, ∀ b ∈ rows, touchKey a ≠ touchKey b := by
    intro a here b new same
    obtain ⟨planned, listed, plant⟩ := forall₂_origin planted new
    obtain ⟨tp, member, touch⟩ := seedRows_touch listed
    exact unlinked tp member a here (by rw [same, plant.touchKey, touch])
  rw [OnePerTouch, assets]
  intro a aMember b bMember touched same
  rcases List.mem_append.mp aMember with aOld | aNew
  · rcases List.mem_append.mp bMember with bOld | bNew
    · exact one a aOld b bOld touched same
    · exact absurd same (fresh a aOld b bNew)
  · rcases List.mem_append.mp bMember with bOld | bNew
    · exact absurd same.symm (fresh b bOld a aNew)
    · exact eq_of_key_eq keys aNew bNew same

/-- The operation seeds only touches that no asset is linked to yet. -/
structure SeedsOnce (db : Db) (op : Op × Int) : Prop where
  other : op.1.addsVariant = false
  distinct : (db.touchpoints.map StrategyTouchpoint.id).Nodup
  unlinked : ∀ campaignId ∈ op.1.seeds db, ∀ tp ∈ seedTouchpoints db campaignId, ∀ a ∈ db.assets,
    a.extraMetadata.get? "touchpoint_id" ≠ some (.str (uuidStr tp.id))

instance (db : Db) (op : Op × Int) : Decidable (SeedsOnce db op) :=
  decidable_of_iff (op.1.addsVariant = false ∧ (db.touchpoints.map StrategyTouchpoint.id).Nodup ∧
    ∀ campaignId ∈ op.1.seeds db, ∀ tp ∈ seedTouchpoints db campaignId, ∀ a ∈ db.assets,
      a.extraMetadata.get? "touchpoint_id" ≠ some (.str (uuidStr tp.id)))
    ⟨fun ⟨other, distinct, unlinked⟩ => ⟨other, distinct, unlinked⟩, fun once => ⟨once.other, once.distinct, once.unlinked⟩⟩

theorem Write.onePerTouch {before : Db} {op : Op × Int} (once : SeedsOnce before op)
    (write : Write (op.1.may before) now db db') (wf : db.Wf) (one : OnePerTouch db) : OnePerTouch db' := by
  by_cases seeds : ∃ (c : Campaign) (ids : List Uuid), op.1.may before (.seeds c.id) db ∧
      seedAssetsForCampaign db c now = .ok (db', ids)
  · obtain ⟨c, ids, ⟨asked, assets, proposals, touchpoints, _⟩, done⟩ := seeds
    have same : seedTouchpoints db c.id = seedTouchpoints before c.id := by
      unfold seedTouchpoints Db.acceptedProposal?
      rw [proposals, touchpoints]
    refine one.seed wf done (touchpoints ▸ once.distinct) fun tp member a here => ?_
    exact once.unlinked c.id asked tp (same ▸ member) a (assets ▸ here)
  · refine one.of_traced (write.wf wf) fun b member touched => ?_
    rcases (write.assets wf member).origin with traced | ⟨a, asked, value⟩ | ⟨c, ids, asked, done, _⟩
    · exact traced
    · exact absurd (Op.creates_unplanned once.other asked) fun planned => touched (by rw [value]; exact planned)
    · exact absurd ⟨c, ids, asked, done⟩ seeds

end Steps

section Runs

variable [PyText] {db : Db}

/-- Where each proposal is seeded once, every variant of every touch has at most one
asset. A seeding does not look for what an earlier one has left. -/
theorem one_asset_per_touch (fresh : db.Fresh) {ops : List (Op × Int)} (once : Along Content.step SeedsOnce db ops)
    (touchpointId : Uuid) (variant : Json) :
    ∀ a ∈ (Lib.run Content.step db ops).assets, ∀ b ∈ (Lib.run Content.step db ops).assets,
      a.extraMetadata.get? "touchpoint_id" = some (.str (uuidStr touchpointId)) → variantIndex a = variant →
      b.extraMetadata.get? "touchpoint_id" = some (.str (uuidStr touchpointId)) → variantIndex b = variant → a = b := by
  have start : db.Wf ∧ OnePerTouch db := by
    refine ⟨fresh.wf, fun a member => ?_⟩
    simp [fresh.assets] at member
  have reached := Along.invariant (I := fun db => db.Wf ∧ OnePerTouch db) once start fun before op holds permitted => by
    have writes : Writes (op.1.may before) op.2 before (op.1.run before op.2) := Op.run_writes holds.1 op.1
    exact writes.induct holds.1 holds.2 fun mid next midWf one write => write.onePerTouch permitted midWf one
  intro a aMember b bMember aTouch aVariant bTouch bVariant
  refine reached.2 a aMember b bMember ?_ (Prod.ext (aTouch.trans bTouch.symm) (aVariant.trans bVariant.symm))
  rw [touchKey, aTouch]
  simp

end Runs

namespace Touches

local instance touchesText : PyText := PyText.plain

open Sample

/-- The strategy of the campaign, with the one touchpoint 51, is accepted. -/
def strategySet : List (Op × Int) :=
  [(.createCampaign manager launch, 0),
    (.assistant manager (.synthesiseAudience 0 [("m", [])]), 1),
    (.applyTransition manager .manager 0 "set_strategy", 2)]

/-- The assistant's `generate_content`, confirmed. -/
def generateContent : Op × Int := (.assistant manager (.generateContent true 0 true [draft []]), 3)

/-- The second confirmation seeds the touch again instead of using the draft that is there. -/
theorem generate_content_twice_seeds_twice :
    let reached := Lib.run Content.step planned (strategySet ++ [generateContent, generateContent])
    planned.Fresh ∧ (reached.assets.filter fun a => a.extraMetadata.get? "touchpoint_id" = some (.str (uuidStr 51)) ∧
      variantIndex a = .int 0).length = 2 :=
  ⟨⟨rfl, rfl, rfl, rfl⟩, by decide +kernel⟩

/-- `start_content`, retried after it has gone through. -/
def startedTwice : List (Op × Int) :=
  strategySet ++ [(.applyTransition manager .manager 0 "start_content", 3),
    (.applyTransition manager .manager 0 "start_content", 4)]

theorem one_asset_per_touch_retried :
    let reached := Lib.run Content.step planned startedTwice
    (∃ a ∈ reached.assets, a.extraMetadata.get? "touchpoint_id" = some (.str (uuidStr 51)) ∧ variantIndex a = .int 0) ∧
      ∀ a ∈ reached.assets, ∀ b ∈ reached.assets,
        a.extraMetadata.get? "touchpoint_id" = some (.str (uuidStr 51)) → variantIndex a = .int 0 →
        b.extraMetadata.get? "touchpoint_id" = some (.str (uuidStr 51)) → variantIndex b = .int 0 → a = b := by
  intro reached
  have once : Along Content.step SeedsOnce planned startedTwice := by decide +kernel
  exact ⟨by decide +kernel, one_asset_per_touch ⟨rfl, rfl, rfl, rfl⟩ once 51 (.int 0)⟩

end Touches

end MarketingAgents

import MarketingAgents.Content.Seeded

namespace MarketingAgents

open Lib PyText

/-- A planned group under its ids. -/
abbrev SeedGroup := Option AbTestSpec × List ContentAsset

/-- The groups, with the ids from `next` on. -/
def numberGroups (next : Uuid) : List SeedGroup → List SeedGroup
  | [] => []
  | group :: groups => (group.1, numberedFrom next group.2) :: numberGroups (next + group.2.length) groups

def SeedGroup.ids (group : SeedGroup) : Option AbTestSpec × List Uuid := (group.1, group.2.map ContentAsset.id)

theorem numberGroups_rows (next : Uuid) (groups : List SeedGroup) :
    (numberGroups next groups).flatMap Prod.snd = numberedFrom next (groups.flatMap Prod.snd) := by
  induction groups generalizing next with
  | nil => rfl
  | cons group groups ih => rw [numberGroups, List.flatMap_cons, List.flatMap_cons, ih, numberedFrom_append]

theorem insertGroups_numbered (db : Db) (groups : List SeedGroup) :
    (insertGroups db groups).2 = (numberGroups db.nextId groups).map SeedGroup.ids := by
  induction groups generalizing db with
  | nil => rfl
  | cons group groups ih =>
    obtain ⟨spec, rows⟩ := group
    have rest := ih (insertAssets db rows).1
    rw [insertAssets_eq] at rest
    simp only [insertGroups, insertAssets_eq, numberGroups, List.map_cons, SeedGroup.ids, numberedFrom_ids]
    rw [rest]

/-- The row with its link to a test. -/
def linkedRow [PyText] (test : Uuid) (a : ContentAsset) : ContentAsset :=
  { a with extraMetadata := a.extraMetadata.set "ab_test_group_id" (.str (uuidStr test)) }

section Links

variable [PyText]

/-- The link on every row with one of the ids. -/
def linkRows (test : Uuid) (ids : List Uuid) (rows : List ContentAsset) : List ContentAsset :=
  rows.map fun a => if a.id ∈ ids then linkedRow test a else a

theorem linkRows_ids (test : Uuid) (ids : List Uuid) (rows : List ContentAsset) :
    (linkRows test ids rows).map ContentAsset.id = rows.map ContentAsset.id := by
  rw [linkRows, List.map_map]
  refine List.map_congr_left fun a _ => ?_
  rw [Function.comp_apply]
  split <;> rfl

theorem tagAsset_eq {db : Db} (distinct : (db.assets.map ContentAsset.id).Nodup) (test id : Uuid) :
    db.tagAsset "ab_test_group_id" (.str (uuidStr test)) id = { db with assets := linkRows test [id] db.assets } := by
  unfold Db.tagAsset linkRows
  cases found : db.asset? id with
  | none =>
    have outside : ∀ a ∈ db.assets, a.id ∉ [id] := by
      intro a member inside
      have missed := List.find?_eq_none.mp found a member
      simp [List.mem_singleton.mp inside] at missed
    have kept : (db.assets.map fun a => if a.id ∈ [id] then linkedRow test a else a) = db.assets :=
      (List.map_congr_left fun a member => if_neg (outside a member)).trans (List.map_id _)
    rw [kept]
  | some a =>
    obtain ⟨here, named⟩ := Db.asset?_mem found
    unfold Db.setAsset updateWhere
    refine congrArg (fun assets => { db with assets := assets }) (List.map_congr_left fun row member => ?_)
    simp only [decide_eq_true_eq, List.mem_singleton]
    by_cases hit : row.id = id
    · rw [if_pos (hit.trans named.symm), if_pos hit, eq_of_key_eq distinct member here (hit.trans named.symm)]
      rfl
    · rw [if_neg fun same => hit (same.trans named), if_neg hit]

theorem foldl_tagAsset {db : Db} {ids : List Uuid} (distinct : (db.assets.map ContentAsset.id).Nodup) (once : ids.Nodup)
    (test : Uuid) : ids.foldl (fun db id => db.tagAsset "ab_test_group_id" (.str (uuidStr test)) id) db =
      { db with assets := linkRows test ids db.assets } := by
  induction ids generalizing db with
  | nil => simp [linkRows]
  | cons id ids ih =>
    obtain ⟨fresh, once⟩ := List.nodup_cons.mp once
    rw [List.foldl_cons, tagAsset_eq distinct, ih (by rwa [linkRows_ids]) once]
    refine congrArg (fun assets => { db with assets := assets }) ?_
    rw [linkRows, linkRows, linkRows, List.map_map]
    refine List.map_congr_left fun a _ => ?_
    rw [Function.comp_apply]
    by_cases hit : a.id = id
    · have there : (linkedRow test a).id ∉ ids := hit ▸ fresh
      rw [if_pos (List.mem_singleton.mpr hit), if_neg there, if_pos (hit ▸ List.mem_cons_self ..)]
    · have other : a.id ∉ [id] := fun inside => hit (List.mem_singleton.mp inside)
      rw [if_neg other]
      simp [hit]

/-- The `ab_test` row of a group. -/
def seedTest (c : Campaign) (spec : AbTestSpec) (id : Uuid) (ids : List Uuid) : AbTest where
  id := id
  tenantId := c.tenantId
  campaignId := c.id
  name := "A/B test: " ++ spec.channel ++ " touchpoint"
  hypothesis := some "Variant differentiation per E06-S05"
  primaryMetric := primaryMetricForCampaign c
  status := .designing
  variantAId := ids[0]?
  variantBId := ids[1]?

/-- What the loop over the groups leaves of each: its rows, and its test. -/
def linkGroups (c : Campaign) (next : Uuid) : List SeedGroup → List (List ContentAsset × Option AbTest)
  | [] => []
  | (none, rows) :: groups => (rows, none) :: linkGroups c next groups
  | (some spec, rows) :: groups =>
    (rows.map (linkedRow next), some (seedTest c spec next (rows.map ContentAsset.id))) :: linkGroups c (next + 1) groups

theorem seedAbTest_some {db : Db} {c : Campaign} {spec : AbTestSpec} {ids : List Uuid}
    (distinct : (db.assets.map ContentAsset.id).Nodup) (once : ids.Nodup) :
    seedAbTest c db (some spec, ids) = { db with
      assets := linkRows db.nextId ids db.assets
      abTests := db.abTests ++ [seedTest c spec db.nextId ids]
      nextId := db.nextId + 1 } := by
  unfold seedAbTest
  dsimp only
  rw [foldl_tagAsset (by exact distinct) once]
  rfl

/-- The links of a group reach its own rows alone. -/
theorem linkRows_middle {before rows after : List ContentAsset} (test : Uuid)
    (distinct : ((before ++ (rows ++ after)).map ContentAsset.id).Nodup) :
    linkRows test (rows.map ContentAsset.id) (before ++ (rows ++ after)) =
      before ++ (rows.map (linkedRow test) ++ after) := by
  have apart := List.nodup_append.mp (by rwa [List.map_append] at distinct)
  have later := List.nodup_append.mp (by simpa only [List.map_append] using apart.2.1)
  rw [linkRows, List.map_append, List.map_append]
  refine congrArg₂ _ ?_ (congrArg₂ _ ?_ ?_)
  · refine (List.map_congr_left fun a member => if_neg fun inside => ?_).trans (List.map_id _)
    refine apart.2.2 a.id (List.mem_map_of_mem member) a.id ?_ rfl
    rw [List.map_append]
    exact List.mem_append_left _ inside
  · exact List.map_congr_left fun a member => if_pos (List.mem_map_of_mem member)
  · refine (List.map_congr_left fun a member => if_neg fun inside => ?_).trans (List.map_id _)
    exact later.2.2 a.id inside a.id (List.mem_map_of_mem member) rfl

/-- The loop over the groups, on a table that ends with their rows. -/
theorem foldl_seedAbTest {c : Campaign} {db : Db} {groups : List SeedGroup} {before : List ContentAsset}
    (assets : db.assets = before ++ groups.flatMap Prod.snd) (distinct : (db.assets.map ContentAsset.id).Nodup) :
    ∃ nextId, (groups.map SeedGroup.ids).foldl (seedAbTest c) db = { db with
      assets := before ++ (linkGroups c db.nextId groups).flatMap Prod.fst
      abTests := db.abTests ++ (linkGroups c db.nextId groups).filterMap Prod.snd
      nextId := nextId } := by
  induction groups generalizing db before with
  | nil =>
    refine ⟨db.nextId, ?_⟩
    rw [List.flatMap_nil, List.append_nil] at assets
    simp [linkGroups, ← assets]
  | cons group groups ih =>
    obtain ⟨spec, rows⟩ := group
    rw [List.flatMap_cons] at assets
    cases spec with
    | none =>
      have table : db.assets = before ++ rows ++ groups.flatMap Prod.snd := by rw [assets, List.append_assoc]
      obtain ⟨nextId, done⟩ := ih table distinct
      refine ⟨nextId, ?_⟩
      rw [List.map_cons, List.foldl_cons]
      refine done.trans ?_
      simp [linkGroups]
    | some spec =>
      have here : (rows.map ContentAsset.id).Nodup := by
        rw [assets, List.map_append, List.map_append] at distinct
        exact (List.nodup_append.mp (List.nodup_append.mp distinct).2.1).1
      have table : linkRows db.nextId (rows.map ContentAsset.id) db.assets =
          before ++ rows.map (linkedRow db.nextId) ++ groups.flatMap Prod.snd := by
        rw [assets, linkRows_middle db.nextId (assets ▸ distinct), List.append_assoc]
      rw [List.map_cons, List.foldl_cons, SeedGroup.ids, seedAbTest_some distinct here]
      obtain ⟨nextId, done⟩ := @ih { db with
        assets := linkRows db.nextId (rows.map ContentAsset.id) db.assets
        abTests := db.abTests ++ [seedTest c spec db.nextId (rows.map ContentAsset.id)]
        nextId := db.nextId + 1 } _ table (by rwa [linkRows_ids])
      refine ⟨nextId, done.trans ?_⟩
      simp [linkGroups]

end Links

section Exact

variable [PyText]

/-- The last spec of the proposal for the touchpoint's channel. -/
def seedSpec (p : StrategyProposal) (tp : StrategyTouchpoint) : Option AbTestSpec :=
  (parseAbTestSpecs p.payload).reverse.find? (·.channel = tp.channelPlatform)

/-- How many assets the touchpoint gets: none without a plan, one without a spec. -/
def seedCount (p : StrategyProposal) (tp : StrategyTouchpoint) : Nat :=
  if planForPlatform tp.channelPlatform = none then 0 else ((seedSpec p tp).map AbTestSpec.variants).getD 1

def OfTouchpoint (tp : StrategyTouchpoint) (a : ContentAsset) : Prop :=
  a.extraMetadata.get? "touchpoint_id" = some (.str (uuidStr tp.id))

instance decidableOfTouchpoint (tp : StrategyTouchpoint) (a : ContentAsset) : Decidable (OfTouchpoint tp a) :=
  inferInstanceAs (Decidable (_ = _))

/-- The assets that carry the touchpoint's id. -/
def rowsOf (rows : List ContentAsset) (tp : StrategyTouchpoint) : List ContentAsset :=
  rows.filter fun a => OfTouchpoint tp a

omit [PyText] in
def variantLabel (a : ContentAsset) : Option Json := a.extraMetadata.get? "variant_index"

/-- The test of these variants: they carry its id and the indices in order, and it names the first two. -/
structure TestOf (rows : List ContentAsset) (test : AbTest) : Prop where
  designing : test.status = .designing
  carried : ∀ a ∈ rows, a.extraMetadata.get? "ab_test_group_id" = some (.str (uuidStr test.id))
  indices : rows.map variantLabel = (List.range rows.length).map fun i => some (.int i)
  variantA : ∃ a ∈ rows, variantLabel a = some (.int 0) ∧ test.variantAId = some a.id
  variantB : ∃ b ∈ rows, variantLabel b = some (.int 1) ∧ test.variantBId = some b.id

/-- What the seeding makes of one touchpoint. -/
structure SeedsTouchpoint (p : StrategyProposal) (tp : StrategyTouchpoint) (result : List ContentAsset × Option AbTest) :
    Prop where
  rows : ∀ a ∈ result.1, OfTouchpoint tp a ∧ a.scheduledAt = some tp.scheduledAt
  length : result.1.length = ((seedSpec p tp).map AbTestSpec.variants).getD 1
  tested : result.2.isSome = (seedSpec p tp).isSome
  test : ∀ test ∈ result.2, TestOf result.1 test

theorem parseAbTestSpec_variants {entry : Json} {spec : AbTestSpec} (parsed : parseAbTestSpec entry = some spec) :
    2 ≤ spec.variants ∧ spec.variants ≤ 5 := by
  unfold parseAbTestSpec at parsed
  split at parsed
  · cases parsed
  · dsimp only at parsed
    split at parsed
    · cases parsed
    · cases parsed
      dsimp only
      omega

/-- The variants of a spec are clamped. -/
theorem seedSpec_variants {p : StrategyProposal} {tp : StrategyTouchpoint} {spec : AbTestSpec}
    (found : seedSpec p tp = some spec) : 2 ≤ spec.variants ∧ spec.variants ≤ 5 := by
  have listed := List.mem_reverse.mp (List.mem_of_find?_eq_some found)
  unfold parseAbTestSpecs at listed
  split at listed
  · obtain ⟨entry, _, parsed⟩ := List.mem_filterMap.mp listed
    exact parseAbTestSpec_variants parsed
  · cases listed

omit [PyText] in
theorem map_numberedFrom {β : Type} {f : ContentAsset → β} (blind : ∀ a id, f { a with id := id } = f a) (next : Uuid)
    (rows : List ContentAsset) : (numberedFrom next rows).map f = rows.map f := by
  induction rows generalizing next with
  | nil => rfl
  | cons a rows ih => rw [numberedFrom, List.map_cons, List.map_cons, blind, ih]

omit [PyText] in
theorem forall_numberedFrom {P : ContentAsset → Prop} (blind : ∀ a id, P a → P { a with id := id }) {next : Uuid}
    {rows : List ContentAsset} (all : ∀ a ∈ rows, P a) : ∀ a ∈ numberedFrom next rows, P a := by
  induction rows generalizing next with
  | nil => simp [numberedFrom]
  | cons a rows ih =>
    rw [numberedFrom, List.forall_mem_cons]
    exact ⟨blind a next (all a (List.mem_cons_self ..)), ih fun b member => all b (List.mem_cons_of_mem _ member)⟩

omit [PyText] in
/-- The variant of an index is a row of its own. -/
theorem exists_variant {rows : List ContentAsset}
    (indices : rows.map variantLabel = (List.range rows.length).map fun i => some (.int i)) {i : Nat}
    (within : i < rows.length) : ∃ a ∈ rows, variantLabel a = some (.int i) ∧ (rows.map ContentAsset.id)[i]? = some a.id := by
  have at_i := congrArg (·[i]?) indices
  simp only [List.getElem?_map, List.getElem?_range within, Option.map_some, List.getElem?_eq_getElem within] at at_i
  refine ⟨rows[i], List.getElem_mem within, Option.some.inj at_i, ?_⟩
  rw [List.getElem?_map, List.getElem?_eq_getElem within, Option.map_some]

theorem testOf_linked {c : Campaign} {spec : AbTestSpec} {rows : List ContentAsset} (next : Uuid)
    (indices : rows.map variantLabel = (List.range rows.length).map fun i => some (.int i)) (two : 2 ≤ rows.length) :
    TestOf (rows.map (linkedRow next)) (seedTest c spec next (rows.map ContentAsset.id)) := by
  have sameIndex : (rows.map (linkedRow next)).map variantLabel = rows.map variantLabel := by
    rw [List.map_map]
    exact List.map_congr_left fun a _ => Dict.get?_set_ne _ _ (by decide)
  have sameId : (rows.map (linkedRow next)).map ContentAsset.id = rows.map ContentAsset.id := by
    rw [List.map_map]
    rfl
  have indices' : (rows.map (linkedRow next)).map variantLabel =
      (List.range (rows.map (linkedRow next)).length).map fun i => some (.int i) := by
    rw [sameIndex, List.length_map, indices]
  refine ⟨rfl, fun a member => ?_, indices', ?_, ?_⟩
  · obtain ⟨old, _, rfl⟩ := List.mem_map.mp member
    exact Dict.get?_set_self _ _ _
  · obtain ⟨a, member, index, named⟩ := exists_variant indices' (i := 0) (by rw [List.length_map]; omega)
    exact ⟨a, member, index, sameId ▸ named⟩
  · obtain ⟨b, member, index, named⟩ := exists_variant indices' (i := 1) (by rw [List.length_map]; omega)
    exact ⟨b, member, index, sameId ▸ named⟩

/-- The rows of a planned group, under their ids. -/
theorem seedTouchpoint_rows {db : Db} {c : Campaign} {p : StrategyProposal} {tp : StrategyTouchpoint} {group : SeedGroup}
    (planned : seedTouchpoint db c (parseAbTestSpecs p.payload) tp = some group) (next : Uuid) :
    group.1 = seedSpec p tp ∧ (∀ a ∈ numberedFrom next group.2, OfTouchpoint tp a ∧ a.scheduledAt = some tp.scheduledAt) ∧
      (numberedFrom next group.2).length = ((seedSpec p tp).map AbTestSpec.variants).getD 1 ∧
      ((seedSpec p tp).isSome → (numberedFrom next group.2).map variantLabel =
        (List.range (numberedFrom next group.2).length).map fun i => some (.int i)) := by
  unfold seedTouchpoint at planned
  obtain ⟨plan, _, rfl⟩ := Option.map_eq_some_iff.mp planned
  dsimp only
  have length : ∀ rows : List ContentAsset, (numberedFrom next rows).length = rows.length := fun rows => by
    have sameLength := congrArg List.length (numberedFrom_ids next rows)
    rwa [List.length_map, List.length_range'] at sameLength
  refine ⟨rfl, ?_, ?_, fun tested => ?_⟩
  · refine forall_numberedFrom (fun _ _ holds => holds) fun a member => ?_
    obtain ⟨variant, _, rfl⟩ := List.mem_map.mp member
    exact ⟨rfl, rfl⟩
  · rw [length, List.length_map, List.length_range]
    rfl
  · obtain ⟨spec, found⟩ := Option.isSome_iff_exists.mp tested
    have chosen : (parseAbTestSpecs p.payload).reverse.find? (·.channel = tp.channelPlatform) = some spec := found
    rw [map_numberedFrom (fun _ _ => rfl), length, List.length_map, List.length_range, List.map_map, chosen]
    exact List.map_congr_left fun _ _ => rfl

/-- The results of the loops, touchpoint by touchpoint. -/
theorem linkGroups_seeds {db : Db} {c : Campaign} {p : StrategyProposal} {touchpoints : List StrategyTouchpoint}
    {groups : List SeedGroup}
    (planned : List.Forall₂ (fun tp group => seedTouchpoint db c (parseAbTestSpecs p.payload) tp = some group) touchpoints
      groups) (next test : Uuid) :
    List.Forall₂ (SeedsTouchpoint p) touchpoints (linkGroups c test (numberGroups next groups)) := by
  induction planned generalizing next test with
  | nil => exact .nil
  | @cons tp group _ _ first _ ih =>
    obtain ⟨specs, rows, length, indices⟩ := seedTouchpoint_rows first next
    obtain ⟨spec, planned⟩ := group
    dsimp only at specs rows length indices
    rw [numberGroups]
    dsimp only
    cases spec with
    | none =>
      rw [linkGroups]
      exact .cons ⟨rows, length, by rw [← specs]; rfl, by simp⟩ (ih _ _)
    | some spec =>
      rw [linkGroups]
      have two : 2 ≤ (numberedFrom next planned).length := by
        rw [length, ← specs]
        exact (seedSpec_variants specs.symm).1
      refine .cons ⟨fun a member => ?_, ?_, by rw [← specs]; rfl, fun found is => ?_⟩ (ih _ _)
      · obtain ⟨old, there, rfl⟩ := List.mem_map.mp member
        exact ⟨(Dict.get?_set_ne _ _ (by decide)).trans (rows old there).1, (rows old there).2⟩
      · rw [List.length_map, length]
      · cases Option.some.inj is
        exact testOf_linked test (indices (by rw [← specs]; rfl)) two

/-- Of a result the rows are those of its own touchpoint. -/
theorem SeedsTouchpoint.rowsOf {p : StrategyProposal} {tp other : StrategyTouchpoint}
    {result : List ContentAsset × Option AbTest} (seeds : SeedsTouchpoint p tp result) :
    rowsOf result.1 other = if other.id = tp.id then result.1 else [] := by
  unfold MarketingAgents.rowsOf
  split
  · rename_i same
    refine List.filter_eq_self.mpr fun a member => decide_eq_true ?_
    rw [OfTouchpoint, same]
    exact (seeds.rows a member).1
  · rename_i differ
    refine List.filter_eq_nil_iff.mpr fun a member => ?_
    rw [decide_eq_true_eq]
    intro ours
    have named := ours.symm.trans (seeds.rows a member).1
    rw [Option.some.injEq, Json.str.injEq] at named
    exact differ (uuidStr_injective named)

/-- The rows of all results that carry the id of a touchpoint are those of its result. -/
theorem rowsOf_results {p : StrategyProposal} {pairs : List (StrategyTouchpoint × List ContentAsset × Option AbTest)}
    (seeds : ∀ pair ∈ pairs, SeedsTouchpoint p pair.1 pair.2) (distinct : (pairs.map (·.1.id)).Nodup) :
    (∀ pair ∈ pairs, rowsOf (pairs.flatMap (·.2.1)) pair.1 = pair.2.1) ∧
      ∀ tp : StrategyTouchpoint, tp.id ∉ pairs.map (·.1.id) → rowsOf (pairs.flatMap (·.2.1)) tp = [] := by
  induction pairs with
  | nil => simp [rowsOf]
  | cons first pairs ih =>
    rw [List.map_cons, List.nodup_cons] at distinct
    obtain ⟨own, others⟩ := ih (fun pair member => seeds pair (List.mem_cons_of_mem _ member)) distinct.2
    have head := seeds first (List.mem_cons_self ..)
    have split : ∀ tp, rowsOf ((first :: pairs).flatMap (·.2.1)) tp =
        rowsOf first.2.1 tp ++ rowsOf (pairs.flatMap (·.2.1)) tp := fun tp => List.filter_append ..
    refine ⟨fun pair member => ?_, fun tp absent => ?_⟩
    · rw [split, head.rowsOf]
      rcases List.mem_cons.mp member with rfl | later
      · rw [if_pos rfl, others _ distinct.1, List.append_nil]
      · have other : pair.1.id ≠ first.1.id := fun same =>
          distinct.1 (same ▸ List.mem_map.mpr ⟨pair, later, rfl⟩)
        rw [if_neg other, own pair later, List.nil_append]
    · rw [List.map_cons, List.mem_cons, not_or] at absent
      rw [split, head.rowsOf, if_neg absent.1, others tp absent.2, List.append_nil]

/-- Each touchpoint beside its result. -/
theorem results_rows {p : StrategyProposal} {planned : List StrategyTouchpoint}
    {results : List (List ContentAsset × Option AbTest)} (seeds : List.Forall₂ (SeedsTouchpoint p) planned results)
    (distinct : (planned.map StrategyTouchpoint.id).Nodup) :
    (∀ tp ∈ planned, ∃ r ∈ results, SeedsTouchpoint p tp r ∧ rowsOf (results.flatMap Prod.fst) tp = r.1) ∧
      (∀ r ∈ results, ∃ tp ∈ planned, SeedsTouchpoint p tp r ∧ rowsOf (results.flatMap Prod.fst) tp = r.1) ∧
      ∀ tp : StrategyTouchpoint, tp.id ∉ planned.map StrategyTouchpoint.id → rowsOf (results.flatMap Prod.fst) tp = [] := by
  obtain ⟨sameLength, each⟩ := List.forall₂_iff_zip.mp seeds
  have firsts : (planned.zip results).map Prod.fst = planned := List.map_fst_zip sameLength.le
  have seconds : (planned.zip results).map Prod.snd = results := List.map_snd_zip sameLength.ge
  have zipIds : (planned.zip results).map (·.1.id) = planned.map StrategyTouchpoint.id := by
    conv_rhs => rw [← firsts, List.map_map]
    rfl
  have zipRows : (planned.zip results).flatMap (·.2.1) = results.flatMap Prod.fst := by
    conv_rhs => rw [← seconds, List.flatMap_map]
  have paired : ∀ pair ∈ planned.zip results, SeedsTouchpoint p pair.1 pair.2 := fun pair member => each member
  obtain ⟨own, others⟩ := rowsOf_results paired (zipIds ▸ distinct)
  rw [zipRows] at own others
  refine ⟨fun tp member => ?_, fun r member => ?_, fun tp absent => others tp (zipIds ▸ absent)⟩
  · rw [← firsts] at member
    obtain ⟨pair, there, rfl⟩ := List.mem_map.mp member
    exact ⟨pair.2, seconds ▸ List.mem_map_of_mem there, each there, own pair there⟩
  · rw [← seconds] at member
    obtain ⟨pair, there, rfl⟩ := List.mem_map.mp member
    exact ⟨pair.1, firsts ▸ List.mem_map_of_mem there, each there, own pair there⟩

/-- The touchpoints of a proposal. -/
def calendarOf (db : Db) (p : StrategyProposal) : List StrategyTouchpoint := db.touchpoints.filter (·.proposalId = p.id)

/-- The seeding has created these rows, tasks and tests for the proposal, and no others. -/
structure SeedsExactly (db : Db) (c : Campaign) (p : StrategyProposal) (now : Int) (rows : List ContentAsset)
    (tasks : List Task) (tests : List AbTest) : Prop where
  counts : ∀ tp ∈ calendarOf db p, (rowsOf rows tp).length = seedCount p tp ∧
    ∀ a ∈ rowsOf rows tp, a.scheduledAt = some tp.scheduledAt
  ofCalendar : ∀ a ∈ rows, ∃ tp ∈ calendarOf db p, a ∈ rowsOf rows tp
  tasks : ∃ agentId, List.Forall₂ (fun a t => ∃ taskId, t = Queue.newTask (generateTask c agentId a.id) taskId now) rows tasks
  oneTest : ∀ tp ∈ calendarOf db p, planForPlatform tp.channelPlatform ≠ none → seedSpec p tp ≠ none →
    ∃! test, test ∈ tests ∧ TestOf (rowsOf rows tp) test
  ofSpec : ∀ test ∈ tests, ∃ tp ∈ calendarOf db p, planForPlatform tp.channelPlatform ≠ none ∧ seedSpec p tp ≠ none ∧
    TestOf (rowsOf rows tp) test

/-- The rows and tests that a seeding adds, as the results of its touchpoints. -/
theorem seedAssetsForCampaign_results {db db' : Db} (wf : db.Wf) {c : Campaign} {p : StrategyProposal} {now : Int}
    {ids : List Uuid} (accepted : db.acceptedProposal? c.id = some p)
    (done : seedAssetsForCampaign db c now = .ok (db', ids)) :
    ∃ results, List.Forall₂ (SeedsTouchpoint p)
        (((calendarOf db p).insertionSort touchpointOrder).filter fun tp =>
          (seedTouchpoint db c (parseAbTestSpecs p.payload) tp).isSome) results ∧
      db'.assets = db.assets ++ results.flatMap Prod.fst ∧ db'.abTests = db.abTests ++ results.filterMap Prod.snd := by
  simp only [seedAssetsForCampaign, bind_eq_ok, pure_eq_ok, Prod.mk.injEq, orRaise_eq_ok,
    seedTouchpoint_ensureAgent] at done
  obtain ⟨p', chosen, _, _, _, _, last, queued, rfl, _⟩ := done
  cases Option.some.inj (accepted.symm.trans chosen)
  have same := sameCore_ensureAgent db c.tenantId .contentCreator
  have planned := forall₂_filterMap (seedTouchpoint db c (parseAbTestSpecs p.payload))
    ((calendarOf db p).insertionSort touchpointOrder)
  rw [calendarOf] at planned ⊢
  generalize ((db.touchpoints.filter (·.proposalId = p.id)).insertionSort touchpointOrder).filterMap
    (seedTouchpoint db c (parseAbTestSpecs p.payload)) = groups at queued planned
  have state := (insertGroups_eq (db.ensureAgent c.tenantId .contentCreator).1 groups).1
  have grown := wf_numbered (same.untouched.wf rowOrder_eq wf) (groups.flatMap Prod.snd)
  have assets : (insertGroups (db.ensureAgent c.tenantId .contentCreator).1 groups).1.assets =
      db.assets ++ (numberGroups (db.ensureAgent c.tenantId .contentCreator).1.nextId groups).flatMap Prod.snd := by
    rw [state, numberGroups_rows, ← same.assets]
  obtain ⟨nextId, linked⟩ := foldl_seedAbTest (c := c) assets (by rw [state]; exact grown.assetIds)
  rw [insertGroups_numbered, linked] at queued
  obtain ⟨tasks, value, _⟩ := foldlM_enqueue_eq (fun _ => rfl) queued
  refine ⟨_, linkGroups_seeds planned _ _, by rw [value], ?_⟩
  rw [value, state]
  exact congrArg (· ++ _) same.abTests

/-- Results for the planned touchpoints of a calendar, whose tests differ, are exact. -/
theorem SeedsExactly.of_results {db : Db} {c : Campaign} {p : StrategyProposal} {now : Int}
    {planned : List StrategyTouchpoint} {results : List (List ContentAsset × Option AbTest)} {tasks : List Task}
    (distinct : ((calendarOf db p).map StrategyTouchpoint.id).Nodup)
    (mem_planned : ∀ tp, tp ∈ planned ↔ tp ∈ calendarOf db p ∧ planForPlatform tp.channelPlatform ≠ none)
    (plannedIds : (planned.map StrategyTouchpoint.id).Nodup) (seeds : List.Forall₂ (SeedsTouchpoint p) planned results)
    (testIds : ((results.filterMap Prod.snd).map AbTest.id).Nodup) {agentId : Uuid}
    (queued : List.Forall₂ (fun a t => ∃ taskId, t = Queue.newTask (generateTask c agentId a.id) taskId now)
      (results.flatMap Prod.fst) tasks) :
    SeedsExactly db c p now (results.flatMap Prod.fst) tasks (results.filterMap Prod.snd) := by
  obtain ⟨result, source, others⟩ := results_rows seeds plannedIds
  refine ⟨?_, ?_, ⟨agentId, queued⟩, ?_, ?_⟩
  · intro tp member
    by_cases plan : planForPlatform tp.channelPlatform = none
    · have absent : tp.id ∉ planned.map StrategyTouchpoint.id := by
        intro listed
        obtain ⟨other, there, same⟩ := List.mem_map.mp listed
        have facts := (mem_planned other).mp there
        cases eq_of_key_eq distinct facts.1 member same
        exact facts.2 plan
      rw [others tp absent, seedCount, if_pos plan]
      simp
    · obtain ⟨r, _, seeds, rows⟩ := result tp ((mem_planned tp).mpr ⟨member, plan⟩)
      rw [rows, seedCount, if_neg plan, seeds.length]
      exact ⟨rfl, fun a there => (seeds.rows a there).2⟩
  · intro a member
    obtain ⟨r, listed, there⟩ := List.mem_flatMap.mp member
    obtain ⟨tp, planned, _, rows⟩ := source r listed
    exact ⟨tp, ((mem_planned tp).mp planned).1, rows ▸ there⟩
  · intro tp member plan spec
    obtain ⟨r, listed, seeds, rows⟩ := result tp ((mem_planned tp).mpr ⟨member, plan⟩)
    have some_test : r.2.isSome := by
      rw [seeds.tested]
      exact Option.isSome_iff_ne_none.mpr spec
    obtain ⟨test, made⟩ := Option.isSome_iff_exists.mp some_test
    have mine := seeds.test test made
    have stored : test ∈ results.filterMap Prod.snd := List.mem_filterMap.mpr ⟨r, listed, made⟩
    rw [rows]
    refine ⟨test, ⟨stored, mine⟩, ?_⟩
    -- another test of these rows would be linked from them, under its own id
    rintro other ⟨there, theirs⟩
    obtain ⟨a, inside, _⟩ := mine.variantA
    have linked := (theirs.carried a inside).symm.trans (mine.carried a inside)
    rw [Option.some.injEq, Json.str.injEq] at linked
    exact eq_of_key_eq testIds there stored (uuidStr_injective linked)
  · intro test member
    obtain ⟨r, listed, made⟩ := List.mem_filterMap.mp member
    obtain ⟨tp, planned, seeds, rows⟩ := source r listed
    refine ⟨tp, ((mem_planned tp).mp planned).1, ((mem_planned tp).mp planned).2, ?_, rows ▸ seeds.test test made⟩
    rw [← Option.isSome_iff_ne_none, ← seeds.tested, made]
    rfl

/-- A seeding that returns creates what its proposal plans, and nothing else: an
asset for every variant of every planned touch, with its test where it has two, in
the order of the calendar. -/
theorem seedAssetsForCampaign_exact {db db' : Db} (wf : db.Wf) {c : Campaign} {p : StrategyProposal} {now : Int}
    {ids : List Uuid} (accepted : db.acceptedProposal? c.id = some p)
    (distinct : ((calendarOf db p).map StrategyTouchpoint.id).Nodup)
    (done : seedAssetsForCampaign db c now = .ok (db', ids)) :
    ∃ rows tasks tests, db'.assets = db.assets ++ rows ∧ db'.tasks = db.tasks ++ tasks ∧
      db'.abTests = db.abTests ++ tests ∧ rows.map ContentAsset.id = ids ∧ SeedsExactly db c p now rows tasks tests := by
  obtain ⟨results, seeds, assets, abTests⟩ := seedAssetsForCampaign_results wf accepted done
  have seeded := seedAssetsForCampaign_seeded wf done
  obtain ⟨rows, assets', rowIds, _⟩ := seeded.rows
  obtain ⟨tests, abTests', newTests⟩ := seeded.tests
  obtain ⟨tasks, agentId, queued, related⟩ := seeded.tasks
  obtain rfl : rows = results.flatMap Prod.fst := List.append_cancel_left (assets'.symm.trans assets)
  obtain rfl : tests = results.filterMap Prod.snd := List.append_cancel_left (abTests'.symm.trans abTests)
  rw [← rowIds] at related
  refine ⟨_, tasks, _, assets, queued.value, abTests, rowIds, .of_results distinct (fun tp => ?_) ?_ seeds
    newTests.distinct (List.forall₂_map_left_iff.mp related)⟩
  · rw [List.mem_filter, (List.perm_insertionSort touchpointOrder _).mem_iff, seedTouchpoint, Option.isSome_map,
      Option.isSome_iff_ne_none]
  · refine List.Nodup.sublist (List.filter_sublist.map _) ?_
    exact ((List.perm_insertionSort touchpointOrder _).map _).nodup_iff.mpr distinct

end Exact

namespace ExactRuns

local instance exactText : PyText := PyText.plain

def launch : Campaign where
  id := 5
  tenantId := 1
  name := "Launch"
  status := .strategySet
  budgetTotal := 100
  currency := "EUR"
  startDate := 0
  endDate := 9

/-- One entry is no object, one channel is tested twice and one has no touchpoint. -/
def repeatedTests : StrategyProposal where
  id := 6
  campaignId := 5
  version := 1
  isAccepted := true
  payload := [("ab_tests", .arr [.str "email", .obj [("channel", .str "email"), ("variants", .int 2)],
    .obj [("channel", .str "email"), ("variants", .int 3)], .obj [("channel", .str "x"), ("variants", .int 9)]])]

/-- An email, a post and a billboard, which has no plan. -/
def threeTouchpoints : Db where
  campaigns := [launch]
  proposals := [repeatedTests]
  touchpoints := [⟨7, 6, "linkedin", 0, 4⟩, ⟨8, 6, "email", 0, 2⟩, ⟨9, 6, "billboard", 1, 4⟩]
  nextId := 10

theorem seedAssetsForCampaign_exact_repeated :
    ∃ db' ids, seedAssetsForCampaign threeTouchpoints launch 1 = .ok (db', ids) ∧ ids.length = 4 ∧
      ∃ rows tasks tests, db'.assets = threeTouchpoints.assets ++ rows ∧ db'.tasks = threeTouchpoints.tasks ++ tasks ∧
        db'.abTests = threeTouchpoints.abTests ++ tests ∧ rows.map ContentAsset.id = ids ∧
        SeedsExactly threeTouchpoints launch repeatedTests 1 rows tasks tests := by
  have returns : ((seedAssetsForCampaign threeTouchpoints launch 1).toOption.map fun made => made.2.length) = some 4 := by
    decide +kernel
  cases done : seedAssetsForCampaign threeTouchpoints launch 1 with
  | error raised => simp [done, Except.toOption] at returns
  | ok made =>
    rw [done] at returns
    exact ⟨made.1, made.2, rfl, Option.some.inj returns, seedAssetsForCampaign_exact
      ⟨by decide, by decide, by decide, by decide⟩ (by decide) (by decide) done⟩

end ExactRuns

end MarketingAgents

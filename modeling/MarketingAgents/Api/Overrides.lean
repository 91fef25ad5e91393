import MarketingAgents.Agents.Strategist
import MarketingAgents.Lib.Run

namespace MarketingAgents

open Lib PyText PyDecimal

/-- `list(value)`, `none` where it raises. -/
def pyList? : Json → Option (List Json)
  | .arr items => some items
  | .obj fields => some (fields.map fun field => .str field.1)
  | .str s => some (s.toList.map fun c => .str (String.ofList [c]))
  | _ => none

section Overrides

variable [PyText] [PyDecimal]

/-- A row of the body of `patch_strategy_overrides`; the share is the `repr` of
a float within 0..100. -/
structure ChannelOverridePatch where
  platform : String
  allocationPct : Option String := none
  allocationAmount : Option String := none
  humanOverride : Bool := true
  named : platform ≠ ""
  numeric : ∀ repr ∈ allocationPct, (ofText (str (.float repr))).isSome = true

omit [PyDecimal] in
/-- `channels_by_platform`: the last channel of a platform. -/
def channelIndex (channels : List Json) (platform : String) : Option Nat :=
  ((channels.zipIdx.filter fun entry => entry.1.dict?.map platformOf = some platform).getLast?).map Prod.snd

/-- What an override writes into its channel. -/
def ChannelOverridePatch.revise (o : ChannelOverridePatch) (ch : Dict String Json) : Dict String Json :=
  let ch := match o.allocationPct with
    | some repr => ch.set "allocation_pct" (.float repr)
    | none => ch
  let ch := match o.allocationAmount with
    | some amount => ch.set "allocation_amount" (.str amount)
    | none => ch
  ch.set "human_override" (.bool o.humanOverride)

/-- One pass of the loop over the overrides. -/
def stamp (index : String → Option Nat) (channels : List Json) (o : ChannelOverridePatch) : Except AppError (List Json) := do
  let i ← orRaise (index (lower o.platform)) (.http 422 ("platform '" ++ o.platform ++ "' is not in this proposal"))
  let ch := ((channels[i]?).bind Json.dict?).getD []
  require (∀ amount ∈ o.allocationAmount, (ofText amount).isSome = true)
    (.http 422 ("allocation_amount '" ++ o.allocationAmount.getD "" ++ "' is not numeric"))
  pure (channels.set i (.obj (o.revise ch)))

/-- `patch_strategy_overrides`. -/
def patchStrategyOverrides (db : Db) (user : AppUser) (proposalId : Uuid) (body : List ChannelOverridePatch) :
    Except AppError Db := do
  require (UserRole.marketer.rank ≤ user.role.rank) (.http 403 "requires role >= marketer")
  let p ← orRaise (db.proposals.find? (·.id = proposalId)) (.http 404 "proposal not found")
  -- the session sees the rows of the user's tenant only
  let _ ← orRaise (db.tenantCampaign? user p.campaignId) (.http 404 "proposal not found")
  require (p.isAccepted = false) (.http 409 "accepted proposals are immutable; re-propose to amend")
  let channels ← orRaise (pyList? ((p.payload.get? "channels").getD (.arr []))) (.http 500 "Internal Server Error")
  let stamped ← body.foldlM (stamp (channelIndex channels)) channels
  pure { db with
    proposals := updateWhere (·.id = p.id) (fun row => { row with payload := p.payload.set "channels" (.arr stamped) })
      db.proposals }

/-- Some channel of the list sets the platform by hand. -/
def HandSet (channels : List Json) (platform : String) : Prop :=
  ∃ ch ∈ channels.filterMap Json.dict?, platformOf ch = platform ∧ (overrideOf ch).isSome = true

/-- The index points at channels of the platforms that it is asked for. -/
def Indexed (index : String → Option Nat) (channels : List Json) : Prop :=
  ∀ platform i, index platform = some i → ∃ ch, (channels[i]?).bind Json.dict? = some ch ∧ platformOf ch = platform

omit [PyDecimal] in
theorem channelIndex_indexed (channels : List Json) : Indexed (channelIndex channels) channels := by
  intro platform i found
  obtain ⟨entry, last, rfl⟩ := Option.map_eq_some_iff.mp found
  have listed := List.mem_filter.mp (List.mem_of_mem_getLast? last)
  have here : channels[entry.2]? = some entry.1 := List.mem_zipIdx_iff_getElem?.mp listed.1
  obtain ⟨ch, dict, same⟩ := Option.map_eq_some_iff.mp (of_decide_eq_true listed.2)
  exact ⟨ch, by rw [here]; exact dict, same⟩

theorem revise_platformOf (o : ChannelOverridePatch) (ch : Dict String Json) : platformOf (o.revise ch) = platformOf ch := by
  unfold platformOf ChannelOverridePatch.revise
  dsimp only
  rw [Dict.get?_set_ne _ _ (by decide)]
  cases o.allocationPct with
  | none =>
    cases o.allocationAmount with
    | none => rfl
    | some amount => rw [Dict.get?_set_ne _ _ (by decide)]
  | some repr =>
    cases o.allocationAmount with
    | none => rw [Dict.get?_set_ne _ _ (by decide)]
    | some amount => rw [Dict.get?_set_ne _ _ (by decide), Dict.get?_set_ne _ _ (by decide)]

/-- The dictionary has a number under the key. -/
def HasNumber (ch : Dict String Json) (key : String) : Prop :=
  ∃ value, ch.get? key = some value ∧ (ofText (str value)).isSome = true

theorem overrideOf_isSome_iff {ch : Dict String Json} : (overrideOf ch).isSome = true ↔
    flagged ch = true ∧ (ch.get? "platform").isSome = true ∧ HasNumber ch "allocation_pct" ∧
      HasNumber ch "allocation_amount" := by
  constructor
  · intro reads
    obtain ⟨ov, reads⟩ := Option.isSome_iff_exists.mp reads
    unfold overrideOf at reads
    split at reads
    · rename_i flag
      split at reads
      · rename_i platform pct amount hasPlatform hasPct hasAmount
        split at reads
        · rename_i _ _ readsPct readsAmount
          refine ⟨flag, by rw [hasPlatform]; rfl, ⟨pct, hasPct, ?_⟩, ⟨amount, hasAmount, ?_⟩⟩
          · rw [readsPct]
            rfl
          · rw [readsAmount]
            rfl
        · cases reads
      · cases reads
    · cases reads
  · rintro ⟨flag, hasPlatform, ⟨pct, hasPct, readsPct⟩, ⟨amount, hasAmount, readsAmount⟩⟩
    obtain ⟨platform, hasPlatform⟩ := Option.isSome_iff_exists.mp hasPlatform
    obtain ⟨_, readsPct⟩ := Option.isSome_iff_exists.mp readsPct
    obtain ⟨_, readsAmount⟩ := Option.isSome_iff_exists.mp readsAmount
    simp [overrideOf, flag, hasPlatform, hasPct, hasAmount, readsPct, readsAmount]

/-- An override with the flag on leaves a channel that is carried over as one. -/
theorem revise_overrideOf {o : ChannelOverridePatch} {ch : Dict String Json} (reads : (overrideOf ch).isSome = true)
    (on : o.humanOverride = true) (amounts : ∀ amount ∈ o.allocationAmount, (ofText amount).isSome = true) :
    (overrideOf (o.revise ch)).isSome = true := by
  obtain ⟨_, hasPlatform, hasPct, hasAmount⟩ := overrideOf_isSome_iff.mp reads
  refine overrideOf_isSome_iff.mpr ⟨?_, ?_, ?_, ?_⟩
  · simp [flagged, ChannelOverridePatch.revise, on, Json.truthy]
  · unfold ChannelOverridePatch.revise
    cases o.allocationPct <;> cases o.allocationAmount <;> simpa [Dict.get?_set] using hasPlatform
  · unfold HasNumber ChannelOverridePatch.revise
    have numeric := o.numeric
    cases share : o.allocationPct with
    | none =>
      cases o.allocationAmount <;> simpa [Dict.get?_set, HasNumber] using hasPct
    | some repr =>
      have number := numeric repr share
      cases o.allocationAmount <;> simpa [Dict.get?_set] using number
  · unfold HasNumber ChannelOverridePatch.revise
    cases total : o.allocationAmount with
    | none =>
      cases o.allocationPct <;> simpa [Dict.get?_set, HasNumber] using hasAmount
    | some amount =>
      have number := amounts amount total
      cases o.allocationPct <;> simpa [Dict.get?_set, str_str] using number

/-- One override keeps the index, and keeps a platform set by hand unless it switches it off. -/
theorem stamp_keeps {index : String → Option Nat} {channels channels' : List Json} {o : ChannelOverridePatch}
    (indexed : Indexed index channels) (done : stamp index channels o = .ok channels') :
    Indexed index channels' ∧ ∀ platform, (lower o.platform = platform → o.humanOverride = true) →
      HandSet channels platform → HandSet channels' platform := by
  simp only [stamp, bind_eq_ok, orRaise_eq_ok, require_eq_ok, pure_eq_ok] at done
  obtain ⟨i, found, _, amounts, rfl⟩ := done
  obtain ⟨ch, here, named⟩ := indexed (lower o.platform) i found
  rw [here, Option.getD_some]
  obtain ⟨item, at_, dict⟩ := Option.bind_eq_some_iff.mp here
  have bound : i < channels.length := (List.getElem?_eq_some_iff.mp at_).1
  have new : ((channels.set i (.obj (o.revise ch)))[i]?).bind Json.dict? = some (o.revise ch) := by
    rw [List.getElem?_set_self bound]
    rfl
  refine ⟨fun platform j other => ?_, fun platform on hand => ?_⟩
  · by_cases same : j = i
    · subst same
      obtain ⟨ch', here', named'⟩ := indexed platform j other
      cases Option.some.inj (here.symm.trans here')
      exact ⟨o.revise ch, new, (revise_platformOf o ch).trans named'⟩
    · rw [List.getElem?_set_ne fun equal => same equal.symm]
      exact indexed platform j other
  · obtain ⟨old, listed, ours, reads⟩ := hand
    obtain ⟨entry, member, entryDict⟩ := List.mem_filterMap.mp listed
    obtain ⟨j, place⟩ := List.mem_iff_getElem?.mp member
    by_cases same : j = i
    · subst same
      cases Option.some.inj (place.symm.trans at_)
      cases Option.some.inj (entryDict.symm.trans dict)
      have revised : o.revise ch ∈ (channels.set j (.obj (o.revise ch))).filterMap Json.dict? :=
        List.mem_filterMap.mpr ⟨.obj (o.revise ch), List.mem_set bound _, rfl⟩
      exact ⟨o.revise ch, revised, (revise_platformOf o ch).trans ours,
        revise_overrideOf reads (on (named.symm.trans ours)) amounts⟩
    · have kept : (channels.set i (.obj (o.revise ch)))[j]? = some entry := by
        rw [List.getElem?_set_ne fun equal => same equal.symm]
        exact place
      exact ⟨old, List.mem_filterMap.mpr ⟨entry, List.mem_iff_getElem?.mpr ⟨j, kept⟩, entryDict⟩, ours, reads⟩

/-- The loop over the overrides keeps a platform set by hand unless one of them switches it off. -/
theorem stamps_keep {index : String → Option Nat} {body : List ChannelOverridePatch} {channels channels' : List Json}
    {platform : String} (indexed : Indexed index channels)
    (on : ∀ o ∈ body, lower o.platform = platform → o.humanOverride = true)
    (done : body.foldlM (stamp index) channels = .ok channels') (hand : HandSet channels platform) :
    HandSet channels' platform := by
  have kept := foldlM_invariant (I := fun channels => Indexed index channels ∧ HandSet channels platform) done
    ⟨indexed, hand⟩ fun o member before after holds stamped => by
      obtain ⟨next, keeps⟩ := stamp_keeps holds.1 stamped
      exact ⟨next, keeps platform (on o member) holds.2⟩
  exact kept.2

theorem setsByHand_iff {payload : Dict String Json} {platform : String} : (∃ ov, SetsByHand payload platform ov) ↔
    ∃ items, payload.get? "channels" = some (.arr items) ∧ HandSet items platform := by
  constructor
  · rintro ⟨ov, entries, channels, ch, member, ours, reads⟩
    unfold channelEntries at channels
    split at channels
    · cases Except.ok.inj channels
      cases member
    · rename_i items here
      cases Except.ok.inj channels
      exact ⟨items, here, ch, member, ours, by rw [reads]; rfl⟩
    · cases Except.ok.inj channels
      cases member
    · cases Except.ok.inj channels
      cases member
    · cases channels
  · rintro ⟨items, here, ch, member, ours, reads⟩
    obtain ⟨ov, reads⟩ := Option.isSome_iff_exists.mp reads
    refine ⟨ov, items.filterMap Json.dict?, ?_, ch, member, ours, reads⟩
    rw [channelEntries, here]

/-- The latest version of the campaign, ahead of every other. -/
structure IsLatest (db : Db) (campaignId : Uuid) (p : StrategyProposal) : Prop where
  member : p ∈ db.proposals
  campaign : p.campaignId = campaignId
  newest : ∀ q ∈ db.proposals, q.campaignId = campaignId → q.id ≠ p.id → q.version < p.version

omit [PyText] [PyDecimal] in
theorem IsLatest.latestProposal {db : Db} {campaignId : Uuid} {p : StrategyProposal} (latest : IsLatest db campaignId p)
    (keys : (db.proposals.map StrategyProposal.id).Nodup) : latestProposal db campaignId = some p := by
  refine orderBy_first (List.mem_filter.mpr ⟨latest.member, decide_eq_true latest.campaign⟩) fun q listed ahead => ?_
  obtain ⟨here, ours⟩ := List.mem_filter.mp listed
  by_contra other
  have behind := latest.newest q here (of_decide_eq_true ours) fun same => other (eq_of_key_eq keys here latest.member same)
  exact Nat.not_lt.mpr ahead behind

/-- The latest version sets the platform by hand. -/
structure HandSetLatest (db : Db) (campaignId : Uuid) (platform : String) : Prop where
  keys : (db.proposals.map StrategyProposal.id).Nodup
  below : ∀ p ∈ db.proposals, p.id < db.nextId
  latest : ∃ p, IsLatest db campaignId p ∧ ∃ ov, SetsByHand p.payload platform ov

section Steps

variable {db db' : Db} {campaignId : Uuid} {platform : String}

omit [PyText] [PyDecimal] in
theorem version_lt_nextVersion {p : StrategyProposal} (member : p ∈ db.proposals) (ours : p.campaignId = campaignId) :
    p.version < nextVersion db campaignId := by
  have listed : p.version ∈ (db.proposals.filter (·.campaignId = campaignId)).map StrategyProposal.version :=
    List.mem_map_of_mem (List.mem_filter.mpr ⟨member, decide_eq_true ours⟩)
  unfold nextVersion
  generalize (db.proposals.filter (·.campaignId = campaignId)).map StrategyProposal.version = versions at listed
  have bound : p.version ≤ versions.foldr max 0 := by
    induction versions with
    | nil => cases listed
    | cons version versions ih =>
      rw [List.foldr_cons]
      rcases List.mem_cons.mp listed with rfl | later
      · exact le_max_left _ _
      · exact (ih later).trans (le_max_right _ _)
  omega

omit [PyText] [PyDecimal] in
/-- What is inserted is the latest version from then on. -/
theorem insertVersion_isLatest (db : Db) (campaignId : Uuid) (payload : Dict String Json) :
    IsLatest (db.insertVersion campaignId payload) campaignId
      ⟨db.nextId, campaignId, nextVersion db campaignId, payload, false⟩ := by
  refine ⟨List.mem_append_right _ (List.mem_singleton_self _), rfl, fun q member ours differs => ?_⟩
  rcases List.mem_append.mp member with old | new
  · exact version_lt_nextVersion old ours
  · exact absurd (congrArg StrategyProposal.id (List.mem_singleton.mp new)) differs

omit [PyText] [PyDecimal] in
theorem insertVersion_keys (campaignId : Uuid) (keys : (db.proposals.map StrategyProposal.id).Nodup)
    (below : ∀ p ∈ db.proposals, p.id < db.nextId) (payload : Dict String Json) :
    ((db.insertVersion campaignId payload).proposals.map StrategyProposal.id).Nodup ∧
      ∀ p ∈ (db.insertVersion campaignId payload).proposals, p.id < (db.insertVersion campaignId payload).nextId := by
  refine ⟨?_, fun p member => ?_⟩
  · refine nodup_keys_append keys (List.nodup_singleton _) fun p old added new => ?_
    rw [List.mem_singleton.mp new]
    exact (below p old).ne
  · rcases List.mem_append.mp member with old | new
    · exact (below p old).trans (Nat.lt_succ_self _)
    · rw [List.mem_singleton.mp new]
      exact Nat.lt_succ_self _

omit [PyText] [PyDecimal] in
/-- A new payload of one proposal leaves the latest version the latest. -/
theorem IsLatest.rewrite {p : StrategyProposal} (latest : IsLatest db campaignId p) (id : Uuid) (payload : Dict String Json)
    (rows : db'.proposals = updateWhere (·.id = id) (fun row => { row with payload := payload }) db.proposals) :
    IsLatest db' campaignId (if p.id = id then { p with payload := payload } else p) := by
  have sameId : (if p.id = id then { p with payload := payload } else p).id = p.id := by split <;> rfl
  have sameVersion : (if p.id = id then { p with payload := payload } else p).version = p.version := by split <;> rfl
  refine ⟨?_, ?_, fun row member ours differs => ?_⟩
  · rw [rows]
    by_cases same : p.id = id
    · rw [if_pos same]
      exact mem_updateWhere.mpr (Or.inl ⟨p, latest.member, decide_eq_true same, rfl⟩)
    · rw [if_neg same]
      exact mem_updateWhere.mpr (Or.inr ⟨latest.member, decide_eq_false same⟩)
  · split <;> exact latest.campaign
  · rw [sameId] at differs
    rw [sameVersion]
    rcases mem_updateWhere.mp (rows ▸ member) with ⟨old, here, _, rfl⟩ | ⟨here, _⟩
    · exact latest.newest old here ours differs
    · exact latest.newest row here ours differs

/-- A patch leaves the latest version the latest, and the platform set by hand
unless it switches it off there. -/
theorem patchStrategyOverrides_keeps (holds : HandSetLatest db campaignId platform) {user : AppUser} {proposalId : Uuid}
    {body : List ChannelOverridePatch} (on : ∀ p ∈ latestProposal db campaignId, proposalId = p.id →
      ∀ o ∈ body, lower o.platform = platform → o.humanOverride = true)
    (done : patchStrategyOverrides db user proposalId body = .ok db') : HandSetLatest db' campaignId platform := by
  simp only [patchStrategyOverrides, bind_eq_ok, orRaise_eq_ok, pure_eq_ok] at done
  obtain ⟨_, _, q, found, _, _, _, _, channels, listed, stamped, loop, value⟩ := done
  obtain ⟨p, latest, hand⟩ := holds.latest
  have sameId : q.id = proposalId := by simpa using List.find?_some found
  have rows : db'.proposals = updateWhere (·.id = q.id)
      (fun row => { row with payload := q.payload.set "channels" (.arr stamped) }) db.proposals := by rw [← value]
  have nextId : db'.nextId = db.nextId := by rw [← value]
  refine ⟨?_, fun row member => ?_, _, latest.rewrite q.id _ rows, ?_⟩
  · have ids : db'.proposals.map StrategyProposal.id = db.proposals.map StrategyProposal.id := by
      rw [rows]
      exact updateWhere_keys StrategyProposal.id db.proposals fun _ _ => rfl
    rw [ids]
    exact holds.keys
  · rw [nextId]
    rcases mem_updateWhere.mp (rows ▸ member) with ⟨old, here, _, rfl⟩ | ⟨here, _⟩
    · exact holds.below old here
    · exact holds.below row here
  · by_cases same : p.id = q.id
    · rw [if_pos same]
      have equal : p = q := eq_of_key_eq holds.keys latest.member (List.mem_of_find?_eq_some found) same
      subst equal
      obtain ⟨items, here, set⟩ := setsByHand_iff.mp hand
      rw [here, Option.getD_some, pyList?, Option.some.injEq] at listed
      subst listed
      have kept := on p (latest.latestProposal holds.keys) sameId.symm
      exact setsByHand_iff.mpr ⟨stamped, Dict.get?_set_self _ _ _, stamps_keep (channelIndex_indexed items) kept loop set⟩
    · rw [if_neg same]
      exact hand

end Steps

/-- The strategist's runs for a campaign and the edits of its proposals. -/
inductive ProposalOp where
  | propose (briefing : Briefing) (replies : Nat → Except PlannerError (Dict String Json))
  | patch (user : AppUser) (proposalId : Uuid) (body : List ChannelOverridePatch)

namespace ProposalOp

variable (campaignId : Uuid) (platform : String)

/-- A run or a request that raises is rolled back. -/
def step (db : Db) : ProposalOp → Db
  | .propose briefing replies => ((MarketingAgents.propose db campaignId briefing replies).toOption.map Prod.fst).getD db
  | .patch user proposalId body => (patchStrategyOverrides db user proposalId body).toOption.getD db

/-- A run stores a plan with no warning that bears on the platform's override,
and with numbers where the validator does not read them, and no edit of the
latest version switches the override off. -/
def Keeps (db : Db) : ProposalOp → Prop
  | .propose briefing replies =>
    ∀ stored ∈ (MarketingAgents.propose db campaignId briefing replies).toOption,
      (∀ w ∈ stored.2.validationWarnings, ¬ w.BearsOn platform) ∧
        (briefing.Permits platform ∨ numbersRead stored.2.payload platform = true)
  | .patch _ proposalId body => ∀ p ∈ latestProposal db campaignId, proposalId = p.id →
      ∀ o ∈ body, lower o.platform = platform → o.humanOverride = true

instance (db : Db) : ∀ op, Decidable (Keeps campaignId platform db op)
  | .propose briefing replies => inferInstanceAs (Decidable
      (∀ stored ∈ (MarketingAgents.propose db campaignId briefing replies).toOption,
        (∀ w ∈ stored.2.validationWarnings, ¬ w.BearsOn platform) ∧
          (briefing.Permits platform ∨ numbersRead stored.2.payload platform = true)))
  | .patch _ proposalId body => inferInstanceAs (Decidable (∀ p ∈ latestProposal db campaignId, proposalId = p.id →
      ∀ o ∈ body, lower o.platform = platform → o.humanOverride = true))

/-- The latest version sets the platform by hand; one that a run has stored
does so at most one point from where the version before had it. -/
def Survives (db : Db) (op : ProposalOp) : Prop :=
  ∃ p', latestProposal (op.step campaignId db) campaignId = some p' ∧ (∃ ov', SetsByHand p'.payload platform ov') ∧
    ∀ briefing replies, op = .propose briefing replies → ∀ p ∈ latestProposal db campaignId, p.id ≠ p'.id →
      ∀ ov, SetsByHand p.payload platform ov →
        ∃ ov', SetsByHand p'.payload platform ov' ∧ apart ov'.allocationPct ov.allocationPct 1 = .ok false

variable {campaignId platform}

/-- One operation of the permitted kinds keeps the channel set by hand in the latest
version, with an allocation within one point of the one before. -/
theorem step_keeps {db : Db} (holds : HandSetLatest db campaignId platform) {op : ProposalOp}
    (keeps : Keeps campaignId platform db op) :
    HandSetLatest (op.step campaignId db) campaignId platform ∧ Survives campaignId platform db op := by
  obtain ⟨p, latest, ov, sets⟩ := holds.latest
  have before := latest.latestProposal holds.keys
  cases op with
  | propose briefing replies =>
    cases outcome : MarketingAgents.propose db campaignId briefing replies with
    | error error =>
      have still : (ProposalOp.propose briefing replies).step campaignId db = db := by
        simp [step, outcome, Except.toOption]
      refine ⟨still.symm ▸ holds, p, still.symm ▸ before, ⟨ov, sets⟩, fun _ _ _ q listed differs => ?_⟩
      rw [before] at listed
      exact absurd (congrArg StrategyProposal.id (Option.some.inj listed).symm) differs
    | ok stored =>
      obtain ⟨db', result⟩ := stored
      have reached : (ProposalOp.propose briefing replies).step campaignId db = db' := by
        simp [step, outcome, Except.toOption]
      obtain ⟨value, carries⟩ := propose_carries outcome
      obtain ⟨silent, read⟩ := keeps (db', result) (by rw [outcome]; rfl)
      have kept := carries platform silent read p before
      obtain ⟨keys, below⟩ := insertVersion_keys campaignId holds.keys holds.below result.payload
      have newest := insertVersion_isLatest db campaignId result.payload
      rw [← value] at keys below newest
      obtain ⟨ov', sets', _⟩ := kept ov sets
      have after : HandSetLatest db' campaignId platform := ⟨keys, below, _, newest, ov', sets'⟩
      refine ⟨reached.symm ▸ after, ⟨db.nextId, campaignId, nextVersion db campaignId, result.payload, false⟩, ?_,
        ⟨ov', sets'⟩, fun _ _ _ q listed _ old held => ?_⟩
      · rw [reached]
        exact newest.latestProposal keys
      · rw [before] at listed
        cases Option.some.inj listed
        exact kept old held
  | patch user proposalId body =>
    have after : HandSetLatest ((ProposalOp.patch user proposalId body).step campaignId db) campaignId platform := by
      cases outcome : patchStrategyOverrides db user proposalId body with
      | error error =>
        simp only [step, outcome, Except.toOption, Option.getD_none]
        exact holds
      | ok db' =>
        simp only [step, outcome, Except.toOption, Option.getD_some]
        exact patchStrategyOverrides_keeps holds keeps outcome
    obtain ⟨p', latest', hand'⟩ := after.latest
    exact ⟨after, p', latest'.latestProposal after.keys, hand', fun briefing replies none => by cases none⟩

/-- Once the latest version of a campaign sets a platform by hand, every later
one does, each within a point of the one before, as long as no stored plan has
a warning that bears on the override and no edit switches the override off.
What else the validator warns of does not matter. -/
theorem overrides_survive {db : Db} (holds : HandSetLatest db campaignId platform) (ops : List ProposalOp)
    (keeps : Along (step campaignId) (Keeps campaignId platform) db ops) :
    Along (step campaignId) (Survives campaignId platform) db ops :=
  keeps.imp holds (fun _ _ holds keeps => (step_keeps holds keeps).1) fun _ _ holds keeps => (step_keeps holds keeps).2

end ProposalOp

end Overrides

namespace ProposalOp

local instance overridesText : PyText := PyText.plain

local instance overridesDecimal : PyDecimal := PyDecimal.plain

private def editor : AppUser := ⟨9, 1, .marketer⟩

private def channel (platform pct : String) (byHand : Bool) : Json :=
  .obj [("platform", .str platform), ("allocation_pct", .str pct), ("allocation_amount", .str pct),
    ("rationale", .str "reach"), ("human_override", .bool byHand)]

private def planOf (channels : List Json) : Dict String Json :=
  [("channels", .arr channels), ("kpis", .obj [("primary",
    .obj [("metric", .str "ctr"), ("target", .int 1), ("rationale", .str "reach")])])]

/-- A campaign with one version of its strategy, which a person is about to edit. -/
private def drafted : Db where
  campaigns := [⟨0, 1, "spring", .audienceBuilt, 100, "EUR", 0, 27, [], none⟩]
  audiences := [⟨8, 1, 0, 0⟩]
  proposals := [⟨50, 0, 1, planOf [channel "email" "60" false, channel "linkedin" "40" false], false⟩]
  nextId := 60

private def brief : Briefing := ⟨"grow", ["email", "linkedin"], []⟩

private def keepEmail : ProposalOp :=
  .patch editor 50 [{ platform := "email", named := by decide, numeric := fun _ none => by cases none }]

private def edited : Db := keepEmail.step 0 drafted

private theorem edited_handSet : HandSetLatest edited 0 "email" where
  keys := by decide +kernel
  below := by decide +kernel
  latest := by
    refine ⟨⟨50, 0, 1, planOf [channel "email" "60" true, channel "linkedin" "40" false], false⟩, ⟨by decide +kernel, rfl,
      by decide +kernel⟩, ⟨"email", (60 : Rat), (60 : Rat)⟩, _, rfl, _, List.mem_cons_self .., by decide +kernel, rfl⟩

/-- A run in which the model answers with the plan whenever it is asked. -/
private def answer (channels : List Json) : ProposalOp := .propose brief fun _ => .ok (planOf channels)

/-- The channels of the latest version with their shares and flags. -/
private def latestMix (db : Db) : Option (Nat × List (String × Option Rat × Bool)) :=
  (latestProposal db 0).map fun p => (p.version, ((channelEntries p.payload).toOption.getD []).map fun ch =>
    (platformOf ch, numberAt ch "allocation_pct", flagged ch))

private def incomplete : Db where
  campaigns := drafted.campaigns
  audiences := drafted.audiences
  proposals := [⟨50, 0, 1, planOf [.obj [("platform", .str "email"), ("allocation_pct", .str "60")]], false⟩]
  nextId := 60

/-- The same, once the tenant has switched its email channel off. -/
private def answerWithoutEmail (channels : List Json) : ProposalOp :=
  .propose ⟨"grow", ["linkedin"], []⟩ fun _ => .ok (planOf channels)

/-- An override is lost to a model that insists on a plan without it, drifts a
point with every valid plan, and is not carried at all from an older version
or from a channel without an amount, nor from one that is not active any more
and whose numbers the validator no longer reads. -/
theorem overrides_lost_or_drifting :
    latestMix edited = some (1, [("email", some 60, true), ("linkedin", some 40, false)]) ∧
      latestMix (run (step 0) edited [answer [channel "linkedin" "100" false]]) =
        some (2, [("linkedin", some 100, false)]) ∧
      latestMix (run (step 0) edited [answer [channel "email" "61" true, channel "linkedin" "39" false],
        answer [channel "email" "62" true, channel "linkedin" "38" false]]) =
        some (3, [("email", some 62, true), ("linkedin", some 38, false)]) ∧
      latestMix (run (step 0) drafted [answer [channel "email" "60" false, channel "linkedin" "40" false], keepEmail,
        answer [channel "linkedin" "100" false]]) = some (3, [("linkedin", some 100, false)]) ∧
      latestMix (run (step 0) incomplete [keepEmail]) = some (1, [("email", some 60, true)]) ∧
      latestMix (run (step 0) incomplete [keepEmail, answer [channel "linkedin" "100" false]]) =
        some (2, [("linkedin", some 100, false)]) ∧
      latestMix (run (step 0) edited [answerWithoutEmail [channel "email" "most" true, channel "linkedin" "100" false],
        answerWithoutEmail [channel "linkedin" "100" false]]) = some (3, [("linkedin", some 100, false)]) :=
  ⟨by decide +kernel, by decide +kernel, by decide +kernel, by decide +kernel, by decide +kernel, by decide +kernel,
    by decide +kernel⟩

/-- LinkedIn has no rationale here, so the plan is stored with a warning that does not touch the override. -/
private def unexplained : List Json :=
  [channel "email" "61" true,
    .obj [("platform", .str "linkedin"), ("allocation_pct", .str "39"), ("allocation_amount", .str "39")]]

theorem overrides_survive_replanned :
    (MarketingAgents.propose edited 0 brief fun _ => .ok (planOf unexplained)).toOption.map
        (fun stored => stored.2.validationWarnings.map Violation.kind) = some ["missing_rationale"] ∧
      Along (step 0) (Survives 0 "email") edited
        [answer unexplained, answer [channel "email" "60" true, channel "linkedin" "40" false]] :=
  ⟨by decide +kernel, overrides_survive edited_handSet _ (by decide +kernel)⟩

end ProposalOp

end MarketingAgents

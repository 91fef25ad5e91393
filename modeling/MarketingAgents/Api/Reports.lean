import MarketingAgents.Db.Models
import MarketingAgents.Lib.Rows
import MarketingAgents.Lib.Transactions

namespace MarketingAgents

open Lib

/-- A row of `campaign_report`. -/
structure CampaignReport where
  id : Uuid
  tenantId : Uuid
  campaignId : Uuid
  version : Nat
  generatedAt : Int
  generatedBy : String
  data : Dict String Json
  isLatest : Bool
deriving DecidableEq

structure ReportTable where
  campaigns : List Campaign := []
  reports : List CampaignReport := []
  nextId : Uuid := 0

/-- A call of `generate_report`, with the data that its section builders return. -/
structure GenerateReport where
  tenantId : Uuid
  campaignId : Uuid
  now : Int
  generatedBy : String
  data : Dict String Json

/-- Where `generate_report` stands: before its first read, behind one that
found no latest row, or with the version of the row that it will insert. -/
inductive Generating where
  | started (request : GenerateReport)
  | missed (request : GenerateReport)
  | ready (request : GenerateReport) (priorLatest : Option Uuid) (nextVersion : Nat)
  | raised

namespace ReportTable

def of (t : ReportTable) (tenantId campaignId : Uuid) : List CampaignReport :=
  t.reports.filter fun r => r.tenantId = tenantId ∧ r.campaignId = campaignId

/-- `_load_latest`, whose `scalar_one_or_none` raises on two rows. -/
def latest (t : ReportTable) (tenantId campaignId : Uuid) : List CampaignReport :=
  (t.of tenantId campaignId).filter (·.isLatest)

/-- The reads of `generate_report`. -/
def read (t : ReportTable) : Generating → Generating
  | .started request =>
    if t.campaigns.any fun c => c.id = request.campaignId ∧ c.tenantId = request.tenantId then
      match t.latest request.tenantId request.campaignId with
      | [] => .missed request
      | [prior] => .ready request (some prior.id) (prior.version + 1)
      | _ => .raised
    else .raised
  | .missed request =>
    .ready request none (((t.of request.tenantId request.campaignId).map CampaignReport.version).max?.getD 0 + 1)
  | state => state

/-- The two unique indexes of the table. -/
def admits (reports : List CampaignReport) (row : CampaignReport) : Bool :=
  reports.all fun r => ¬ (r.tenantId = row.tenantId ∧ r.campaignId = row.campaignId ∧ (r.version = row.version ∨ r.isLatest))

def demote (reports : List CampaignReport) : Option Uuid → List CampaignReport
  | some id => updateWhere (·.id = id) (fun r => { r with isLatest := false }) reports
  | none => reports

/-- The writes of `generate_report` and their commit. -/
def commit (t : ReportTable) : Generating → Option ReportTable
  | .ready request priorLatest nextVersion =>
    let demoted := demote t.reports priorLatest
    let row : CampaignReport :=
      { id := t.nextId
        tenantId := request.tenantId
        campaignId := request.campaignId
        version := nextVersion
        generatedAt := request.now
        generatedBy := request.generatedBy
        data := request.data
        isLatest := true }
    if admits demoted row then some { t with reports := demoted ++ [row], nextId := t.nextId + 1 } else none
  | _ => none

end ReportTable

/-- Any number of requests, and the report of `complete_campaign`, at work at once. -/
def generateReport : Protocol ReportTable GenerateReport Generating where
  start := .started
  read := ReportTable.read
  commit := ReportTable.commit

namespace ReportTable

/-- The versions of a campaign and which of them is the latest, after `n` reports. -/
def versions (n : Nat) : List (Nat × Bool) := (List.range n).map fun i => (i + 1, decide (i + 1 = n))

def mark (r : CampaignReport) : Nat × Bool := (r.version, r.isLatest)

structure Versioned (t : ReportTable) : Prop where
  ids : (t.reports.map CampaignReport.id).Nodup
  below : ∀ r ∈ t.reports, r.id < t.nextId
  numbered : ∀ tenantId campaignId, (t.of tenantId campaignId).map mark = versions (t.of tenantId campaignId).length

/-- What a transaction has read still stands in the table, where rows only get older. -/
def Grounded (t : ReportTable) : Generating → Prop
  | .ready request (some id) nextVersion =>
    ∃ r ∈ t.of request.tenantId request.campaignId, r.id = id ∧ nextVersion = r.version + 1
  | .ready request none nextVersion => nextVersion ≤ (t.of request.tenantId request.campaignId).length + 1 ∧ 1 ≤ nextVersion
  | _ => True

section Versions

variable {t t' : ReportTable} {tenantId campaignId : Uuid}

theorem Versioned.mem (versioned : t.Versioned) {r : CampaignReport} (member : r ∈ t.of tenantId campaignId) :
    1 ≤ r.version ∧ r.version ≤ (t.of tenantId campaignId).length ∧
      r.isLatest = decide (r.version = (t.of tenantId campaignId).length) := by
  have listed : mark r ∈ versions (t.of tenantId campaignId).length :=
    versioned.numbered tenantId campaignId ▸ List.mem_map_of_mem member
  obtain ⟨i, inside, same⟩ := List.mem_map.mp listed
  obtain ⟨version, isLatest⟩ := Prod.mk.inj same
  have bound := List.mem_range.mp inside
  rw [← isLatest, ← version]
  exact ⟨by omega, by omega, rfl⟩

theorem Versioned.exists_version (versioned : t.Versioned) {version : Nat} (low : 1 ≤ version)
    (high : version ≤ (t.of tenantId campaignId).length) : ∃ r ∈ t.of tenantId campaignId, r.version = version := by
  have listed : (version, decide (version = (t.of tenantId campaignId).length)) ∈ versions (t.of tenantId campaignId).length :=
    List.mem_map.mpr ⟨version - 1, List.mem_range.mpr (by omega), by rw [Nat.sub_add_cancel low]⟩
  rw [← versioned.numbered] at listed
  obtain ⟨r, member, same⟩ := List.mem_map.mp listed
  exact ⟨r, member, (Prod.mk.inj same).1⟩

/-- The demotion rewrites one row in place. -/
theorem mem_demote {reports : List CampaignReport} (prior : Option Uuid) {r : CampaignReport} (member : r ∈ reports) :
    ∃ r' ∈ demote reports prior, r'.id = r.id ∧ r'.version = r.version ∧ r'.tenantId = r.tenantId ∧
      r'.campaignId = r.campaignId := by
  cases prior with
  | none => exact ⟨r, member, rfl, rfl, rfl, rfl⟩
  | some id =>
    by_cases hit : r.id = id
    · exact ⟨_, mem_updateWhere.mpr (Or.inl ⟨r, member, decide_eq_true hit, rfl⟩), rfl, rfl, rfl, rfl⟩
    · exact ⟨r, mem_updateWhere.mpr (Or.inr ⟨member, decide_eq_false hit⟩), rfl, rfl, rfl, rfl⟩

theorem map_demote {κ : Type*} (f : CampaignReport → κ) (blind : ∀ r, f { r with isLatest := false } = f r)
    (reports : List CampaignReport) (prior : Option Uuid) : (demote reports prior).map f = reports.map f := by
  cases prior with
  | none => rfl
  | some id => exact updateWhere_keys f reports fun r _ => blind r

theorem filter_demote {q : CampaignReport → Bool} (blind : ∀ r, q { r with isLatest := false } = q r)
    (reports : List CampaignReport) (prior : Option Uuid) :
      (demote reports prior).filter q = demote (reports.filter q) prior := by
  cases prior with
  | none => rfl
  | some id =>
    unfold demote updateWhere
    rw [List.filter_map]
    congr 1
    refine List.filter_congr fun r _ => ?_
    simp only [Function.comp_apply]
    split
    · exact blind r
    · rfl

theorem demote_eq_self {reports : List CampaignReport} {prior : Option Uuid} (absent : ∀ id ∈ prior, ∀ r ∈ reports, r.id ≠ id) :
    demote reports prior = reports := by
  cases prior with
  | none => rfl
  | some id => exact updateWhere_eq_self fun r member hit => absurd (of_decide_eq_true hit) (absent id rfl r member)

/-- What a commit has written. -/
structure Inserted (t : ReportTable) (request : GenerateReport) (prior : Option Uuid) (version : Nat)
    (t' : ReportTable) : Prop where
  admitted : ∀ r ∈ demote (t.of request.tenantId request.campaignId) prior, r.version ≠ version ∧ r.isLatest = false
  table : ∃ row : CampaignReport, t' = { t with reports := demote t.reports prior ++ [row], nextId := t.nextId + 1 } ∧
    row.id = t.nextId ∧ row.version = version ∧ row.isLatest = true ∧ row.tenantId = request.tenantId ∧
      row.campaignId = request.campaignId ∧ row.data = request.data

theorem commit_inserts {state : Generating} (done : t.commit state = some t') :
    ∃ request prior version, state = .ready request prior version ∧ Inserted t request prior version t' := by
  unfold commit at done
  split at done
  · rename_i request prior version
    dsimp only at done
    split at done
    · rename_i admitted
      refine ⟨request, prior, version, rfl, fun r member => ?_, _, (Option.some.inj done).symm, rfl, rfl, rfl, rfl, rfl, rfl⟩
      unfold of at member
      rw [← filter_demote (fun _ => rfl), List.mem_filter, decide_eq_true_iff] at member
      have passed := of_decide_eq_true (List.all_eq_true.mp admitted r member.1)
      refine ⟨fun same => passed ⟨member.2.1, member.2.2, Or.inl same⟩, ?_⟩
      exact Bool.eq_false_iff.mpr fun last => passed ⟨member.2.1, member.2.2, Or.inr last⟩
    · cases done
  · cases done

theorem Inserted.of {request : GenerateReport} {prior : Option Uuid} {version : Nat}
    (inserted : Inserted t request prior version t') (tenantId campaignId : Uuid) : ∃ row : CampaignReport,
      t'.of tenantId campaignId = demote (t.of tenantId campaignId) prior ++
        (if request.tenantId = tenantId ∧ request.campaignId = campaignId then [row] else []) ∧
      row.version = version ∧ row.isLatest = true ∧ row.data = request.data := by
  obtain ⟨row, rfl, _, rowVersion, last, tenant, campaign, data⟩ := inserted.table
  refine ⟨row, ?_, rowVersion, last, data⟩
  unfold ReportTable.of
  rw [List.filter_append, filter_demote fun _ => rfl, ← tenant, ← campaign, List.filter_singleton]
  simp

theorem versions_succ (n : Nat) : versions (n + 1) = (List.range n).map (fun i => (i + 1, false)) ++ [(n + 1, true)] := by
  unfold versions
  rw [List.range_succ, List.map_append]
  congr 1
  · refine List.map_congr_left fun i inside => ?_
    have other : i + 1 ≠ n + 1 := by
      have bound := List.mem_range.mp inside
      omega
    rw [decide_eq_false other]
  · simp

theorem Versioned.map_version (versioned : t.Versioned) (tenantId campaignId : Uuid) :
    (t.of tenantId campaignId).map CampaignReport.version = (List.range (t.of tenantId campaignId).length).map (· + 1) := by
  have first := congrArg (List.map Prod.fst) (versioned.numbered tenantId campaignId)
  rw [List.map_map, versions, List.map_map] at first
  exact first

/-- The version that a transaction inserts is the next one, as the indexes hold
it to a version that is not there yet. -/
theorem Versioned.next_version (versioned : t.Versioned) {request : GenerateReport} {prior : Option Uuid} {version : Nat}
    (grounded : t.Grounded (.ready request prior version)) (inserted : Inserted t request prior version t') :
    version = (t.of request.tenantId request.campaignId).length + 1 := by
  have bounds : 1 ≤ version ∧ version ≤ (t.of request.tenantId request.campaignId).length + 1 := by
    cases prior with
    | none => exact ⟨grounded.2, grounded.1⟩
    | some id =>
      obtain ⟨r, member, _, rfl⟩ := grounded
      have bound := versioned.mem member
      omega
  by_contra early
  have taken : version ≤ (t.of request.tenantId request.campaignId).length := by omega
  obtain ⟨r, member, same⟩ := versioned.exists_version bounds.1 taken
  obtain ⟨r', there, _, version', _⟩ := mem_demote prior member
  exact (inserted.admitted r' there).1 (version'.trans same)

/-- A commit adds the version that the transaction has read to be the next, and
demotes the one that it has read to be the latest. -/
theorem Versioned.commit (versioned : t.Versioned) {state : Generating} (grounded : t.Grounded state)
    (done : t.commit state = some t') : t'.Versioned := by
  obtain ⟨request, prior, version, rfl, inserted⟩ := commit_inserts done
  have next := versioned.next_version grounded inserted
  obtain ⟨row, same, rowId, _⟩ := inserted.table
  have ids : t'.reports.map CampaignReport.id = t.reports.map CampaignReport.id ++ [t.nextId] := by
    rw [same, List.map_append, map_demote CampaignReport.id fun _ => rfl, List.map_singleton, rowId]
  refine ⟨?_, fun r member => ?_, fun tenantId campaignId => ?_⟩
  · rw [ids, List.nodup_append]
    refine ⟨versioned.ids, List.nodup_singleton _, fun id old other single => ?_⟩
    obtain ⟨r, member, rfl⟩ := List.mem_map.mp old
    rw [List.mem_singleton.mp single]
    exact (versioned.below r member).ne
  · have listed : r.id ∈ t.reports.map CampaignReport.id ++ [t.nextId] := ids ▸ List.mem_map_of_mem member
    have grown : t'.nextId = t.nextId + 1 := by rw [same]
    rw [grown]
    rcases List.mem_append.mp listed with old | new
    · obtain ⟨r', there, id⟩ := List.mem_map.mp old
      rw [← id]
      exact (versioned.below r' there).trans (Nat.lt_succ_self _)
    · rw [List.mem_singleton.mp new]
      exact Nat.lt_succ_self _
  · obtain ⟨row, own, rowVersion, last, _⟩ := inserted.of tenantId campaignId
    rw [own]
    split
    · rename_i mine
      obtain ⟨rfl, rfl⟩ := mine
      -- the rows before it are none of them the latest
      have marks : (demote (t.of request.tenantId request.campaignId) prior).map mark =
          (List.range (t.of request.tenantId request.campaignId).length).map fun i => (i + 1, false) := by
        have plain : ∀ r ∈ demote (t.of request.tenantId request.campaignId) prior, mark r = (r.version, false) := fun r member =>
          Prod.ext rfl (inserted.admitted r member).2
        rw [List.map_congr_left plain]
        have numbers := versioned.map_version request.tenantId request.campaignId
        rw [← map_demote CampaignReport.version (fun _ => rfl) _ prior] at numbers
        have paired := congrArg (List.map fun v => (v, false)) numbers
        rw [List.map_map, List.map_map] at paired
        exact paired
      have length : (demote (t.of request.tenantId request.campaignId) prior).length =
          (t.of request.tenantId request.campaignId).length := by
        have counted := congrArg List.length
          (map_demote CampaignReport.id (fun _ => rfl) (t.of request.tenantId request.campaignId) prior)
        rwa [List.length_map, List.length_map] at counted
      rw [List.map_append, marks, List.length_append, length, List.length_singleton, versions_succ, List.map_singleton, mark,
        rowVersion, last, next]
    · rename_i other
      have untouched : demote (t.of tenantId campaignId) prior = t.of tenantId campaignId := by
        refine demote_eq_self fun id named r member same => ?_
        cases prior with
        | none => cases named
        | some id' =>
          obtain rfl := Option.some.inj named
          obtain ⟨r', there, id'', _⟩ := grounded
          obtain ⟨stored, keys⟩ := List.mem_filter.mp member
          obtain ⟨stored', keys'⟩ := List.mem_filter.mp there
          obtain rfl := eq_of_key_eq versioned.ids stored stored' (same.trans id''.symm)
          have keys := of_decide_eq_true keys
          have keys' := of_decide_eq_true keys'
          exact other ⟨keys'.1.symm.trans keys.1, keys'.2.symm.trans keys.2⟩
      rw [untouched, List.append_nil]
      exact versioned.numbered tenantId campaignId

theorem Versioned.read (versioned : t.Versioned) {state : Generating} (grounded : t.Grounded state) :
    t.Grounded (t.read state) := by
  cases state with
  | started request =>
    rw [ReportTable.read]
    split
    · split
      · trivial
      · rename_i prior found
        have listed : prior ∈ t.latest request.tenantId request.campaignId := found ▸ List.mem_singleton_self prior
        exact ⟨prior, List.mem_of_mem_filter listed, rfl, rfl⟩
      · trivial
    · trivial
  | missed request =>
    refine ⟨Nat.succ_le_succ ?_, Nat.succ_pos _⟩
    cases highest : ((t.of request.tenantId request.campaignId).map CampaignReport.version).max? with
    | none => exact Nat.zero_le _
    | some version =>
      obtain ⟨r, member, rfl⟩ := List.mem_map.mp (List.max?_mem highest)
      exact (versioned.mem member).2.1
  | ready request prior version => exact grounded
  | raised => trivial

theorem Grounded.rely {state other : Generating} (done : t.commit state = some t') (grounded : t.Grounded other) :
    t'.Grounded other := by
  obtain ⟨request, prior, version, rfl, inserted⟩ := commit_inserts done
  cases other with
  | ready request' prior' version' =>
    obtain ⟨row, own, _⟩ := inserted.of request'.tenantId request'.campaignId
    cases prior' with
    | none =>
      refine ⟨grounded.1.trans (Nat.succ_le_succ ?_), grounded.2⟩
      have counted := congrArg List.length
        (map_demote CampaignReport.id (fun _ => rfl) (t.of request'.tenantId request'.campaignId) prior)
      rw [List.length_map, List.length_map] at counted
      rw [own, List.length_append, counted]
      exact Nat.le_add_right _ _
    | some id =>
      obtain ⟨r, member, sameId, rfl⟩ := grounded
      obtain ⟨r', there, id', version, _⟩ := mem_demote prior member
      exact ⟨r', own ▸ List.mem_append_left _ there, id'.trans sameId, by rw [version]⟩
  | started | missed | raised => trivial

theorem generateReport_sound : generateReport.Sound Versioned Grounded where
  start _ _ _ := trivial
  read _ _ versioned grounded := versioned.read grounded
  commit _ _ _ versioned grounded done := versioned.commit grounded done
  rely _ _ _ _ _ _ done grounded := grounded.rely done

/-- A report as its readers know it, whichever is the latest. -/
def snapshot (r : CampaignReport) : CampaignReport := { r with isLatest := false }

theorem commit_appends {state : Generating} (done : t.commit state = some t') :
    t.reports.map snapshot <+: t'.reports.map snapshot := by
  obtain ⟨request, prior, version, rfl, inserted⟩ := commit_inserts done
  obtain ⟨row, rfl, _⟩ := inserted.table
  rw [List.map_append, map_demote snapshot fun _ => rfl]
  exact List.prefix_append _ _

theorem Versioned.latest (versioned : t.Versioned) (tenantId campaignId : Uuid) :
    t.latest tenantId campaignId = (t.of tenantId campaignId).getLast?.toList := by
  unfold ReportTable.latest
  have marks := versioned.numbered tenantId campaignId
  rcases List.eq_nil_or_concat (t.of tenantId campaignId) with empty | ⟨before, row, split⟩
  · rw [empty]
    rfl
  · rw [split, List.concat_eq_append] at marks ⊢
    rw [List.length_append, List.length_singleton, versions_succ, List.map_append, List.map_singleton] at marks
    obtain ⟨older, newest⟩ := List.append_inj' marks rfl
    have gone : before.filter (·.isLatest) = [] := by
      refine List.filter_eq_nil_iff.mpr fun r member last => ?_
      have listed := older ▸ List.mem_map_of_mem (f := mark) member
      obtain ⟨i, _, same⟩ := List.mem_map.mp listed
      rw [← (Prod.mk.inj same).2] at last
      cases last
    have last : row.isLatest = true := (Prod.mk.inj (List.cons.inj newest).1).2
    rw [List.filter_append, gone, List.getLast?_append]
    simp [last]

/-- A generation that reads right before its commit is admitted: the version it has
read to be the next is free. -/
theorem Versioned.admits (versioned : t.Versioned) {request : GenerateReport} {state : Generating}
    (reads : t.read (t.read (.started request)) = state)
    (known : t.campaigns.any fun c => c.id = request.campaignId ∧ c.tenantId = request.tenantId) :
    ∃ t', t.commit state = some t' := by
  have own : ∀ r ∈ t.reports, r.tenantId = request.tenantId → r.campaignId = request.campaignId →
      r ∈ t.of request.tenantId request.campaignId := fun r member tenant campaign =>
    List.mem_filter.mpr ⟨member, decide_eq_true ⟨tenant, campaign⟩⟩
  rw [ReportTable.read, if_pos known] at reads
  have newest := versioned.latest request.tenantId request.campaignId
  cases last : (t.of request.tenantId request.campaignId).getLast? with
  | none =>
    have empty := List.getLast?_eq_none_iff.mp last
    rw [newest, last] at reads
    have counted : t.read (.missed request) = state := reads
    rw [ReportTable.read] at counted
    subst counted
    refine ⟨_, if_pos (List.all_eq_true.mpr fun r member => ?_)⟩
    rw [decide_eq_true_iff]
    intro same
    have listed := own r member same.1 same.2.1
    rw [empty] at listed
    cases listed
  | some prior =>
    rw [newest, last] at reads
    subst reads
    rw [last] at newest
    have latest : ∀ r ∈ t.of request.tenantId request.campaignId, r.isLatest = true → r = prior := fun r member isLatest => by
      have listed : r ∈ t.latest request.tenantId request.campaignId := List.mem_filter.mpr ⟨member, isLatest⟩
      rw [newest] at listed
      exact List.mem_singleton.mp listed
    have count : prior.version = (t.of request.tenantId request.campaignId).length := by
      have listed : prior ∈ t.latest request.tenantId request.campaignId := newest ▸ List.mem_singleton_self prior
      obtain ⟨member, isLatest⟩ := List.mem_filter.mp listed
      rw [(versioned.mem member).2.2] at isLatest
      exact of_decide_eq_true isLatest
    refine ⟨_, if_pos (List.all_eq_true.mpr fun r member => ?_)⟩
    rw [decide_eq_true_iff]
    intro same
    -- the demoted rows of the campaign are older versions, and none is the latest
    rcases mem_updateWhere.mp member with ⟨old, there, hit, rfl⟩ | ⟨there, miss⟩
    · have bound := versioned.mem (own old there same.1 same.2.1)
      rcases same.2.2 with version | isLatest
      · have early : old.version = prior.version + 1 := version
        omega
      · cases isLatest
    · have bound := versioned.mem (own r there same.1 same.2.1)
      rcases same.2.2 with version | isLatest
      · have early : r.version = prior.version + 1 := version
        omega
      · exact of_decide_eq_false miss (congrArg CampaignReport.id (latest r (own r there same.1 same.2.1) isLatest))

/-- A transaction that nobody disturbs inserts the next version. -/
theorem Versioned.undisturbed (versioned : t.Versioned) (request : GenerateReport)
    (known : t.campaigns.any fun c => c.id = request.campaignId ∧ c.tenantId = request.tenantId) :
    ∃ t' row, t.commit (t.read (t.read (.started request))) = some t' ∧
      t'.latest request.tenantId request.campaignId = [row] ∧ row.data = request.data ∧
      row.version = (t.of request.tenantId request.campaignId).length + 1 := by
  have grounded : t.Grounded (t.read (t.read (.started request))) := versioned.read (versioned.read trivial)
  obtain ⟨t', done⟩ := versioned.admits rfl known
  have after := versioned.commit grounded done
  obtain ⟨request', prior, version, state, inserted⟩ := commit_inserts done
  have same : request' = request := by
    rw [ReportTable.read, if_pos known] at state
    split at state
    · exact (Generating.ready.inj state).1.symm
    · exact (Generating.ready.inj state).1.symm
    · cases state
  subst same
  obtain ⟨row, own, rowVersion, _, data⟩ := inserted.of request'.tenantId request'.campaignId
  rw [if_pos ⟨rfl, rfl⟩] at own
  refine ⟨t', row, done, ?_, data, rowVersion.trans (versioned.next_version (state ▸ grounded) inserted)⟩
  rw [after.latest, own, List.getLast?_append]
  rfl

end Versions

/-- Whatever the interleaving of the transactions that generate reports, and
whichever of them fail: the reports of a campaign are versions 1, 2, … in the
order of their commits, the newest alone is the latest, no later commit changes
or removes a report, and a transaction that nobody disturbs adds the next version. -/
theorem reports_are_versions {t : ReportTable} (unreported : t.reports = []) (ops later : List (TxOp GenerateReport)) :
    let s := Lib.run generateReport.step { table := t } ops
    let s' := Lib.run generateReport.step s later
    (∀ tenantId campaignId, let own := s.table.of tenantId campaignId
      own.map CampaignReport.version = (List.range own.length).map (· + 1) ∧
        s.table.latest tenantId campaignId = own.getLast?.toList) ∧
      s.table.reports.map snapshot <+: s'.table.reports.map snapshot ∧
      ∀ request, (s.table.campaigns.any fun c => c.id = request.campaignId ∧ c.tenantId = request.tenantId) →
        ∃ t' row, s.table.commit (s.table.read (s.table.read (.started request))) = some t' ∧
          t'.latest request.tenantId request.campaignId = [row] ∧ row.data = request.data ∧
          row.version = (s.table.of request.tenantId request.campaignId).length + 1 := by
  have start : t.Versioned := by
    refine ⟨by simp [unreported], by simp [unreported], fun tenantId campaignId => ?_⟩
    simp [ReportTable.of, unreported, versions]
  have reached := generateReport_sound.run (.start start) ops
  refine ⟨fun tenantId campaignId => ⟨reached.1.map_version .., reached.1.latest ..⟩, ?_, reached.1.undisturbed⟩
  exact generateReport_sound.guarantee (R := fun t t' => t.reports.map snapshot <+: t'.reports.map snapshot)
    (fun _ => List.prefix_rfl) (fun _ _ _ => List.IsPrefix.trans) (fun _ _ _ _ _ done => commit_appends done) reached later

/-- A campaign that has ended, whose report is asked for. -/
def ended : ReportTable where
  campaigns := [⟨0, 1, "spring", .completed, 5, "EUR", 0, 100, [], none⟩]

def again (spend : Int) : GenerateReport := ⟨1, 0, 5, "system", [("spend_total", .int spend)]⟩

/-- The first two transactions find no report; the second to commit fails. -/
def overtaken : List (TxOp GenerateReport) :=
  [.start (again 3), .start (again 4), .read 0, .read 1, .read 0, .read 1, .commit 0, .commit 1, .start (again 5), .read 2,
    .commit 2]

theorem reports_are_versions_overtaken :
    let s := Lib.run generateReport.step { table := ended } overtaken
    (s.table.of 1 0).map (fun r => (r.version, r.isLatest, r.data)) =
        [(1, false, [("spend_total", .int 3)]), (2, true, [("spend_total", .int 5)])] ∧
      s.table.latest 1 0 = (s.table.of 1 0).getLast?.toList :=
  ⟨by decide +kernel, ((reports_are_versions rfl overtaken []).1 1 0).2⟩

end ReportTable

end MarketingAgents

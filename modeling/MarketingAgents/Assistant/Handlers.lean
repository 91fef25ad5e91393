import MarketingAgents.Api.Overrides
import MarketingAgents.Assistant.Calendars
import MarketingAgents.Db.Decimal
import MarketingAgents.Db.Jsonb
import MarketingAgents.Outbound.Audience

namespace MarketingAgents

open Lib PyText

/-- What `create_campaign` of the assistant uses of Python besides. -/
class PyInput where
  /-- `date.fromisoformat`, `none` where it raises. -/
  dateOf : String → Option Int
  /-- `str.upper`. -/
  upper : String → String

/-- Dates as the numbers of their characters, and no letters to raise. -/
@[reducible] def PyInput.plain : PyInput where
  dateOf s := some s.toList.length
  upper s := s

structure OptimisationRecommendation where
  id : Uuid
  tenantId : Uuid
  campaignId : Uuid
  kind : String
  proposal : Dict String Json
  status : String
  appliedAt : Option Int
  appliedBy : Option Uuid
deriving DecidableEq

structure MetricAnomaly where
  id : Uuid
  tenantId : Uuid
  dismissedAt : Option Int
  dismissedBy : Option Uuid
deriving DecidableEq

/-- A row of `campaign_channel_budget`. -/
structure CampaignChannelBudget where
  campaignId : Uuid
  channelId : Uuid
  allocated : Decimal
deriving DecidableEq

/-- The tables of the analysis that tools write. -/
structure Insights where
  recommendations : List OptimisationRecommendation := []
  anomalies : List MetricAnomaly := []
  channelBudgets : List CampaignChannelBudget := []
deriving DecidableEq

/-- The database refused a statement, which ends the transaction. -/
def AppError.losesTransaction : AppError → Bool
  | .queue .priorityCheck | .queue .duplicateId | .integrity => true
  | _ => false

section Shifts

variable [PyText]

/-- `proposal.get(key) or {}`, and the `.get` on it. -/
def shiftSide (proposal : Dict String Json) (key : String) : Except AppError (Dict String Json) :=
  let value := (proposal.get? key).getD .null
  if value.truthy then orRaise value.dict? (.raised "AttributeError") else .ok []

/-- `UUID(channel_id)`: a text that is none ends the helper, anything else raises. -/
def shiftChannel (value : Json) : Except AppError (Option Uuid) :=
  (orRaise value.str? (.raised "AttributeError")).map uuidOf

/-- `Decimal(str(side.get("new_allocation_amount") or "0"))`. -/
def shiftAmount (side : Dict String Json) : Except AppError Decimal :=
  let value := (side.get? "new_allocation_amount").getD .null
  orRaise (decimalOf (str (if value.truthy then value else .str "0"))) (.raised "InvalidOperation")

/-- The upsert of `_apply_budget_shift`, of a `Numeric(14, 2)` that may not be
negative and refers to its channel. -/
def allocate (channels : List Channel) (budgets : List CampaignChannelBudget) (campaignId channelId : Uuid)
    (allocated : Decimal) : Except AppError (List CampaignChannelBudget) := do
  let allocated := numericColumn 2 allocated
  require (allocated < 10 ^ 12 ∧ 0 ≤ allocated) .integrity
  require ((budgets.any fun b => b.campaignId = campaignId ∧ b.channelId = channelId) ∨
    channels.any (·.id = channelId)) .integrity
  pure (upsertWhere (fun b => b.campaignId = campaignId ∧ b.channelId = channelId)
    (fun b => { b with allocated := allocated }) ⟨campaignId, channelId, allocated⟩ budgets)

def applyBudgetShift (channels : List Channel) (budgets : List CampaignChannelBudget) (r : OptimisationRecommendation) :
    Except AppError (List CampaignChannelBudget) := do
  let source ← shiftSide r.proposal "from"
  let target ← shiftSide r.proposal "to"
  let sourceId := (source.get? "channel_id").getD .null
  let targetId := (target.get? "channel_id").getD .null
  if ¬ sourceId.truthy ∨ ¬ targetId.truthy then pure budgets
  else
    match ← shiftChannel sourceId with
    | none => pure budgets
    | some sourceId =>
      match ← shiftChannel targetId with
      | none => pure budgets
      | some targetId =>
        let newSource ← shiftAmount source
        let newTarget ← shiftAmount target
        let budgets ← allocate channels budgets r.campaignId sourceId newSource
        allocate channels budgets r.campaignId targetId newTarget

end Shifts

namespace Assistant

section Lookups

variable [PyText]

/-- `Campaign.name.ilike(f"%{identifier}%")`. -/
def namedLike (identifier name : String) : Bool := like (lower ("%" ++ identifier ++ "%")).toList (lower name).toList

/-- `_find_campaign`: by its id, or as the only one whose name matches. -/
def findCampaign (db : Db) (user : AppUser) (identifier : String) : Except String Campaign :=
  match (uuidOf identifier).bind (db.tenantCampaign? user) with
  | some c => .ok c
  | none =>
    match db.campaigns.filter fun c => c.tenantId = user.tenantId ∧ namedLike identifier c.name with
    | [] => .error ("No campaign matches '" ++ identifier ++ "'.")
    | [c] => .ok c
    | rows => .error ("'" ++ identifier ++ "' matches multiple campaigns (" ++
        ", ".intercalate ((rows.take 5).map fun r => "'" ++ r.name ++ "'") ++ "). Be more specific.")

/-- `_require_role`, then the rest of the tool. -/
def asRole (db : Db) (user : AppUser) (minimum : UserRole) (run : ToolRun) : ToolRun :=
  if user.role.rank < minimum.rank then
    refuse db ("Your role '" ++ user.role.value ++ "' isn't allowed to do this — need '" ++ minimum.value ++
      "' or higher.")
  else run

def withNamed (db : Db) (user : AppUser) (minimum : UserRole) (identifier : String) (run : Campaign → ToolRun) :
    ToolRun :=
  asRole db user minimum (match findCampaign db user identifier with
    | .error message => refuse db message
    | .ok c => run c)

/-- `UUID(asset_id)`, then the tool on it. -/
def withAssetId (db : Db) (user : AppUser) (assetId : String) (run : Uuid → ToolRun) : ToolRun :=
  asRole db user .manager (match uuidOf assetId with
    | none => refuse db "asset_id must be a UUID."
    | some id => run id)

/-- `_resolve_audience_for_campaign`. -/
def latestAudience (db : Db) (campaignId : Uuid) : Option Audience :=
  ((db.audiences.filter (·.campaignId = campaignId)).insertionSort fun a b => b.createdAt ≤ a.createdAt).head?

def noAudience (db : Db) (c : Campaign) : ToolRun :=
  refuse db ("'" ++ c.name ++ "' has no audience attached yet. Upload a CSV at /ui/outbound/upload, then come back.")

end Lookups

/-- The arguments of `create_campaign`. -/
structure CampaignInput where
  name : String
  campaignType : String
  budgetTotal : String
  currency : String := "USD"
  startDate : String
  endDate : String
  primaryKpiMetric : String := "conversion"
  primaryKpiTarget : Json := .int 100

def campaignTypes : List String :=
  ["awareness", "lead_gen", "demand_gen", "nurture", "product_launch", "event_promo", "retention", "reactivation"]

section Tools

variable [PyText]

/-- `create_campaign`: what it reads of its arguments, it reads before the row. -/
def createCampaign [PyInput] (db : Db) (user : AppUser) (input : CampaignInput) : ToolRun :=
  asRole db user .marketer <|
    if input.campaignType ∉ campaignTypes then
      refuse db ("Unknown campaign_type '" ++ input.campaignType ++ "'. Valid: " ++ ", ".intercalate campaignTypes ++ ".")
    else match decimalOf input.budgetTotal with
      | none => refuse db ("budget_total '" ++ input.budgetTotal ++ "' isn't a number.")
      | some budget =>
        match PyInput.dateOf input.startDate, PyInput.dateOf input.endDate with
        | some startDate, some endDate =>
          if endDate < startDate then refuse db "end_date is before start_date."
          else match intOf input.primaryKpiTarget with
            | none => (db, .error (.raised "ValueError"))
            | some target => reply
                { db with
                  campaigns := db.campaigns ++
                    [{ id := db.nextId
                       tenantId := user.tenantId
                       name := strip input.name
                       status := .drafted
                       budgetTotal := budget
                       currency := PyInput.upper input.currency
                       startDate := startDate
                       endDate := endDate
                       kpiTargets := [("primary", .obj [("metric", .str input.primaryKpiMetric),
                         ("target", .int target)]), ("secondary", .arr [])] }]
                  nextId := db.nextId + 1 }
        | _, _ => refuse db "Dates must be ISO format (YYYY-MM-DD)."

/-- `complete_campaign`, with what the report raises that `on_enter` generates
behind the status. -/
def completeReported (db : Db) (user : AppUser) (identifier : String) (confirm : Bool) (report : Option String)
    (now : Int) : ToolRun :=
  withNamed db user .manager identifier fun c =>
    if c.status = .completed then reply db
    else if ¬ confirm then confirmation db
    else match apply db c "complete_campaign" now, report with
      | .ok db, none => reply db
      | .ok db, some message => (db, .error (.raised message))
      | .error error, _ => (db, .error error)

/-- The three digits of `f"{i:03d}"`. -/
def threeDigits (i : Nat) : String := "".intercalate ([i / 100, i / 10 % 10, i % 10].map toString)

def demoMember (i : Nat) : String × Dict String Json :=
  ("demo-" ++ threeDigits i,
    [("email", .str ("contact" ++ threeDigits i ++ "@demo-co-" ++ toString (i % 5) ++ ".test")),
      ("first_name", .str ("Demo" ++ toString i)), ("company", .str ("Demo Co " ++ toString (i % 5)))])

def synthesiseNamed (db : Db) (user : AppUser) (campaign : String) (size : Int) (now : Int) : ToolRun :=
  asRole db user .marketer <|
    if size < 1 ∨ 200 < size then refuse db "size must be between 1 and 200."
    else withNamed db user .marketer campaign fun c =>
      synthesiseAudience db user c.id ((List.range size.toNat).map demoMember) now

/-- The summary of `generate_strategy` calls `.get` on every channel. -/
def summarisable (payload : Dict String Json) : Bool :=
  match pyList? ((payload.get? "channels").getD (.arr [])) with
  | some items => items.all fun item => item.dict?.isSome
  | none => false

/-- What `strategist.propose` raises, as the tool passes it on. -/
def StrategistFailure.error : StrategistFailure → AppError
  | .precondition message => .tool message
  | .planner (.strategist message) => .raised message
  | .planner .raised | .raised => .raised "Exception"

/-- `generate_strategy`: it summarises the version after storing it. -/
def generateStrategy [PyDecimal] (apiKey : Bool) (db : Db) (user : AppUser) (campaign : String) (confirm : Bool)
    (briefing : Briefing) (replies : Nat → Except PlannerError (Dict String Json)) : ToolRun :=
  withNamed db user .marketer campaign fun c =>
    if ¬ confirm then confirmation db
    else if ¬ apiKey then refuse db "ANTHROPIC_API_KEY is not configured — the Strategist needs a live LLM."
    else match propose db c.id briefing replies with
      | .error failure => (db, .error (StrategistFailure.error failure))
      | .ok (db, _) =>
        match latestProposal db c.id with
        | none => (db, .error (.raised "No row was found when one was required"))
        | some p => if summarisable p.payload then reply db else (db, .error (.raised "AttributeError"))

def enrichAudience (apiKey : Bool) (db : Db) (user : AppUser) (campaign : String) (maxToEnrich : Int)
    (answers : AudienceMember → ApolloAnswer) : ToolRun :=
  withNamed db user .marketer campaign fun c =>
    match latestAudience db c.id with
    | none => noAudience db c
    | some audience =>
      if ¬ apiKey then refuse db ("Apollo enrichment isn't configured (no APOLLO_API_KEY). Ask your admin to set the " ++
        "key in .env.local, then try again.")
      else
        let (members, outcome) := enrichMembers audience.id maxToEnrich answers 0 db.audienceMembers
        ({ db with audienceMembers := members }, outcome.map fun _ => ⟨false⟩)

/-- `draft_outbound` from its arguments on. -/
def draftNamed [PyRegex] (apiKey : Bool) (db : Db) (user : AppUser) (campaign : String) (confirm overwrite : Bool)
    (replies : String → String → OutreachReply) : ToolRun :=
  withNamed db user .marketer campaign fun c =>
    match latestAudience db c.id with
    | none => noAudience db c
    | some audience =>
      match db.audienceMembers.filter (·.audienceId = audience.id) with
      | [] => refuse db ("Audience for '" ++ c.name ++ "' is empty.")
      | members =>
        match segmentMembers members with
        | none => (db, .error (.raised "AttributeError"))
        | some segments =>
          if ¬ confirm then confirmation db
          else if ¬ apiKey then refuse db "Anthropic API key not configured — can't draft outreach."
          else if audience.tenantId ≠ c.tenantId then
            (db, .error (.outreach ("audience " ++ uuidStr audience.id ++ " not found in this tenant")))
          else match outreachDrafts c audience.id overwrite db (outreachEntries segments replies) with
            | (db, .ok ()) => reply db
            | (db, .error error) => (db, .error error)

def acceptRecommendation (channels : List Channel) (insights : Insights) (user : AppUser) (identifier : String)
    (confirm : Bool) (now : Int) : Insights × Except AppError ToolResult :=
  if user.role.rank < UserRole.marketer.rank then
    (insights, .error (.tool ("Your role '" ++ user.role.value ++ "' isn't allowed to do this — need 'marketer' or higher.")))
  else match uuidOf identifier with
    | none => (insights, .error (.tool "recommendation identifier must be a UUID."))
    | some id =>
      match insights.recommendations.find? fun r => r.id = id ∧ r.tenantId = user.tenantId with
      | none => (insights, .error (.tool ("No recommendation found with id " ++ uuidStr id ++ ".")))
      | some r =>
        if r.status ≠ "pending" then
          (insights, .error (.tool ("Recommendation is in status '" ++ r.status ++ "', not pending.")))
        else if ¬ confirm then (insights, .ok ⟨true⟩)
        else match if r.kind = "budget_shift" then applyBudgetShift channels insights.channelBudgets r
            else .ok insights.channelBudgets with
          | .error error => (insights, .error error)
          | .ok budgets =>
            ({ insights with
              channelBudgets := budgets
              recommendations := updateWhere (·.id = id)
                (fun r => { r with status := "applied", appliedAt := some now, appliedBy := some user.id })
                insights.recommendations }, .ok ⟨false⟩)

def dismissAnomaly (insights : Insights) (user : AppUser) (identifier : String) (now : Int) :
    Insights × Except AppError ToolResult :=
  if user.role.rank < UserRole.admin.rank then
    (insights, .error (.tool ("Your role '" ++ user.role.value ++ "' isn't allowed to do this — need 'admin' or higher.")))
  else match uuidOf identifier with
    | none => (insights, .error (.tool "anomaly identifier must be a UUID."))
    | some id =>
      if insights.anomalies.all fun a => a.id ≠ id ∨ a.tenantId ≠ user.tenantId then
        (insights, .error (.tool ("metric_anomaly " ++ uuidStr id ++ " not found")))
      else
        ({ insights with
          anomalies := updateWhere (·.id = id)
            (fun a => { a with dismissedAt := some now, dismissedBy := some user.id }) insights.anomalies }, .ok ⟨false⟩)

end Tools

/-- What a request reads of the settings and of the table `tenant_constraint`. -/
structure ToolSettings where
  anthropicApiKey : Bool
  apolloApiKey : Bool
  constraints : List TenantConstraint

/-- A call of one of the tools that write, with what the services outside answer to it. -/
inductive ToolCall where
  | createCampaign (input : CampaignInput)
  | pauseCampaign (identifier : String) (confirm : Bool)
  | resumeCampaign (identifier : String)
  | completeCampaign (identifier : String) (confirm : Bool) (report : Option String)
  | acceptRecommendation (identifier : String) (confirm : Bool)
  | dismissAnomaly (identifier : String)
  | synthesiseAudience (campaign : String) (size : Int)
  | generateStrategy (campaign : String) (confirm : Bool) (briefing : Briefing)
      (replies : Nat → Except PlannerError (Dict String Json))
  | acceptStrategy (campaign : String) (confirm : Bool)
  | generateContent (campaign : String) (confirm : Bool) (generations : List Generation)
  | approveAllContent (campaign : String) (confirm : Bool)
  | launchCampaign (campaign : String) (confirm : Bool)
  | approveAsset (assetId : String)
  | rejectAsset (assetId : String) (reason : Option String)
  | enrichAudience (campaign : String) (maxToEnrich : Int) (answers : AudienceMember → ApolloAnswer)
  | draftOutbound (campaign : String) (confirm overwrite : Bool) (replies : String → String → OutreachReply)

section Calls

variable [PyText] [CalendarFloat] [PyDecimal] [PyInput] [PyRegex]

/-- The handler of the call, on the session of the request. -/
def ToolCall.run (settings : ToolSettings) (db : Db) (insights : Insights) (user : AppUser) (now : Int) :
    ToolCall → (Db × Insights) × Except AppError ToolResult
  | .createCampaign input => onTables (Assistant.createCampaign db user input)
  | .pauseCampaign identifier confirm => onTables <| withNamed db user .manager identifier fun c =>
      Assistant.pauseCampaign db user c.id confirm now
  | .resumeCampaign identifier => onTables <| withNamed db user .manager identifier fun c =>
      Assistant.resumeCampaign db user c.id now
  | .completeCampaign identifier confirm report => onTables (completeReported db user identifier confirm report now)
  | .acceptRecommendation identifier confirm =>
    onInsights (Assistant.acceptRecommendation db.channels insights user identifier confirm now)
  | .dismissAnomaly identifier => onInsights (Assistant.dismissAnomaly insights user identifier now)
  | .synthesiseAudience campaign size => onTables (synthesiseNamed db user campaign size now)
  | .generateStrategy campaign confirm briefing replies =>
      onTables (Assistant.generateStrategy settings.anthropicApiKey db user campaign confirm briefing replies)
  | .acceptStrategy campaign confirm => onTables <| withNamed db user .marketer campaign fun c =>
      Assistant.acceptStrategySeeded settings.constraints db user c.id confirm
  | .generateContent campaign confirm generations => onTables <| withNamed db user .marketer campaign fun c =>
      Assistant.generateContent db user settings.anthropicApiKey c.id confirm generations now
  | .approveAllContent campaign confirm => onTables <| withNamed db user .manager campaign fun c =>
      Assistant.approveAllContent db user c.id confirm now
  | .launchCampaign campaign confirm => onTables <| withNamed db user .manager campaign fun c =>
      Assistant.launchCampaign db user c.id confirm now
  | .approveAsset assetId => onTables <| withAssetId db user assetId fun id => Assistant.approveAsset db user id now
  | .rejectAsset assetId reason => onTables <| withAssetId db user assetId fun id =>
      Assistant.rejectAsset db user id reason now
  | .enrichAudience campaign maxToEnrich answers =>
      onTables (Assistant.enrichAudience settings.apolloApiKey db user campaign maxToEnrich answers)
  | .draftOutbound campaign confirm overwrite replies =>
      onTables (draftNamed settings.anthropicApiKey db user campaign confirm overwrite replies)
where
  onTables (run : ToolRun) : (Db × Insights) × Except AppError ToolResult := ((run.1, insights), run.2)
  onInsights (run : Insights × Except AppError ToolResult) : (Db × Insights) × Except AppError ToolResult :=
    ((db, run.1), run.2)

/-- The call within its request: `handle_message` turns an exception into a
message, and the session commits what the handler left, unless the transaction is lost. -/
def ToolCall.serve (settings : ToolSettings) (db : Db) (insights : Insights) (user : AppUser) (now : Int)
    (call : ToolCall) : (Db × Insights) × Except AppError ToolResult :=
  let done := call.run settings db insights user now
  match done.2 with
  | .ok _ => done
  | .error error => if error.losesTransaction then ((db, insights), .error error) else done

end Calls

end Assistant

end MarketingAgents

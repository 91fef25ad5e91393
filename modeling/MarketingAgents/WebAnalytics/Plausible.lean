import MarketingAgents.Agents.EmailAccounting
import MarketingAgents.Lib.FirstEntry
import MarketingAgents.Lib.Run
import MarketingAgents.WebAnalytics.Ingest

namespace MarketingAgents

open Lib PyText

/-- What the connector uses of Python besides. -/
class PlausibleText where
  /-- `date.isoformat`, of the days since the epoch. -/
  dateIso : Int → String
  /-- `float(value)` of a JSON value, as the number of the float; `none` where it raises. -/
  floatOf : Json → Option Decimal
  dateIso_injective : ∀ {a b}, dateIso a = dateIso b → a = b
  dateIso_colon : ∀ day, ':' ∉ (dateIso day).toList

namespace WebAnalytics

open PlausibleText

/-- What `plausible_sync` runs with; the answer is an error where the request raises. -/
structure Sync where
  campaigns : List Campaign
  tenantId : Uuid
  now : Int
  days : Int := 7
  answer : Except AppError Json

structure PlausibleSyncResponse where
  fetched : Nat
  imported : Nat
  duplicates : Nat
  unattributed : Nat
  windowStart : Int
  windowEnd : Int
deriving DecidableEq

def Sync.since (q : Sync) : Int := q.now - q.days * 86400000000

/-- `.date()` of an instant in UTC. -/
def dayOf (instant : Int) : Int := instant / 86400000000

/-- The two names of the campaign, the second where the first is not there or empty. -/
def utmOf (row : Dict String Json) : Json :=
  ((row.get? "visit:utm_campaign").filter Json.truthy).getD ((row.get? "utm_campaign").getD .null)

/-- `data.get("results", [])`, each with a method `get`. -/
def resultsOf (data : Json) : Except AppError (List (Dict String Json)) := do
  let body ← orRaise data.dict? (.raised "AttributeError")
  match body.get? "results" with
  | none | some (.obj []) | some (.str "") => pure []
  | some (.arr items) => items.mapM fun item => orRaise item.dict? (.raised "AttributeError")
  | some (.obj _) | some (.str _) => .error (.raised "AttributeError")
  | some _ => .error (.raised "TypeError")

section Connector

variable [PyText] [PlausibleText]

/-- `utm or 'none'`. -/
def labelOf (row : Dict String Json) : String := if (utmOf row).truthy then str (utmOf row) else "none"

def baseId (siteId : String) (since until_ : Int) (label : String) : String :=
  "plausible:" ++ siteId ++ ":" ++ (dateIso since ++ (":" ++ (dateIso until_ ++ (":" ++ label))))

omit [PyText] in
/-- `float(row.get(key) or 0)`. -/
def metricOf (row : Dict String Json) (key : String) : Except AppError Decimal :=
  match (row.get? key).filter Json.truthy with
  | some value => orRaise (floatOf value) (.raised "ValueError")
  | none => .ok 0

def bucketEvent (siteId : String) (since until_ : Int) (row : Dict String Json) (suffix : String) (kind : EventKind)
    (value : Decimal) : WebAnalyticsEvent where
  providerEventId := baseId siteId (dayOf since) (dayOf until_) (labelOf row) ++ suffix
  eventType := kind
  metricValue := value
  eventAt := until_
  utmCampaign := (utmOf row).str?
  payload := [("utm_campaign", utmOf row), ("raw", .obj row)]

/-- The two events of a row. -/
def bucketEvents (siteId : String) (since until_ : Int) (row : Dict String Json) : Except AppError (List WebAnalyticsEvent) := do
  let pageviews ← metricOf row "pageviews"
  let visitors ← metricOf row "visitors"
  -- a name that is no text raises once the event is ingested, and nothing of the sync is stored
  require ((utmOf row).truthy = true → (utmOf row).str?.isSome = true) (.raised "AttributeError")
  pure [bucketEvent siteId since until_ row ":pageviews" .impression pageviews,
    bucketEvent siteId since until_ row ":visitors" .click visitors]

/-- `fetch_events`, of what Plausible answered. -/
def fetchEvents (siteId : String) (since until_ : Int) (data : Json) : Except AppError (List WebAnalyticsEvent) := do
  let rows ← resultsOf data
  let events ← rows.mapM (bucketEvents siteId since until_)
  pure events.flatten

variable [LikeErrors]

/-- `plausible_sync`. -/
def plausibleSync (siteId : String) (s : AnalyticStore) (q : Sync) : Except AppError (AnalyticStore × PlausibleSyncResponse) := do
  let data ← q.answer
  let events ← fetchEvents siteId q.since q.now data
  let (s, summary) ← ingestEvents s q.campaigns q.tenantId events
  pure (s, ⟨events.length, summary.imported, summary.duplicates, summary.unattributed, q.since, q.now⟩)

end Connector

/-- What happens to the table of the events: a sync, or the rows of another writer. -/
inductive AnalyticOp where
  | sync (q : Sync)
  | entered (rows : List EventRow)

/-- A sync that raises is rolled back. -/
def step [PyText] [PlausibleText] [LikeErrors] (siteId : String) (s : AnalyticStore) : AnalyticOp → AnalyticStore
  | .sync q =>
    match plausibleSync siteId s q with
    | .ok (s', _) => s'
    | .error _ => s
  | .entered rows => { s with events := s.events ++ rows }

/-- The rows of the connector. -/
def ours (siteId : String) (e : EventRow) : Bool :=
  decide (("plausible:" ++ siteId ++ ":").toList <+: (e.providerEventId.getD "").toList)

def AnalyticOp.Foreign (siteId : String) : AnalyticOp → Prop
  | .sync _ => True
  | .entered rows => ∀ row ∈ rows, ours siteId row = false

/-- What a row of an answer says of one window and one campaign. -/
structure Bucket where
  tenantId : Uuid
  since : Int
  until_ : Int
  eventAt : Int
  row : Dict String Json
  campaignId : Option Uuid

section Buckets

variable [PyText] [PlausibleText]

/-- The tenant, the first and the last day of the window, and the name. -/
def Bucket.key (b : Bucket) : Uuid × Int × Int × String := (b.tenantId, b.since, b.until_, labelOf b.row)

def Bucket.event (siteId : String) (b : Bucket) (suffix : String) (kind : EventKind) (metric : String) : EventRow where
  id := 0
  tenantId := b.tenantId
  eventType := kind
  payload := [("utm_campaign", utmOf b.row), ("raw", .obj b.row)]
  providerEventId := some (baseId siteId b.since b.until_ (labelOf b.row) ++ suffix)
  eventAt := b.eventAt
  campaignId := b.campaignId
  metricValue := some (numericColumn 4 ((metricOf b.row metric).toOption.getD 0))

/-- A bucket is stored as one impression and one click. -/
def Bucket.rows (siteId : String) (b : Bucket) : List EventRow :=
  [b.event siteId ":pageviews" .impression "pageviews", b.event siteId ":visitors" .click "visitors"]

def Sync.bucket (q : Sync) (siteId : String) (cache : Dict String (Option Uuid)) (row : Dict String Json) : Bucket where
  tenantId := q.tenantId
  since := dayOf q.since
  until_ := dayOf q.now
  eventAt := q.now
  row := row
  campaignId := campaignOf cache (bucketEvent siteId q.since q.now row "" .impression 0)

variable [LikeErrors]

/-- The buckets of a sync that goes through. -/
def Sync.buckets (siteId : String) (q : Sync) : Except AppError (List Bucket) := do
  let data ← q.answer
  let rows ← resultsOf data
  let events ← fetchEvents siteId q.since q.now data
  let cache ← fillCache q.campaigns q.tenantId events []
  let buckets := rows.map (q.bucket siteId cache)
  require ((buckets.flatMap (Bucket.rows siteId)).all rowFits = true) databaseError
  pure buckets

def reported (siteId : String) : AnalyticOp → List Bucket
  | .sync q => (q.buckets siteId).toOption.getD []
  | .entered _ => []

/-- Of every tenant, window and name the first bucket that was reported. -/
def ledger (siteId : String) (ops : List AnalyticOp) : List Bucket :=
  insertEach Bucket.key [] (ops.flatMap (reported siteId))

end Buckets

/-- A row without the id that the table gives it. -/
def content (e : EventRow) : EventRow := { e with id := 0 }

/-- The columns of the unique index. -/
def rowKey (e : EventRow) : Uuid × Option String := (e.tenantId, e.providerEventId)

section Keys

variable [PyText] [PlausibleText] {siteId : String}

omit [PyText] in
theorem baseId_eq (siteId : String) (since until_ : Int) (label suffix : String) :
    (baseId siteId since until_ label ++ suffix).toList = ("plausible:" ++ siteId ++ ":").toList ++
      ((dateIso since).toList ++ ':' :: ((dateIso until_).toList ++ ':' :: (label.toList ++ suffix.toList))) := by
  simp [baseId, String.toList_append]

omit [PyText] in
/-- The id names the window, the label and the metric. -/
theorem baseId_inj {since since' until_ until_' : Int} {label label' suffix suffix' : String}
    (same : baseId siteId since until_ label ++ suffix = baseId siteId since' until_' label' ++ suffix') :
    since = since' ∧ until_ = until_' ∧ label ++ suffix = label' ++ suffix' := by
  have letters := congrArg String.toList same
  rw [baseId_eq, baseId_eq] at letters
  obtain ⟨first, rest⟩ := append_colon_inj (dateIso_colon since) (dateIso_colon since') (List.append_cancel_left letters)
  obtain ⟨last, rest⟩ := append_colon_inj (dateIso_colon until_) (dateIso_colon until_') rest
  rw [← String.toList_append, ← String.toList_append] at rest
  exact ⟨dateIso_injective (String.toList_inj.mp first), dateIso_injective (String.toList_inj.mp last), String.toList_inj.mp rest⟩

omit [PyText] [PlausibleText] in
theorem suffixes_apart (label label' : String) : label ++ ":pageviews" ≠ label' ++ ":visitors" := by
  intro same
  have back := congrArg (fun text : String => text.toList.reverse) same
  simp at back

omit [PyText] [PlausibleText] in
theorem append_suffix_inj {label label' : String} {suffix suffix' : String} (member : suffix ∈ [":pageviews", ":visitors"])
    (member' : suffix' ∈ [":pageviews", ":visitors"]) (same : label ++ suffix = label' ++ suffix') :
    label = label' ∧ suffix = suffix' := by
  simp only [List.mem_cons, List.not_mem_nil, or_false] at member member'
  rcases member with rfl | rfl <;> rcases member' with rfl | rfl
  · exact ⟨(String.append_left_inj _).mp same, rfl⟩
  · exact absurd same (suffixes_apart _ _)
  · exact absurd same.symm (suffixes_apart _ _)
  · exact ⟨(String.append_left_inj _).mp same, rfl⟩

/-- The rows of a bucket are under the keys of its two ids. -/
theorem mem_rows {b : Bucket} {e : EventRow} (member : e ∈ b.rows siteId) :
    ∃ suffix ∈ [":pageviews", ":visitors"],
      rowKey e = (b.tenantId, some (baseId siteId b.since b.until_ (labelOf b.row) ++ suffix)) := by
  simp only [Bucket.rows, List.mem_cons, List.not_mem_nil, or_false] at member
  rcases member with rfl | rfl
  · exact ⟨":pageviews", by simp, rfl⟩
  · exact ⟨":visitors", by simp, rfl⟩

/-- The table of the rows is that of the buckets, unfolded. -/
theorem rows_unfold (siteId : String) : Unfolds rowKey Bucket.key (Bucket.rows siteId) where
  alike a b same := by
    obtain ⟨tenant, since, until_, label⟩ : a.tenantId = b.tenantId ∧ a.since = b.since ∧ a.until_ = b.until_ ∧
        labelOf a.row = labelOf b.row := by simpa [Bucket.key] using same
    simp [Bucket.rows, Bucket.event, rowKey, tenant, since, until_, label]
  apart a b x hx y hy same := by
    obtain ⟨suffix, member, keyX⟩ := mem_rows hx
    obtain ⟨suffix', member', keyY⟩ := mem_rows hy
    rw [keyX, keyY] at same
    obtain ⟨tenant, ids⟩ := Prod.mk.inj same
    obtain ⟨since, until_, rest⟩ := baseId_inj (Option.some.inj ids)
    rw [Bucket.key, Bucket.key, tenant, since, until_, (append_suffix_inj member member' rest).1]
  nodup b := by
    have different : baseId siteId b.since b.until_ (labelOf b.row) ++ ":pageviews" ≠
        baseId siteId b.since b.until_ (labelOf b.row) ++ ":visitors" :=
      fun same => suffixes_apart _ _ (baseId_inj same).2.2
    simp [Bucket.rows, Bucket.event, rowKey, different]

theorem ours_rows {b : Bucket} {e : EventRow} (member : e ∈ b.rows siteId) : ours siteId e = true ∧ content e = e := by
  have begins (suffix : String) : ("plausible:" ++ siteId ++ ":").toList <+:
      (baseId siteId b.since b.until_ (labelOf b.row) ++ suffix).toList := by
    rw [baseId_eq]
    exact List.prefix_append ..
  simp only [Bucket.rows, List.mem_cons, List.not_mem_nil, or_false] at member
  rcases member with rfl | rfl
  · exact ⟨decide_eq_true (begins _), rfl⟩
  · exact ⟨decide_eq_true (begins _), rfl⟩

end Keys

section Table

variable {siteId : String}

theorem rowKey_content (e : EventRow) : rowKey (content e) = rowKey e := rfl

theorem ours_of_rowKey_eq {a b : EventRow} (same : rowKey a = rowKey b) : ours siteId a = ours siteId b := by
  have ids : a.providerEventId = b.providerEventId := congrArg Prod.snd same
  unfold ours
  rw [ids]

theorem insertRow_events (s : AnalyticStore) (row : EventRow) :
    (insertRow s row).events = insertNew rowKey s.events { row with id := s.nextId } := by
  have same : (s.events.any fun other => other.tenantId = row.tenantId ∧ other.providerEventId = row.providerEventId) = true ↔
      rowKey { row with id := s.nextId } ∈ s.events.map rowKey := by
    simp [rowKey]
  unfold insertRow insertNew
  split
  · rename_i known
    rw [if_pos (same.mp known)]
  · rename_i free
    rw [if_neg fun known => free (same.mpr known)]

/-- Rows of the connector enter among those of the connector, and leave the others alone. -/
theorem insertRow_ours (s : AnalyticStore) {row : EventRow} (mine : ours siteId row = true) (plain : content row = row) :
    ((insertRow s row).events.filter (ours siteId)).map content =
        insertNew rowKey ((s.events.filter (ours siteId)).map content) row ∧
      (insertRow s row).events.filter (fun e => !ours siteId e) = s.events.filter fun e => !ours siteId e := by
  obtain ⟨new, events, mine, entered⟩ : ∃ new, (insertRow s row).events = insertNew rowKey s.events new ∧
      ours siteId new = true ∧ content new = row := ⟨_, insertRow_events s row, mine, plain⟩
  have apart : ∀ e ∈ s.events, ours siteId e = false → rowKey e ≠ rowKey new := by
    intro e _ foreign same
    rw [ours_of_rowKey_eq same] at foreign
    exact Bool.false_ne_true (foreign.symm.trans mine)
  rw [events]
  constructor
  · rw [filter_insertNew mine apart, map_insertNew rowKey_content, entered]
  · unfold insertNew
    split
    · rfl
    · rw [List.filter_append, List.filter_singleton, mine, Bool.not_true, cond_false, List.append_nil]

theorem foldl_insertRow_ours {rows : List EventRow} (mine : ∀ row ∈ rows, ours siteId row = true ∧ content row = row)
    (s : AnalyticStore) :
    ((rows.foldl insertRow s).events.filter (ours siteId)).map content =
        insertEach rowKey ((s.events.filter (ours siteId)).map content) rows ∧
      (rows.foldl insertRow s).events.filter (fun e => !ours siteId e) = s.events.filter fun e => !ours siteId e := by
  induction rows generalizing s with
  | nil => exact ⟨rfl, rfl⟩
  | cons row rows ih =>
    obtain ⟨here, plain⟩ := mine row (List.mem_cons_self ..)
    obtain ⟨first, others⟩ := insertRow_ours s here plain
    obtain ⟨rest, others'⟩ := ih (fun later member => mine later (List.mem_cons_of_mem _ member)) (insertRow s row)
    rw [List.foldl_cons, insertEach, List.foldl_cons, ← insertEach, ← first]
    exact ⟨rest, others'.trans others⟩

theorem length_filter_ours (siteId : String) (events : List EventRow) (p : EventRow → Bool) :
    (events.filter p).length = ((events.filter (ours siteId)).filter p).length +
      ((events.filter fun e => !ours siteId e).filter p).length := by
  have swap (q : EventRow → Bool) : (events.filter q).filter p = (events.filter p).filter q := by
    rw [List.filter_filter, List.filter_filter]
    exact List.filter_congr fun e _ => Bool.and_comm ..
  rw [swap, swap, ← List.length_eq_length_filter_add]

end Table

section Syncs

variable [PyText] [PlausibleText] {siteId : String}

theorem rowOf_bucketEvent (q : Sync) (cache : Dict String (Option Uuid)) {row : Dict String Json} {suffix metric : String}
    {kind : EventKind} {value : Decimal} (counted : metricOf row metric = .ok value) :
    rowOf q.tenantId cache (bucketEvent siteId q.since q.now row suffix kind value) =
      (q.bucket siteId cache row).event siteId suffix kind metric := by
  have payload : ∀ name : Option String, setDefault [("utm_campaign", utmOf row), ("raw", .obj row)] "utm_campaign" name =
      [("utm_campaign", utmOf row), ("raw", .obj row)] := by
    intro name
    unfold setDefault
    split
    · rfl
    · simp [Dict.get?]
  simp only [rowOf, bucketEvent, payload, Bucket.event, Sync.bucket, counted]
  rfl

theorem bucketEvents_ok (q : Sync) (cache : Dict String (Option Uuid)) {row : Dict String Json} {events : List WebAnalyticsEvent}
    (built : bucketEvents siteId q.since q.now row = .ok events) :
    events.map (rowOf q.tenantId cache) = (q.bucket siteId cache row).rows siteId ∧ events.length = 2 := by
  simp only [bucketEvents, bind_eq_ok] at built
  obtain ⟨pageviews, first, visitors, second, _, _, built⟩ := built
  cases built
  exact ⟨by rw [List.map_cons, List.map_singleton, rowOf_bucketEvent q cache first, rowOf_bucketEvent q cache second]; rfl, rfl⟩

theorem mapM_bucketEvents_ok (q : Sync) (cache : Dict String (Option Uuid)) {rows : List (Dict String Json)}
    {groups : List (List WebAnalyticsEvent)} (built : rows.mapM (bucketEvents siteId q.since q.now) = .ok groups) :
    groups.flatten.map (rowOf q.tenantId cache) = (rows.map (q.bucket siteId cache)).flatMap (Bucket.rows siteId) ∧
      groups.flatten.length = 2 * rows.length := by
  induction rows generalizing groups with
  | nil =>
    rw [List.mapM_nil, pure_eq_ok] at built
    subst built
    exact ⟨rfl, rfl⟩
  | cons row rows ih =>
    simp only [List.mapM_cons, bind_eq_ok, pure_eq_ok] at built
    obtain ⟨events, first, later, rest, rfl⟩ := built
    obtain ⟨mapped, two⟩ := bucketEvents_ok q cache first
    obtain ⟨below, length⟩ := ih rest
    rw [List.flatten_cons, List.map_append, mapped, below, List.length_append, two, length, List.map_cons, List.flatMap_cons,
      List.length_cons]
    exact ⟨rfl, by omega⟩

/-- The events of an answer become the rows of its buckets. -/
theorem fetchEvents_ok (q : Sync) (cache : Dict String (Option Uuid)) {data : Json} {events : List WebAnalyticsEvent}
    (fetched : fetchEvents siteId q.since q.now data = .ok events) :
    ∃ rows, resultsOf data = .ok rows ∧
      events.map (rowOf q.tenantId cache) = (rows.map (q.bucket siteId cache)).flatMap (Bucket.rows siteId) ∧
      events.length = 2 * rows.length := by
  simp only [fetchEvents, bind_eq_ok] at fetched
  obtain ⟨rows, read, groups, built, joined⟩ := fetched
  cases joined
  exact ⟨rows, read, mapM_bucketEvents_ok q cache built⟩

variable [LikeErrors]

/-- A sync that goes through enters the rows of its buckets, and counts them. -/
theorem plausibleSync_ok {s s' : AnalyticStore} {q : Sync} {r : PlausibleSyncResponse}
    (done : plausibleSync siteId s q = .ok (s', r)) :
    ∃ buckets, q.buckets siteId = .ok buckets ∧ s' = (buckets.flatMap (Bucket.rows siteId)).foldl insertRow s ∧
      r.fetched = 2 * buckets.length ∧ r.imported = s'.events.length - s.events.length ∧
      r.duplicates = r.fetched - r.imported := by
  simp only [plausibleSync, bind_eq_ok] at done
  obtain ⟨data, answered, events, fetched, ⟨after, summary⟩, ingested, done⟩ := done
  cases done
  simp only [ingestEvents, attributeEvents, bind_eq_ok] at ingested
  obtain ⟨_, ⟨cache, filled, built⟩, _, fits, ingested⟩ := ingested
  obtain ⟨rows, read, mapped, length⟩ := fetchEvents_ok q cache fetched
  cases built
  simp only [foldl_enterEvent, List.nil_append, mapped] at fits ingested
  cases ingested
  refine ⟨rows.map (q.bucket siteId cache), ?_, rfl, by rw [length, List.length_map], rfl, rfl⟩
  simp only [Sync.buckets, bind_eq_ok]
  exact ⟨data, answered, rows, read, events, fetched, cache, filled, (), fits, rfl⟩

/-- A sync whose buckets are there goes through. -/
theorem plausibleSync_of_buckets {q : Sync} {buckets : List Bucket} (there : q.buckets siteId = .ok buckets)
    (s : AnalyticStore) : ∃ r, plausibleSync siteId s q = .ok ((buckets.flatMap (Bucket.rows siteId)).foldl insertRow s, r) := by
  simp only [Sync.buckets, bind_eq_ok] at there
  obtain ⟨data, answered, rows, read, events, fetched, cache, filled, _, fits, there⟩ := there
  cases there
  obtain ⟨rows', read', mapped, _⟩ := fetchEvents_ok q cache fetched
  cases read.symm.trans read'
  rw [← mapped] at fits ⊢
  simp only [plausibleSync, ingestEvents, attributeEvents, bind_eq_ok, foldl_enterEvent, List.nil_append]
  exact ⟨_, data, answered, events, fetched, _, ⟨_, ⟨cache, filled, rfl⟩, (), fits, rfl⟩, rfl⟩

theorem ledger_append (ops more : List AnalyticOp) :
    ledger siteId (ops ++ more) = insertEach Bucket.key (ledger siteId ops) (more.flatMap (reported siteId)) := by
  rw [ledger, List.flatMap_append, insertEach_append]
  rfl

/-- The rows of the connector are those of the buckets. -/
def Recorded (siteId : String) (ops : List AnalyticOp) (s : AnalyticStore) : Prop :=
  (s.events.filter (ours siteId)).map content = (ledger siteId ops).flatMap (Bucket.rows siteId)

omit [LikeErrors] in
theorem ours_flatMap {buckets : List Bucket} :
    ∀ e ∈ buckets.flatMap (Bucket.rows siteId), ours siteId e = true ∧ content e = e := by
  intro e member
  obtain ⟨_, _, inside⟩ := List.mem_flatMap.mp member
  exact ours_rows inside

theorem Recorded.buckets {ops : List AnalyticOp} {s : AnalyticStore} (recorded : Recorded siteId ops s) {q : Sync}
    {buckets : List Bucket} (there : q.buckets siteId = .ok buckets) :
    Recorded siteId (ops ++ [.sync q]) ((buckets.flatMap (Bucket.rows siteId)).foldl insertRow s) := by
  have reports : [AnalyticOp.sync q].flatMap (reported siteId) = buckets := by
    rw [List.flatMap_singleton, reported, there]
    rfl
  unfold Recorded
  rw [(foldl_insertRow_ours ours_flatMap s).1, recorded, (rows_unfold siteId).insertEach, ledger_append, reports]

theorem Recorded.step {ops : List AnalyticOp} {s : AnalyticStore} (recorded : Recorded siteId ops s) {op : AnalyticOp}
    (foreign : op.Foreign siteId) : Recorded siteId (ops ++ [op]) (step siteId s op) := by
  cases op with
  | sync q =>
    simp only [WebAnalytics.step]
    cases done : plausibleSync siteId s q with
    | ok result =>
      obtain ⟨buckets, there, equal, _⟩ := plausibleSync_ok done
      simp only [equal]
      exact recorded.buckets there
    | error error =>
      have none_ : reported siteId (.sync q) = [] := by
        rw [reported]
        cases there : q.buckets siteId with
        | error _ => rfl
        | ok buckets =>
          obtain ⟨_, through⟩ := plausibleSync_of_buckets there s
          cases done.symm.trans through
      rw [Recorded, ledger_append, List.flatMap_singleton, none_]
      exact recorded
  | entered rows =>
    have unseen : rows.filter (ours siteId) = [] :=
      List.filter_eq_nil_iff.mpr fun row member mine => Bool.false_ne_true ((foreign row member).symm.trans mine)
    rw [Recorded, ledger_append, List.flatMap_singleton]
    simp only [WebAnalytics.step, List.filter_append, unseen, List.append_nil]
    exact recorded

theorem Recorded.run {before : List AnalyticOp} {s : AnalyticStore} (recorded : Recorded siteId before s)
    {ops : List AnalyticOp} (foreign : ∀ op ∈ ops, op.Foreign siteId) :
    Recorded siteId (before ++ ops) (Lib.run (WebAnalytics.step siteId) s ops) := by
  induction ops generalizing before s with
  | nil =>
    rw [List.append_nil]
    exact recorded
  | cons op ops ih =>
    rw [List.append_cons]
    exact ih (recorded.step (foreign op (List.mem_cons_self ..))) fun later member =>
      foreign later (List.mem_cons_of_mem _ member)

/-- What a sync reports of its own work is what the buckets grow by. -/
theorem Recorded.response {ops : List AnalyticOp} {s s' : AnalyticStore} (recorded : Recorded siteId ops s) {q : Sync}
    {r : PlausibleSyncResponse} (done : plausibleSync siteId s q = .ok (s', r)) :
    r.fetched = 2 * (reported siteId (.sync q)).length ∧
      r.imported + 2 * (ledger siteId ops).length = 2 * (ledger siteId (ops ++ [.sync q])).length ∧
      r.duplicates = r.fetched - r.imported := by
  obtain ⟨buckets, there, rfl, fetched, imported, duplicates⟩ := plausibleSync_ok done
  refine ⟨by rw [fetched, reported, there]; rfl, ?_, duplicates⟩
  have after := recorded.buckets there
  have mine : ∀ row ∈ buckets.flatMap (Bucket.rows siteId), ours siteId row = true ∧ content row = row := ours_flatMap
  have others := (foldl_insertRow_ours mine s).2
  have two : ∀ buckets : List Bucket, (buckets.flatMap (Bucket.rows siteId)).length = 2 * buckets.length := by
    intro buckets
    simp [List.length_flatMap, Bucket.rows, Nat.mul_comm]
  have split (s : AnalyticStore) : s.events.length =
      ((s.events.filter (ours siteId)).map content).length + (s.events.filter fun e => !ours siteId e).length := by
    rw [List.length_map, List.length_eq_length_filter_add (ours siteId)]
  rw [imported, split s, split, others, after, recorded, two, two]
  have grows : (ledger siteId ops).length ≤ (ledger siteId (ops ++ [.sync q])).length := by
    rw [ledger_append]
    exact prefix_insertEach.length_le
  omega

end Syncs

section Rollup

variable [PyText] [PlausibleText] [JsonbText] {siteId : String}

/-- The events that the roll-up counts under a kind. -/
def rolledUp (tables : EventStore) (tenantId campaignId : Uuid) (channelId contentAssetId : Option Uuid) (kind : EventKind)
    (e : EventRow) : Bool :=
  tables.baseFilter tenantId campaignId channelId contentAssetId e && decide (e.eventType = kind)

omit [PyText] [PlausibleText] in
theorem kpis_count {tables : EventStore} {tenantId campaignId : Uuid} {channelId contentAssetId : Option Uuid} {now : Int}
    {kind : EventKind} (member : kind ∈ [EventKind.impression, .click]) :
    (computeCampaignKpis tables tenantId campaignId channelId contentAssetId now).kpis.count kind =
      (tables.events.filter (rolledUp tables tenantId campaignId channelId contentAssetId kind)).length := by
  have split : tables.events.filter (rolledUp tables tenantId campaignId channelId contentAssetId kind) =
      (tables.events.filter (tables.baseFilter tenantId campaignId channelId contentAssetId)).filter (·.eventType = kind) := by
    rw [List.filter_filter]
    exact List.filter_congr fun e _ => Bool.and_comm ..
  simp only [List.mem_cons, List.not_mem_nil, or_false] at member
  rw [split]
  rcases member with rfl | rfl
  · exact byKind_count _ (by decide)
  · exact byKind_count _ (by decide)

/-- A stored bucket has no channel and no message id: it is found by its campaign alone. -/
theorem baseFilter_event (tables : EventStore) (tenantId campaignId : Uuid) (channelId contentAssetId : Option Uuid) (b : Bucket)
    (suffix metric : String) (kind : EventKind) :
    tables.baseFilter tenantId campaignId channelId contentAssetId (b.event siteId suffix kind metric) =
      decide (channelId = none ∧ contentAssetId = none ∧ b.tenantId = tenantId ∧ b.campaignId = some campaignId) := by
  have message : (b.event siteId suffix kind metric).sgMessageId = none := by
    simp [EventRow.sgMessageId, Bucket.event, Dict.get?, astext]
  have linked (owns : ContentAsset → Bool) : tables.linkedBy tenantId owns (b.event siteId suffix kind metric) = false := by
    simp [EventStore.linkedBy, message]
  have ofAsset (asset : Uuid) : tables.assetIndirect tenantId asset (b.event siteId suffix kind metric) = false := by
    simp [EventStore.assetIndirect, message]
  have columns : (b.event siteId suffix kind metric).tenantId = b.tenantId ∧
      (b.event siteId suffix kind metric).campaignId = b.campaignId ∧ (b.event siteId suffix kind metric).channelId = none :=
    ⟨rfl, rfl, rfl⟩
  cases channelId with
  | some channel => simp [EventStore.baseFilter, EventStore.channelIndirect, linked, columns]
  | none =>
    cases contentAssetId with
    | some asset => simp [EventStore.baseFilter, ofAsset]
    | none => simp [EventStore.baseFilter, EventStore.indirectExists, linked, columns]

/-- A roll-up of all of a campaign counts one row of a bucket; one of a channel or an asset, none. -/
theorem rolledUp_rows (tables : EventStore) (tenantId campaignId : Uuid) (channelId contentAssetId : Option Uuid)
    {kind : EventKind} (member : kind ∈ [EventKind.impression, .click]) (b : Bucket) :
    ((b.rows siteId).filter (rolledUp tables tenantId campaignId channelId contentAssetId kind)).length =
      if decide (channelId = none ∧ contentAssetId = none ∧ b.tenantId = tenantId ∧ b.campaignId = some campaignId) = true
        then 1 else 0 := by
  have kinds : (b.event siteId ":pageviews" .impression "pageviews").eventType = .impression ∧
      (b.event siteId ":visitors" .click "visitors").eventType = .click := ⟨rfl, rfl⟩
  simp only [List.mem_cons, List.not_mem_nil, or_false] at member
  rcases member with rfl | rfl <;> split <;> rename_i counted <;>
    simp [Bucket.rows, rolledUp, baseFilter_event, kinds, counted]

variable [LikeErrors]

/-- The buckets of a campaign are counted beside the rows of the other writers. -/
theorem Recorded.counted {ops : List AnalyticOp} {s : AnalyticStore} (recorded : Recorded siteId ops s) {tables : EventStore}
    (stored : tables.events = s.events) (tenantId campaignId : Uuid) (channelId contentAssetId : Option Uuid) (now : Int)
    {kind : EventKind} (member : kind ∈ [EventKind.impression, .click]) :
    (computeCampaignKpis tables tenantId campaignId channelId contentAssetId now).kpis.count kind =
      ((ledger siteId ops).filter fun b =>
        channelId = none ∧ contentAssetId = none ∧ b.tenantId = tenantId ∧ b.campaignId = some campaignId).length +
      ((s.events.filter fun e => !ours siteId e).filter
        (rolledUp tables tenantId campaignId channelId contentAssetId kind)).length := by
  have mine : ((s.events.filter (ours siteId)).filter
      (rolledUp tables tenantId campaignId channelId contentAssetId kind)).length = ((ledger siteId ops).filter fun b =>
        channelId = none ∧ contentAssetId = none ∧ b.tenantId = tenantId ∧ b.campaignId = some campaignId).length := by
    calc ((s.events.filter (ours siteId)).filter (rolledUp tables tenantId campaignId channelId contentAssetId kind)).length
        = (((s.events.filter (ours siteId)).map content).filter
            (rolledUp tables tenantId campaignId channelId contentAssetId kind)).length := by
          rw [List.filter_map, List.length_map]
          rfl
      _ = ((ledger siteId ops).flatMap fun b =>
            (b.rows siteId).filter (rolledUp tables tenantId campaignId channelId contentAssetId kind)).length := by
          rw [recorded, List.filter_flatMap]
      _ = _ := length_flatMap_of_one (rolledUp_rows tables tenantId campaignId channelId contentAssetId member) _
  rw [kpis_count member, stored, length_filter_ours siteId, mine]

/-- Whatever syncs and other writers do, in any order: the connector's rows are the
first bucket of every tenant, window and name, as one impression and one click; a
roll-up counts these and not the views they stand for; and the response of a
further sync says by how much the rows grow. -/
theorem windows_count_once (siteId : String) (ops : List AnalyticOp) (foreign : ∀ op ∈ ops, op.Foreign siteId)
    {s : AnalyticStore} (reached : s = Lib.run (step siteId) {} ops) :
    (s.events.filter (ours siteId)).map content = (ledger siteId ops).flatMap (Bucket.rows siteId) ∧
      ((ledger siteId ops).map Bucket.key).Nodup ∧
      (∀ k, (ledger siteId ops).find? (fun b => b.key = k) = (ops.flatMap (reported siteId)).find? fun b => b.key = k) ∧
      (∀ tables : EventStore, tables.events = s.events → ∀ tenantId campaignId channelId contentAssetId now,
        ∀ kind ∈ [EventKind.impression, .click],
          (computeCampaignKpis tables tenantId campaignId channelId contentAssetId now).kpis.count kind =
            ((ledger siteId ops).filter fun b => channelId = none ∧ contentAssetId = none ∧ b.tenantId = tenantId ∧
              b.campaignId = some campaignId).length +
            ((s.events.filter fun e => !ours siteId e).filter
              (rolledUp tables tenantId campaignId channelId contentAssetId kind)).length) ∧
      ∀ q s' r, plausibleSync siteId s q = .ok (s', r) →
        r.fetched = 2 * (reported siteId (.sync q)).length ∧
          r.imported + 2 * (ledger siteId ops).length = 2 * (ledger siteId (ops ++ [.sync q])).length ∧
          r.duplicates = r.fetched - r.imported := by
  have recorded : Recorded siteId ops s := by
    have start : Recorded siteId [] {} := rfl
    rw [reached]
    exact start.run foreign
  exact ⟨recorded, insertEach_nodup List.nodup_nil, find?_insertEach,
    fun tables stored tenantId campaignId channelId contentAssetId now kind member =>
      recorded.counted stored tenantId campaignId channelId contentAssetId now member,
    fun q s' r done => recorded.response done⟩

end Rollup

namespace Windows

/-- Days in unary, and the integers as floats. -/
@[reducible] def unary : PlausibleText where
  dateIso day := String.ofList (if 0 ≤ day then List.replicate day.toNat '1' else '-' :: List.replicate (-day).toNat '1')
  floatOf
    | .int n => some n
    | _ => none
  dateIso_injective {a b} same := by
    have letters := String.ofList_injective same
    by_cases first : 0 ≤ a <;> by_cases last : 0 ≤ b
    · rw [if_pos first, if_pos last] at letters
      have length := congrArg List.length letters
      rw [List.length_replicate, List.length_replicate] at length
      omega
    · rw [if_pos first, if_neg last] at letters
      have sign : '-' ∈ List.replicate a.toNat '1' := letters ▸ List.mem_cons_self ..
      exact absurd (List.eq_of_mem_replicate sign) (by decide)
    · rw [if_neg first, if_pos last] at letters
      have sign : '-' ∈ List.replicate b.toNat '1' := letters ▸ List.mem_cons_self ..
      exact absurd (List.eq_of_mem_replicate sign) (by decide)
    · rw [if_neg first, if_neg last] at letters
      have length := congrArg List.length letters
      rw [List.length_cons, List.length_cons, List.length_replicate, List.length_replicate] at length
      omega
  dateIso_colon day colon := by
    rw [String.toList_ofList] at colon
    split at colon
    · exact absurd (List.eq_of_mem_replicate colon) (by decide)
    · rcases List.mem_cons.mp colon with sign | later
      · exact absurd sign (by decide)
      · exact absurd (List.eq_of_mem_replicate later) (by decide)

local instance windowsText : PyText := PyText.plain

local instance windowsDays : PlausibleText := unary

local instance windowsErrors : LikeErrors := ⟨fun _ _ => false⟩

local instance windowsJsonb : JsonbText := JsonbText.plain

/-- A sync of the first week that finds so many views of one campaign, and some without a name. -/
def week (views : Int) : Sync where
  campaigns := [named "Spring"]
  tenantId := 1
  now := 7 * 86400000000
  answer := .ok (.obj [("results", .arr [.obj [("visit:utm_campaign", .str "Spring"), ("pageviews", .int views)],
    .obj [("pageviews", .int 1), ("visitors", .int 1)]])])

def clicked : EventRow where
  id := 9
  tenantId := 1
  eventType := .click
  payload := []
  providerEventId := some "sg-1"
  eventAt := 0
  campaignId := some 1

def weekOps : List AnalyticOp := [.sync (week 5), .entered [clicked], .sync (week 9)]

/-- The week synced again with more views, and a click from elsewhere in between. -/
theorem windows_count_once_week :
    ((ledger "acme" weekOps).map fun b => (b.key, b.campaignId)) = [((1, 0, 7, "Spring"), some 1), ((1, 0, 7, "none"), none)] ∧
      (computeCampaignKpis { events := (Lib.run (step "acme") {} weekOps).events } 1 1 none none 0).kpis.count .click = 2 := by
  have foreign : ∀ op ∈ weekOps, op.Foreign "acme" := by
    have elsewhere : ∀ row ∈ [clicked], ours "acme" row = false := by decide +kernel
    simpa [weekOps, AnalyticOp.Foreign] using elsewhere
  have counted := (windows_count_once "acme" weekOps foreign rfl).2.2.2.1 { events := (Lib.run (step "acme") {} weekOps).events }
    rfl 1 1 none none 0 .click (by decide)
  exact ⟨by decide +kernel, counted.trans (by decide +kernel)⟩

end Windows

end WebAnalytics

end MarketingAgents

import Mathlib.Algebra.Ring.Nat
import MarketingAgents.Lib.Retry
import MarketingAgents.Tools.ModelReply

namespace MarketingAgents

open Lib PyText

namespace CopywritingTool

/-- `_DEFAULT_LENGTH_CONSTRAINTS`. -/
def defaultLengthConstraints : Dict String (Dict String Nat) :=
  [("email", [("subject", 78), ("preheader", 110), ("body", 1500), ("cta", 40)]),
    ("linkedin", [("headline", 150), ("body", 1300), ("cta", 40)]),
    ("x", [("body", 280)]),
    ("twitter", [("body", 280)]),
    ("ad_creative", [("headline", 40), ("body", 90), ("cta", 30), ("primary_text", 125)]),
    ("social_post", [("body", 600), ("cta", 40)]),
    ("sms", [("body", 160)]),
    ("blog_post", [("title", 70), ("meta_description", 160), ("body", 6000), ("cta", 60)]),
    ("landing_page_copy", [("headline", 90), ("body", 2000), ("cta", 60)])]

/-- `_REQUIRED_FIELDS`. -/
def requiredFields : Dict String (List String) :=
  [("email", ["subject", "preheader", "body", "cta"]),
    ("linkedin", ["headline", "body", "cta"]),
    ("x", ["body"]),
    ("twitter", ["body"]),
    ("ad_creative", ["headline", "body", "primary_text"]),
    ("social_post", ["body"]),
    ("sms", ["body"]),
    ("blog_post", ["title", "meta_description", "body"]),
    ("landing_page_copy", ["headline", "body", "cta"])]

/-- `_MAX_RETRIES`. -/
def maxRetries : Nat := 2

/-- `CopywritingError`, or another exception. -/
inductive CopywritingFailure where
  | copywriting (message : String)
  | raised (message : String)
deriving DecidableEq

/-- `_Attempt`, less the metrics, which are the lengths of the fields. -/
structure Attempt where
  fields : Dict String String
  /-- Each field over its budget, with the characters over it. -/
  overLimit : Dict String Nat
deriving DecidableEq

/-- `sum(over_limit.values())`. -/
def Attempt.overrun (a : Attempt) : Nat := (a.overLimit.map Prod.snd).sum

/-- A budget that counts: `isinstance(v, int) and v > 0`. -/
def budgetOf : Json → Option Nat
  | .int n => if 0 < n then some n.toNat else none
  | .bool true => some 1
  | _ => none

def resolveConstraints (channel : String) (callerSupplied : Option Json) : Dict String Nat :=
  ((callerSupplied.bind Json.dict?).getD []).foldl (fun constraints entry =>
    match budgetOf entry.2 with
    | some budget => constraints.set entry.1 budget
    | none => constraints) ((defaultLengthConstraints.get? channel).getD [])

/-- `_measure`. -/
def measure (constraints : Dict String Nat) (fields : Dict String String) : Attempt where
  fields := fields
  overLimit := constraints.filterMap fun entry =>
    match fields.get? entry.1 with
    | some text => if entry.2 < text.length then some (entry.1, text.length - entry.2) else none
    | none => none

/-- `length_warning`. -/
def Attempt.warning (a : Attempt) : Json := .obj (a.overLimit.map fun entry => (entry.1, Json.int entry.2))

/-- The fields as the tool returns them, with their metrics. -/
def Attempt.measured (a : Attempt) : Dict String Json :=
  Dict.set (a.fields.map fun entry => (entry.1, Json.str entry.2)) "length_metrics"
    (.obj (a.fields.map fun entry => (entry.1, Json.int entry.2.length)))

/-- What the tool returns for its best attempt. -/
def Attempt.output (a : Attempt) : Dict String Json :=
  if a.overLimit = [] then a.measured else Dict.set a.measured "length_warning" a.warning

section Tool

variable [PyText] [PyJson]

/-- `_parse_response`, for a channel with these required fields. -/
def parseCopy (channel : String) (required : List String) (raw : String) :
    Except CopywritingFailure (Dict String String) :=
  match PyJson.loads (replyText raw) with
  | .error (.decode exc) => .error (.copywriting ("model output was not valid JSON: " ++ exc))
  | .error (.raised message) => .error (.raised message)
  | .ok obj => do
    let entries ← orRaise obj.dict? (.copywriting "model output was not a JSON object")
    let fields := entries.filterMap fun entry => entry.2.str?.map fun text => (entry.1, text)
    let missing := required.filter fun field => (Dict.get? fields field).getD "" = ""
    require (missing = []) (.copywriting ("model output missing required field(s) for " ++ channel ++ ": " ++
      str (.arr (missing.map Json.str))))
    pure fields

/-- `_call_model` and `_parse_response`. -/
def copyReply (channel : String) (required : List String) : ModelMessage → Except CopywritingFailure (Dict String String)
  | .raised message => .error (.raised message)
  | .noText => .error (.copywriting "model returned no text content")
  | .text raw => parseCopy channel required raw

omit [PyText] [PyJson] in
/-- The loop of `call`, over the attempts in order. -/
def bestAttempt (attempt : Nat → Except CopywritingFailure Attempt) :
    Nat → Nat → Option Attempt → Except CopywritingFailure (Option Attempt)
  | 0, _, best => .ok best
  | left + 1, made, best => do
    let next ← attempt made
    if next.overLimit = [] then pure (some next)
    else match best with
      | some kept => bestAttempt attempt left (made + 1) (some (if next.overrun < kept.overrun then next else kept))
      | none => bestAttempt attempt left (made + 1) (some next)

/-- `str(clean.get("channel", "")).lower()`. -/
def channelOf (inputs : Dict String Json) : String := lower (str ((inputs.get? "channel").getD (.str "")))

def constraintsOf (inputs : Dict String Json) : Dict String Nat :=
  resolveConstraints (channelOf inputs) (inputs.get? "length_constraints")

/-- `call`; `messages` is what the model answers, in order. -/
def call (inputs : Dict String Json) (messages : Nat → ModelMessage) : Except CopywritingFailure (Dict String Json) := do
  let channel := channelOf inputs
  let required ← orRaise (requiredFields.get? channel) (.copywriting ("unsupported channel '" ++ channel ++ "'"))
  let best ← bestAttempt (fun i => (copyReply channel required (messages i)).map (measure (constraintsOf inputs)))
    (maxRetries + 1) 0 none
  let best ← orRaise best (.raised "AssertionError")
  pure best.output

end Tool

section Measured

theorem overrun_eq_zero {constraints : Dict String Nat} {fields : Dict String String} :
    (measure constraints fields).overrun = 0 ↔ (measure constraints fields).overLimit = [] := by
  have positive : ∀ entry ∈ (measure constraints fields).overLimit, entry.2 ≠ 0 := by
    intro entry member
    obtain ⟨budget, _, exceeding⟩ := List.mem_filterMap.mp member
    split at exceeding
    · split at exceeding
      · rename_i exceeds
        cases exceeding
        exact Nat.sub_ne_zero_of_lt exceeds
      · cases exceeding
    · cases exceeding
  rw [Attempt.overrun, List.sum_eq_zero_iff_forall_eq_nat]
  constructor
  · intro zero
    refine List.eq_nil_iff_forall_not_mem.mpr fun entry member => positive entry member ?_
    exact zero entry.2 (List.mem_map_of_mem member)
  · intro none
    simp [none]

/-- The loop is one of attempts that counts the characters over the budgets. -/
theorem bestAttempt_eq {constraints : Dict String Nat} {replies : Nat → Except CopywritingFailure (Dict String String)}
    (left made : Nat) (best : Option Attempt) :
    bestAttempt (fun i => (replies i).map (measure constraints)) left made best =
      (attempts (fun i => (replies i).map (measure constraints)) Attempt.overrun left made best).map Prod.fst := by
  induction left generalizing made best with
  | zero => rfl
  | succ left ih =>
    rw [bestAttempt, attempts]
    cases replies made with
    | error error => rfl
    | ok fields =>
      have zero : (measure constraints fields).overrun = 0 ↔ (measure constraints fields).overLimit = [] :=
        overrun_eq_zero
      simp only [Except.map, bind, Except.bind] at ih ⊢
      by_cases within : (measure constraints fields).overLimit = []
      · rw [if_pos within, if_pos (zero.mpr within)]
        rfl
      · rw [if_neg within, if_neg fun free => within (zero.mp free)]
        cases best with
        | none => exact ih ..
        | some kept => exact ih ..

/-- Besides its metrics, the output shows the fields of the attempt, and what is over budget. -/
structure Shows (out : Dict String Json) (a : Attempt) : Prop where
  fields : ∀ key, key ≠ "length_metrics" → key ≠ "length_warning" → out.get? key = (Dict.get? a.fields key).map Json.str
  warning : out.get? "length_warning" = if a.overLimit = [] then none else some a.warning

theorem get?_measured (a : Attempt) {key : String} (other : key ≠ "length_metrics") :
    Dict.get? a.measured key = (Dict.get? a.fields key).map Json.str := by
  have mapped : ∀ fields : Dict String String,
      Dict.get? (fields.map fun entry => (entry.1, Json.str entry.2)) key = (Dict.get? fields key).map Json.str := by
    intro fields
    induction fields with
    | nil => rfl
    | cons entry fields ih =>
      rw [List.map_cons, Dict.get?, Dict.get?, ih]
      split <;> rfl
  rw [Attempt.measured, Dict.get?_set_ne _ _ other.symm, mapped]

/-- The output fails to show an attempt only by a field that passes for a warning. -/
theorem shows_output_iff (a : Attempt) :
    Shows a.output a ↔ (a.overLimit = [] → Dict.get? a.fields "length_warning" = none) := by
  have others : ∀ key, key ≠ "length_metrics" → key ≠ "length_warning" →
      a.output.get? key = (Dict.get? a.fields key).map Json.str := by
    intro key metrics warning
    rw [Attempt.output]
    split
    · exact get?_measured a metrics
    · rw [Dict.get?_set_ne _ _ warning.symm, get?_measured a metrics]
  by_cases within : a.overLimit = []
  · have plain : a.output.get? "length_warning" = (Dict.get? a.fields "length_warning").map Json.str := by
      rw [Attempt.output, if_pos within, get?_measured a (by decide)]
    constructor
    · rintro ⟨_, warning⟩ _
      rw [plain, if_pos within, Option.map_eq_none_iff] at warning
      exact warning
    · intro none
      exact ⟨others, by rw [plain, none within, if_pos within]; rfl⟩
  · refine iff_of_true ⟨others, ?_⟩ fun empty => absurd empty within
    rw [Attempt.output, if_neg within, if_neg within, Dict.get?_set_self]

end Measured

section Best

variable [PyText] [PyJson] {inputs : Dict String Json} {messages : Nat → ModelMessage} {required : List String}

/-- The attempt that answers the call numbered `i`, where the channel has these required fields. -/
def usable (inputs : Dict String Json) (required : List String) (messages : Nat → ModelMessage) (i : Nat) :
    Except CopywritingFailure Attempt :=
  (copyReply (channelOf inputs) required (messages i)).map (measure (constraintsOf inputs))

/-- Of the usable attempts the first within all budgets, or else the earliest of
those that are over by the least. -/
def Best (inputs : Dict String Json) (required : List String) (messages : Nat → ModelMessage) (a : Attempt) : Prop :=
  ∃ i < maxRetries + 1, usable inputs required messages i = .ok a ∧
    ∀ j < maxRetries + 1, ∀ b, usable inputs required messages j = .ok b →
      a.overrun ≤ b.overrun ∧ (j < i → a.overrun < b.overrun)

theorem best_iff {a : Attempt} : Best inputs required messages a ↔
    ∃ i, Cheapest (usable inputs required messages) Attempt.overrun (maxRetries + 1) i a := by
  constructor
  · rintro ⟨i, within, returns, least⟩
    exact ⟨i, within, returns, fun j b inside other => (least j inside b other).1,
      fun j b early other => (least j (early.trans within) b other).2 early⟩
  · rintro ⟨i, cheapest⟩
    exact ⟨i, cheapest.within, cheapest.returns, fun j inside b other =>
      ⟨cheapest.least j b inside other, fun early => cheapest.earliest j b early other⟩⟩

/-- If an attempt is usable, the call returns the best one. -/
def WritesBest (inputs : Dict String Json) (required : List String) (messages : Nat → ModelMessage) : Prop :=
  (∃ i < maxRetries + 1, ∃ a, usable inputs required messages i = .ok a) →
    ∃ out a, call inputs messages = .ok out ∧ Best inputs required messages a ∧ Shows out a

/-- Every attempt is usable that comes before one within all budgets. -/
def UsableUntilWithin (inputs : Dict String Json) (required : List String) (messages : Nat → ModelMessage) : Prop :=
  ∀ i < maxRetries + 1, (∀ j < i, ∀ b, usable inputs required messages j = .ok b → b.overLimit ≠ []) →
    ∃ a, usable inputs required messages i = .ok a

theorem usableUntilWithin_iff : UsableUntilWithin inputs required messages ↔
    Goes (usable inputs required messages) Attempt.overrun (maxRetries + 1) := by
  have measured : ∀ j b, usable inputs required messages j = .ok b → (b.overrun = 0 ↔ b.overLimit = []) := by
    intro j b returns
    unfold usable at returns
    cases reply : copyReply (channelOf inputs) required (messages j) with
    | error failure =>
      rw [reply] at returns
      cases returns
    | ok fields =>
      rw [reply] at returns
      cases returns
      exact overrun_eq_zero
  refine forall₂_congr fun i _ => imp_congr_left ?_
  refine forall₂_congr fun j _ => forall₂_congr fun b returns => ?_
  rw [Ne, Ne, measured j b returns]

theorem call_ok_iff (supported : requiredFields.get? (channelOf inputs) = some required) {out : Dict String Json} :
    call inputs messages = .ok out ↔ ∃ a last,
      attempts (usable inputs required messages) Attempt.overrun (maxRetries + 1) 0 none = .ok (some a, last) ∧
        a.output = out := by
  simp only [call, bind_eq_ok, orRaise_eq_ok, pure_eq_ok, bestAttempt_eq, map_eq_ok]
  constructor
  · rintro ⟨required', supported', best, ⟨⟨result, last⟩, made, rfl⟩, a, rfl, shown⟩
    cases Option.some.inj (supported.symm.trans supported')
    exact ⟨a, last, made, shown⟩
  · rintro ⟨a, last, made, shown⟩
    exact ⟨required, supported, some a, ⟨(some a, last), made, rfl⟩, a, rfl, shown⟩

/-- For every channel and all budgets: with a usable attempt at hand the call
returns the best one and its overruns, exactly where every attempt up to the
first one within all budgets is usable, and that one, if it exists, has no field
of the name of the warning. -/
theorem writesBest_iff (supported : requiredFields.get? (channelOf inputs) = some required) :
    WritesBest inputs required messages ↔
      (∀ i < maxRetries + 1, ∀ a, usable inputs required messages i ≠ .ok a) ∨
        UsableUntilWithin inputs required messages ∧ ∀ a, Best inputs required messages a → a.overLimit = [] →
          Dict.get? a.fields "length_warning" = none := by
  have three : 0 < maxRetries + 1 := Nat.succ_pos maxRetries
  by_cases some : ∃ i < maxRetries + 1, ∃ a, usable inputs required messages i = .ok a
  · have notNone : ¬ ∀ i < maxRetries + 1, ∀ a, usable inputs required messages i ≠ .ok a := by
      obtain ⟨i, within, a, returns⟩ := some
      exact fun none => none i within a returns
    rw [WritesBest, usableUntilWithin_iff, or_iff_right notNone]
    constructor
    · intro writes
      obtain ⟨out, a, done, best, shows⟩ := writes some
      obtain ⟨a', last, made, rfl⟩ := (call_ok_iff supported).mp done
      obtain ⟨i, cheapest⟩ := best_iff.mp best
      have goes := attempts_ok_iff.mp ⟨_, made⟩
      obtain ⟨i', a'', same, cheapest'⟩ := attempts_ok three made
      cases same
      obtain ⟨_, rfl⟩ := cheapest.unique cheapest'
      refine ⟨goes, fun b best' => ?_⟩
      obtain ⟨_, other⟩ := best_iff.mp best'
      obtain ⟨_, rfl⟩ := other.unique cheapest
      exact (shows_output_iff b).mp shows
    · rintro ⟨goes, unnamed⟩ _
      obtain ⟨i, a, last, cheapest, made⟩ := (attempts_iff three).mpr goes
      have best := best_iff.mpr ⟨i, cheapest⟩
      exact ⟨a.output, a, (call_ok_iff supported).mpr ⟨a, last, made, rfl⟩, best,
        (shows_output_iff a).mpr (unnamed a best)⟩
  · have none : ∀ i < maxRetries + 1, ∀ a, usable inputs required messages i ≠ .ok a := fun i within a returns =>
      some ⟨i, within, a, returns⟩
    exact iff_of_true (fun usable => absurd usable some) (Or.inl none)

end Best

local instance copyText : PyText := PyText.plain

/-- One object with a body of two characters; nothing else is JSON. -/
local instance copyJson : PyJson where
  loads text :=
    if text = "\x7b\"body\": \"Hi\"\x7d" then .ok (.obj [("body", .str "Hi")])
    else .error (.decode "Expecting value: line 1 column 1 (char 0)")

/-- Copy for x of so many characters at most. -/
private def short (budget : Int) : Dict String Json :=
  [("channel", .str "x"), ("asset_type", .str "social_post"), ("brief", .str "launch"),
    ("length_constraints", .obj [("body", .int budget)])]

/-- A body first, and then no JSON. -/
private def greeting : Nat → ModelMessage
  | 0 => .text "\x7b\"body\": \"Hi\"\x7d"
  | _ => .text "Sorry, I cannot make it shorter."

/-- The first attempt is usable and one character too long; the call fails on the retry. -/
theorem usable_attempt_is_lost :
    usable (short 1) ["body"] greeting 0 = .ok ⟨[("body", "Hi")], [("body", 1)]⟩ ∧
      call (short 1) greeting =
        .error (.copywriting "model output was not valid JSON: Expecting value: line 1 column 1 (char 0)") := by
  decide +kernel

/-- Within five characters the first attempt will do. -/
theorem writesBest_iff_within :
    WritesBest (short 5) ["body"] fun _ => .text "\x7b\"body\": \"Hi\"\x7d" := by
  have each : ∀ i, usable (short 5) ["body"] (fun _ => .text "\x7b\"body\": \"Hi\"\x7d") i = .ok ⟨[("body", "Hi")], []⟩ := by
    have first : usable (short 5) ["body"] (fun _ => .text "\x7b\"body\": \"Hi\"\x7d") 0 = .ok ⟨[("body", "Hi")], []⟩ := by
      decide +kernel
    exact fun _ => first
  refine (writesBest_iff (by decide +kernel)).mpr (Or.inr ⟨fun i _ _ => ⟨_, each i⟩, ?_⟩)
  rintro a ⟨i, _, returns, _⟩ _
  cases (each i).symm.trans returns
  decide

end CopywritingTool

end MarketingAgents

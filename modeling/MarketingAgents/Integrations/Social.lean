import MarketingAgents.Agents.SocialDistribution
import MarketingAgents.Lib.Resend

namespace MarketingAgents

open Lib PyText

/-- What `publish_post` raises: an error of the connector, or whatever reading the answer raises. -/
inductive SocialConnectorError where
  | revoked (message : String)
  | mediaRequired (message : String)
  | unreachable (message : String)
  | rejected (message : String)
  | raised (message : String)
deriving DecidableEq

/-- A response, with its `Retry-After` in seconds and its `X-RestLi-Id`; the
body is `none` where it is no JSON. -/
structure HttpResponse where
  statusCode : Nat
  text : String
  retryAfter : Option Rat := none
  restliId : Option String := none
  body : Option Json := none

/-- How a call ends: with a failure of the transport, or with a response. -/
inductive CallAnswer where
  | failed (error : String)
  | answered (resp : HttpResponse)

structure PostResult where
  providerPostId : String
  url : String
deriving DecidableEq

structure SocialPost where
  text : String
  mediaUrl : Json := .null
  mediaRequired : Bool := false

/-- `_RETRYABLE_STATUS`. -/
def retryableStatus : List Nat := [429, 500, 502, 503, 504]

/-- `_REVOKED_STATUS`. -/
def revokedStatus : List Nat := [401, 403]

/-- What the loops of the connectors differ in. Every status from 400 on raises, and no other. -/
structure SocialConnector where
  provider : String
  raiseForStatus : HttpResponse → Except SocialConnectorError Unit
  postOf : HttpResponse → Except SocialConnectorError PostResult
  raises : ∀ resp, 400 ≤ resp.statusCode → ∃ error, raiseForStatus resp = .error error
  passes : ∀ resp, resp.statusCode < 400 → raiseForStatus resp = .ok ()

/-- How a call of `publish_post` went: its calls of the platform, the seconds
waited between them without their jitter, and what it returns or raises. -/
structure PublishRun where
  calls : Nat
  waits : List Rat
  result : Except SocialConnectorError PostResult

/-- The answers after which the loop calls again, and the `Retry-After` they ask for. -/
def CallAnswer.retryable : CallAnswer → Bool
  | .failed _ => true
  | .answered resp => decide (resp.statusCode ∈ retryableStatus)

def CallAnswer.retryAfter : CallAnswer → Option Rat
  | .failed _ => none
  | .answered resp => resp.retryAfter

/-- No answer arrives. -/
def CallAnswer.lost : CallAnswer → Bool
  | .failed _ => true
  | .answered _ => false

/-- The answer says that what was asked is done. -/
def CallAnswer.success : CallAnswer → Bool
  | .failed _ => false
  | .answered resp => decide (200 ≤ resp.statusCode ∧ resp.statusCode < 300)

namespace SocialConnector

/-- `_MAX_RETRIES`. -/
def maxRetries : Nat := 2

/-- What the last call of the loop makes of its answer. -/
def settle (connector : SocialConnector) : CallAnswer → Except SocialConnectorError PostResult
  | .failed error => .error (.unreachable (connector.provider ++ " transport failure: " ++ error))
  | .answered resp => do
    connector.raiseForStatus resp
    connector.postOf resp

/-- The loop, from its call number `attempt` on, with `left` retries. -/
def publishLoop (connector : SocialConnector) (answers : Nat → CallAnswer) : Nat → Nat → Rat → PublishRun
  | 0, attempt, _ => ⟨attempt + 1, [], connector.settle (answers attempt)⟩
  | left + 1, attempt, backoffSeconds =>
    if (answers attempt).retryable then
      let rest := publishLoop connector answers left (attempt + 1) (backoffSeconds * 2)
      { rest with waits := (answers attempt).retryAfter.getD backoffSeconds :: rest.waits }
    else ⟨attempt + 1, [], connector.settle (answers attempt)⟩

def publishPost (connector : SocialConnector) (answers : Nat → CallAnswer) (post : SocialPost) : PublishRun :=
  if post.mediaRequired ∧ post.mediaUrl.truthy = false then
    ⟨0, [], .error (.mediaRequired "post.media_required=true but no media_url supplied")⟩
  else publishLoop connector answers maxRetries 0 (1 / 10)

end SocialConnector

/-- The checks of a status that the connectors have in common. -/
def statusError (provider place : String) (resp : HttpResponse) : Except SocialConnectorError Unit :=
  let message := provider ++ " " ++ place ++ " " ++ toString resp.statusCode ++ ": " ++ take200 resp.text
  if resp.statusCode < 400 then .ok ()
  else if resp.statusCode ∈ revokedStatus then .error (.revoked message)
  else if 500 ≤ resp.statusCode then .error (.unreachable message)
  else .error (.rejected message)

theorem statusError_raises (provider place : String) (resp : HttpResponse) (bad : 400 ≤ resp.statusCode) :
    ∃ error, statusError provider place resp = .error error := by
  unfold statusError
  simp only [if_neg (Nat.not_lt.mpr bad)]
  split
  · exact ⟨_, rfl⟩
  · split <;> exact ⟨_, rfl⟩

theorem statusError_passes (provider place : String) (resp : HttpResponse) (good : resp.statusCode < 400) :
    statusError provider place resp = .ok () := by
  simp only [statusError, if_pos good]

/-- `resp.json()` and the first use of it as a mapping. -/
def HttpResponse.data (resp : HttpResponse) : Except SocialConnectorError (Dict String Json) :=
  match resp.body with
  | some (.obj fields) => .ok fields
  | some _ => .error (.raised "AttributeError")
  | none => .error (.raised "JSONDecodeError")

section Connectors

variable [PyText]

/-- The post of an answer with this id. -/
def madePostResult (id : Option String) (url : String → String) (missing : String) : Except SocialConnectorError PostResult :=
  match id.filter (· ≠ "") with
  | some id => .ok ⟨id, url id⟩
  | none => .error (.rejected missing)

def linkedinConnector : SocialConnector where
  provider := "linkedin"
  raiseForStatus := statusError "linkedin" "ugcPosts"
  postOf resp := do
    let data ← resp.data
    madePostResult (truthyText data "id" <|> resp.restliId) shareUrl "linkedin returned no post id"
  raises := statusError_raises "linkedin" "ugcPosts"
  passes := statusError_passes "linkedin" "ugcPosts"

def xConnector (pageUrn : String) : SocialConnector where
  provider := "x"
  raiseForStatus := statusError "x" "tweets"
  postOf resp := do
    let body ← resp.data
    let data ← match (body.get? "data").filter Json.truthy with
      | none => pure []
      | some (.obj fields) => pure fields
      | some _ => .error (.raised "AttributeError")
    let username := (truthyText data "author_id").getD pageUrn
    madePostResult (truthyText data "id") (fun id => "https://twitter.com/" ++ username ++ "/status/" ++ id)
      "x tweets returned no id"
  raises := statusError_raises "x" "tweets"
  passes := statusError_passes "x" "tweets"

/-- The platform also answers 400 for a token that was revoked. -/
def metaStatusError (resp : HttpResponse) : Except SocialConnectorError Unit :=
  if resp.statusCode = 400 ∧ contains "OAuthException" resp.text then
    .error (.revoked ("meta feed OAuthException: " ++ take200 resp.text))
  else statusError "meta" "feed" resp

def metaConnector : SocialConnector where
  provider := "meta"
  raiseForStatus := metaStatusError
  postOf resp := do
    let data ← resp.data
    madePostResult (truthyText data "id") ("https://www.facebook.com/" ++ ·) "meta feed returned no id"
  raises resp bad := by
    unfold metaStatusError
    split
    · exact ⟨_, rfl⟩
    · exact statusError_raises "meta" "feed" resp bad
  passes resp good := by
    have other : ¬ (resp.statusCode = 400 ∧ contains "OAuthException" resp.text = true) := by omega
    simp only [metaStatusError, if_neg other, statusError_passes "meta" "feed" resp good]

end Connectors

/-- A call of the platform: whether it made the post, and how it was answered. -/
structure PlatformCall where
  accepted : Bool
  answer : CallAnswer

namespace SocialConnector

variable {connector : SocialConnector} {answers : Nat → CallAnswer}

/-- The platform makes the post in each call that it answers with a success, and in no other call that it answers;
a call without an answer may have made it. -/
def Honest (calls : Nat → PlatformCall) : Prop :=
  ∀ i, (calls i).answer.lost = false → (calls i).accepted = (calls i).answer.success

/-- The connector reads a post in the answer if it is a success, and in no other answer that it does not raise for. -/
def Clear (connector : SocialConnector) : CallAnswer → Prop
  | .failed _ => True
  | .answered resp => resp.statusCode < 400 → (connector.postOf resp).isOk = (CallAnswer.answered resp).success

/-- No retryable answer is a success. -/
theorem success_retryable {answer : CallAnswer} (passing : answer.retryable = true) : answer.success = false := by
  cases answer with
  | failed error => rfl
  | answered resp =>
    have listed : resp.statusCode ∈ retryableStatus := of_decide_eq_true passing
    have bad : ∀ status ∈ retryableStatus, ¬ (200 ≤ status ∧ status < 300) := by decide
    exact decide_eq_false (bad _ listed)

/-- What is made of an answer agrees with it exactly if the answer is clear. -/
theorem settle_isOk_iff (answer : CallAnswer) :
    (connector.settle answer).isOk = answer.success ↔ connector.Clear answer := by
  cases answer with
  | failed error => exact iff_of_true rfl trivial
  | answered resp =>
    by_cases good : resp.statusCode < 400
    · simp only [settle, Clear, connector.passes resp good, good, true_imp_iff, bind, Except.bind]
    · obtain ⟨error, raised⟩ := connector.raises resp (Nat.not_lt.mp good)
      have failure : (CallAnswer.answered resp).success = false := decide_eq_false (by omega)
      refine iff_of_true ?_ fun below => absurd below good
      simp only [settle, raised, failure]
      rfl

/-- The loop returns what its last call settles, having waited before each retry. -/
theorem publishLoop_eq (connector : SocialConnector) (answers : Nat → CallAnswer) (left attempt : Nat) (backoffSeconds : Rat) :
    let last := lastCall CallAnswer.retryable answers left attempt
    connector.publishLoop answers left attempt backoffSeconds =
      ⟨last + 1, (List.range (last - attempt)).map fun i =>
        (answers (attempt + i)).retryAfter.getD (backoffSeconds * 2 ^ i), connector.settle (answers last)⟩ := by
  induction left generalizing attempt backoffSeconds with
  | zero => simp [publishLoop, lastCall]
  | succ left ih =>
    rw [publishLoop, lastCall]
    split
    · have further : attempt + 1 ≤ lastCall CallAnswer.retryable answers left (attempt + 1) := (lastCall_bounds left _).1
      have one : lastCall CallAnswer.retryable answers left (attempt + 1) - attempt =
          (lastCall CallAnswer.retryable answers left (attempt + 1) - (attempt + 1)) + 1 := by omega
      simp only [ih, one, List.range_succ_eq_map, List.map_cons, List.map_map, Function.comp_def, Nat.add_zero, pow_zero,
        mul_one, pow_succ', mul_assoc, Nat.succ_eq_add_one, Nat.add_right_comm attempt, Nat.add_assoc]
    · simp

/-- A call of `publish_post` stops before the loop, or does what its last call settles. -/
theorem publishPost_eq (connector : SocialConnector) (answers : Nat → CallAnswer) (post : SocialPost) :
    (connector.publishPost answers post).calls = 0 ∧ (connector.publishPost answers post).result.isOk = false ∧
        post.mediaRequired = true ∧ post.mediaUrl.truthy = false ∨
      ¬ (post.mediaRequired = true ∧ post.mediaUrl.truthy = false) ∧
        connector.publishPost answers post =
          ⟨lastCall CallAnswer.retryable answers maxRetries 0 + 1,
            (List.range (lastCall CallAnswer.retryable answers maxRetries 0)).map fun i =>
              (answers i).retryAfter.getD (1 / 10 * 2 ^ i),
            connector.settle (answers (lastCall CallAnswer.retryable answers maxRetries 0))⟩ := by
  unfold publishPost
  split
  · rename_i missing
    exact Or.inl ⟨rfl, rfl, missing⟩
  · rename_i given
    refine Or.inr ⟨given, ?_⟩
    simp only [publishLoop_eq, Nat.sub_zero, Nat.zero_add]

/-- Where no call without an answer has made a post, `publish_post` makes one if it returns one and else none,
exactly if its last answer is clear. -/
theorem publishPost_posts (connector : SocialConnector) (post : SocialPost) {calls : Nat → PlatformCall}
    (honest : Honest calls) :
    let run := connector.publishPost (fun i => (calls i).answer) post
    let posts := (List.range run.calls).countP fun i => (calls i).accepted
    (∀ i < run.calls, (calls i).answer.lost = true → (calls i).accepted = false) →
      posts ≤ 1 ∧ (posts = (if run.result.isOk then 1 else 0) ↔
        ∀ i, run.calls = i + 1 → connector.Clear (calls i).answer) := by
  intro run posts unlost
  rcases publishPost_eq connector (fun i => (calls i).answer) post with ⟨none, failed, _⟩ | ⟨_, eq⟩
  · have calls0 : run.calls = 0 := none
    have posts0 : posts = 0 := by simp [posts, calls0]
    have raised : run.result.isOk = false := failed
    refine ⟨by omega, iff_of_true ?_ fun i same => by omega⟩
    rw [posts0, raised]
    rfl
  · generalize ends : lastCall CallAnswer.retryable (fun i => (calls i).answer) maxRetries 0 = last at eq
    have made : run.calls = last + 1 := congrArg PublishRun.calls eq
    have returned : run.result = connector.settle (calls last).answer := congrArg PublishRun.result eq
    have said : ∀ i < run.calls, (calls i).accepted = (calls i).answer.success := by
      intro i inside
      cases answer : (calls i).answer with
      | failed error => exact unlost i inside (by rw [answer]; rfl)
      | answered resp => exact answer ▸ honest i (by rw [answer]; rfl)
    have counted : posts = if (calls last).accepted then 1 else 0 := by
      have quiet : ∀ i < lastCall CallAnswer.retryable (fun i => (calls i).answer) maxRetries 0,
          (calls i).answer.retryable = true → (calls i).accepted = false := fun i early passing =>
        (said i (by omega)).trans (success_retryable passing)
      have count := countP_calls quiet
      rw [ends] at count
      simp only [posts, made]
      exact count
    have clear : (∀ i, run.calls = i + 1 → connector.Clear (calls i).answer) ↔ connector.Clear (calls last).answer := by
      refine ⟨fun all => all last made, fun clear i same => ?_⟩
      obtain rfl : i = last := by omega
      exact clear
    rw [clear, ← settle_isOk_iff, counted, said last (by omega), returned]
    cases (calls last).answer.success <;> cases (connector.settle (calls last).answer).isOk <;> simp

/-- Whatever the platform answers, a call of `publish_post` makes three calls of it at most. It goes on only after
retryable answers, waiting what they ask for or the backoff, and no answered call before the last has made a post;
it returns what the last answer says. Where no call without an answer has made one, there is a post if one is
returned and else none, exactly if the last answer is clear: a success with a body that cannot be read leaves a
post behind an error. -/
theorem publishes_once (connector : SocialConnector) (post : SocialPost) {calls : Nat → PlatformCall}
    (honest : Honest calls) :
    let run := connector.publishPost (fun i => (calls i).answer) post
    let posts := (List.range run.calls).countP fun i => (calls i).accepted
    run.calls ≤ 3 ∧
      (run.calls = 0 ↔ post.mediaRequired = true ∧ post.mediaUrl.truthy = false) ∧
      (∀ i, i + 1 < run.calls → (calls i).answer.retryable = true ∧
        ((calls i).accepted = true → (calls i).answer.lost = true)) ∧
      (∀ i, run.calls = i + 1 → run.result = connector.settle (calls i).answer ∧
        (i < maxRetries → (calls i).answer.retryable = false)) ∧
      ((∀ i < run.calls, (calls i).answer.lost = true → (calls i).accepted = false) →
        posts ≤ 1 ∧ (posts = (if run.result.isOk then 1 else 0) ↔
          ∀ i, run.calls = i + 1 → connector.Clear (calls i).answer)) ∧
      run.waits = (List.range (run.calls - 1)).map fun i => (calls i).answer.retryAfter.getD (1 / 10 * 2 ^ i) := by
  intro run posts
  have counted := publishPost_posts connector post honest
  rcases publishPost_eq connector (fun i => (calls i).answer) post with ⟨none, _, missing⟩ | ⟨given, eq⟩
  · have silent : run.waits = [] := by
      have stopped : run = ⟨0, [], .error (.mediaRequired "post.media_required=true but no media_url supplied")⟩ :=
        if_pos missing
      rw [stopped]
    have calls0 : run.calls = 0 := none
    refine ⟨by omega, iff_of_true calls0 missing, fun i early => by omega, fun i same => by omega, counted, ?_⟩
    rw [silent, calls0]
    rfl
  · have last : run.calls = lastCall CallAnswer.retryable (fun i => (calls i).answer) maxRetries 0 + 1 :=
      congrArg PublishRun.calls eq
    have bound : lastCall CallAnswer.retryable (fun i => (calls i).answer) maxRetries 0 ≤ 0 + 2 :=
      (lastCall_bounds maxRetries 0).2
    refine ⟨by omega, iff_of_false (by omega) given, fun i early => ?_, fun i same => ?_, counted, ?_⟩
    · have before : i < lastCall CallAnswer.retryable (fun i => (calls i).answer) maxRetries 0 := by omega
      have passing : (calls i).answer.retryable = true := passing_of_lt_lastCall (Nat.zero_le i) before
      refine ⟨passing, fun accepted => ?_⟩
      by_contra found
      rw [honest i (Bool.eq_false_iff.mpr found), success_retryable passing] at accepted
      cases accepted
    · obtain rfl := Nat.succ.inj (same.symm.trans last)
      refine ⟨congrArg PublishRun.result eq, fun early => ?_⟩
      exact settled_of_lastCall_lt (early.trans_eq (Nat.zero_add _).symm)
    · rw [last]
      exact congrArg PublishRun.waits eq

end SocialConnector

section Dispatch

variable [PyText]

/-- What the dispatch sees of the connector. -/
def socialAnswer : Except SocialConnectorError PostResult → SocialAnswer
  | .ok result => .posted result.providerPostId
  | .error (.revoked message) => .revoked message
  | .error (.unreachable message) => .unreachable message
  | .error (.rejected message) | .error (.raised message) | .error (.mediaRequired message) => .rejected message

def SocialPlan.socialPost (plan : SocialPlan) : SocialPost := ⟨strip plan.text, plan.mediaUrl, plan.mediaRequired⟩

theorem linkedin_settles {answer : CallAnswer} {result : PostResult} (made : linkedinConnector.settle answer = .ok result) :
    result.providerPostId ≠ "" ∧ result.url = shareUrl result.providerPostId := by
  cases answer with
  | failed error => cases made
  | answered resp =>
    simp only [SocialConnector.settle, linkedinConnector, bind_eq_ok] at made
    obtain ⟨_, _, data, _, done⟩ := made
    unfold madePostResult at done
    split at done
    · rename_i id found
      cases done
      exact ⟨of_decide_eq_true (Option.filter_eq_some_iff.mp found).2, rfl⟩
    · cases done

theorem publishPost_linkedin {answers : Nat → CallAnswer} {post : SocialPost} {result : PostResult}
    (made : (linkedinConnector.publishPost answers post).result = .ok result) :
    result.providerPostId ≠ "" ∧ result.url = shareUrl result.providerPostId := by
  rcases linkedinConnector.publishPost_eq answers post with ⟨_, failed, _⟩ | ⟨_, eq⟩
  · rw [made] at failed
    cases failed
  · rw [eq] at made
    exact linkedin_settles made

/-- What the tool returns or raises in a call that it makes is what the connector does. -/
theorem callSocial_result {db : Db} {plan : SocialPlan} {result : Except SocialConnectorError PostResult}
    (real : ∀ post, result = .ok post → post.providerPostId ≠ "" ∧ post.url = shareUrl post.providerPostId)
    (called : (callSocial db plan (socialAnswer result)).called = true) :
    (callSocial db plan (socialAnswer result)).result.toOption =
      result.toOption.map fun post => ⟨post.providerPostId, post.url, false⟩ := by
  cases known : lookUpSocial db plan with
  | some outcome =>
    rw [callSocial, known, Option.getD_some, (lookUpSocial_known known).1] at called
    cases called
  | none =>
    rw [callSocial, known, Option.getD_none]
    cases result with
    | ok post =>
      obtain ⟨filled, url⟩ := real post rfl
      simp only [socialAnswer, publishSocial, if_neg filled, Except.toOption, Option.map_some, url]
    | error error => cases error <;> rfl

/-- Of a platform that loses no answer and answers clearly, the dispatch sees one post with its id, or no post. -/
theorem linkedin_posts_named (post : SocialPost) {calls : Nat → PlatformCall} (honest : SocialConnector.Honest calls) :
    let run := linkedinConnector.publishPost (fun i => (calls i).answer) post
    let posts := (List.range run.calls).countP fun i => (calls i).accepted
    (∀ i < run.calls, (calls i).answer.lost = true → (calls i).accepted = false) →
      (∀ i, run.calls = i + 1 → linkedinConnector.Clear (calls i).answer) →
      posts = 0 ∨ posts = 1 ∧ (socialAnswer run.result).named = true := by
  intro run posts unlost clear
  have counted := (linkedinConnector.publishPost_posts post honest unlost).2.mpr clear
  cases returned : run.result with
  | error error =>
    have failed : run.result.isOk = false := by rw [returned]; rfl
    rw [failed] at counted
    exact Or.inl counted
  | ok result =>
    have done : run.result.isOk = true := by rw [returned]; rfl
    rw [done] at counted
    exact Or.inr ⟨counted, decide_eq_true (publishPost_linkedin returned).1⟩

end Dispatch

namespace SocialConnector

local instance retriedText : PyText := PyText.plain

/-- LinkedIn is down once, then asks for a pause, then makes the post. -/
def recovering : Nat → PlatformCall
  | 0 => ⟨false, .failed "timeout"⟩
  | 1 => ⟨false, .answered { statusCode := 429, text := "slow down", retryAfter := some 5 }⟩
  | _ => ⟨true, .answered { statusCode := 201, text := "", restliId := some "urn:1", body := some (.obj []) }⟩

theorem recovering_honest : Honest recovering
  | 0 => nofun
  | 1 | _ + 2 => fun _ => rfl

theorem publishes_once_recovering :
    let run := linkedinConnector.publishPost (fun i => (recovering i).answer) { text := "news" }
    run.calls = 3 ∧ run.waits = [1 / 10, 5] ∧ run.result = .ok ⟨"urn:1", shareUrl "urn:1"⟩ ∧
      (List.range run.calls).countP (fun i => (recovering i).accepted) = 1 := by
  intro run
  have calls : run.calls = 3 := by decide +kernel
  have returned : run.result = .ok ⟨"urn:1", shareUrl "urn:1"⟩ := by decide +kernel
  have unlost : ∀ i < run.calls, (recovering i).answer.lost = true → (recovering i).accepted = false := by decide +kernel
  have clear : ∀ i, run.calls = i + 1 → linkedinConnector.Clear (recovering i).answer := by
    intro i last
    obtain rfl : i = 2 := by omega
    exact fun _ => by decide +kernel
  obtain ⟨_, posts⟩ := (publishes_once linkedinConnector { text := "news" } recovering_honest).2.2.2.2.1 unlost
  refine ⟨calls, by decide +kernel, returned, (posts.mpr clear).trans ?_⟩
  rw [show (linkedinConnector.publishPost (fun i => (recovering i).answer) { text := "news" }).result = _ from returned]
  rfl

/-- LinkedIn makes the post and says so with a header and no body. -/
def bodiless : Nat → PlatformCall := fun _ =>
  ⟨true, .answered { statusCode := 201, text := "", restliId := some "urn:1" }⟩

example : let run := linkedinConnector.publishPost (fun i => (bodiless i).answer) { text := "news" }
    run.calls = 1 ∧ run.result = .error (.raised "JSONDecodeError") ∧ (bodiless 0).accepted = true := by
  decide +kernel

end SocialConnector

end MarketingAgents

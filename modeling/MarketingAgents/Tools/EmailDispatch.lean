import Mathlib.Data.List.Sort
import MarketingAgents.Lib.Result
import MarketingAgents.Db.Models

namespace MarketingAgents

open Lib PyText

structure EmailRecipient where
  email : String
  mergeFields : Dict String String := []
  name : Json := .null
deriving DecidableEq

structure EmailMessage where
  subject : String
  htmlBody : Option String
  textBody : Option String
  headers : Dict String String
  replyTo : Json
deriving DecidableEq

structure SendResult where
  email : String
  providerMessageId : Option String
  accepted : Bool
  error : Option String := none
deriving DecidableEq

inductive ConnectorError where
  | unreachable (message : String)
  | rejected (message : String)
deriving DecidableEq

/-- An `EmailConnector`: its senders, and what the provider answers to a batch. -/
structure EmailConnector where
  provider : String
  verifiedSenders : List String
  sendBatch : String → EmailMessage → List EmailRecipient → Except ConnectorError (List SendResult)

inductive DispatchError where
  /-- `DispatchValidationError`, with its text. -/
  | validation (message : String)
  /-- `forbidden headers: …`, with the sorted names. -/
  | forbiddenHeaders (names : List String)
  /-- `.get` or `.items` of a value that is not a dictionary. -/
  | attributeError
  /-- `sub in body` of a body that is not a string. -/
  | typeError
  | connector (error : ConnectorError)
deriving DecidableEq

structure Rejection where
  email : String
  reason : String
deriving DecidableEq

structure DispatchResult where
  batchId : Uuid
  provider : String
  acceptedCount : Nat
  rejectedCount : Nat
  perMessageIds : List (String × String)
  rejections : List Rejection
deriving DecidableEq

/-- What a call did: the recipients it handed to the provider, and how it ended. -/
structure DispatchOutcome where
  handed : List EmailRecipient
  result : Except DispatchError DispatchResult

namespace EmailDispatchTool

variable [PyText]

def forbiddenHeaders : List String :=
  ["return-path", "x-mailer", "received", "dkim-signature", "list-unsubscribe", "list-unsubscribe-post"]

def blockedRecipientDomains : List String := ["example.com", "example.org", "example.net", "test.test"]

def localChar (c : Char) : Bool := c.isAlphanum || c ∈ ['_', '.', '+', '-']

def domainChar (c : Char) : Bool := c.isAlphanum || c = '-'

/-- `_EMAIL_RE.match`; the pattern's `$` also matches before a final newline. -/
def emailRe (email : String) : Bool :=
  let chars := email.toList
  let chars := if chars.getLast? = some '\n' then chars.dropLast else chars
  match chars.splitOn '@' with
  | [name, domain] =>
    !name.isEmpty && name.all localChar &&
      (let labels := domain.splitOn '.'
       decide (2 ≤ labels.length) && labels.all fun label => !label.isEmpty && label.all domainChar)
  | _ => false

/-- `email.rsplit("@", 1)[-1].lower()`. -/
def recipientDomain (email : String) : String :=
  lower (String.ofList ((email.toList.splitOn '@').getLast?.getD []))

def validateRecipient (suppressed : List String) (email : String) : Option String :=
  if email ∈ suppressed then some "suppressed"
  else if ¬ emailRe email then some "invalid_address"
  else if recipientDomain email ∈ blockedRecipientDomains then some "blocked_domain"
  else none

/-- `_load_suppressed_emails`: the stored addresses of the tenant that equal a
candidate as `citext`, in lower case. -/
def loadSuppressedEmails (suppressions : List SuppressionEntry) (tenantId : Uuid) (candidates : List String) :
    List String :=
  let wanted := (candidates.filter (· ≠ "")).map normalised
  (suppressions.filter fun entry => entry.tenantId = tenantId ∧ entry.channelPlatform = .email ∧
    ∃ candidate ∈ wanted, lower entry.identifier = lower candidate).map fun entry => lower entry.identifier

/-- `value or {}`, then used as a dictionary. -/
def dictOrEmpty (value : Option Json) : Except DispatchError (Dict String Json) :=
  match value with
  | none => .ok []
  | some value => if value.truthy then orRaise value.dict? .attributeError else .ok []

def textField (fields : Dict String Json) (key : String) : String :=
  match fields.get? key with
  | some value => if value.truthy then strip (str value) else strip ""
  | none => strip ""

def bodyField (fields : Dict String Json) (key : String) : Except DispatchError (Option String) :=
  match fields.get? key with
  | none | some .null => .ok none
  | some (.str s) => .ok (some s)
  | some _ => .error .typeError

/-- The body needs a footer unless it already names the link or the address. -/
def hasFooter (unsub addr body : String) : Bool :=
  unsub = "" && addr = "" || unsub != "" && contains unsub body || addr != "" && contains addr body

def injectFooterText (footer : Dict String Json) (body : String) : String :=
  let unsub := textField footer "unsubscribe_url"
  let addr := textField footer "postal_address"
  if hasFooter unsub addr body then body
  else
    let pieces := (if unsub ≠ "" then ["Unsubscribe: " ++ unsub] else []) ++ if addr ≠ "" then [addr] else []
    body ++ "\n\n---\n" ++ "\n".intercalate pieces

def injectFooterHtml (footer : Dict String Json) (body : String) : String :=
  let unsub := textField footer "unsubscribe_url"
  let addr := textField footer "postal_address"
  if hasFooter unsub addr body then body
  else
    let parts := (if unsub ≠ "" then ["<a href=\"" ++ unsub ++ "\">Unsubscribe</a>"] else []) ++
      if addr ≠ "" then ["<br>".intercalate ((addr.toList.splitOn '\n').map String.ofList)] else []
    body ++ "<hr style=\"margin-top:24px;border:none;border-top:1px solid #ddd\"/>" ++
      "<p style=\"font-size:12px;color:#666;margin-top:12px\">" ++ " · ".intercalate parts ++ "</p>"

/-- `payload.get("headers") or {}`. -/
def messageHeaders (payload : Dict String Json) : Except DispatchError (Dict String Json) :=
  match payload.get? "headers" with
  | none => .ok []
  | some value =>
    if value.truthy then orRaise value.dict? (.validation "message.headers must be an object") else .ok []

def buildMessage (payload footer : Dict String Json) : Except DispatchError EmailMessage := do
  let subject := strip (str ((payload.get? "subject").getD (.str "")))
  require (subject ≠ "") (.validation "message.subject is required")
  let headers ← messageHeaders payload
  let bad := headers.filter fun entry => decide (lower entry.1 ∈ forbiddenHeaders)
  require (bad = []) (.forbiddenHeaders ((bad.map Prod.fst).insertionSort (· ≤ ·)))
  let htmlBody ← bodyField payload "html_body"
  let textBody ← bodyField payload "text_body"
  pure
    { subject := subject
      htmlBody := if footer.isEmpty then htmlBody else htmlBody.map (injectFooterHtml footer)
      textBody := if footer.isEmpty then textBody else textBody.map (injectFooterText footer)
      headers := headers.map fun entry => (entry.1, str entry.2)
      replyTo := (payload.get? "reply_to").getD .null }

/-- `str(r.get("email", "")).strip().lower()`. -/
def recipientEmail (fields : Dict String Json) : String := normalised (str ((fields.get? "email").getD (.str "")))

/-- One pass of the recipient loop: send, or a rejection. -/
def sortRecipient (suppressed : List String) (r : Json) : Except DispatchError (EmailRecipient ⊕ Rejection) := do
  match r.dict? with
  | none => pure (.inr ⟨str r, "invalid_shape"⟩)
  | some fields =>
    let email := recipientEmail fields
    if email = "" then pure (.inr ⟨"", "missing_email"⟩)
    else match validateRecipient suppressed email with
      | some reason => pure (.inr ⟨email, reason⟩)
      | none =>
        let mergeFields ← dictOrEmpty (fields.get? "merge_fields")
        pure (.inl
          { email := email
            mergeFields := mergeFields.map fun entry => (entry.1, str entry.2)
            name := (fields.get? "name").getD .null })

/-- The recipient loop, with `send_payload` and `rejections` in input order. -/
def sortRecipients (suppressed : List String) :
    List Json → Except DispatchError (List EmailRecipient × List Rejection)
  | [] => pure ([], [])
  | r :: rest => do
    let sorted ← sortRecipient suppressed r
    let (sends, rejections) ← sortRecipients suppressed rest
    match sorted with
    | .inl recipient => pure (recipient :: sends, rejections)
    | .inr rejection => pure (sends, rejection :: rejections)

/-- `[str(r.get("email", "")) for r in raw_recipients if isinstance(r, dict)]`. -/
def candidateEmails (rawRecipients : List Json) : List String :=
  rawRecipients.filterMap fun r => r.dict?.map fun fields => str ((fields.get? "email").getD (.str ""))

def transactional (inputs : Dict String Json) : Bool := ((inputs.get? "transactional").getD (.bool false)).truthy

/-- The footer a marketing message carries; a transactional one has none. -/
def complianceFooter (inputs : Dict String Json) : Except DispatchError (Dict String Json) :=
  if transactional inputs then .ok [] else dictOrEmpty (inputs.get? "compliance_footer")

def audienceBatch (inputs : Dict String Json) : Except DispatchError (List Json) :=
  match inputs.get? "audience_batch" with
  | some (.arr (r :: rest)) => .ok (r :: rest)
  | _ => .error (.validation "audience_batch must be a non-empty list")

/-- Everything `call` decides before it talks to the provider. -/
structure Prepared where
  fromEmail : String
  message : EmailMessage
  sendPayload : List EmailRecipient
  rejections : List Rejection

def prepare (connector : EmailConnector) (suppressions : List SuppressionEntry) (tenantId : Uuid)
    (inputs : Dict String Json) : Except DispatchError Prepared := do
  let fromEmail := normalised (str ((inputs.get? "from_email").getD (.str "")))
  require (fromEmail ≠ "") (.validation "from_email is required")
  let verified := connector.verifiedSenders.map lower
  require (verified = [] ∨ fromEmail ∈ verified)
    (.validation ("from_email '" ++ fromEmail ++ "' is not in verified_senders"))
  let payload ← dictOrEmpty (inputs.get? "message")
  let footer ← complianceFooter inputs
  let message ← buildMessage payload footer
  let rawRecipients ← audienceBatch inputs
  let suppressed := if transactional inputs then []
    else loadSuppressedEmails suppressions tenantId (candidateEmails rawRecipients)
  let (sendPayload, rejections) ← sortRecipients suppressed rawRecipients
  pure ⟨fromEmail, message, sendPayload, rejections⟩

/-- `per_message_ids` and the provider's own rejections, in the order of the answers. -/
def readResults (results : List SendResult) : List (String × String) × List Rejection :=
  (results.filterMap fun res =>
      if res.accepted then match res.providerMessageId with
        | some "" | none => none
        | some id => some (res.email, id)
      else none,
    results.filterMap fun res =>
      if res.accepted then none
      else some ⟨res.email, match res.error with
        | some "" | none => "provider_rejected"
        | some error => error⟩)

def report (batchId : Uuid) (provider : String) (p : Prepared) (results : List SendResult) : DispatchResult :=
  let (perMessageIds, refused) := readResults results
  let rejections := p.rejections ++ refused
  { batchId := batchId
    provider := provider
    acceptedCount := if perMessageIds = [] ∧ p.sendPayload ≠ [] ∧ rejections = [] then p.sendPayload.length
      else perMessageIds.length
    rejectedCount := rejections.length
    perMessageIds := perMessageIds
    rejections := rejections }

/-- `EmailDispatchTool.call`; `batchId` is the fresh `uuid4()`. -/
def call (connector : EmailConnector) (suppressions : List SuppressionEntry) (tenantId batchId : Uuid)
    (inputs : Dict String Json) : DispatchOutcome :=
  match prepare connector suppressions tenantId inputs with
  | .error error => ⟨[], .error error⟩
  | .ok p =>
    if p.sendPayload = [] then ⟨[], .ok (report batchId connector.provider p [])⟩
    else match connector.sendBatch p.fromEmail p.message p.sendPayload with
      | .error error => ⟨p.sendPayload, .error (.connector error)⟩
      | .ok results => ⟨p.sendPayload, .ok (report batchId connector.provider p results)⟩

end EmailDispatchTool

end MarketingAgents

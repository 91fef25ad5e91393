import MarketingAgents.Tools.EmailDispatch

namespace MarketingAgents

open Lib PyText

section

variable {sub s t : String}

theorem contains_self : contains s s = true := by simp [contains]

theorem contains_append_left (inside : contains sub s = true) : contains sub (s ++ t) = true := by
  simp only [contains, String.toList_append, decide_eq_true_eq] at inside ⊢
  exact inside.trans (List.prefix_append s.toList t.toList).isInfix

theorem contains_append_right (inside : contains sub t = true) : contains sub (s ++ t) = true := by
  simp only [contains, String.toList_append, decide_eq_true_eq] at inside ⊢
  exact inside.trans (List.suffix_append s.toList t.toList).isInfix

end

namespace EmailDispatchTool

theorem hasFooter_eq {unsub addr : String} (link : unsub ≠ "") (address : addr ≠ "") (body : String) :
    hasFooter unsub addr body = (contains unsub body || contains addr body) := by
  have linked : (unsub != "") = true := bne_iff_ne.mpr link
  have addressed : (addr != "") = true := bne_iff_ne.mpr address
  simp [hasFooter, link, linked, addressed]

theorem bodyField_eq_some {fields : Dict String Json} {key : String} {body : String} :
    bodyField fields key = .ok (some body) ↔ fields.get? key = some (.str body) := by
  unfold bodyField
  split <;> simp_all

variable [PyText]

/-- `addr.replace("\n", "<br>")`. -/
def brLines (addr : String) : String := "<br>".intercalate ((addr.toList.splitOn '\n').map String.ofList)

/-- What an injected body must show: the link, and the address as the format spells it. -/
def Complete (unsub addr body : String) : Prop := contains unsub body = true ∧ contains addr body = true

/-- The message that reaches the connector, when the call gets that far. -/
def handedMessage (connector : EmailConnector) (suppressions : List SuppressionEntry) (tenantId : Uuid)
    (inputs : Dict String Json) : Option EmailMessage :=
  match prepare connector suppressions tenantId inputs with
  | .error _ => none
  | .ok p => if p.sendPayload = [] then none else some p.message

theorem handedMessage_eq_some {connector : EmailConnector} {suppressions : List SuppressionEntry} {tenantId : Uuid}
    {inputs : Dict String Json} {message : EmailMessage} :
    handedMessage connector suppressions tenantId inputs = some message ↔
      ∃ p, prepare connector suppressions tenantId inputs = .ok p ∧ p.sendPayload ≠ [] ∧ p.message = message := by
  unfold handedMessage
  cases prepare connector suppressions tenantId inputs with
  | error error => simp
  | ok p => by_cases empty : p.sendPayload = [] <;> simp [empty]

theorem injectFooterText_complete {footer : Dict String Json} {body : String}
    (link : textField footer "unsubscribe_url" ≠ "") (address : textField footer "postal_address" ≠ "")
    (bare : hasFooter (textField footer "unsubscribe_url") (textField footer "postal_address") body = false) :
    Complete (textField footer "unsubscribe_url") (textField footer "postal_address") (injectFooterText footer body) := by
  simp only [injectFooterText, bare, Bool.false_eq_true, if_false, if_pos link, if_pos address, List.cons_append,
    List.nil_append, String.intercalate_cons_cons, String.intercalate_singleton]
  constructor
  · exact contains_append_right (contains_append_left (contains_append_left (contains_append_right contains_self)))
  · exact contains_append_right (contains_append_right contains_self)

theorem injectFooterHtml_complete {footer : Dict String Json} {body : String}
    (link : textField footer "unsubscribe_url" ≠ "") (address : textField footer "postal_address" ≠ "")
    (bare : hasFooter (textField footer "unsubscribe_url") (textField footer "postal_address") body = false) :
    Complete (textField footer "unsubscribe_url") (brLines (textField footer "postal_address"))
      (injectFooterHtml footer body) := by
  simp only [injectFooterHtml, bare, Bool.false_eq_true, if_false, if_pos link, if_pos address, List.cons_append,
    List.nil_append, String.intercalate_cons_cons, String.intercalate_singleton]
  constructor
  · refine contains_append_left (contains_append_right (contains_append_left (contains_append_left ?_)))
    exact contains_append_left (contains_append_right contains_self)
  · exact contains_append_left (contains_append_right (contains_append_right contains_self))

/-- What the tool makes of one body: unchanged where it names the link or the
address already, else followed by a footer that shows both. -/
structure Footed (unsub addr shown original body : String) : Prop where
  named : contains unsub original = true ∨ contains addr original = true → body = original
  bare : contains unsub original = false → contains addr original = false → Complete unsub shown body

theorem injectFooterText_footed {footer : Dict String Json} (link : textField footer "unsubscribe_url" ≠ "")
    (address : textField footer "postal_address" ≠ "") (body : String) :
    Footed (textField footer "unsubscribe_url") (textField footer "postal_address") (textField footer "postal_address")
      body (injectFooterText footer body) := by
  refine ⟨fun named => ?_, fun noLink noAddress => injectFooterText_complete link address ?_⟩
  · exact if_pos (by rw [hasFooter_eq link address]; simpa using named)
  · rw [hasFooter_eq link address, noLink, noAddress]
    rfl

theorem injectFooterHtml_footed {footer : Dict String Json} (link : textField footer "unsubscribe_url" ≠ "")
    (address : textField footer "postal_address" ≠ "") (body : String) :
    Footed (textField footer "unsubscribe_url") (textField footer "postal_address")
      (brLines (textField footer "postal_address")) body (injectFooterHtml footer body) := by
  refine ⟨fun named => ?_, fun noLink noAddress => injectFooterHtml_complete link address ?_⟩
  · exact if_pos (by rw [hasFooter_eq link address]; simpa using named)
  · rw [hasFooter_eq link address, noLink, noAddress]
    rfl

theorem buildMessage_bodies {payload footer : Dict String Json} {message : EmailMessage}
    (built : buildMessage payload footer = .ok message) (marketing : footer ≠ []) :
    (∀ body, message.textBody = some body → ∃ original, payload.get? "text_body" = some (.str original) ∧
      body = injectFooterText footer original) ∧
    ∀ body, message.htmlBody = some body → ∃ original, payload.get? "html_body" = some (.str original) ∧
      body = injectFooterHtml footer original := by
  simp only [buildMessage, bind_eq_ok, pure_eq_ok] at built
  obtain ⟨_, _, _, _, _, _, htmlBody, html, textBody, text, rfl⟩ := built
  have filled : footer.isEmpty = false := by simpa using marketing
  simp only [filled, Bool.false_eq_true, if_false, Option.map_eq_some_iff]
  constructor
  · rintro body ⟨original, rfl, rfl⟩
    exact ⟨original, bodyField_eq_some.mp text, rfl⟩
  · rintro body ⟨original, rfl, rfl⟩
    exact ⟨original, bodyField_eq_some.mp html, rfl⟩

theorem prepare_builds {connector : EmailConnector} {suppressions : List SuppressionEntry} {tenantId : Uuid}
    {inputs : Dict String Json} {p : Prepared} (done : prepare connector suppressions tenantId inputs = .ok p) :
    ∃ payload footer, dictOrEmpty (inputs.get? "message") = .ok payload ∧ complianceFooter inputs = .ok footer ∧
      buildMessage payload footer = .ok p.message := by
  simp only [prepare, bind_eq_ok, pure_eq_ok] at done
  obtain ⟨_, _, _, _, payload, message, footer, marketing, built, builds, _, _, _, _, rfl⟩ := done
  exact ⟨payload, footer, message, marketing, builds⟩

/-- A marketing message with a full footer reaches the provider with the link and
the address in each body, or with the one the author's own body had named. -/
theorem handedMessage_footed {connector : EmailConnector} {suppressions : List SuppressionEntry} {tenantId : Uuid}
    {inputs footer : Dict String Json} {message : EmailMessage} (marketing : transactional inputs = false)
    (given : dictOrEmpty (inputs.get? "compliance_footer") = .ok footer)
    (link : textField footer "unsubscribe_url" ≠ "") (address : textField footer "postal_address" ≠ "")
    (handed : handedMessage connector suppressions tenantId inputs = some message) :
    ∃ payload, dictOrEmpty (inputs.get? "message") = .ok payload ∧
      (∀ body, message.textBody = some body → ∃ original, payload.get? "text_body" = some (.str original) ∧
        Footed (textField footer "unsubscribe_url") (textField footer "postal_address")
          (textField footer "postal_address") original body) ∧
      ∀ body, message.htmlBody = some body → ∃ original, payload.get? "html_body" = some (.str original) ∧
        Footed (textField footer "unsubscribe_url") (textField footer "postal_address")
          (brLines (textField footer "postal_address")) original body := by
  obtain ⟨p, prepared, _, rfl⟩ := handedMessage_eq_some.mp handed
  obtain ⟨payload, footer', message, used, built⟩ := prepare_builds prepared
  rw [complianceFooter, marketing, if_neg (by simp), given] at used
  cases used
  have filled : footer ≠ [] := by
    rintro rfl
    exact link strip_empty
  obtain ⟨text, html⟩ := buildMessage_bodies built filled
  refine ⟨payload, message, fun body value => ?_, fun body value => ?_⟩
  · obtain ⟨original, field, rfl⟩ := text body value
    exact ⟨original, field, injectFooterText_footed link address original⟩
  · obtain ⟨original, field, rfl⟩ := html body value
    exact ⟨original, field, injectFooterHtml_footed link address original⟩

end EmailDispatchTool

namespace PartialFooter

open EmailDispatchTool

local instance : PyText := PyText.plain

def connector : EmailConnector where
  provider := "sandbox"
  verifiedSenders := []
  sendBatch _ _ _ := .ok []

def footer : Dict String Json :=
  [("unsubscribe_url", .str "https://acme.io/u"), ("postal_address", .str "1 Main St\nLeeds")]

def inputs (text : String) : Dict String Json :=
  [("from_email", .str "hi@acme.io"),
    ("message", .obj [("subject", .str "News"), ("text_body", .str text), ("html_body", .str "<p>News</p>")]),
    ("compliance_footer", .obj footer), ("audience_batch", .arr [.obj [("email", .str "ann@acme.io")]])]

def sent (text : String) : EmailMessage where
  subject := "News"
  htmlBody := some (injectFooterHtml footer "<p>News</p>")
  textBody := some (injectFooterText footer text)
  headers := []
  replyTo := .null

theorem handedMessage_inputs (text : String) : handedMessage connector [] 1 (inputs text) = some (sent text) := by
  rfl

/-- A body that names the link keeps its footer from being added, address and all. -/
theorem link_alone_lacks_address :
    ∃ message body, handedMessage connector [] 1 (inputs "Leave: https://acme.io/u") = some message ∧
      transactional (inputs "Leave: https://acme.io/u") = false ∧
      dictOrEmpty ((inputs "Leave: https://acme.io/u").get? "compliance_footer") = .ok footer ∧
      textField footer "unsubscribe_url" ≠ "" ∧ textField footer "postal_address" ≠ "" ∧
      message.textBody = some body ∧
      ¬ Complete (textField footer "unsubscribe_url") (textField footer "postal_address") body := by
  refine ⟨_, "Leave: https://acme.io/u", handedMessage_inputs _, rfl, rfl, by decide, by decide, by decide +kernel, ?_⟩
  rintro ⟨_, address⟩
  revert address
  decide +kernel

theorem plain_body_footed :
    ∃ payload, dictOrEmpty ((inputs "Hello").get? "message") = .ok payload ∧
      (∀ body, (sent "Hello").textBody = some body → ∃ original, payload.get? "text_body" = some (.str original) ∧
        Footed (textField footer "unsubscribe_url") (textField footer "postal_address")
          (textField footer "postal_address") original body) ∧
      ∀ body, (sent "Hello").htmlBody = some body → ∃ original, payload.get? "html_body" = some (.str original) ∧
        Footed (textField footer "unsubscribe_url") (textField footer "postal_address")
          (brLines (textField footer "postal_address")) original body :=
  handedMessage_footed rfl rfl (by decide) (by decide) (handedMessage_inputs "Hello")

end PartialFooter

end MarketingAgents

import MarketingAgents.Lib.Run
import MarketingAgents.Assistant.Memory

namespace MarketingAgents.Assistant

open Lib PyText

/-- `_MAX_TURNS`. -/
def maxTurns : Nat := 4

/-- The names in `TOOL_HANDLERS`. -/
def toolHandlers : List String :=
  ["list_campaigns", "get_campaign", "create_campaign", "pause_campaign", "resume_campaign", "complete_campaign",
    "show_anomalies", "show_recommendations", "show_pending_approvals", "summarise_kpis", "accept_recommendation",
    "dismiss_anomaly", "request_input", "synthesise_audience", "generate_strategy", "accept_strategy",
    "generate_content", "approve_all_content", "launch_campaign", "list_drafts_for_review", "approve_asset",
    "reject_asset", "where_did_we_leave_off", "enrich_audience", "draft_outbound", "list_personalised_drafts"]

/-- How a handler ends: it returns, or raises one of the errors of the three `except` clauses. -/
inductive ToolOutcome where
  | returned (summary : String) (data : Dict String Json) (requiresConfirmation : Bool)
  | permissionError (message : String)
  | toolError (message : String)
  | raised (message : String)
deriving DecidableEq

namespace ToolOutcome

/-- The `tool_text` of the reply, and its `is_error`. -/
def toolText : ToolOutcome → String × Bool
  | .returned summary _ _ => (summary, false)
  | .permissionError message => ("PERMISSION_ERROR: " ++ message, true)
  | .toolError message => ("ERROR: " ++ message, true)
  | .raised message => ("INTERNAL_ERROR: " ++ message, true)

def summary : ToolOutcome → String
  | .returned summary _ _ => summary
  | .permissionError message | .toolError message => message
  | .raised message => "Internal error: " ++ message

def data : ToolOutcome → Dict String Json
  | .returned _ data _ => data
  | _ => []

def requiresConfirmation : ToolOutcome → Bool
  | .returned _ _ requires => requires
  | _ => false

def hasReturned : ToolOutcome → Bool
  | .returned .. => true
  | _ => false

end ToolOutcome

/-- One pass of the loop: what the model responds, and how the tool it picked ends. -/
structure Turn where
  response : List SdkBlock
  outcome : ToolOutcome

/-- `AssistantResult`, less the token counts. -/
structure AssistantResult where
  text : String := ""
  toolName : Option String := none
  toolSummary : Option String := none
  toolData : Dict String Json := []
  requiresConfirmation : Bool := false
  turns : Nat := 0
  messages : List Message := []

/-- How `handle_message` raises. -/
inductive AssistantFailure where
  | toolUnavailable (message : String)
  | turnCap (message : String)
  /-- The call of the model itself failed. -/
  | client
deriving DecidableEq

/-- The text before the first `tool_use` block, and that block's id and name. -/
def scanBlocks : List SdkBlock → List String × Option (String × String)
  | [] => ([], none)
  | .text text :: rest => (text :: (scanBlocks rest).1, (scanBlocks rest).2)
  | .toolUse id name _ :: _ => ([], some (id, name))

def assistantMessage (response : List SdkBlock) : Message := ⟨.assistant, .blocks (serializeBlocks response)⟩

def toolResultMessage (toolUseId : String) (outcome : ToolOutcome) : Message :=
  ⟨.user, .blocks [.toolResult toolUseId outcome.toolText.1 outcome.toolText.2]⟩

section Router

variable [PyText]

/-- `"\n\n".join(t for t in text_chunks if t.strip()).strip()`. -/
def joinChunks (chunks : List String) : String := strip ("\n\n".intercalate (chunks.filter fun t => strip t ≠ ""))

/-- The loop of `handle_message`, with `left` turns to go. `last` is the last
outcome, `named` the last tool that returned. -/
def converse (messages : List Message) (last : Option ToolOutcome) (named : Option String) :
    Nat → List Turn → Except AssistantFailure AssistantResult
  | 0, _ => .error (.turnCap ("Assistant exceeded " ++ toString maxTurns ++ " turns without a final response."))
  | _ + 1, [] => .error .client
  | left + 1, ⟨response, outcome⟩ :: rest =>
    let text := joinChunks (scanBlocks response).1
    match (scanBlocks response).2 with
    | none => .ok
        { text := text
          toolName := named
          toolSummary := last.map ToolOutcome.summary
          toolData := (last.map ToolOutcome.data).getD []
          requiresConfirmation := (last.map ToolOutcome.requiresConfirmation).getD false
          turns := maxTurns - left
          messages := messages ++ [assistantMessage response] }
    | some (id, name) =>
      if name ∉ toolHandlers then .error (.toolUnavailable ("Model called unknown tool '" ++ name ++ "'."))
      else
        let named := if outcome.hasReturned then some name else named
        let messages := messages ++ [assistantMessage response, toolResultMessage id outcome]
        if outcome.requiresConfirmation then .ok
          { text := text
            toolName := named
            toolSummary := some outcome.summary
            toolData := outcome.data
            requiresConfirmation := true
            turns := maxTurns - left
            messages := messages }
        else converse messages (some outcome) named left rest

/-- `handle_message`; `turns` are the responses of the model in order, each
with the outcome of the tool it picks. The call of the model raises where they end. -/
def handleMessage (history : List Message) (message : String) (turns : List Turn) :
    Except AssistantFailure AssistantResult :=
  converse (history ++ [⟨.user, .plain message⟩]) none none maxTurns turns

/-- A request of the chat panel. -/
inductive ChatOp where
  | chat (message : String) (turns : List Turn)
  | clear

/-- The stored history after the request: `assistant_chat` saves what
`handle_message` returned, trimmed, and nothing when it raised. -/
def chatStep (history : List Message) : ChatOp → List Message
  | .chat message turns =>
    match handleMessage history (strip message) turns with
    | .ok result => trim result.messages
    | .error _ => history
  | .clear => []

end Router

end MarketingAgents.Assistant

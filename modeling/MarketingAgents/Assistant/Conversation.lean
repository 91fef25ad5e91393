import MarketingAgents.Assistant.Router

namespace MarketingAgents.Assistant

open Lib PyText

/-- The ids of the `tool_use` blocks of a response. -/
def responseIds (response : List SdkBlock) : List String := response.filterMap SdkBlock.toolUseId?

/-- All `tool_use` blocks of the response carry one id, a proper one that is not in use. -/
def AsksOnce (used : List String) (response : List SdkBlock) : Prop :=
  ∀ id ∈ responseIds response, (scanBlocks response).2.map Prod.fst = some id ∧ id ≠ "" ∧ id ∉ used

instance (used : List String) (response : List SdkBlock) : Decidable (AsksOnce used response) :=
  inferInstanceAs (Decidable (∀ id ∈ responseIds response,
    (scanBlocks response).2.map Prod.fst = some id ∧ id ≠ "" ∧ id ∉ used))

/-- Each response asks once, under an id that no response before it has used. -/
def AskOnce (used : List String) : List Turn → Prop
  | [] => True
  | turn :: rest => AsksOnce used turn.response ∧ AskOnce (used ++ responseIds turn.response) rest

instance AskOnce.decidable : ∀ used turns, Decidable (AskOnce used turns)
  | _, [] => inferInstanceAs (Decidable True)
  | used, turn :: rest =>
    have := AskOnce.decidable (used ++ responseIds turn.response) rest
    inferInstanceAs (Decidable (AsksOnce used turn.response ∧ AskOnce (used ++ responseIds turn.response) rest))

/-- The ids in use are those of the conversation so far. -/
def ChatOp.AsksOnce (history : List Message) : ChatOp → Prop
  | .chat _ turns => AskOnce (history.flatMap Message.toolUseIds) turns
  | .clear => True

instance (history : List Message) (op : ChatOp) : Decidable (op.AsksOnce history) := by
  cases op <;> unfold ChatOp.AsksOnce <;> infer_instance

section Blocks

variable {response : List SdkBlock}

@[simp] theorem assistantMessage_toolUseIds : (assistantMessage response).toolUseIds = responseIds response :=
  serializeBlocks_toolUseIds response

@[simp] theorem assistantMessage_toolResultIds : (assistantMessage response).toolResultIds = [] :=
  serializeBlocks_answers_nothing response

@[simp] theorem toolResultMessage_toolUseIds (id : String) (outcome : ToolOutcome) :
    (toolResultMessage id outcome).toolUseIds = [] := rfl

@[simp] theorem toolResultMessage_toolResultIds (id : String) (outcome : ToolOutcome) :
    (toolResultMessage id outcome).toolResultIds = [id] := rfl

theorem scanBlocks_none (talks : (scanBlocks response).2 = none) : responseIds response = [] := by
  induction response with
  | nil => rfl
  | cons block rest ih =>
    cases block with
    | text text => exact ih talks
    | toolUse id name input => simp [scanBlocks] at talks

theorem scanBlocks_some {id name : String} (picks : (scanBlocks response).2 = some (id, name)) :
    id ∈ responseIds response := by
  induction response with
  | nil => simp [scanBlocks] at picks
  | cons block rest ih =>
    cases block with
    | text text => exact ih picks
    | toolUse first other input =>
      simp only [scanBlocks, Option.some.injEq, Prod.mk.injEq] at picks
      rw [← picks.1]
      exact List.mem_cons_self ..

end Blocks

/-- What the stored history keeps from one request to the next. -/
structure Sound (history : List Message) : Prop where
  paired : Paired Message.toolUseIds Message.toolResultIds history
  ids : IdsApart history
  asking : ∀ m ∈ history, ∀ id ∈ m.toolUseIds, m.role = .assistant
  answering : ∀ m ∈ history, ∀ id ∈ m.toolResultIds, m.role = .user

namespace Sound

variable {history messages : List Message} {response : List SdkBlock}

theorem nil : Sound [] := ⟨.nil, ⟨by simp, .nil⟩, by simp, by simp⟩

theorem trim (sound : Sound history) : Sound (trim history) where
  paired := trim_paired sound.paired sound.ids
  ids := sound.ids.suffix (trim_suffix history)
  asking m member := sound.asking m ((trim_suffix history).subset member)
  answering m member := sound.answering m ((trim_suffix history).subset member)

/-- Messages without `tool_use` blocks bring no id. -/
theorem append_quiet (sound : Sound messages) {m : Message} (asksNone : m.toolUseIds = [])
    (answersNone : m.toolResultIds = []) : Sound (messages ++ [m]) where
  paired := sound.paired.append (.single asksNone answersNone)
  ids :=
    { proper := fun n member => by
        rcases List.mem_append.mp member with old | new
        · exact sound.ids.proper n old
        · simp [List.mem_singleton.mp new, asksNone]
      apart := List.pairwise_append.mpr ⟨sound.ids.apart, List.pairwise_singleton .., fun n _ other new id _ => by
        simp [List.mem_singleton.mp new, asksNone]⟩ }
  asking n member := by
    rcases List.mem_append.mp member with old | new
    · exact sound.asking n old
    · simp [List.mem_singleton.mp new, asksNone]
  answering n member := by
    rcases List.mem_append.mp member with old | new
    · exact sound.answering n old
    · simp [List.mem_singleton.mp new, answersNone]

/-- A response that asks once, and the reply to the tool it picks. -/
theorem append_exchange (sound : Sound messages) {id name : String} (outcome : ToolOutcome)
    (picks : (scanBlocks response).2 = some (id, name))
    (once : AsksOnce (messages.flatMap Message.toolUseIds) response) :
    Sound (messages ++ [assistantMessage response, toolResultMessage id outcome]) where
  paired := by
    refine sound.paired.append (.exchange assistantMessage_toolResultIds (fun other => ?_) rfl)
    rw [assistantMessage_toolUseIds, toolResultMessage_toolResultIds, List.mem_singleton]
    constructor
    · intro asked
      have first := (once other asked).1
      rw [picks] at first
      exact (Option.some.inj first).symm
    · rintro rfl
      exact scanBlocks_some picks
  ids :=
    { proper := fun n member => by
        rcases List.mem_append.mp member with old | new
        · exact sound.ids.proper n old
        · rcases List.mem_pair.mp new with rfl | rfl
          · exact fun other asked => (once other (by simpa using asked)).2.1
          · simp
      apart := by
        refine List.pairwise_append.mpr ⟨sound.ids.apart, by simp, fun n old other new used asked => ?_⟩
        rcases List.mem_pair.mp new with rfl | rfl
        · intro again
          exact (once used (by simpa using again)).2.2 (List.mem_flatMap.mpr ⟨n, old, asked⟩)
        · simp }
  asking n member := by
    rcases List.mem_append.mp member with old | new
    · exact sound.asking n old
    · rcases List.mem_pair.mp new with rfl | rfl
      · exact fun _ _ => rfl
      · simp
  answering n member := by
    rcases List.mem_append.mp member with old | new
    · exact sound.answering n old
    · rcases List.mem_pair.mp new with rfl | rfl
      · simp
      · exact fun _ _ => rfl

end Sound

section Turns

variable [PyText] {history messages : List Message} {turns : List Turn}

/-- Whatever the loop returns with is paired; the induction is on the turns left. -/
theorem converse_sound {left : Nat} {last : Option ToolOutcome} {named : Option String} {result : AssistantResult}
    (sound : Sound messages) (once : AskOnce (messages.flatMap Message.toolUseIds) turns)
    (done : converse messages last named left turns = .ok result) : Sound result.messages := by
  induction left generalizing messages last named turns with
  | zero => simp [converse] at done
  | succ left ih =>
    cases turns with
    | nil => simp [converse] at done
    | cons turn rest =>
      obtain ⟨response, outcome⟩ := turn
      obtain ⟨here, later⟩ := once
      unfold converse at done
      dsimp only at done
      split at done
      · rename_i talks
        cases done
        exact sound.append_quiet (by simpa using scanBlocks_none talks) assistantMessage_toolResultIds
      · rename_i id name picks
        have next := sound.append_exchange outcome picks here
        split at done
        · simp at done
        · split at done
          · cases done
            exact next
          · refine ih next ?_ done
            simpa using later

theorem handleMessage_sound {message : String} {result : AssistantResult} (sound : Sound history)
    (once : AskOnce (history.flatMap Message.toolUseIds) turns) (done : handleMessage history message turns = .ok result) :
    Sound result.messages := by
  have asked : Sound (history ++ [⟨.user, .plain message⟩]) := sound.append_quiet rfl rfl
  refine converse_sound asked ?_ done
  simpa [Message.toolUseIds, Message.blockList] using once

theorem Sound.step (sound : Sound history) {op : ChatOp} (once : op.AsksOnce history) : Sound (chatStep history op) := by
  cases op with
  | chat message turns =>
    unfold chatStep
    dsimp only
    split
    · rename_i result done
      exact (handleMessage_sound sound once done).trim
    · exact sound
  | clear => exact .nil

end Turns

/-- What the provider demands of a history: each `tool_use` is answered in the
very next message, and each `tool_result` answers the message before it. -/
structure WellPaired (history : List Message) : Prop where
  answered : ∀ i m, history[i]? = some m → m.role = .assistant → ∀ id ∈ m.toolUseIds,
    ∃ n, history[i + 1]? = some n ∧ n.role = .user ∧ id ∈ n.toolResultIds
  asked : ∀ i n, history[i]? = some n → ∀ id ∈ n.toolResultIds,
    ∃ j m, i = j + 1 ∧ history[j]? = some m ∧ m.role = .assistant ∧ id ∈ m.toolUseIds

theorem Sound.wellPaired {history : List Message} (sound : Sound history) : WellPaired history where
  answered i m here _ id asked := by
    obtain ⟨n, next, answers⟩ := sound.paired.answered here asked
    exact ⟨n, next, sound.answering n (List.mem_of_getElem? next) id answers, answers⟩
  asked i n here id answers := by
    obtain ⟨j, m, before, previous, asks⟩ := sound.paired.asked here answers
    exact ⟨j, m, before, previous, sound.asking m (List.mem_of_getElem? previous) id asks, asks⟩

/-- In every conversation whose responses each ask under one fresh id, the
stored history pairs each `tool_use` with a `tool_result` of the very next
message, and each `tool_result` with a `tool_use` of the message before it. -/
theorem stored_conversation_is_paired [PyText] (ops : List ChatOp)
    (once : Along chatStep (fun history op => op.AsksOnce history) [] ops) : WellPaired (run chatStep [] ops) := by
  have sound : Sound (run chatStep [] ops) :=
    once.invariant (I := Sound) .nil fun _ _ sound once => sound.step once
  exact sound.wellPaired

namespace Conversation

local instance chatText : PyText := PyText.plain

/-- The user asks, the model calls `list_campaigns` under the given ids, and then sums up. -/
private def listing (ids : List String) : ChatOp :=
  .chat "what is running?"
    [⟨ids.map fun id => .toolUse id "list_campaigns" [], .returned "Found 0 campaigns." [("campaigns", .arr [])] false⟩,
      ⟨[.text "Nothing is running."], .raised ""⟩]

/-- Twenty messages and two more: the slice opens in the middle of an exchange. -/
private def longChat : List ChatOp :=
  (["t1", "t2", "t3", "t4", "t5"].map fun id => listing [id]) ++
    [.chat "thanks" [⟨[.text "You're welcome."], .raised ""⟩]]

theorem stored_conversation_is_paired_trimmed :
    WellPaired (run chatStep [] longChat) ∧ (run chatStep [] longChat).length = 18 :=
  ⟨stored_conversation_is_paired longChat (by decide), by decide⟩

/-- Of two `tool_use` blocks in one response the second is stored and never answered. -/
theorem second_tool_use_is_unanswered : ¬ ∀ ops, WellPaired (run chatStep [] ops) := by
  intro always
  have paired := always [listing ["t1", "t2"]]
  have asks : (run chatStep [] [listing ["t1", "t2"]])[1]?.map (fun m => (m.role, m.toolUseIds)) =
      some (.assistant, ["t1", "t2"]) := by decide
  have answers : (run chatStep [] [listing ["t1", "t2"]])[2]?.map Message.toolResultIds = some ["t1"] := by decide
  obtain ⟨m, here, shape⟩ := Option.map_eq_some_iff.mp asks
  obtain ⟨n, next, -, answered⟩ := paired.answered 1 m here (congrArg Prod.fst shape) "t2"
    (by rw [show m.toolUseIds = ["t1", "t2"] from congrArg Prod.snd shape]; decide)
  rw [next] at answers
  rw [Option.some.inj answers] at answered
  exact absurd answered (by decide)

end Conversation

end MarketingAgents.Assistant

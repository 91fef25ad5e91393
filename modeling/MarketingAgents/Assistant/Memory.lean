import MarketingAgents.Db.Text
import MarketingAgents.Lib.Paired

namespace MarketingAgents.Assistant

open Lib

inductive Role where
  | user | assistant
deriving DecidableEq

/-- A content block as the SDK returns it. -/
inductive SdkBlock where
  | text (text : String)
  | toolUse (id name : String) (input : Dict String Json)
deriving DecidableEq

/-- A content block as the conversation stores it. -/
inductive Block where
  | text (text : String)
  | toolUse (id name : String) (input : Dict String Json)
  | toolResult (toolUseId content : String) (isError : Bool)
deriving DecidableEq

inductive MessageContent where
  | plain (text : String)
  | blocks (blocks : List Block)
deriving DecidableEq

structure Message where
  role : Role
  content : MessageContent
deriving DecidableEq

def SdkBlock.dump : SdkBlock → Block
  | .text said => .text said
  | .toolUse id name input => .toolUse id name input

def serializeBlocks (blocks : List SdkBlock) : List Block := blocks.map SdkBlock.dump

def Block.toolUseId? : Block → Option String
  | .toolUse id .. => some id
  | _ => none

def Block.answeredId? : Block → Option String
  | .toolResult id .. => some id
  | _ => none

def SdkBlock.toolUseId? (block : SdkBlock) : Option String := block.dump.toolUseId?

namespace Message

def blockList (m : Message) : List Block :=
  match m.content with
  | .plain _ => []
  | .blocks blocks => blocks

/-- The ids of the `tool_use` blocks of the message. -/
def toolUseIds (m : Message) : List String := m.blockList.filterMap Block.toolUseId?

/-- The ids its `tool_result` blocks refer to. -/
def toolResultIds (m : Message) : List String := m.blockList.filterMap Block.answeredId?

end Message

/-- `MAX_MESSAGES`. -/
def maxMessages : Nat := 20

/-- `known_tool_use_ids`: those of the whole slice. -/
def knownToolUseIds (slice : List Message) : List String := (slice.flatMap Message.toolUseIds).filter (· ≠ "")

/-- The front message holds a `tool_result` for an id that the slice does not know. -/
def dangling (slice : List Message) (front : Message) : Bool :=
  front.toolResultIds.any fun id => id ≠ "" ∧ id ∉ knownToolUseIds slice

/-- The `while candidate` loop of `_trim`. -/
def peel : List Message → List Message
  | [] => []
  | m :: rest => if m.role ≠ .user then peel rest else if dangling (m :: rest) m then peel rest else m :: rest

/-- `_trim`. -/
def trim (messages : List Message) : List Message :=
  if messages.length ≤ maxMessages then messages else peel (messages.drop (messages.length - maxMessages))

theorem serializeBlocks_toolUseIds (blocks : List SdkBlock) :
    (serializeBlocks blocks).filterMap Block.toolUseId? = blocks.filterMap SdkBlock.toolUseId? := by
  rw [serializeBlocks, List.filterMap_map]
  rfl

/-- What the model said answers no tool. -/
theorem serializeBlocks_answers_nothing (blocks : List SdkBlock) :
    (serializeBlocks blocks).filterMap Block.answeredId? = [] := by
  rw [serializeBlocks, List.filterMap_map]
  refine List.filterMap_eq_nil_iff.mpr fun block _ => ?_
  cases block <;> rfl

theorem mem_knownToolUseIds {slice : List Message} {id : String} :
    id ∈ knownToolUseIds slice ↔ id ≠ "" ∧ ∃ m ∈ slice, id ∈ m.toolUseIds := by
  simp [knownToolUseIds, and_comm]

theorem peel_suffix (slice : List Message) : peel slice <:+ slice := by
  induction slice with
  | nil => exact List.suffix_rfl
  | cons m rest ih =>
    unfold peel
    have shorter := ih.trans (List.suffix_cons m rest)
    split
    · exact shorter
    · split
      · exact shorter
      · exact List.suffix_rfl

/-- The message the loop stops at is a user's and dangles nothing. -/
theorem peel_front {slice : List Message} {m : Message} {rest : List Message} (peeled : peel slice = m :: rest) :
    m.role = .user ∧ dangling (m :: rest) m = false := by
  induction slice with
  | nil => simp [peel] at peeled
  | cons first others ih =>
    unfold peel at peeled
    split at peeled
    · exact ih peeled
    · rename_i user
      split at peeled
      · exact ih peeled
      · rename_i settled
        cases peeled
        exact ⟨by simpa using user, by simpa using settled⟩

/-- Every `tool_use` id of the messages is a proper one, and no two messages share one. -/
structure IdsApart (messages : List Message) : Prop where
  proper : ∀ m ∈ messages, ∀ id ∈ m.toolUseIds, id ≠ ""
  apart : AsksApart Message.toolUseIds messages

theorem IdsApart.suffix {messages rest : List Message} (ids : IdsApart messages) (short : rest <:+ messages) :
    IdsApart rest where
  proper m member := ids.proper m (short.subset member)
  apart := ids.apart.sublist short.sublist

theorem trim_suffix (messages : List Message) : trim messages <:+ messages := by
  unfold trim
  split
  · exact List.suffix_rfl
  · exact (peel_suffix _).trans (List.drop_suffix _ _)

/-- Trimming splits no pair as long as the ids keep the messages apart: the
result at the front of the slice is either known to it, and then answers a
request before the slice under the same id, or it is peeled away. -/
theorem trim_paired {messages : List Message} (paired : Paired Message.toolUseIds Message.toolResultIds messages)
    (ids : IdsApart messages) : Paired Message.toolUseIds Message.toolResultIds (trim messages) := by
  obtain ⟨front, whole⟩ := trim_suffix messages
  rw [← whole] at paired
  refine paired.suffix fun m head => ?_
  obtain ⟨rest, shape⟩ := List.head?_eq_some_iff.mp head
  by_cases short : messages.length ≤ maxMessages
  · have all : trim messages = messages := if_pos short
    have empty : front = [] := by simpa [all] using whole
    exact paired.opens m (by rw [empty, shape]; rfl)
  · have peeled : peel (messages.drop (messages.length - maxMessages)) = m :: rest := by
      rw [← shape, trim, if_neg short]
    obtain ⟨-, settled⟩ := peel_front peeled
    rw [shape] at paired whole
    refine List.eq_nil_iff_forall_not_mem.mpr fun id answered => ?_
    obtain ⟨p, before, asked⟩ := paired.asked_before answered
    have proper : id ≠ "" := ids.proper p (whole ▸ List.mem_append_left _ before) id asked
    have known : id ∈ knownToolUseIds (m :: rest) := by
      have quiet := List.any_eq_false.mp settled id answered
      simpa [proper] using quiet
    obtain ⟨later, inside, again⟩ := (mem_knownToolUseIds.mp known).2
    have apart : AsksApart Message.toolUseIds (front ++ m :: rest) := whole ▸ ids.apart
    exact (List.pairwise_append.mp apart).2.2 p before later inside id asked again

end MarketingAgents.Assistant

import MarketingAgents.Assistant.Memory
import MarketingAgents.Lib.Loop

namespace MarketingAgents.Assistant

open Lib

/-- A message as the column `messages` holds it. -/
abbrev StoredMessage := Dict String Json

namespace StoredMessage

/-- The blocks of a content that is a list, as far as they are dictionaries. -/
def blocks (m : StoredMessage) : List (Dict String Json) :=
  match m.get? "content" with
  | some (.arr items) => items.filterMap Json.dict?
  | _ => []

def blocksOf (kind : String) (m : StoredMessage) : List (Dict String Json) :=
  m.blocks.filter fun block => block.get? "type" = some (.str kind)

/-- The ids of its `tool_use` blocks, less those that are falsy. -/
def toolUseIds (m : StoredMessage) : List Json :=
  (m.blocksOf "tool_use").filterMap fun block => (block.get? "id").filter Json.truthy

/-- The ids that its `tool_result` blocks refer to, less those that are falsy. -/
def toolResultIds (m : StoredMessage) : List Json :=
  (m.blocksOf "tool_result").filterMap fun block => (block.get? "tool_use_id").filter Json.truthy

def fromUser (m : StoredMessage) : Bool := m.get? "role" = some (.str "user")

/-- A user's message that is no answer of a tool. -/
def Plain (m : StoredMessage) : Prop := m.fromUser = true ∧ m.blocksOf "tool_result" = []

end StoredMessage

namespace Stored

/-- What a set can hold. -/
def hashable : Json → Bool
  | .arr _ | .obj _ => false
  | _ => true

/-- `known_tool_use_ids`, of the whole slice; adding an unhashable id raises. -/
def knownToolUseIds (slice : List StoredMessage) : Except String (List Json) :=
  let ids := slice.flatMap StoredMessage.toolUseIds
  if ids.all hashable then .ok ids else .error "TypeError"

/-- Whether an id is not known, up to the first such; looking an unhashable one up raises. -/
def dangling (known : List Json) : List Json → Except String Bool
  | [] => .ok false
  | id :: rest =>
    if !hashable id then .error "TypeError" else if id ∈ known then dangling known rest else .ok true

/-- The first message refers to an id that the slice does not know. -/
def frontDangles (first : StoredMessage) (slice : List StoredMessage) : Except String Bool := do
  let known ← knownToolUseIds slice
  dangling known first.toolResultIds

/-- A pass of the `while candidate` loop of `_trim`, which an exception ends as well. -/
def pass : Except String (List StoredMessage) → Option (Except String (List StoredMessage))
  | .error _ | .ok [] => none
  | .ok (first :: rest) =>
    if !first.fromUser then some (.ok rest)
    else
      match frontDangles first (first :: rest) with
      | .error raised => some (.error raised)
      | .ok true => some (.ok rest)
      | .ok false => none

/-- `_trim`, `none` where its loop is still going. -/
def trim (fuel : Nat) (messages : List StoredMessage) : Option (Except String (List StoredMessage)) :=
  if messages.length ≤ maxMessages then some (.ok messages)
  else loop pass fuel (.ok (messages.drop (messages.length - maxMessages)))

theorem dangling_eq {known ids : List Json} (hashed : ids.all hashable = true) :
    dangling known ids = .ok (ids.any (· ∉ known)) := by
  induction ids with
  | nil => rfl
  | cons id ids ih =>
    rw [List.all_cons, Bool.and_eq_true] at hashed
    rw [dangling, hashed.1, ih hashed.2]
    by_cases here : id ∈ known <;> simp [here]

theorem frontDangles_eq {first : StoredMessage} {slice : List StoredMessage}
    (asked : (slice.flatMap StoredMessage.toolUseIds).all hashable = true)
    (answered : first.toolResultIds.all hashable = true) :
    frontDangles first slice = .ok (first.toolResultIds.any (· ∉ slice.flatMap StoredMessage.toolUseIds)) := by
  have known : knownToolUseIds slice = .ok (slice.flatMap StoredMessage.toolUseIds) := if_pos asked
  rw [frontDangles, known]
  exact dangling_eq answered

/-- The message may open the slice: it is a user's, and the slice knows all it refers to. -/
def Opens (first : StoredMessage) (slice : List StoredMessage) : Prop :=
  first.fromUser = true ∧ ∀ id ∈ first.toolResultIds, id ∈ slice.flatMap StoredMessage.toolUseIds

instance (first : StoredMessage) (slice : List StoredMessage) : Decidable (Opens first slice) :=
  inferInstanceAs (Decidable (_ ∧ _))

/-- A pass over ids that sets can hold drops the first message unless it may open the slice. -/
theorem pass_cons {first : StoredMessage} {rest : List StoredMessage}
    (asked : ((first :: rest).flatMap StoredMessage.toolUseIds).all hashable = true)
    (answered : first.toolResultIds.all hashable = true) :
    pass (.ok (first :: rest)) = if Opens first (first :: rest) then none else some (.ok rest) := by
  rw [pass, frontDangles_eq asked answered]
  cases user : first.fromUser with
  | false => simp [Opens, user]
  | true =>
    cases unknown : first.toolResultIds.any (· ∉ (first :: rest).flatMap StoredMessage.toolUseIds) with
    | false =>
      have settled : Opens first (first :: rest) := by
        refine ⟨user, fun id answers => ?_⟩
        by_contra foreign
        exact List.any_eq_false.mp unknown id answers (decide_eq_true foreign)
      rw [if_pos settled]
      rfl
    | true =>
      have dangles : ¬ Opens first (first :: rest) := by
        rintro ⟨_, known⟩
        obtain ⟨id, answers, foreign⟩ := List.any_eq_true.mp unknown
        exact absurd (known id answers) (of_decide_eq_true foreign)
      rw [if_neg dangles]
      rfl

/-- How far the loop has to go at most. -/
def size : Except String (List StoredMessage) → Nat
  | .ok slice => slice.length
  | .error _ => 0

/-- The loop is at a suffix of the slice that has all its plain messages. -/
def Peeled (slice : List StoredMessage) (state : Except String (List StoredMessage)) : Prop :=
  ∃ left, state = .ok left ∧ left <:+ slice ∧ ∀ m ∈ slice, m.Plain → m ∈ left

theorem plain_opens {m : StoredMessage} (plain : m.Plain) (slice : List StoredMessage) : Opens m slice := by
  refine ⟨plain.1, fun id answers => ?_⟩
  rw [StoredMessage.toolResultIds, plain.2] at answers
  cases answers

/-- Over ids that sets can hold the loop ends, at a suffix of the slice that has
its plain messages, and that its first message may open. -/
theorem peeling_ends {slice : List StoredMessage}
    (asked : (slice.flatMap StoredMessage.toolUseIds).all hashable = true)
    (answered : ∀ m ∈ slice, m.toolResultIds.all hashable = true) :
    ∃ left, (∀ fuel, slice.length < fuel → loop pass fuel (.ok slice) = some (.ok left)) ∧ left <:+ slice ∧
      (∀ m ∈ slice, m.Plain → m ∈ left) ∧ ∀ first ∈ left.head?, Opens first left := by
  have passes : ∀ first rest, first :: rest <:+ slice →
      pass (.ok (first :: rest)) = if Opens first (first :: rest) then none else some (.ok rest) := by
    intro first rest short
    refine pass_cons (List.all_eq_true.mpr fun id member => ?_) (answered first (short.subset (List.mem_cons_self ..)))
    obtain ⟨m, inside, asks⟩ := List.mem_flatMap.mp member
    exact List.all_eq_true.mp asked id (List.mem_flatMap.mpr ⟨m, short.subset inside, asks⟩)
  have keep : ∀ state next, Peeled slice state → pass state = some next → Peeled slice next ∧ size next < size state := by
    rintro state next ⟨left, rfl, short, plain⟩ passed
    cases left with
    | nil => cases passed
    | cons first rest =>
      rw [passes first rest short] at passed
      split at passed
      · cases passed
      · rename_i dropped
        cases passed
        refine ⟨⟨rest, rfl, (List.suffix_cons first rest).trans short, fun m member isPlain => ?_⟩, Nat.lt_succ_self _⟩
        rcases List.mem_cons.mp (plain m member isPlain) with rfl | later
        · exact absurd (plain_opens isPlain _) dropped
        · exact later
  obtain ⟨last, ⟨left, rfl, short, plain⟩, settled, ends⟩ :=
    loop_ends size keep ⟨slice, rfl, List.suffix_rfl, fun m member _ => member⟩
  refine ⟨left, ends, short, plain, fun first opening => ?_⟩
  cases left with
  | nil => cases opening
  | cons head rest =>
    cases Option.some.inj opening
    rw [passes first rest short] at settled
    by_contra dropped
    rw [if_neg dropped] at settled
    cases settled

/-- The history begins with the user, its tool uses have proper ids, no two the
same, and every tool result answers a tool use of the message before it. -/
structure Answering (messages : List StoredMessage) : Prop where
  begins : messages.head?.any StoredMessage.fromUser = true
  proper : ∀ m ∈ messages, ∀ block ∈ m.blocksOf "tool_use", ∃ id ∈ (block.get? "id").bind Json.str?, id ≠ ""
  distinct : (messages.flatMap StoredMessage.toolUseIds).Nodup
  opens : ∀ m ∈ messages.head?, m.blocksOf "tool_result" = []
  links : messages.IsChain fun p m => ∀ block ∈ m.blocksOf "tool_result",
    ∃ id ∈ p.toolUseIds, block.get? "tool_use_id" = some id

variable {messages : List StoredMessage}

theorem truthy_of_mem_toolUseIds {m : StoredMessage} {id : Json} (asks : id ∈ m.toolUseIds) : id.truthy = true := by
  obtain ⟨block, _, found⟩ := List.mem_filterMap.mp asks
  exact (Option.filter_eq_some_iff.mp found).2

theorem Answering.hashable_asked (answering : Answering messages) {m : StoredMessage} (member : m ∈ messages) {id : Json}
    (asks : id ∈ m.toolUseIds) : hashable id = true := by
  obtain ⟨block, listed, found⟩ := List.mem_filterMap.mp asks
  obtain ⟨text, proper, _⟩ := answering.proper m member block listed
  rw [(Option.filter_eq_some_iff.mp found).1, Option.bind_some] at proper
  cases id <;> first | rfl | cases proper

theorem Answering.answers (answering : Answering messages) {before after : List StoredMessage} {m : StoredMessage}
    (split : messages = before ++ m :: after) {block : Dict String Json} (listed : block ∈ m.blocksOf "tool_result") :
    ∃ p ∈ before.getLast?, ∃ id ∈ p.toolUseIds, block.get? "tool_use_id" = some id := by
  rcases List.eq_nil_or_concat before with rfl | ⟨earlier, p, rfl⟩
  · have none := answering.opens m (by rw [split]; rfl)
    rw [none] at listed
    cases listed
  · have links := answering.links
    rw [split] at links
    have last : p ∈ (earlier.concat p).getLast? := by simp
    exact ⟨p, last, (List.isChain_append.mp links).2.2 p last m rfl block listed⟩

/-- What a message of the history answers, an earlier one has asked. -/
theorem Answering.asked_before (answering : Answering messages) {before after : List StoredMessage} {m : StoredMessage}
    (split : messages = before ++ m :: after) {id : Json} (answers : id ∈ m.toolResultIds) :
    ∃ p ∈ before, id ∈ p.toolUseIds := by
  obtain ⟨block, listed, found⟩ := List.mem_filterMap.mp answers
  obtain ⟨p, last, asked, asks, refers⟩ := answering.answers split listed
  rw [refers] at found
  cases (Option.filter_eq_some_iff.mp found).1
  exact ⟨p, List.mem_of_getLast? last, asks⟩

theorem Answering.hashable_answered (answering : Answering messages) {m : StoredMessage} (member : m ∈ messages) :
    m.toolResultIds.all hashable = true := by
  refine List.all_eq_true.mpr fun id answers => ?_
  obtain ⟨before, after, split⟩ := List.append_of_mem member
  obtain ⟨p, earlier, asks⟩ := answering.asked_before split answers
  exact answering.hashable_asked (split ▸ List.mem_append_left _ earlier) asks

/-- A suffix that its first message may open keeps the tool use of every tool
result in it: the first one answers nothing, as an id is used only once. -/
theorem Answering.suffix_answers (answering : Answering messages) {kept : List StoredMessage} (short : kept <:+ messages)
    (opens : kept = messages ∨ ∀ first ∈ kept.head?, Opens first kept) {before after : List StoredMessage}
    {m : StoredMessage} (split : kept = before ++ m :: after) {block : Dict String Json}
    (listed : block ∈ m.blocksOf "tool_result") :
    ∃ p ∈ before, ∃ id ∈ p.toolUseIds, block.get? "tool_use_id" = some id := by
  obtain ⟨front, whole⟩ := short
  have place : messages = (front ++ before) ++ m :: after := by rw [← whole, split, List.append_assoc]
  obtain ⟨p, last, id, asks, refers⟩ := answering.answers place listed
  rcases List.eq_nil_or_concat before with rfl | ⟨earlier, q, rfl⟩
  · rw [List.append_nil] at last
    exfalso
    have asked := List.mem_of_getLast? last
    rcases opens with all | opens
    · have empty : front = [] := by simpa [all] using whole
      rw [empty] at asked
      cases asked
    · have answers : id ∈ m.toolResultIds :=
        List.mem_filterMap.mpr ⟨block, listed, Option.filter_eq_some_iff.mpr ⟨refers, truthy_of_mem_toolUseIds asks⟩⟩
      have again := (opens m (by rw [split]; rfl)).2 id answers
      have distinct := answering.distinct
      rw [← whole, List.flatMap_append] at distinct
      exact (List.nodup_append.mp distinct).2.2 id (List.mem_flatMap.mpr ⟨p, asked, asks⟩) id again rfl
  · rw [List.concat_eq_append, ← List.append_assoc, List.getLast?_append, List.getLast?_singleton] at last
    cases Option.some.inj last
    exact ⟨p, by simp, id, asks, refers⟩

/-- `_trim` ends, with a suffix of at most twenty messages that the user begins
and that holds the tool use of each of its tool results; it is not empty if one
of the last twenty messages is a plain one of the user. -/
theorem trim_keeps_pairs (answering : Answering messages) :
    ∃ kept, (∀ fuel, maxMessages < fuel → trim fuel messages = some (.ok kept)) ∧ kept <:+ messages ∧
      kept.length ≤ maxMessages ∧ (kept = [] ∨ kept.head?.any StoredMessage.fromUser = true) ∧
      (∀ before m after, kept = before ++ m :: after → ∀ block ∈ m.blocksOf "tool_result",
        ∃ p ∈ before, ∃ id ∈ p.toolUseIds, block.get? "tool_use_id" = some id) ∧
      ((∃ m ∈ messages.drop (messages.length - maxMessages), m.Plain) → kept ≠ []) := by
  by_cases few : messages.length ≤ maxMessages
  · refine ⟨messages, fun fuel _ => if_pos few, List.suffix_rfl, few, Or.inr answering.begins,
      fun before m after split block listed => answering.suffix_answers List.suffix_rfl (Or.inl rfl) split listed, ?_⟩
    rintro ⟨m, member, _⟩ rfl
    simp at member
  · have within := List.drop_suffix (messages.length - maxMessages) messages
    have size : (messages.drop (messages.length - maxMessages)).length = maxMessages := by
      rw [List.length_drop]
      omega
    have asked : ((messages.drop (messages.length - maxMessages)).flatMap StoredMessage.toolUseIds).all hashable = true := by
      refine List.all_eq_true.mpr fun id member => ?_
      obtain ⟨m, inside, asks⟩ := List.mem_flatMap.mp member
      exact answering.hashable_asked (within.subset inside) asks
    obtain ⟨kept, ends, short, plain, opens⟩ :=
      peeling_ends asked fun m member => answering.hashable_answered (within.subset member)
    refine ⟨kept, fun fuel enough => ?_, short.trans within, size ▸ short.length_le, ?_,
      fun before m after split block listed => answering.suffix_answers (short.trans within) (Or.inr opens) split listed, ?_⟩
    · rw [trim, if_neg few]
      exact ends fuel (by rwa [size])
    · cases kept with
      | nil => exact Or.inl rfl
      | cons first rest => exact Or.inr (opens first rfl).1
    · rintro ⟨m, member, isPlain⟩ rfl
      cases plain m member isPlain

/-- A question, a tool use and its result. -/
def exchange (id : String) : List StoredMessage :=
  [[("role", .str "user"), ("content", .str "next")],
    [("role", .str "assistant"), ("content", .arr [.obj [("type", .str "tool_use"), ("id", .str id)]])],
    [("role", .str "user"), ("content", .arr [.obj [("type", .str "tool_result"), ("tool_use_id", .str id)]])]]

/-- Of eight exchanges the last six are left: the cut goes through the second. -/
theorem trim_keeps_pairs_eight :
    let messages := ["a", "b", "c", "d", "e", "f", "g", "h"].flatMap exchange
    messages.length = 24 ∧ ∃ kept, trim 21 messages = some (.ok kept) ∧ kept <:+ messages ∧ kept.length = 18 := by
  intro messages
  have answering : Answering messages := {
    begins := by decide +kernel
    proper := by decide +kernel
    distinct := by decide +kernel
    opens := by decide +kernel
    links := by decide +kernel }
  have ran : ∃ kept ∈ (trim 21 messages).bind Except.toOption, kept.length = 18 := by decide +kernel
  obtain ⟨kept, ends, short, _⟩ := trim_keeps_pairs answering
  obtain ⟨other, found, length⟩ := ran
  rw [ends 21 (by decide)] at found
  cases Option.some.inj found
  exact ⟨rfl, kept, ends 21 (by decide), short, length⟩

end Stored

def Role.text : Role → String
  | .user => "user"
  | .assistant => "assistant"

/-- The dictionary of a block. -/
def Block.stored : Block → Dict String Json
  | .text said => [("type", .str "text"), ("text", .str said)]
  | .toolUse id name input => [("type", .str "tool_use"), ("id", .str id), ("name", .str name), ("input", .obj input)]
  | .toolResult id content isError =>
    [("type", .str "tool_result"), ("tool_use_id", .str id), ("content", .str content), ("is_error", .bool isError)]

def MessageContent.stored : MessageContent → Json
  | .plain text => .str text
  | .blocks items => .arr (items.map fun block => .obj block.stored)

/-- The dictionary that the column holds for a message. -/
def Message.stored (m : Message) : StoredMessage := [("role", .str m.role.text), ("content", m.content.stored)]

namespace Stored

theorem stored_fromUser (m : Message) : m.stored.fromUser = true ↔ m.role = .user := by
  obtain ⟨role, content⟩ := m
  cases role <;> simp [Message.stored, StoredMessage.fromUser, Dict.get?, Role.text]

theorem stored_blocks (m : Message) : m.stored.blocks = m.blockList.map Block.stored := by
  obtain ⟨role, content⟩ := m
  cases content with
  | plain text => rfl
  | blocks items =>
    show (items.map fun block => Json.obj block.stored).filterMap Json.dict? = items.map Block.stored
    rw [List.filterMap_map]
    exact congrFun List.filterMap_eq_map items

/-- What the blocks of a kind hold under a key is what the typed blocks select. -/
theorem stored_ids {kind key : String} {select : Block → Option String}
    (same : ∀ block : Block, (if block.stored.get? "type" = some (.str kind) then
      (block.stored.get? key).filter Json.truthy else none) = ((select block).filter (· ≠ "")).map Json.str) (m : Message) :
    ((m.stored.blocksOf kind).filterMap fun block => (block.get? key).filter Json.truthy) =
      ((m.blockList.filterMap select).filter (· ≠ "")).map Json.str := by
  rw [StoredMessage.blocksOf, stored_blocks, List.filterMap_filter, List.filterMap_map, List.filter_filterMap,
    List.map_filterMap]
  refine List.filterMap_congr fun block _ => ?_
  simpa using same block

theorem stored_id (id : String) :
    (some (Json.str id)).filter Json.truthy = ((some id).filter (· ≠ "")).map Json.str := by
  by_cases empty : id = ""
  · rw [empty]
    rfl
  · have proper : (Json.str id).truthy = true := bne_iff_ne.mpr empty
    rw [Option.filter_some_pos proper, Option.filter_some_pos (by simpa using empty), Option.map_some]

theorem stored_toolUseIds (m : Message) : m.stored.toolUseIds = (m.toolUseIds.filter (· ≠ "")).map Json.str := by
  refine stored_ids (fun block => ?_) m
  cases block with
  | toolUse id name input => exact (if_pos rfl).trans (stored_id id)
  | text said => rfl
  | toolResult id content isError => rfl

theorem stored_toolResultIds (m : Message) :
    m.stored.toolResultIds = (m.toolResultIds.filter (· ≠ "")).map Json.str := by
  refine stored_ids (fun block => ?_) m
  cases block with
  | toolResult id content isError => exact (if_pos rfl).trans (stored_id id)
  | text said => rfl
  | toolUse id name input => rfl

theorem stored_known (slice : List Message) :
    (slice.map Message.stored).flatMap StoredMessage.toolUseIds = (Assistant.knownToolUseIds slice).map Json.str := by
  unfold Assistant.knownToolUseIds
  induction slice with
  | nil => rfl
  | cons m slice ih =>
    rw [List.map_cons, List.flatMap_cons, List.flatMap_cons, ih, stored_toolUseIds, List.filter_append, List.map_append]

theorem opens_stored (m : Message) (slice : List Message) :
    Opens m.stored (slice.map Message.stored) ↔ m.role = .user ∧ Assistant.dangling slice m = false := by
  have texts : Function.Injective Json.str := fun _ _ same => Json.str.inj same
  rw [Opens, stored_fromUser, stored_known, stored_toolResultIds, Assistant.dangling, List.any_eq_false]
  simp only [List.forall_mem_map, List.mem_filter, decide_eq_true_eq, and_imp, not_and, not_not,
    List.mem_map_of_injective texts]

/-- On the messages of the conversation the loop is the typed one. -/
theorem loop_peel (slice : List Message) {fuel : Nat} (enough : slice.length < fuel) :
    loop pass fuel (.ok (slice.map Message.stored)) = some (.ok ((peel slice).map Message.stored)) := by
  have texts : ∀ ids : List String, (ids.map Json.str).all hashable = true := fun ids =>
    List.all_eq_true.mpr fun id member => by
      obtain ⟨text, _, rfl⟩ := List.mem_map.mp member
      rfl
  induction slice generalizing fuel with
  | nil =>
    obtain ⟨less, rfl⟩ := Nat.exists_eq_succ_of_ne_zero (Nat.ne_of_gt enough)
    exact loop_left rfl
  | cons m slice ih =>
    obtain ⟨less, rfl⟩ := Nat.exists_eq_succ_of_ne_zero (Nat.ne_of_gt (Nat.zero_lt_of_lt enough))
    have asked : (((m :: slice).map Message.stored).flatMap StoredMessage.toolUseIds).all hashable = true := by
      rw [stored_known]
      exact texts _
    have answered : m.stored.toolResultIds.all hashable = true := by
      rw [stored_toolResultIds]
      exact texts _
    have passes := pass_cons asked answered
    rw [← List.map_cons] at passes
    have later := ih (Nat.lt_of_succ_lt_succ enough)
    by_cases opens : m.role = .user ∧ Assistant.dangling (m :: slice) m = false
    · rw [if_pos ((opens_stored m (m :: slice)).mpr opens)] at passes
      rw [loop_left passes, peel, if_neg (not_not_intro opens.1), opens.2]
      rfl
    · rw [if_neg fun open_ => opens ((opens_stored m (m :: slice)).mp open_)] at passes
      rw [loop_pass passes, later, peel]
      by_cases user : m.role = .user
      · have dangles : Assistant.dangling (m :: slice) m = true := by simpa [user] using opens
        rw [if_neg (not_not_intro user), if_pos dangles]
      · rw [if_pos user]

/-- The typed `_trim`, which the conversations are stated with, is the one on what the column holds. -/
theorem trim_stored (messages : List Message) {fuel : Nat} (enough : maxMessages < fuel) :
    trim fuel (messages.map Message.stored) = some (.ok ((Assistant.trim messages).map Message.stored)) := by
  unfold trim Assistant.trim
  rw [List.length_map]
  split
  · rfl
  · rename_i many
    rw [← List.map_drop]
    refine loop_peel _ ?_
    rw [List.length_drop]
    omega

end Stored

end MarketingAgents.Assistant

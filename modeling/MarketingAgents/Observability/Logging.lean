import MarketingAgents.Lib.Dict
import MarketingAgents.Lib.Pattern

namespace MarketingAgents

open Lib

/-- `[A-Za-z0-9]` and the further characters of a class. -/
def alnumOr (others : List Char) (c : Char) : Bool := c.isAlphanum || others.contains c

def literal (text : String) : List (Piece Char) := text.toList.map fun c => { holds := fun d => d == c }

/-- `\s` of a `str` pattern. -/
def isSpace (c : Char) : Bool :=
  (9 ≤ c.val && c.val ≤ 13) || (28 ≤ c.val && c.val ≤ 32) || c.val == 0x85 || c.val == 0xa0 || c.val == 0x1680 ||
    (0x2000 ≤ c.val && c.val ≤ 0x200a) || c.val == 0x2028 || c.val == 0x2029 || c.val == 0x202f || c.val == 0x205f ||
    c.val == 0x3000

/-- A letter under `re.IGNORECASE`, and the letters that are no ASCII but fold to one in `[a-z]`. -/
def foldsTo (c d : Char) : Bool := d.toLower == c

def foldedLetters : List Char := ['\u0130', '\u0131', '\u017f', '\u212a']

/-- GitHub and Slack tokens, and keys: a tag and at least twenty characters. -/
def tagged (tag : String) (others : List Char) : Pattern Char where
  pieces := literal tag ++ [{ holds := alnumOr others, least := 20, most := none }]
  nonempty := ⟨_, List.mem_append_right _ (List.mem_singleton_self _), Nat.succ_pos _⟩

def awsKey : Pattern Char where
  pieces := literal "AKIA" ++ [{ holds := fun c => c.isDigit || c.isUpper, least := 16, most := some 16 }]
  nonempty := ⟨_, List.mem_append_right _ (List.mem_singleton_self _), Nat.succ_pos _⟩

def bearer : Pattern Char where
  pieces := ("bearer".toList.map fun c => { holds := foldsTo c }) ++
    [{ holds := isSpace, most := none }, { holds := alnumOr (['.', '_', '-'] ++ foldedLetters), most := none }]
  nonempty := ⟨_, List.mem_append_right _ (List.mem_cons_self ..), Nat.succ_pos _⟩

def jwt : Pattern Char where
  pieces :=
    let part : Piece Char := { holds := alnumOr ['_', '-'], most := none }
    literal "eyJ" ++ part :: literal "." ++ part :: literal "." ++ [part]
  nonempty := ⟨_, List.mem_append_right _ (List.mem_singleton_self _), Nat.succ_pos _⟩

/-- `SECRET_PATTERNS`. -/
def secretPatterns : List (Pattern Char) :=
  [tagged "ghp_" ['_'], tagged "github_pat_" ['_'], tagged "sk-" ['_', '-'], tagged "xoxb-" ['-'], tagged "xoxp-" ['-'],
    awsKey, bearer, jwt]

/-- `REDACTED`. -/
def redacted : String := "[REDACTED]"

def redactString (value : String) : String := String.ofList (Pattern.subEach secretPatterns redacted.toList value.toList)

/-- What a log event holds. Of any other object (a number, a set) only its `repr` is logged, untouched. -/
inductive LogValue where
  | text (value : String)
  | mapping (fields : List (String × LogValue))
  | list (items : List LogValue)
  | tuple (items : List LogValue)
  | other (repr : String)

mutual

def redactValue : LogValue → LogValue
  | .text value => .text (redactString value)
  | .mapping fields => .mapping (redactFields fields)
  | .list items => .list (redactItems items)
  | .tuple items => .tuple (redactItems items)
  | .other repr => .other repr

def redactFields : List (String × LogValue) → List (String × LogValue)
  | [] => []
  | (key, value) :: fields => (key, redactValue value) :: redactFields fields

def redactItems : List LogValue → List LogValue
  | [] => []
  | value :: items => redactValue value :: redactItems items

end

def redactSecrets (event : Dict String LogValue) : Dict String LogValue := redactFields event

mutual

/-- The strings among the values, at any depth of mappings, lists and tuples. -/
def LogValue.strings : LogValue → List String
  | .text value => [value]
  | .mapping fields => fieldStrings fields
  | .list items | .tuple items => itemStrings items
  | .other _ => []

def fieldStrings : List (String × LogValue) → List String
  | [] => []
  | (_, value) :: fields => value.strings ++ fieldStrings fields

def itemStrings : List LogValue → List String
  | [] => []
  | value :: items => value.strings ++ itemStrings items

end

mutual

/-- The rest of what is logged of a value: the keys of mappings and other objects, at any depth. -/
def LogValue.labels : LogValue → List String
  | .text _ => []
  | .mapping fields => fieldLabels fields
  | .list items | .tuple items => itemLabels items
  | .other repr => [repr]

def fieldLabels : List (String × LogValue) → List String
  | [] => []
  | (key, value) :: fields => key :: (value.labels ++ fieldLabels fields)

def itemLabels : List LogValue → List String
  | [] => []
  | value :: items => value.labels ++ itemLabels items

end

/-- No pattern of a secret occurs in the text. -/
def Secretless (text : String) : Prop := ∀ P ∈ secretPatterns, P.Clean text.toList

/-- The brackets of the mark stop every pattern, and none occurs within it. -/
theorem secretPatterns_apart : ∀ P ∈ secretPatterns, P.Apart redacted.toList := by
  have borders : secretPatterns.all fun P => P.pieces.all fun p => !p.holds '[' && !p.holds ']' := by decide
  have within : secretPatterns.all fun P =>
      P.pieces.any fun p => decide (0 < p.least) && "REDACTED".toList.all fun c => !p.holds c := by decide
  simp only [List.all_eq_true, List.any_eq_true, Bool.and_eq_true, Bool.not_eq_true', decide_eq_true_eq] at borders within
  intro P listed
  obtain ⟨p, piece, positive, lacks⟩ := within P listed
  exact ⟨'[', "REDACTED".toList, ']', by decide, fun q member => (borders P listed q member).1,
    fun q member => (borders P listed q member).2, Pattern.clean_of_lacks piece positive lacks⟩

theorem redactString_secretless (value : String) : Secretless (redactString value) := by
  intro P listed
  rw [redactString, String.toList_ofList]
  exact (Pattern.clean_subEach secretPatterns_apart value.toList).1 P listed

theorem redactString_of_secretless {value : String} (clean : Secretless value) : redactString value = value := by
  rw [redactString, Pattern.subEach_of_clean clean, String.ofList_toList]

mutual

theorem redactValue_strings (value : LogValue) : (redactValue value).strings = value.strings.map redactString :=
  match value with
  | .text _ => rfl
  | .mapping fields => redactFields_strings fields
  | .list items => redactItems_strings items
  | .tuple items => redactItems_strings items
  | .other _ => rfl

theorem redactFields_strings (fields : List (String × LogValue)) :
    fieldStrings (redactFields fields) = (fieldStrings fields).map redactString :=
  match fields with
  | [] => rfl
  | (_, value) :: fields => by
    rw [redactFields, fieldStrings, fieldStrings, List.map_append, redactValue_strings value, redactFields_strings fields]

theorem redactItems_strings (items : List LogValue) :
    itemStrings (redactItems items) = (itemStrings items).map redactString :=
  match items with
  | [] => rfl
  | value :: items => by
    rw [redactItems, itemStrings, itemStrings, List.map_append, redactValue_strings value, redactItems_strings items]

end

mutual

theorem redactValue_labels (value : LogValue) : (redactValue value).labels = value.labels :=
  match value with
  | .text _ => rfl
  | .mapping fields => redactFields_labels fields
  | .list items => redactItems_labels items
  | .tuple items => redactItems_labels items
  | .other _ => rfl

theorem redactFields_labels (fields : List (String × LogValue)) : fieldLabels (redactFields fields) = fieldLabels fields :=
  match fields with
  | [] => rfl
  | (_, value) :: fields => by
    rw [redactFields, fieldLabels, fieldLabels, redactValue_labels value, redactFields_labels fields]

theorem redactItems_labels (items : List LogValue) : itemLabels (redactItems items) = itemLabels items :=
  match items with
  | [] => rfl
  | value :: items => by
    rw [redactItems, itemLabels, itemLabels, redactValue_labels value, redactItems_labels items]

end

mutual

theorem redactValue_of_secretless (value : LogValue) (clean : ∀ s ∈ value.strings, Secretless s) : redactValue value = value :=
  match value with
  | .text s => congrArg LogValue.text (redactString_of_secretless (clean s (List.mem_singleton_self s)))
  | .mapping fields => congrArg LogValue.mapping (redactFields_of_secretless fields clean)
  | .list items => congrArg LogValue.list (redactItems_of_secretless items clean)
  | .tuple items => congrArg LogValue.tuple (redactItems_of_secretless items clean)
  | .other _ => rfl

theorem redactFields_of_secretless (fields : List (String × LogValue)) (clean : ∀ s ∈ fieldStrings fields, Secretless s) :
    redactFields fields = fields :=
  match fields with
  | [] => rfl
  | (key, value) :: fields => by
    rw [redactFields, redactValue_of_secretless value fun s member => clean s (List.mem_append_left _ member),
      redactFields_of_secretless fields fun s member => clean s (List.mem_append_right _ member)]

theorem redactItems_of_secretless (items : List LogValue) (clean : ∀ s ∈ itemStrings items, Secretless s) :
    redactItems items = items :=
  match items with
  | [] => rfl
  | value :: items => by
    rw [redactItems, redactValue_of_secretless value fun s member => clean s (List.mem_append_left _ member),
      redactItems_of_secretless items fun s member => clean s (List.mem_append_right _ member)]

end

theorem redactSecrets_secretless (event : Dict String LogValue) : ∀ s ∈ fieldStrings (redactSecrets event), Secretless s := by
  intro s member
  rw [redactSecrets, redactFields_strings] at member
  obtain ⟨value, _, rfl⟩ := List.mem_map.mp member
  exact redactString_secretless value

/-- The values of a redacted event hold no secret, and its keys and other objects are what they were: a secret is left
in the event exactly if one of those has it. One pass is enough, and an event whose values hold no secret is logged
as it is. -/
theorem redacts_every_secret (event : Dict String LogValue) :
    (∀ s ∈ fieldStrings (redactSecrets event), Secretless s) ∧
      fieldLabels (redactSecrets event) = fieldLabels event ∧
      ((∀ s ∈ fieldStrings (redactSecrets event) ++ fieldLabels (redactSecrets event), Secretless s) ↔
        ∀ s ∈ fieldLabels event, Secretless s) ∧
      redactSecrets (redactSecrets event) = redactSecrets event ∧
      ((∀ s ∈ fieldStrings event, Secretless s) → redactSecrets event = event) := by
  have values := redactSecrets_secretless event
  have labels : fieldLabels (redactSecrets event) = fieldLabels event := redactFields_labels event
  refine ⟨values, labels, ?_, redactFields_of_secretless _ values, redactFields_of_secretless event⟩
  rw [List.forall_mem_append, labels]
  exact and_iff_right values

example : redactString "key sk-abcdefghij0123456789-x, auth: BEARER  a.b" = "key [REDACTED], auth: [REDACTED]" := by decide

end MarketingAgents

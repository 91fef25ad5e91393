import MarketingAgents.Db.Text

namespace MarketingAgents

open Lib PyText

/-- How `json.loads` fails: a `JSONDecodeError` with its text, or another
exception (a number of too many digits, too deep a nesting). -/
inductive LoadsError where
  | decode (message : String)
  | raised (message : String)
deriving DecidableEq

class PyJson where
  loads : String → Except LoadsError Json

/-- What a call of the model comes to: an exception of the client, a message
without a text block, or the text of the first one. -/
inductive ModelMessage where
  | raised (message : String)
  | noText
  | text (raw : String)

section Reply

variable [PyText]

/-- What stands between the code fences of a text, `json` in front left out:
the group of the pattern ```` ^```(?:json)?\s*(.*?)\s*```$ ````. -/
def fenced? (text : String) : Option String :=
  let fence := "```".toList
  let marked := text.toList
  if fence <+: marked ∧ fence <:+ marked ∧ 6 ≤ marked.length then
    let middle := (marked.drop 3).take (marked.length - 6)
    some (strip (String.ofList (if "json".toList <+: middle then middle.drop 4 else middle)))
  else none

/-- The text of a reply that is read as JSON. -/
def replyText (raw : String) : String := (fenced? (strip raw)).getD (strip raw)

end Reply

end MarketingAgents

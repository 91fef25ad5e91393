import MarketingAgents.Db.Text

namespace MarketingAgents

open Lib PyText

/-- How PostgreSQL writes out a JSONB value that is no string. -/
class JsonbText where
  jsonbText : Json → String

/-- `payload ->> key`, of what stands at the key: SQL's NULL is `none`. -/
def astext [JsonbText] : Option Json → Option String
  | none | some .null => none
  | some (.str s) => some s
  | some value => some (JsonbText.jsonbText value)

/-- SQL's `LIKE`, with a backslash as the escape. -/
def like : List Char → List Char → Bool
  | [], text => text.isEmpty
  | '%' :: pattern, text => text.tails.any (like pattern)
  | '\\' :: c :: pattern, text => match text with
    | d :: text => c = d && like pattern text
    | [] => false
  | '_' :: pattern, _ :: text => like pattern text
  | c :: pattern, d :: text => c = d && like pattern text
  | _ :: _, [] => false

/-- `text ILIKE pattern`. -/
def ilike [PyText] (pattern text : String) : Bool := like (lower pattern).toList (lower text).toList

/-- Values written as Python writes them: all that the closed runs of this development contain. -/
@[reducible] def JsonbText.plain : JsonbText where
  jsonbText := PyText.plain.str

end MarketingAgents

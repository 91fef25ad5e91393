import Mathlib.Algebra.Order.Ring.Unbundled.Rat
import Mathlib.Data.List.Infix
import MarketingAgents.Db.Enums
import MarketingAgents.Db.Json

namespace MarketingAgents

open Lib

/-- What the code uses of Python's text and number conversions. The
development is generic in them; the laws hold of the full Unicode versions. -/
class PyText where
  /-- `str.lower`, which is also how a `citext` column compares. -/
  lower : String → String
  /-- `str.strip` without arguments. -/
  strip : String → String
  /-- `str(value)` of a JSON value. -/
  str : Json → String
  /-- `datetime.fromtimestamp` of a float, from its `repr`; `none` when it raises. -/
  fromFloatTimestamp : String → Option Int
  /-- `str(uuid)` and `UUID(text)`. -/
  uuidStr : Uuid → String
  uuidOf : String → Option Uuid
  /-- `str(decimal)` and `Decimal(text)`, `none` where the text is no number. -/
  decimalStr : Rat → String
  decimalOf : String → Option Rat
  isoformat : Int → String
  /-- `int(value)` of a JSON value, `none` where it raises a `TypeError` or a `ValueError`.
  The caps, proposals and splits that are read so come from JSONB columns, which hold no
  infinity; there it would raise an `OverflowError`, and the callers let that through. -/
  intOf : Json → Option Int
  /-- `text.splitlines()[0]`. -/
  firstLine : String → String
  /-- The eight bytes of `hashlib.blake2b(text.encode(), digest_size=8)`, as a number. -/
  blake2b : String → Nat
  /-- `URLSafeSerializer(secret, salt).dumps(value)`. -/
  signToken : String → String → Json → String
  lower_empty : lower "" = ""
  strip_empty : strip "" = ""
  lower_lower : ∀ s, lower (lower s) = lower s
  strip_strip : ∀ s, strip (strip s) = strip s
  strip_lower : ∀ s, strip (lower s) = lower (strip s)
  str_str : ∀ s, str (.str s) = s
  uuidOf_uuidStr : ∀ id, uuidOf (uuidStr id) = some id

namespace PyText

variable [PyText]

theorem uuidStr_injective {a b : Uuid} (same : uuidStr a = uuidStr b) : a = b := by
  have read := congrArg uuidOf same
  rwa [uuidOf_uuidStr, uuidOf_uuidStr, Option.some.injEq] at read

/-- `value.strip().lower()`, the spelling under which addresses are compared. -/
def normalised (s : String) : String := lower (strip s)

theorem normalised_empty : normalised "" = "" := by
  unfold normalised
  rw [strip_empty, lower_empty]

theorem lower_normalised (s : String) : lower (normalised s) = normalised s := lower_lower _

theorem normalised_normalised (s : String) : normalised (normalised s) = normalised s := by
  unfold normalised
  rw [strip_lower, strip_strip, lower_lower]

end PyText

/-- `sub in s`. -/
def contains (sub s : String) : Bool := decide (sub.toList <:+: s.toList)

mutual

/-- What a JSONB column accepts: no NUL in a string, no NaN or infinity. -/
def Json.storable : Json → Bool
  | .null | .bool _ | .int _ => true
  | .float repr => repr != "nan" && repr != "inf" && repr != "-inf"
  | .str s => !s.toList.contains '\x00'
  | .arr items => Json.itemsStorable items
  | .obj fields => Json.fieldsStorable fields

def Json.itemsStorable : List Json → Bool
  | [] => true
  | item :: items => Json.storable item && Json.itemsStorable items

def Json.fieldsStorable : List (String × Json) → Bool
  | [] => true
  | (key, value) :: fields => !key.toList.contains '\x00' && Json.storable value && Json.fieldsStorable fields

end

/-- Text that is one line, in lower case and free of outer blanks to begin with,
whole amounts, and ids in unary: all that the closed runs of this development
contain. What such a run does depends on no hash, and it signs nothing. -/
@[reducible] def PyText.plain : PyText where
  lower s := s
  strip s := s
  str
    | .null => "None"
    | .bool true => "True"
    | .bool false => "False"
    | .int n => toString n
    | .float repr => repr
    | .str s => s
    | .arr _ => "[]"
    | .obj _ => "\x7b\x7d"
  fromFloatTimestamp _ := none
  uuidStr id := String.ofList (List.replicate id '1')
  uuidOf s := some s.toList.length
  decimalStr d := toString d.num
  decimalOf s := some (s.toList.foldl (fun n c => 10 * n + (c.toNat - '0'.toNat)) 0 : Nat)
  isoformat _ := "1970-01-01T00:00:00+00:00"
  intOf
    | .int n => some n
    | .bool b => some (if b then 1 else 0)
    | _ => none
  firstLine s := s
  blake2b s := s.toList.length
  signToken _ _ _ := ""
  lower_empty := rfl
  strip_empty := rfl
  lower_lower _ := rfl
  strip_strip _ := rfl
  strip_lower _ := rfl
  str_str _ := rfl
  uuidOf_uuidStr _ := by simp

end MarketingAgents

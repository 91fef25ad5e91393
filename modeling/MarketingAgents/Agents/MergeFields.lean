import MarketingAgents.Db.Models

namespace MarketingAgents

open Lib PyText

/-- `\s`, the characters of `str.isspace`. -/
def spaceChar (c : Char) : Bool :=
  let n := c.toNat
  (9 ≤ n && n ≤ 13) || (28 ≤ n && n ≤ 32) || n == 0x85 || n == 0xa0 || n == 0x1680 || (0x2000 ≤ n && n ≤ 0x200a) ||
    n == 0x2028 || n == 0x2029 || n == 0x202f || n == 0x205f || n == 0x3000

/-- `[a-zA-Z_]` and `[a-zA-Z0-9_]`. -/
def nameStart (c : Char) : Bool := ('a' ≤ c && c ≤ 'z') || ('A' ≤ c && c ≤ 'Z') || c = '_'

def nameChar (c : Char) : Bool := nameStart c || ('0' ≤ c && c ≤ '9')

/-- A match of `_MERGE_FIELD_RE`: its group, and the space on both sides. -/
structure Placeholder where
  before : List Char
  name : List Char
  after : List Char
deriving DecidableEq

namespace Placeholder

/-- What stands between the braces. -/
def inner (p : Placeholder) : String := String.ofList (p.before ++ p.name ++ p.after)

/-- `match.group(0)`. -/
def source (p : Placeholder) : String := "\x7b\x7b" ++ p.inner ++ "\x7d\x7d"

/-- `match.group(1).lower()`, where only ASCII letters occur. -/
def field (p : Placeholder) : String := String.ofList (p.name.map Char.toLower)

end Placeholder

/-- `_MERGE_FIELD_RE` at the start of the text. No character is both of a space, of
a name and a brace, so that each repetition ends where the next one begins. -/
def placeholderAt (text : List Char) : Option Placeholder :=
  let opened := text.drop 2
  let named := opened.dropWhile spaceChar
  let name := named.takeWhile nameChar
  let ended := named.dropWhile nameChar
  if text.take 2 = ['\x7b', '\x7b'] ∧ name.head?.any nameStart = true ∧
      (ended.dropWhile spaceChar).take 2 = ['\x7d', '\x7d'] then
    some ⟨opened.takeWhile spaceChar, name, ended.takeWhile spaceChar⟩
  else none

/-- `finditer`; the characters of the match before are passed over. -/
def placeholdersFrom : Nat → List Char → List Placeholder
  | _, [] => []
  | skip + 1, _ :: rest => placeholdersFrom skip rest
  | 0, c :: rest =>
    match placeholderAt (c :: rest) with
    | some p => p :: placeholdersFrom (p.source.toList.length - 1) rest
    | none => placeholdersFrom 0 rest

def placeholders (text : String) : List Placeholder := placeholdersFrom 0 text.toList

theorem prefix_of_placeholderAt {text : List Char} {p : Placeholder} (found : placeholderAt text = some p) :
    p.source.toList <+: text := by
  unfold placeholderAt at found
  dsimp only at found
  split at found
  · rename_i shape
    obtain ⟨opening, _, closing⟩ := shape
    obtain rfl := Option.some.inj found
    have opened := List.take_append_drop 2 text
    have spaced := List.takeWhile_append_dropWhile (p := spaceChar) (l := text.drop 2)
    have named := List.takeWhile_append_dropWhile (p := nameChar) (l := (text.drop 2).dropWhile spaceChar)
    have ended := List.takeWhile_append_dropWhile (p := spaceChar)
      (l := ((text.drop 2).dropWhile spaceChar).dropWhile nameChar)
    have closed := List.take_append_drop 2 ((((text.drop 2).dropWhile spaceChar).dropWhile nameChar).dropWhile spaceChar)
    rw [opening] at opened
    rw [closing] at closed
    rw [← closed] at ended
    rw [← ended] at named
    rw [← named] at spaced
    rw [← spaced] at opened
    refine ⟨((((text.drop 2).dropWhile spaceChar).dropWhile nameChar).dropWhile spaceChar).drop 2, ?_⟩
    conv_rhs => rw [← opened]
    simp [Placeholder.source, Placeholder.inner]
  · cases found

theorem infix_of_placeholdersFrom {skip : Nat} {text : List Char} {p : Placeholder}
    (member : p ∈ placeholdersFrom skip text) : p.source.toList <:+: text := by
  induction text generalizing skip with
  | nil => cases skip <;> cases member
  | cons c rest ih =>
    cases skip with
    | succ skip => exact (ih member).trans (List.suffix_cons c rest).isInfix
    | zero =>
      rw [placeholdersFrom] at member
      split at member
      · rename_i found
        rcases List.mem_cons.mp member with rfl | later
        · exact (prefix_of_placeholderAt found).isInfix
        · exact (ih later).trans (List.suffix_cons c rest).isInfix
      · exact (ih member).trans (List.suffix_cons c rest).isInfix

/-- A placeholder stands in its text as it is spelled. -/
theorem contains_placeholder {text : String} {p : Placeholder} (member : p ∈ placeholders text) :
    contains p.source text = true :=
  decide_eq_true (infix_of_placeholdersFrom member)

/-- The body of the loop of `extract_merge_fields`; `seen` holds what is in `out`. -/
def appendField (out : List String) (p : Placeholder) : List String :=
  if p.field ∈ out then out else out ++ [p.field]

def extractMergeFields (rawStrings : List String) : List String :=
  rawStrings.foldl (fun out s => (placeholders s).foldl appendField out) []

theorem appendField_nodup {out : List String} (nodup : out.Nodup) (p : Placeholder) : (appendField out p).Nodup := by
  unfold appendField
  split
  · exact nodup
  · rename_i fresh
    rw [List.nodup_append]
    refine ⟨nodup, List.nodup_singleton _, fun a member b new => ?_⟩
    rw [List.mem_singleton.mp new]
    rintro rfl
    exact fresh member

theorem extractMergeFields_nodup (rawStrings : List String) : (extractMergeFields rawStrings).Nodup :=
  List.foldlRecOn rawStrings _ List.nodup_nil fun _ nodup s _ =>
    List.foldlRecOn (placeholders s) appendField nodup fun _ nodup p _ => appendField_nodup nodup p

/-- `_asset_text_fields`. -/
def assetTextFields (a : ContentAsset) : Dict String String :=
  let out := match a.content.filter (· ≠ "") with
    | some body => [("body", body)]
    | none => []
  match a.extraMetadata.get? "fields" with
  | some (.obj fields) => fields.foldl (fun out entry =>
      match entry.2 with
      | .str s => Dict.set out entry.1 s
      | _ => out) out
  | _ => out

/-- `report.referenced_fields` of the asset. -/
def referencedFields (a : ContentAsset) : List String := extractMergeFields ((assetTextFields a).map Prod.snd)

section Audit

variable [PyText]

/-- `_is_resolvable`, with `None` for a key that is absent. -/
def isResolvable : Option Json → Bool
  | none | some .null => false
  | some (.str s) => strip s != ""
  | some _ => true

structure FieldCount where
  total : Nat
  unresolved : Nat
deriving DecidableEq

/-- What one payload adds to the counts of one field. -/
def countField (payload : Dict String Json) (name : String) (count : FieldCount) : FieldCount :=
  ⟨count.total + 1, if isResolvable (payload.get? name) then count.unresolved else count.unresolved + 1⟩

/-- The inner loop of `audit_audience_resolution`. -/
def countPayload (referencedFields : List String) (counts : Dict String FieldCount) (payload : Dict String Json) :
    Dict String FieldCount :=
  referencedFields.foldl (fun counts name =>
    match counts.get? name with
    | some count => Dict.set counts name (countField payload name count)
    | none => counts) counts

def auditAudienceResolution (referencedFields : List String) (audienceMemberPayloads : List (Dict String Json)) :
    Dict String FieldCount :=
  if referencedFields = [] then []
  else audienceMemberPayloads.foldl (countPayload referencedFields) (referencedFields.map fun name => (name, ⟨0, 0⟩))

theorem countPayload_of_not_mem {referenced : List String} {name : String} (absent : name ∉ referenced)
    (counts : Dict String FieldCount) (payload : Dict String Json) :
    (countPayload referenced counts payload).get? name = counts.get? name := by
  induction referenced generalizing counts with
  | nil => rfl
  | cons first referenced ih =>
    have other : first ≠ name := fun same => absent (same ▸ List.mem_cons_self ..)
    rw [countPayload, List.foldl_cons]
    refine (ih (fun later => absent (List.mem_cons_of_mem _ later)) _).trans ?_
    split
    · exact Dict.get?_set_ne _ _ other
    · rfl

theorem countPayload_of_mem {referenced : List String} (nodup : referenced.Nodup) {name : String}
    (member : name ∈ referenced) {counts : Dict String FieldCount} {count : FieldCount}
    (found : counts.get? name = some count) (payload : Dict String Json) :
    (countPayload referenced counts payload).get? name = some (countField payload name count) := by
  induction referenced generalizing counts with
  | nil => cases member
  | cons first referenced ih =>
    obtain ⟨fresh, nodup⟩ := List.nodup_cons.mp nodup
    rw [countPayload, List.foldl_cons]
    rcases List.mem_cons.mp member with rfl | later
    · refine (countPayload_of_not_mem fresh _ payload).trans ?_
      rw [found]
      exact Dict.get?_set_self ..
    · have other : first ≠ name := fun same => fresh (same ▸ later)
      refine ih nodup later ?_
      split
      · exact (Dict.get?_set_ne _ _ other).trans found
      · exact found

/-- Over an audience, a field has the payloads that do not carry it as unresolved. -/
theorem auditAudienceResolution_get? {referenced : List String} (nodup : referenced.Nodup) {name : String}
    (member : name ∈ referenced) (payloads : List (Dict String Json)) :
    (auditAudienceResolution referenced payloads).get? name =
      some ⟨payloads.length, payloads.countP fun payload => !isResolvable (payload.get? name)⟩ := by
  have counted : ∀ (counts : Dict String FieldCount) (count : FieldCount), counts.get? name = some count →
      (payloads.foldl (countPayload referenced) counts).get? name = some ⟨count.total + payloads.length,
        count.unresolved + payloads.countP fun payload => !isResolvable (payload.get? name)⟩ := by
    induction payloads with
    | nil => exact fun _ _ found => found
    | cons payload payloads ih =>
      intro counts count found
      rw [List.foldl_cons, ih _ _ (countPayload_of_mem nodup member found payload), countField, List.length_cons,
        List.countP_cons]
      have total : count.total + 1 + payloads.length = count.total + (payloads.length + 1) := by omega
      cases isResolvable (payload.get? name) with
      | true => simp [total]
      | false =>
        have unresolved (n : Nat) : count.unresolved + 1 + n = count.unresolved + (n + 1) := by omega
        simp [total, unresolved]
  have start : Dict.get? (referenced.map fun name => (name, FieldCount.mk 0 0)) name = some ⟨0, 0⟩ := by
    refine Dict.get?_of_mem ?_ (List.mem_map_of_mem member)
    rwa [List.map_map, show (Prod.fst ∘ fun name : String => (name, FieldCount.mk 0 0)) = id from rfl, List.map_id]
  rw [auditAudienceResolution, if_neg (List.ne_nil_of_mem member), counted _ _ start]
  simp

/-- In every audience the payload adds to the total of the field and not to what is unresolved. -/
def CountsResolved (referenced : List String) (payload : Dict String Json) (name : String) : Prop :=
  ∀ before after, ∃ count : FieldCount, (auditAudienceResolution referenced (before ++ after)).get? name = some count ∧
    (auditAudienceResolution referenced (before ++ payload :: after)).get? name =
      some ⟨count.total + 1, count.unresolved⟩

theorem countsResolved_iff {referenced : List String} (nodup : referenced.Nodup) {name : String}
    (member : name ∈ referenced) (payload : Dict String Json) :
    CountsResolved referenced payload name ↔ isResolvable (payload.get? name) = true := by
  simp only [CountsResolved, auditAudienceResolution_get? nodup member, Option.some.injEq, exists_eq_left',
    FieldCount.mk.injEq, List.length_append, List.length_cons, List.countP_append, List.countP_cons]
  cases isResolvable (payload.get? name) with
  | true => simp [Nat.add_assoc]
  | false => simp

end Audit

end MarketingAgents

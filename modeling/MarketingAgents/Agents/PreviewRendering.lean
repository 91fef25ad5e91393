import Mathlib.Data.List.TakeWhile
import MarketingAgents.Lib.Scanner
import MarketingAgents.Agents.MergeFields

namespace MarketingAgents

open Lib PyText

namespace Placeholder

/-- What `_MERGE_FIELD_RE` has for a match: spaces, a name, spaces. -/
structure Spelled (p : Placeholder) : Prop where
  before : ∀ c ∈ p.before, spaceChar c = true
  start : p.name.head?.any nameStart = true
  name : ∀ c ∈ p.name, nameChar c = true
  after : ∀ c ∈ p.after, spaceChar c = true

theorem toList_source (p : Placeholder) :
    p.source.toList = '\x7b' :: '\x7b' :: (p.before ++ (p.name ++ (p.after ++ ['\x7d', '\x7d']))) := by
  simp [source, inner]

end Placeholder

/-- No character is both of a name and a space. -/
theorem nameChar_of_space {c : Char} (space : spaceChar c = true) : nameChar c = false := by
  simp only [spaceChar, Bool.or_eq_true, Bool.and_eq_true, decide_eq_true_eq, beq_iff_eq] at space
  rw [Bool.eq_false_iff]
  intro named
  simp only [nameChar, nameStart, Bool.or_eq_true, Bool.and_eq_true, decide_eq_true_eq, Char.le_def,
    UInt32.le_iff_toNat_le, Char.toNat_val, Char.reduceToNat] at named
  rcases named with ((lower | upper) | rfl) | digit
  · omega
  · omega
  · simp at space
  · omega

theorem spaceChar_of_start {c : Char} (start : nameStart c = true) : spaceChar c = false := by
  cases space : spaceChar c with
  | false => rfl
  | true =>
    have notNamed := nameChar_of_space space
    rw [nameChar, start, Bool.true_or] at notNamed
    cases notNamed

theorem spelled_of_placeholderAt {text : List Char} {p : Placeholder} (found : placeholderAt text = some p) :
    p.Spelled ∧ text.take 2 = ['\x7b', '\x7b'] := by
  unfold placeholderAt at found
  dsimp only at found
  split at found
  · rename_i shape
    obtain ⟨opening, start, _⟩ := shape
    obtain rfl := Option.some.inj found
    exact ⟨⟨fun _ member => List.mem_takeWhile_imp member, start, fun _ member => List.mem_takeWhile_imp member,
      fun _ member => List.mem_takeWhile_imp member⟩, opening⟩
  · cases found

/-- What a class of characters takes of a text, up to a character of another one. -/
theorem takeWhile_class {p : Char → Bool} {taken rest : List Char} (all : ∀ c ∈ taken, p c = true)
    (stop : rest.head?.any p = false) : (taken ++ rest).takeWhile p = taken ∧ (taken ++ rest).dropWhile p = rest := by
  rw [List.takeWhile_append_of_pos all, List.dropWhile_append_of_pos all]
  cases rest with
  | nil => exact ⟨List.append_nil _, rfl⟩
  | cons c rest =>
    have stops : p c = false := stop
    rw [List.takeWhile_cons, List.dropWhile_cons, stops]
    exact ⟨List.append_nil _, rfl⟩

/-- A placeholder is found wherever it is spelled. -/
theorem placeholderAt_source_append {p : Placeholder} (spelled : p.Spelled) (rest : List Char) :
    placeholderAt (p.source.toList ++ rest) = some p := by
  have closing : ('\x7d' :: '\x7d' :: rest).head?.any spaceChar = false := rfl
  have ended : (p.after ++ '\x7d' :: '\x7d' :: rest).head?.any nameChar = false := by
    cases after : p.after with
    | nil => rfl
    | cons c later => exact nameChar_of_space (spelled.after c (after ▸ List.mem_cons_self ..))
  have started : (p.name ++ (p.after ++ '\x7d' :: '\x7d' :: rest)).head?.any spaceChar = false := by
    have start := spelled.start
    cases name : p.name with
    | nil => rw [name] at start; cases start
    | cons c later =>
      rw [name] at start
      exact spaceChar_of_start start
  have before := takeWhile_class spelled.before started
  have name := takeWhile_class spelled.name ended
  have after := takeWhile_class spelled.after closing
  have text : p.source.toList ++ rest =
      '\x7b' :: '\x7b' :: (p.before ++ (p.name ++ (p.after ++ '\x7d' :: '\x7d' :: rest))) := by
    simp [Placeholder.toList_source]
  rw [text, placeholderAt]
  simp only [List.drop_succ_cons, List.drop_zero, before, name, after]
  exact if_pos ⟨rfl, spelled.start, rfl⟩

/-- `_MERGE_FIELD_RE`. -/
def mergeFieldRe : Scanner Char Placeholder where
  at? := placeholderAt
  source p := p.source.toList
  opening c := c = '\x7b'
  nonempty _ empty := by
    rw [Placeholder.toList_source] at empty
    cases empty
  here found := prefix_of_placeholderAt found
  stable found rest := placeholderAt_source_append (spelled_of_placeholderAt found).1 rest
  opens found := by
    obtain ⟨_, opening⟩ := spelled_of_placeholderAt found
    rw [List.take_succ_cons, List.cons.injEq] at opening
    exact decide_eq_true opening.1

theorem placeholdersFrom_eq (skip : Nat) (text : List Char) :
    placeholdersFrom skip text = (mergeFieldRe.piecesFrom skip text).filterMap Sum.getRight? := by
  induction text generalizing skip with
  | nil => cases skip <;> rfl
  | cons c rest ih =>
    cases skip with
    | succ skip => exact ih skip
    | zero =>
      rw [placeholdersFrom, Scanner.piecesFrom]
      have same : mergeFieldRe.at? (c :: rest) = placeholderAt (c :: rest) := rfl
      rw [same]
      cases placeholderAt (c :: rest) with
      | some p => exact congrArg (p :: ·) (ih _)
      | none => exact ih 0

theorem placeholders_eq (text : String) : placeholders text = mergeFieldRe.found text.toList :=
  placeholdersFrom_eq 0 text.toList

theorem mem_placeholders {text : String} {p : Placeholder} :
    p ∈ placeholders text ↔ .inr p ∈ mergeFieldRe.pieces text.toList := by
  rw [placeholders_eq, Scanner.mem_found]

theorem extractMergeFields_eq (rawStrings : List String) :
    extractMergeFields rawStrings = (rawStrings.flatMap placeholders).foldl appendField [] :=
  List.foldl_flatMap.symm

theorem mem_foldl_appendField {ps : List Placeholder} {out : List String} {name : String} :
    name ∈ ps.foldl appendField out ↔ name ∈ out ∨ ∃ p ∈ ps, p.field = name := by
  induction ps generalizing out with
  | nil => simp
  | cons p ps ih =>
    have appended : name ∈ appendField out p ↔ name ∈ out ∨ p.field = name := by
      unfold appendField
      split
      · rename_i old
        refine ⟨Or.inl, fun known => known.elim id fun same => same ▸ old⟩
      · rw [List.mem_append, List.mem_singleton, eq_comm (a := name)]
    rw [List.foldl_cons, ih, appended, or_assoc, List.exists_mem_cons_iff]

theorem mem_extractMergeFields {rawStrings : List String} {name : String} :
    name ∈ extractMergeFields rawStrings ↔ ∃ raw ∈ rawStrings, ∃ p ∈ placeholders raw, p.field = name := by
  rw [extractMergeFields_eq, mem_foldl_appendField]
  simp only [List.not_mem_nil, false_or, List.mem_flatMap]
  constructor
  · rintro ⟨p, ⟨raw, listed, member⟩, same⟩
    exact ⟨raw, listed, p, member, same⟩
  · rintro ⟨raw, listed, p, member, same⟩
    exact ⟨p, ⟨raw, listed, member⟩, same⟩

/-- Placeholders left out of the texts are left out of the names, in the order of the others. -/
theorem foldl_appendField_filter (keep : String → Bool) (ps : List Placeholder) (out : List String) :
    (ps.filter fun p => keep p.field).foldl appendField (out.filter keep) = (ps.foldl appendField out).filter keep := by
  induction ps generalizing out with
  | nil => rfl
  | cons p ps ih =>
    rw [List.foldl_cons, ← ih, List.filter_cons]
    have appended : (appendField out p).filter keep =
        if keep p.field = true then appendField (out.filter keep) p else out.filter keep := by
      unfold appendField
      by_cases old : p.field ∈ out <;> by_cases kept : keep p.field = true <;> simp [old, kept, List.filter_append]
    rw [appended]
    split <;> rfl

/-- The names with a value, and the value. -/
def valuesFor (value : String → Option String) (names : List String) : Dict String String :=
  names.filterMap fun name => (value name).map fun text => (name, text)

theorem valuesFor_get? (value : String → Option String) (names : List String) (name : String) :
    (valuesFor value names).get? name = if name ∈ names then value name else none := by
  induction names with
  | nil => rfl
  | cons first names ih =>
    rw [valuesFor, List.filterMap_cons]
    by_cases same : first = name
    · subst same
      cases found : value first with
      | some text => simp [Dict.get?]
      | none =>
        refine ih.trans ?_
        split <;> simp [found]
    · have listed : name ∈ first :: names ↔ name ∈ names := by simp [Ne.symm same]
      rw [if_congr listed rfl rfl, ← ih]
      cases value first with
      | some text => exact if_neg same
      | none => rfl

/-- `_MERGE_FIELD_RE.sub(lambda m: resolved.get(m.group(1).lower(), m.group(0)), raw)`. -/
def subMergeFields (resolved : Dict String String) (raw : String) : String :=
  String.ofList (mergeFieldRe.substitute (fun p => (resolved.get? p.field).map String.toList) raw.toList)

/-- `out` is `raw` with each placeholder for which there is a value replaced by it, and the rest in place. -/
def Fills (value : String → Option String) (raw out : String) : Prop :=
  ∃ pieces : List (Char ⊕ Placeholder),
    pieces.flatMap (Sum.elim (fun c => [c]) fun p => p.source.toList) = raw.toList ∧
      pieces.filterMap Sum.getRight? = placeholders raw ∧
        pieces.flatMap (Sum.elim (fun c => [c]) fun p => ((value p.field).getD p.source).toList) = out.toList

/-- No brace opens in the text but those of its placeholders. -/
def Clean (raw : String) : Prop := mergeFieldRe.Plain (mergeFieldRe.pieces raw.toList)

instance (raw : String) : Decidable (Clean raw) := inferInstanceAs (Decidable (mergeFieldRe.Plain _))

theorem subMergeFields_fills {resolved : Dict String String} {value : String → Option String} {raw : String}
    (agrees : ∀ p ∈ placeholders raw, resolved.get? p.field = value p.field) :
    Fills value raw (subMergeFields resolved raw) := by
  refine ⟨mergeFieldRe.pieces raw.toList, ?_, (placeholders_eq raw).symm, ?_⟩
  · conv_rhs => rw [← Scanner.flatMap_spell_pieces (S := mergeFieldRe) raw.toList]
    refine List.flatMap_congr fun item _ => ?_
    cases item <;> rfl
  · rw [subMergeFields, String.toList_ofList, Scanner.substitute_eq]
    refine List.flatMap_congr fun item listed => ?_
    cases item with
    | inl c => rfl
    | inr p =>
      rw [Sum.elim_inr, Scanner.fill, agrees p (mem_placeholders.mpr listed)]
      cases value p.field <;> rfl

/-- In a clean text, with values that open no brace, the placeholders left are those without a value. -/
theorem placeholders_subMergeFields {resolved : Dict String String} {raw : String} (clean : Clean raw)
    (values : ∀ p ∈ placeholders raw, ∀ text ∈ resolved.get? p.field, '\x7b' ∉ text.toList) :
    placeholders (subMergeFields resolved raw) = (placeholders raw).filter fun p => (resolved.get? p.field).isNone := by
  rw [placeholders_eq, subMergeFields, String.toList_ofList, Scanner.found_substitute clean, ← placeholders_eq]
  · exact List.filter_congr fun p _ => by cases resolved.get? p.field <;> rfl
  · intro p listed value filled c inside
    obtain ⟨text, found, rfl⟩ := Option.map_eq_some_iff.mp filled
    exact decide_eq_false fun same => values p (mem_placeholders.mpr listed) text found (same ▸ inside)

section Resolution

variable [PyText]

/-- `_DEFAULT_SAMPLE_VALUES`. -/
def defaultSampleValues : Dict String String :=
  [("first_name", "Alex"), ("last_name", "Rivera"), ("full_name", "Alex Rivera"), ("company", "Acme Corp"),
    ("company_name", "Acme Corp"), ("email", "alex@example.com"), ("title", "Director of Marketing"),
    ("city", "London"), ("country", "United Kingdom"), ("today", "Today"),
    ("unsubscribe_url", "https://example.com/unsubscribe"), ("preferences_url", "https://example.com/preferences")]

/-- `_normalise_keys`. -/
def normaliseKeys (d : Dict String Json) : Dict String Json := d.foldl (fun out entry => Dict.set out (lower entry.1) entry.2) []

structure PreviewResolution where
  resolvedFields : Dict String String
  unresolvedFields : List String
  referencedFields : List String
deriving DecidableEq

/-- `applied_to`, which does not look at the field. -/
def PreviewResolution.appliedTo (report : PreviewResolution) (raw : String) : String :=
  subMergeFields report.resolvedFields raw

/-- The body of the loop over `referenced`; the state is `resolved_lookup` and `unresolved`. -/
def resolveField (callerLookup : Dict String Json) (state : Dict String String × List String) (name : String) :
    Dict String String × List String :=
  match callerLookup.get? name with
  | some value => (Dict.set state.1 name (str value), state.2)
  | none =>
    match defaultSampleValues.get? name with
    | some value => (Dict.set state.1 name value, state.2)
    | none => (state.1, state.2 ++ [name])

/-- `resolve_merge_fields`, of texts only. -/
def resolveMergeFields (textFields : Dict String String) (sampleValues : Dict String Json) :
    Dict String String × PreviewResolution :=
  let callerLookup := normaliseKeys sampleValues
  let referenced := extractMergeFields (textFields.map Prod.snd)
  let (resolvedLookup, unresolved) := referenced.foldl (resolveField callerLookup) ([], [])
  (textFields.map fun entry => (entry.1, subMergeFields resolvedLookup entry.2), ⟨resolvedLookup, unresolved, referenced⟩)

/-- What stands for a name: the caller's value that was spelled so last, in any case, else the default one. -/
def sampleValue (sampleValues : Dict String Json) (name : String) : Option String :=
  ((sampleValues.reverse.find? fun entry => lower entry.1 = name).map fun entry => str entry.2).or
    (defaultSampleValues.get? name)

theorem normaliseKeys_get? (d : Dict String Json) (name : String) :
    (normaliseKeys d).get? name = (d.reverse.find? fun entry => lower entry.1 = name).map Prod.snd := by
  induction d using List.reverseRecOn with
  | nil => rfl
  | append_singleton d entry ih =>
    rw [normaliseKeys, List.foldl_append, List.foldl_cons, List.foldl_nil, Dict.get?_set, List.reverse_append,
      List.reverse_singleton, List.singleton_append, List.find?_cons]
    by_cases same : lower entry.1 = name
    · simp [same]
    · rw [if_neg same, decide_eq_false same]
      exact ih

theorem resolveField_eq (samples : Dict String Json) (state : Dict String String × List String) (name : String) :
    resolveField (normaliseKeys samples) state name =
      match sampleValue samples name with
      | some value => (Dict.set state.1 name value, state.2)
      | none => (state.1, state.2 ++ [name]) := by
  rw [resolveField, sampleValue, normaliseKeys_get?]
  cases samples.reverse.find? fun entry => lower entry.1 = name with
  | some entry => rfl
  | none => rfl

theorem foldl_resolveField (samples : Dict String Json) {names : List String} (state : Dict String String × List String)
    (nodup : names.Nodup) (fresh : ∀ entry ∈ state.1, entry.1 ∉ names) :
    names.foldl (resolveField (normaliseKeys samples)) state =
      (state.1 ++ valuesFor (sampleValue samples) names,
        state.2 ++ names.filter fun name => (sampleValue samples name).isNone) := by
  induction names generalizing state with
  | nil => simp [valuesFor]
  | cons name names ih =>
    obtain ⟨here, nodup⟩ := List.nodup_cons.mp nodup
    have absent : ∀ entry ∈ state.1, entry.1 ≠ name := fun entry member same =>
      fresh entry member (same ▸ List.mem_cons_self ..)
    have later : ∀ entry ∈ state.1, entry.1 ∉ names := fun entry member listed =>
      fresh entry member (List.mem_cons_of_mem _ listed)
    rw [List.foldl_cons, resolveField_eq]
    cases found : sampleValue samples name with
    | some value =>
      have added : ∀ entry ∈ Dict.set state.1 name value, entry.1 ∉ names := by
        intro entry member
        rcases Dict.mem_set member with rfl | old
        · exact here
        · exact later entry old
      dsimp only
      rw [ih _ nodup added, Dict.set_of_absent absent]
      simp [valuesFor, found]
    | none =>
      dsimp only
      rw [ih (state.1, state.2 ++ [name]) nodup later]
      simp [valuesFor, found]

/-- What `resolve_merge_fields` comes to. -/
theorem resolveMergeFields_eq (textFields : Dict String String) (samples : Dict String Json) :
    resolveMergeFields textFields samples =
      let referenced := extractMergeFields (textFields.map Prod.snd)
      let resolved := valuesFor (sampleValue samples) referenced
      (textFields.map fun entry => (entry.1, subMergeFields resolved entry.2),
        ⟨resolved, referenced.filter fun name => (sampleValue samples name).isNone, referenced⟩) := by
  have folded := foldl_resolveField samples ([], []) (extractMergeFields_nodup (textFields.map Prod.snd))
    fun entry member => absurd member List.not_mem_nil
  simp only [resolveMergeFields, folded, List.nil_append]

/-- What a preview shows of the texts of an asset, and reports. -/
structure Resolves (textFields : Dict String String) (samples : Dict String Json) (rendered : Dict String String)
    (report : PreviewResolution) : Prop where
  referenced : report.referencedFields.Nodup ∧ ∀ name, name ∈ report.referencedFields ↔
    ∃ entry ∈ textFields, ∃ p ∈ placeholders entry.2, p.field = name
  resolved : ∀ name, report.resolvedFields.get? name =
    if name ∈ report.referencedFields then sampleValue samples name else none
  unresolved : report.unresolvedFields = report.referencedFields.filter fun name => (sampleValue samples name).isNone
  filled : List.Forall₂ (fun entry shown => shown.1 = entry.1 ∧ shown.2 = report.appliedTo entry.2 ∧
    Fills (sampleValue samples) entry.2 shown.2) textFields rendered
  /-- Rendering what was rendered changes nothing, and refers to what was left. -/
  settled : (∀ entry ∈ textFields, Clean entry.2) →
    (∀ name ∈ report.referencedFields, ∀ text ∈ sampleValue samples name, '\x7b' ∉ text.toList) →
    resolveMergeFields rendered samples = (rendered, ⟨[], report.unresolvedFields, report.unresolvedFields⟩)

/-- The placeholders that the rendering of one of the texts leaves. -/
theorem rendered_placeholders {textFields : Dict String String} {samples : Dict String Json}
    (clean : ∀ entry ∈ textFields, Clean entry.2)
    (values : ∀ name ∈ extractMergeFields (textFields.map Prod.snd), ∀ text ∈ sampleValue samples name, '\x7b' ∉ text.toList)
    {entry : String × String} (listed : entry ∈ textFields) :
    placeholders (subMergeFields (valuesFor (sampleValue samples) (extractMergeFields (textFields.map Prod.snd))) entry.2) =
      (placeholders entry.2).filter fun p => (sampleValue samples p.field).isNone := by
  have referenced : ∀ p ∈ placeholders entry.2, p.field ∈ extractMergeFields (textFields.map Prod.snd) := fun p member =>
    mem_extractMergeFields.mpr ⟨entry.2, List.mem_map_of_mem listed, p, member, rfl⟩
  have value : ∀ p ∈ placeholders entry.2, Dict.get? (valuesFor (sampleValue samples)
      (extractMergeFields (textFields.map Prod.snd))) p.field = sampleValue samples p.field := fun p member => by
    rw [valuesFor_get?, if_pos (referenced p member)]
  rw [placeholders_subMergeFields (clean entry listed)]
  · exact List.filter_congr fun p member => by rw [value p member]
  · intro p member text found
    rw [value p member] at found
    exact values _ (referenced p member) text found

theorem rendered_referenced {textFields : Dict String String} {samples : Dict String Json}
    (clean : ∀ entry ∈ textFields, Clean entry.2)
    (values : ∀ name ∈ extractMergeFields (textFields.map Prod.snd), ∀ text ∈ sampleValue samples name, '\x7b' ∉ text.toList) :
    extractMergeFields ((resolveMergeFields textFields samples).1.map Prod.snd) =
      (extractMergeFields (textFields.map Prod.snd)).filter fun name => (sampleValue samples name).isNone := by
  have left : ((resolveMergeFields textFields samples).1.map Prod.snd).flatMap placeholders =
      ((textFields.map Prod.snd).flatMap placeholders).filter fun p => (sampleValue samples p.field).isNone := by
    rw [resolveMergeFields_eq]
    dsimp only
    rw [List.map_map, List.flatMap_map, List.flatMap_map, List.filter_flatMap]
    exact List.flatMap_congr fun entry listed => rendered_placeholders clean values listed
  calc extractMergeFields ((resolveMergeFields textFields samples).1.map Prod.snd)
      = (((textFields.map Prod.snd).flatMap placeholders).filter fun p =>
          (sampleValue samples p.field).isNone).foldl appendField [] := by rw [extractMergeFields_eq, left]
    _ = (((textFields.map Prod.snd).flatMap placeholders).foldl appendField []).filter fun name =>
          (sampleValue samples name).isNone := foldl_appendField_filter (fun name => (sampleValue samples name).isNone) _ []
    _ = _ := by rw [extractMergeFields_eq]

/-- With no value for any name, the texts stay as they are. -/
theorem resolveMergeFields_of_unresolved {textFields : Dict String String} {samples : Dict String Json}
    (unresolved : ∀ name ∈ extractMergeFields (textFields.map Prod.snd), sampleValue samples name = none) :
    resolveMergeFields textFields samples = (textFields, ⟨[], extractMergeFields (textFields.map Prod.snd),
      extractMergeFields (textFields.map Prod.snd)⟩) := by
  have nothing : valuesFor (sampleValue samples) (extractMergeFields (textFields.map Prod.snd)) = [] :=
    List.filterMap_eq_nil_iff.mpr fun name member => by rw [unresolved name member, Option.map_none]
  have all : (extractMergeFields (textFields.map Prod.snd)).filter (fun name => (sampleValue samples name).isNone) =
      extractMergeFields (textFields.map Prod.snd) :=
    List.filter_eq_self.mpr fun name member => by rw [unresolved name member, Option.isNone_none]
  have same (raw : String) : subMergeFields [] raw = raw :=
    (congrArg String.ofList (Scanner.substitute_eq_self fun _ _ => rfl)).trans String.ofList_toList
  rw [resolveMergeFields_eq]
  dsimp only
  rw [nothing, all]
  simp [same]

/-- What the preview makes of the texts of an asset, whatever they and the samples are. The report
names every field that a text refers to once, with the value of its sample or the fallback;
each text is filled in with these values, and the placeholders without one are listed and stay.
Where no value brings a brace of its own, rendering the result again changes nothing. -/
theorem preview_resolves (textFields : Dict String String) (samples : Dict String Json) :
    Resolves textFields samples (resolveMergeFields textFields samples).1 (resolveMergeFields textFields samples).2 where
  referenced := by
    rw [resolveMergeFields_eq]
    refine ⟨extractMergeFields_nodup _, fun name => mem_extractMergeFields.trans ?_⟩
    simp only [List.mem_map, exists_exists_and_eq_and]
  resolved name := by
    rw [resolveMergeFields_eq]
    exact valuesFor_get? ..
  unresolved := by rw [resolveMergeFields_eq]
  filled := by
    rw [resolveMergeFields_eq]
    refine List.forall₂_map_right_iff.mpr (List.forall₂_same.mpr fun entry listed => ⟨rfl, rfl, ?_⟩)
    refine subMergeFields_fills fun p member => ?_
    rw [valuesFor_get?, if_pos (mem_extractMergeFields.mpr ⟨entry.2, List.mem_map_of_mem listed, p, member, rfl⟩)]
  settled clean values := by
    rw [resolveMergeFields_eq] at values
    have left := rendered_referenced clean values
    rw [resolveMergeFields_of_unresolved, left]
    · rw [resolveMergeFields_eq]
    · intro name member
      rw [left] at member
      exact Option.isNone_iff_eq_none.mp (List.mem_filter.mp member).2

end Resolution

section Greeting

local instance greetingText : PyText := PyText.plain

def greetingFields : Dict String String :=
  [("body", "Hi \x7b\x7b First_Name \x7d\x7d, \x7b\x7boffer\x7d\x7d"), ("subject", "See you in \x7b\x7bcity\x7d\x7d")]

def greetingSamples : Dict String Json := [("city", .str "Paris")]

theorem greeting_rendered : resolveMergeFields greetingFields greetingSamples =
    ([("body", "Hi Alex, \x7b\x7boffer\x7d\x7d"), ("subject", "See you in Paris")],
      ⟨[("first_name", "Alex"), ("city", "Paris")], ["offer"], ["first_name", "offer", "city"]⟩) := by decide +kernel

theorem preview_resolves_greeting :
    Resolves greetingFields greetingSamples (resolveMergeFields greetingFields greetingSamples).1
        (resolveMergeFields greetingFields greetingSamples).2 ∧
      resolveMergeFields (resolveMergeFields greetingFields greetingSamples).1 greetingSamples =
        ([("body", "Hi Alex, \x7b\x7boffer\x7d\x7d"), ("subject", "See you in Paris")], ⟨[], ["offer"], ["offer"]⟩) := by
  have resolves := preview_resolves greetingFields greetingSamples
  refine ⟨resolves, ?_⟩
  rw [resolves.settled (by decide +kernel) (by decide +kernel), greeting_rendered]

/-- Braces around a placeholder are one themselves once it is filled in. -/
example :
    let rendered := (resolveMergeFields [("body", "\x7b\x7b\x7b\x7bfirst_name\x7d\x7d\x7d\x7d")] []).1
    rendered = [("body", "\x7b\x7bAlex\x7d\x7d")] ∧ (resolveMergeFields rendered []).2.unresolvedFields = ["alex"] ∧
      (resolveMergeFields [("body", "\x7b\x7b\x7b\x7bfirst_name\x7d\x7d\x7d\x7d")] []).2.unresolvedFields = [] := by
  decide +kernel

end Greeting

end MarketingAgents

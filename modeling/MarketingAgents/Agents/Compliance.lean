import MarketingAgents.Lib.Occurrence
import MarketingAgents.Lib.Result
import MarketingAgents.Outbound.Audience

namespace MarketingAgents

open Lib PyText

/-- What the code uses of `re` under `IGNORECASE`: which characters a literal one
matches, where a pattern is found in a text, and what is wrong with a malformed one. -/
class PyRe extends PyRegex where
  sameCase : Char → Char → Bool
  finditer : String → String → List (Nat × Nat)
  compileError : String → Option String
  sameCase_refl : ∀ c, sameCase c c = true

export PyRe (sameCase finditer compileError)

/-- What a check needs of a `ComplianceRule`. -/
structure TenantRule where
  keyword : String
  patternKind : String
  severity : String
deriving DecidableEq

/-- `_UNIVERSAL_PATTERNS`: label, pattern and severity. -/
def universalPatterns : List (String × String × String) :=
  [("guaranteed_results", "\\b(?:guaranteed|guarantee|100\\s*%\\s*effective)\\b", "block"),
    ("absolute_always_never", "\\b(?:always works|never fails|risk[\\s-]?free)\\b", "block"),
    ("medical_claim", "\\b(?:cures?|treats?|FDA[\\s-]?approved|clinically proven)\\b", "block"),
    ("financial_guarantee", "\\b(?:guaranteed returns?|double your money)\\b", "block"),
    ("unqualified_superlative", "\\b(?:the best|#1|the only|world[\\s-]?class)\\b", "warn")]

/-- `_snippet`. -/
def snippet (text : String) (start stop : Nat) : String :=
  let lo := start - 30
  let hi := min text.length (stop + 30)
  (if 0 < lo then "…" else "") ++ String.ofList ((text.toList.take hi).drop lo) ++ if hi < text.length then "…" else ""

section Matching

variable [PyRe]

/-- `\b` + the word + `\b` matches here. -/
def exactAt (word : List Char) (before : Option Char) (rest : List Char) : Bool :=
  startsLike sameCase word rest && boundary before rest.head? &&
    boundary (rest.take word.length).getLast? (rest.drop word.length).head?

/-- `re.finditer(r"\b" + re.escape(word) + r"\b", text)` for a word that is not empty. -/
def exactSpans (word text : String) : List (Nat × Nat) :=
  occurrences (exactAt word.toList) word.toList.length 0 0 none text.toList

/-- Somewhere the text has the word, its case aside, between characters that are no word characters. -/
def Delimited (word text : List Char) : Prop :=
  ∃ before run after, text = before ++ (run ++ after) ∧ List.Forall₂ (fun c d => sameCase c d = true) word run ∧
    (∀ c ∈ before.getLast?, PyRegex.wordChar c = false) ∧ ∀ c ∈ after.head?, PyRegex.wordChar c = false

/-- Whatever the first and the last character match is a word character. -/
structure WordEdged (word : List Char) : Prop where
  first : ∀ c ∈ word.head?, ∀ d, sameCase c d = true → PyRegex.wordChar d = true
  last : ∀ c ∈ word.getLast?, ∀ d, sameCase c d = true → PyRegex.wordChar d = true

/-- Between a character that is no word character, or none, and one that is, there is a boundary. -/
theorem boundary_after {outside inside : Option Char} (out : ∀ c ∈ outside, PyRegex.wordChar c = false) {d : Char}
    (here : d ∈ inside) (word : PyRegex.wordChar d = true) : boundary outside inside = true := by
  rw [Option.mem_def.mp here]
  cases outside with
  | none => simp [boundary, word]
  | some c => simp [boundary, word, out c rfl]

theorem boundary_comm (before after : Option Char) : boundary before after = boundary after before := by
  unfold boundary
  exact Bool.xor_comm _ _

theorem wordChar_of_boundary {c : Char} (holds : boundary none (some c) = true) : PyRegex.wordChar c = true := by
  simpa [boundary] using holds

theorem head_of_forall₂ {word run : List Char} (same : List.Forall₂ (fun c d => sameCase c d = true) word run)
    (nonempty : word ≠ []) : ∃ c ∈ word.head?, ∃ d ∈ run.head?, sameCase c d = true := by
  cases same with
  | nil => exact absurd rfl nonempty
  | cons first _ => exact ⟨_, rfl, _, rfl, first⟩

theorem getLast_of_forall₂ {word run : List Char} (same : List.Forall₂ (fun c d => sameCase c d = true) word run)
    (nonempty : word ≠ []) : ∃ c ∈ word.getLast?, ∃ d ∈ run.getLast?, sameCase c d = true := by
  have reversed := List.forall₂_reverse_iff.mpr same
  obtain ⟨c, atWord, d, atRun, like⟩ := head_of_forall₂ reversed (mt List.reverse_eq_nil_iff.mp nonempty)
  rw [List.head?_reverse] at atWord atRun
  exact ⟨c, atWord, d, atRun, like⟩

/-- A delimited occurrence of a word with word characters at its ends is found. -/
theorem exactSpans_of_delimited {word text : String} (nonempty : word.toList ≠ []) (edged : WordEdged word.toList)
    (delimited : Delimited word.toList text.toList) : exactSpans word text ≠ [] := by
  obtain ⟨before, run, after, split, same, outBefore, outAfter⟩ := delimited
  obtain ⟨c, atWord, d, atRun, like⟩ := head_of_forall₂ same nonempty
  obtain ⟨c', atWord', d', atRun', like'⟩ := getLast_of_forall₂ same nonempty
  have starts : startsLike sameCase word.toList (run ++ after) = true := startsLike_iff.mpr ⟨run, after, rfl, same⟩
  have runNonempty : run ≠ [] := by
    rintro rfl
    cases atRun
  have head : d ∈ (run ++ after).head? := by
    rw [List.head?_append, Option.mem_def.mp atRun]
    rfl
  rw [exactSpans, split]
  refine occurrences_ne_nil (List.append_ne_nil_of_left_ne_nil runNonempty after) ?_
  rw [exactAt, same.length_eq, List.take_left, List.drop_left, Bool.and_eq_true, Bool.and_eq_true]
  refine ⟨⟨starts, ?_⟩, ?_⟩
  · refine boundary_after (fun e there => ?_) head (edged.first c atWord d like)
    rw [elementBefore, Option.or_none] at there
    exact outBefore e there
  · rw [boundary_comm]
    exact boundary_after outAfter atRun' (edged.last c' atWord' d' like')

/-- In a text of its length a word is found only between word characters. -/
theorem exactSpans_whole {word text : String} (same : word.toList.length = text.toList.length)
    (found : exactSpans word text ≠ []) :
    (∀ c ∈ text.toList.head?, PyRegex.wordChar c = true) ∧ ∀ c ∈ text.toList.getLast?, PyRegex.wordChar c = true := by
  obtain ⟨span, member⟩ := List.exists_mem_of_ne_nil _ found
  obtain ⟨first, rest, split, _, _, holds⟩ := of_mem_occurrences member
  simp only [exactAt, Bool.and_eq_true] at holds
  obtain ⟨⟨starts, front⟩, back⟩ := holds
  obtain ⟨run, after, rfl, like⟩ := startsLike_iff.mp starts
  have lengths := congrArg List.length split
  rw [List.length_append, List.length_append, ← like.length_eq] at lengths
  have noFirst : first = [] := List.length_eq_zero_iff.mp (by omega)
  have noAfter : after = [] := List.length_eq_zero_iff.mp (by omega)
  subst noFirst noAfter
  rw [List.nil_append, List.append_nil] at split
  rw [split, List.append_nil] at *
  rw [like.length_eq, List.take_length, List.drop_length] at back
  refine ⟨fun c head => wordChar_of_boundary ?_, fun c last => wordChar_of_boundary ?_⟩
  · rwa [Option.mem_def.mp head] at front
  · rwa [Option.mem_def.mp last, boundary_comm] at back

theorem delimited_of_like {word text : List Char} (like : List.Forall₂ (fun c d => sameCase c d = true) word text) :
    Delimited word text :=
  ⟨[], text, [], by simp, like, by simp, by simp⟩

/-- All delimited occurrences of a word are found if and only if word characters are all that its ends match. -/
theorem exactSpans_iff_edged {word : String} (nonempty : word.toList ≠ []) :
    (∀ text : String, Delimited word.toList text.toList → exactSpans word text ≠ []) ↔ WordEdged word.toList := by
  refine ⟨fun found => ⟨fun c head d like => ?_, fun c last d like => ?_⟩, fun edged text =>
    exactSpans_of_delimited nonempty edged⟩
  · obtain ⟨rest, split⟩ := List.head?_eq_some_iff.mp head
    have run : List.Forall₂ (fun c d => sameCase c d = true) word.toList (String.ofList (d :: rest)).toList := by
      rw [split, String.toList_ofList]
      exact .cons like (List.forall₂_same.mpr fun e _ => PyRe.sameCase_refl e)
    refine (exactSpans_whole run.length_eq (found _ (delimited_of_like run))).1 d ?_
    rw [String.toList_ofList]
    rfl
  · obtain ⟨front, split⟩ := List.getLast?_eq_some_iff.mp last
    have run : List.Forall₂ (fun c d => sameCase c d = true) word.toList (String.ofList (front ++ [d])).toList := by
      rw [split, String.toList_ofList]
      exact List.rel_append (List.forall₂_same.mpr fun e _ => PyRe.sameCase_refl e) (.cons like .nil)
    refine (exactSpans_whole run.length_eq (found _ (delimited_of_like run))).2 d ?_
    rw [String.toList_ofList, List.getLast?_append]
    rfl

end Matching

section Checks

variable [PyText] [PyRe]

omit [PyText] in
def hitsOf (text rule severity patternKind : String) (spans : List (Nat × Nat)) : List ComplianceHit :=
  spans.map fun span => ⟨rule, severity, snippet text span.1 span.2, patternKind⟩

omit [PyText] in
def universalHits (text : String) : List ComplianceHit :=
  universalPatterns.flatMap fun entry => hitsOf text entry.1 entry.2.2 "regex" (finditer entry.2.1 text)

omit [PyText] [PyRe] in
def TenantRule.appliedSeverity (rule : TenantRule) : String :=
  if rule.severity ∈ ["block", "warn"] then rule.severity else "warn"

omit [PyText] [PyRe] in
def TenantRule.appliedKind (rule : TenantRule) : String := if rule.patternKind = "" then "exact" else rule.patternKind

/-- What one rule finds, or the text of its `ComplianceCheckError`. -/
def ruleHits (text : String) (rule : TenantRule) : Except String (List ComplianceHit) :=
  let keyword := strip rule.keyword
  let hits := hitsOf text keyword rule.appliedSeverity rule.appliedKind
  if keyword = "" then .ok []
  else if rule.patternKind = "regex" then
    match compileError rule.keyword with
    | some problem => .error ("tenant compliance rule '" ++ rule.keyword ++ "' has invalid regex: " ++ problem)
    | none => .ok (hits (finditer rule.keyword text))
  else .ok (hits (exactSpans keyword text))

/-- The loop over the rules. -/
def tenantHits (text : String) : List TenantRule → Except String (List ComplianceHit)
  | [] => .ok []
  | rule :: rules => do
    let hits ← ruleHits text rule
    let rest ← tenantHits text rules
    pure (hits ++ rest)

/-- `check_compliance`. -/
def checkCompliance (text : String) (tenantRules : List TenantRule) : Except String (List ComplianceHit) :=
  if text = "" then .ok [] else (tenantHits text tenantRules).map (universalHits text ++ ·)

/-- `check_dont_words`. -/
def checkDontWords (text : String) (dontWords : List String) : List String :=
  if text = "" then []
  else (dontWords.map strip).filter fun word => word ≠ "" && !(exactSpans word text).isEmpty

/-- The rule is a regex that does not compile. -/
def TenantRule.Malformed (rule : TenantRule) : Prop :=
  strip rule.keyword ≠ "" ∧ rule.patternKind = "regex" ∧ compileError rule.keyword ≠ none

theorem ruleHits_ok {text : String} {rule : TenantRule} (compiles : ¬ rule.Malformed) :
    ∃ hits, ruleHits text rule = .ok hits := by
  unfold ruleHits
  dsimp only
  split
  · exact ⟨[], rfl⟩
  · rename_i nonblank
    split
    · rename_i regex
      cases malformed : compileError rule.keyword with
      | some problem => exact absurd ⟨nonblank, regex, by rw [malformed]; exact Option.some_ne_none _⟩ compiles
      | none => exact ⟨_, rfl⟩
    · exact ⟨_, rfl⟩

theorem tenantHits_ok {text : String} {rules : List TenantRule} (compile : ∀ rule ∈ rules, ¬ rule.Malformed) :
    ∃ hits, tenantHits text rules = .ok hits := by
  induction rules with
  | nil => exact ⟨[], rfl⟩
  | cons rule rules ih =>
    obtain ⟨found, here⟩ : ∃ hits, ruleHits text rule = .ok hits := ruleHits_ok (compile rule (List.mem_cons_self ..))
    obtain ⟨hits, rest⟩ := ih fun other member => compile other (List.mem_cons_of_mem _ member)
    refine ⟨found ++ hits, ?_⟩
    simp only [tenantHits, bind_eq_ok, pure_eq_ok]
    exact ⟨found, here, hits, rest, rfl⟩

/-- The hits of the rules are those of the single rules. -/
theorem mem_tenantHits {text : String} {rules : List TenantRule} {hits : List ComplianceHit} {hit : ComplianceHit}
    (done : tenantHits text rules = .ok hits) :
    hit ∈ hits ↔ ∃ rule ∈ rules, ∃ found, ruleHits text rule = .ok found ∧ hit ∈ found := by
  induction rules generalizing hits with
  | nil =>
    cases done
    simp
  | cons rule rules ih =>
    simp only [tenantHits, bind_eq_ok, pure_eq_ok] at done
    obtain ⟨found, here, rest, later, rfl⟩ := done
    rw [List.mem_append, ih later, List.exists_mem_cons_iff]
    refine or_congr_left ⟨fun member => ⟨found, here, member⟩, ?_⟩
    rintro ⟨found', here', member⟩
    cases Except.ok.inj (here.symm.trans here')
    exact member

/-- The text has a match of the rule. -/
def TenantRule.Finds (rule : TenantRule) (text : String) : Prop := ∃ found, ruleHits text rule = .ok found ∧ found ≠ []

/-- The text has a match of a universal pattern or a rule that blocks. -/
def BlockMatch (rules : List TenantRule) (text : String) : Prop :=
  (∃ entry ∈ universalPatterns, entry.2.2 = "block" ∧ finditer entry.2.1 text ≠ []) ∨
    ∃ rule ∈ rules, rule.appliedSeverity = "block" ∧ rule.Finds text

theorem ruleHits_severity {text : String} {rule : TenantRule} {found : List ComplianceHit}
    (done : ruleHits text rule = .ok found) : ∀ hit ∈ found, hit.severity = rule.appliedSeverity := by
  have each : ∀ spans, ∀ hit ∈ hitsOf text (strip rule.keyword) rule.appliedSeverity rule.appliedKind spans,
      hit.severity = rule.appliedSeverity := by
    intro spans hit member
    obtain ⟨span, _, rfl⟩ := List.mem_map.mp member
    rfl
  unfold ruleHits at done
  dsimp only at done
  split at done
  · cases done
    simp
  · split at done
    · split at done
      · cases done
      · exact Except.ok.inj done ▸ each _
    · exact Except.ok.inj done ▸ each _

/-- A checked text is blocked for the matches that it has. -/
theorem complianceBlocked_iff {text : String} {rules : List TenantRule} {hits : List ComplianceHit} (nonempty : text ≠ "")
    (done : checkCompliance text rules = .ok hits) : complianceBlocked hits = true ↔ BlockMatch rules text := by
  rw [checkCompliance, if_neg nonempty, map_eq_ok] at done
  obtain ⟨tenant, ran, rfl⟩ := done
  simp only [complianceBlocked, List.any_append, Bool.or_eq_true, List.any_eq_true, decide_eq_true_eq, BlockMatch]
  refine or_congr ⟨?_, ?_⟩ ⟨?_, ?_⟩
  · rintro ⟨hit, member, block⟩
    obtain ⟨entry, listed, found⟩ := List.mem_flatMap.mp member
    obtain ⟨span, there, rfl⟩ := List.mem_map.mp found
    exact ⟨entry, listed, block, List.ne_nil_of_mem there⟩
  · rintro ⟨entry, listed, block, found⟩
    obtain ⟨span, there⟩ := List.exists_mem_of_ne_nil _ found
    exact ⟨_, List.mem_flatMap.mpr ⟨entry, listed, List.mem_map_of_mem there⟩, block⟩
  · rintro ⟨hit, member, block⟩
    obtain ⟨rule, listed, found, own, there⟩ := (mem_tenantHits ran).mp member
    exact ⟨rule, listed, (ruleHits_severity own hit there).symm.trans block, found, own, List.ne_nil_of_mem there⟩
  · rintro ⟨rule, listed, block, found, own, some_found⟩
    obtain ⟨hit, there⟩ := List.exists_mem_of_ne_nil _ some_found
    exact ⟨hit, (mem_tenantHits ran).mpr ⟨rule, listed, found, own, there⟩, (ruleHits_severity own hit there).trans block⟩

omit [PyText] in
theorem ne_empty_of_delimited {word text : String} (nonempty : word.toList ≠ [])
    (delimited : Delimited word.toList text.toList) : text ≠ "" := by
  rintro rfl
  obtain ⟨before, run, after, split, like, _⟩ := delimited
  have none_left := (List.append_eq_nil_iff.mp (List.append_eq_nil_iff.mp split.symm).2).1
  subst none_left
  exact nonempty (List.forall₂_nil_right_iff.mp like)

/-- Of an exact rule the check reports every delimited occurrence: in any text and
beside any rules that compile it has a hit. -/
def RuleCatches (keyword : String) : Prop :=
  ∀ text, Delimited (strip keyword).toList text.toList → ∀ rules, (∀ rule ∈ rules, ¬ rule.Malformed) →
    ∀ rule ∈ rules, rule.keyword = keyword → rule.patternKind = "exact" →
      ∃ hits, checkCompliance text rules = .ok hits ∧ ∃ hit ∈ hits, hit.rule = strip keyword ∧ hit.patternKind = "exact"

/-- Of a brand's word the check reports every delimited occurrence. -/
def DontWordCatches (keyword : String) : Prop :=
  ∀ text, Delimited (strip keyword).toList text.toList → ∀ dontWords, keyword ∈ dontWords →
    strip keyword ∈ checkDontWords text dontWords

theorem mem_checkDontWords {text word : String} {dontWords : List String} :
    word ∈ checkDontWords text dontWords ↔
      text ≠ "" ∧ (∃ entry ∈ dontWords, strip entry = word) ∧ word ≠ "" ∧ exactSpans word text ≠ [] := by
  unfold checkDontWords
  split
  · rename_i blank
    simp [blank]
  · rename_i nonblank
    simp [nonblank, List.mem_filter, List.isEmpty_eq_false_iff]

theorem ruleHits_exact {text : String} {rule : TenantRule} (exact : rule.patternKind = "exact")
    (nonblank : strip rule.keyword ≠ "") :
    ruleHits text rule =
      .ok (hitsOf text (strip rule.keyword) rule.appliedSeverity "exact" (exactSpans (strip rule.keyword) text)) := by
  simp [ruleHits, nonblank, exact, TenantRule.appliedKind]

omit [PyText] [PyRe] in
theorem toList_ne_nil {s : String} (nonblank : s ≠ "") : s.toList ≠ [] := mt String.toList_eq_nil_iff.mp nonblank

theorem ruleCatches_iff {keyword : String} (nonblank : strip keyword ≠ "") :
    RuleCatches keyword ↔ WordEdged (strip keyword).toList := by
  have nonempty := toList_ne_nil nonblank
  rw [← exactSpans_iff_edged nonempty]
  constructor
  · intro catches text delimited
    let rule : TenantRule := ⟨keyword, "exact", "warn"⟩
    have compiles : ∀ other ∈ [rule], ¬ other.Malformed := by
      intro other member malformed
      cases List.mem_singleton.mp member
      exact absurd malformed.2.1 (by decide : ¬ ("exact" : String) = "regex")
    obtain ⟨hits, done, hit, member, named, exact⟩ :=
      catches text delimited [rule] compiles rule (List.mem_singleton_self _) rfl rfl
    have alone : tenantHits text [rule] =
        .ok (hitsOf text (strip keyword) rule.appliedSeverity "exact" (exactSpans (strip keyword) text) ++ []) := by
      simp only [tenantHits, bind_eq_ok, pure_eq_ok]
      exact ⟨_, ruleHits_exact rfl nonblank, [], rfl, rfl⟩
    rw [checkCompliance, if_neg (ne_empty_of_delimited nonempty delimited), alone] at done
    cases done
    rcases List.mem_append.mp member with universal | own
    · obtain ⟨entry, _, listed⟩ := List.mem_flatMap.mp universal
      obtain ⟨span, _, rfl⟩ := List.mem_map.mp listed
      exact absurd exact (by decide : ¬ ("regex" : String) = "exact")
    · rw [List.append_nil] at own
      obtain ⟨span, there, _⟩ := List.mem_map.mp own
      exact List.ne_nil_of_mem there
  · rintro found text delimited rules compile rule member rfl exact
    obtain ⟨hits, done⟩ : ∃ hits, tenantHits text rules = .ok hits := tenantHits_ok compile
    obtain ⟨span, there⟩ := List.exists_mem_of_ne_nil _ (found text delimited)
    have own := (mem_tenantHits done).mpr ⟨rule, member, _, ruleHits_exact exact nonblank, List.mem_map_of_mem there⟩
    refine ⟨universalHits text ++ hits, ?_, _, List.mem_append_right _ own, rfl, rfl⟩
    rw [checkCompliance, if_neg (ne_empty_of_delimited nonempty delimited), done]
    rfl

theorem dontWordCatches_iff {keyword : String} (nonblank : strip keyword ≠ "") :
    DontWordCatches keyword ↔ WordEdged (strip keyword).toList := by
  have nonempty := toList_ne_nil nonblank
  rw [← exactSpans_iff_edged nonempty]
  constructor
  · intro catches text delimited
    exact (mem_checkDontWords.mp (catches text delimited [keyword] (List.mem_singleton_self _))).2.2.2
  · intro found text delimited dontWords member
    exact mem_checkDontWords.mpr
      ⟨ne_empty_of_delimited nonempty delimited, ⟨keyword, member, rfl⟩, nonblank, found text delimited⟩

/-- Both checks report every delimited occurrence of a keyword if and only if its
ends match word characters alone. At any other end `\b` asks for a word character
beside the occurrence, where a delimited one has none. -/
theorem catches_iff_edged (keyword : String) (nonblank : strip keyword ≠ "") :
    (RuleCatches keyword ↔ WordEdged (strip keyword).toList) ∧ (DontWordCatches keyword ↔ WordEdged (strip keyword).toList) :=
  ⟨ruleCatches_iff nonblank, dontWordCatches_iff nonblank⟩

end Checks

namespace Keywords

local instance keywordsText : PyText := PyText.plain

@[reducible] def plainRe : PyRe where
  toPyRegex := PyRegex.plain
  sameCase c d := c.toLower = d.toLower
  finditer _ _ := []
  compileError _ := none
  sameCase_refl _ := decide_eq_true rfl

local instance keywordsRe : PyRe := plainRe

/-- A forbidden claim that begins with no word character goes through both checks. -/
theorem number_one_is_missed :
    Delimited (PyText.strip "#1").toList "#1".toList ∧ checkCompliance "#1" [⟨"#1", "exact", "block"⟩] = .ok [] ∧
      checkDontWords "#1" ["#1"] = [] ∧ ¬ RuleCatches "#1" ∧ ¬ DontWordCatches "#1" := by
  have unedged : ¬ WordEdged (PyText.strip "#1").toList := fun edged => absurd (edged.first '#' rfl '#' rfl) (by decide)
  refine ⟨delimited_of_like (List.forall₂_same.mpr fun c _ => PyRe.sameCase_refl c), by decide +kernel, by decide +kernel, ?_, ?_⟩
  · exact fun catches => unedged ((ruleCatches_iff (by decide)).mp catches)
  · exact fun catches => unedged ((dontWordCatches_iff (by decide)).mp catches)

theorem catches_iff_edged_cheap :
    PyText.strip "cheap" ≠ "" ∧ (RuleCatches "cheap" ↔ WordEdged (PyText.strip "cheap").toList) ∧
      (DontWordCatches "cheap" ↔ WordEdged (PyText.strip "cheap").toList) :=
  ⟨by decide, catches_iff_edged "cheap" (by decide)⟩

end Keywords

end MarketingAgents

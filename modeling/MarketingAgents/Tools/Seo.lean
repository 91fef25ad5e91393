import MarketingAgents.Db.Double
import MarketingAgents.Lib.Loop
import MarketingAgents.Lib.Packing
import MarketingAgents.Outbound.Audience

namespace MarketingAgents

open Lib PyText

/-- Where the loop of `_count_phrase_occurrences` is: its place and its count. -/
structure PhraseScan where
  i : Nat
  count : Nat

/-- A pass of the loop, `none` where it is left. -/
def phrasePass (haystack needle : List String) (s : PhraseScan) : Option PhraseScan :=
  if s.i < haystack.length - needle.length + 1 then
    if (haystack.drop s.i).take needle.length = needle then some ⟨s.i + needle.length, s.count + 1⟩
    else some ⟨s.i + 1, s.count⟩
  else none

/-- `_count_phrase_occurrences`, `none` where its loop is still going. -/
def countPhraseOccurrences (fuel : Nat) (haystack needle : List String) : Option Nat :=
  if needle = [] ∨ haystack.length < needle.length then some 0
  else (loop (phrasePass haystack needle) fuel ⟨0, 0⟩).map PhraseScan.count

/-- `round((matches * length / total) * 100, 3)`. -/
def densityOf (matches_ length total : Nat) : Rat :=
  roundFloat 3 (toFloat (toFloat (((matches_ * length : Nat) : Rat) / total) * 100))

section Density

variable [PyText] [PyRegex]

omit [PyText] in
/-- `_WORD_RE.findall`: the longest runs of word characters. -/
def findWords (text : String) : List String :=
  ((text.toList.splitOnP fun c => !PyRegex.wordChar c).filter (· ≠ [])).map String.ofList

/-- The loop of `_keyword_density` over the keywords. -/
def densities (fuel : Nat) (bodyWords : List String) : Dict String Rat → List String → Option (Dict String Rat)
  | out, [] => some out
  | out, keyword :: rest =>
    let words := findWords (lower keyword)
    if words = [] then densities fuel bodyWords (out.set keyword 0) rest
    else do
      let matches_ ← countPhraseOccurrences fuel bodyWords words
      densities fuel bodyWords (out.set keyword (densityOf matches_ words.length bodyWords.length)) rest

/-- `_keyword_density`. -/
def keywordDensity (fuel : Nat) (keywords bodyWords : List String) : Option (Dict String Rat) :=
  if bodyWords.length = 0 then some (keywords.foldl (fun out keyword => out.set keyword 0) [])
  else densities fuel bodyWords [] keywords

end Density

section Count

variable {haystack needle : List String}

/-- A pass keeps the scan ahead and gets nearer to the end. -/
theorem phrasePass_ahead (proper : needle ≠ []) (fits : needle.length ≤ haystack.length) {s next : PhraseScan}
    (ahead : Ahead needle haystack s.i s.count) (pass : phrasePass haystack needle s = some next) :
    Ahead needle haystack next.i next.count ∧
      haystack.length - needle.length + 1 - next.i < haystack.length - needle.length + 1 - s.i := by
  have length := List.length_pos_iff.mpr proper
  unfold phrasePass at pass
  split at pass
  · rename_i within
    split at pass <;> cases pass
    · rename_i here
      exact ⟨ahead.take proper ⟨by omega, here⟩, by dsimp only; omega⟩
    · rename_i absent
      exact ⟨ahead.skip fun here => absent here.2, by dsimp only; omega⟩
  · cases pass

/-- A phrase is counted as often as it can occur at a time, and the loop ends. -/
theorem countPhraseOccurrences_greatest (haystack : List String) (proper : needle ≠ []) :
    ∃ count, (∀ fuel, haystack.length < fuel → countPhraseOccurrences fuel haystack needle = some count) ∧
      IsGreatest (packings needle haystack) count := by
  have length := List.length_pos_iff.mpr proper
  by_cases long : haystack.length < needle.length
  · exact ⟨0, fun fuel _ => if_pos (Or.inr long), (Ahead.start needle haystack).greatest (by omega)⟩
  · have keep : ∀ s next : PhraseScan, Ahead needle haystack s.i s.count → phrasePass haystack needle s = some next →
        Ahead needle haystack next.i next.count ∧
          haystack.length - needle.length + 1 - next.i < haystack.length - needle.length + 1 - s.i :=
      fun _ _ ahead pass => phrasePass_ahead proper (by omega) ahead pass
    obtain ⟨last, ahead, left, ends⟩ := loop_ends (I := fun s : PhraseScan => Ahead needle haystack s.i s.count)
      (fun s => haystack.length - needle.length + 1 - s.i) keep (s := ⟨0, 0⟩) (Ahead.start needle haystack)
    refine ⟨last.count, fun fuel enough => ?_, ahead.greatest ?_⟩
    · rw [countPhraseOccurrences, if_neg (by simp [proper, long]), ends fuel (by omega), Option.map_some]
    · unfold phrasePass at left
      split at left
      · split at left <;> cases left
      · omega

theorem countPhraseOccurrences_empty (fuel : Nat) (haystack : List String) :
    countPhraseOccurrences fuel haystack [] = some 0 := if_pos (Or.inl rfl)

/-- The empty phrase counts nothing, though its occurrences, which are empty, never overlap. -/
theorem empty_phrase_uncounted : (∀ fuel, countPhraseOccurrences fuel ["seo"] [] = some 0) ∧
    ¬ IsGreatest (packings [] ["seo"]) 0 := by
  refine ⟨fun fuel => countPhraseOccurrences_empty fuel _, fun greatest => ?_⟩
  have packed : Packed [] ["seo"] {0} := ⟨by simp [Occurs], by simp⟩
  exact absurd (greatest.2 ⟨{0}, packed, Finset.card_singleton 0⟩) (by decide)

/-- A share of a text as a percentage. -/
theorem densityOf_between {matches_ length total : Nat} (part : matches_ * length ≤ total) :
    0 ≤ densityOf matches_ length total ∧ densityOf matches_ length total ≤ 100 := by
  have low : (0 : Rat) ≤ ((matches_ * length : Nat) : Rat) / total := by positivity
  have high : ((matches_ * length : Nat) : Rat) / total ≤ (1 : Nat) := by
    rw [Nat.cast_one]
    exact div_le_one_of_le₀ (by exact_mod_cast part) (Nat.cast_nonneg total)
  have share := toFloat_le low high (by decide)
  have percent : toFloat (((matches_ * length : Nat) : Rat) / total) * 100 ≤ (100 : Nat) := by
    have scaled := mul_le_mul_of_nonneg_right share (by norm_num : (0 : Rat) ≤ 100)
    exact scaled.trans (by norm_num)
  have positive := mul_nonneg (toFloat_nonneg low) (by norm_num : (0 : Rat) ≤ 100)
  have rounded := roundFloat_between (toFloat_nonneg positive) (toFloat_le positive percent (by decide)) (by decide) 3
  exact_mod_cast rounded

end Count

section Keywords

variable [PyText] [PyRegex] {bodyWords : List String}

/-- Every density is a percentage. -/
def Percentages (out : Dict String Rat) : Prop := ∀ entry ∈ out, 0 ≤ entry.2 ∧ entry.2 ≤ 100

omit [PyText] [PyRegex] in
theorem Percentages.set {out : Dict String Rat} (percentages : Percentages out) (keyword : String) {density : Rat}
    (between : 0 ≤ density ∧ density ≤ 100) : Percentages (out.set keyword density) := by
  intro entry member
  rcases Dict.mem_set member with rfl | old
  · exact between
  · exact percentages entry old

theorem densities_between (keywords : List String) {out : Dict String Rat} (percentages : Percentages out) :
    ∃ done, (∀ fuel, bodyWords.length < fuel → densities fuel bodyWords out keywords = some done) ∧ Percentages done := by
  induction keywords generalizing out with
  | nil => exact ⟨out, fun fuel _ => rfl, percentages⟩
  | cons keyword keywords ih =>
    by_cases none : findWords (lower keyword) = []
    · obtain ⟨done, ends, between⟩ := ih (percentages.set keyword ⟨le_rfl, by norm_num⟩)
      refine ⟨done, fun fuel enough => ?_, between⟩
      rw [densities, if_pos none]
      exact ends fuel enough
    · obtain ⟨count, counted, ⟨places, packed, size⟩, _⟩ := countPhraseOccurrences_greatest bodyWords none
      have part := densityOf_between (size ▸ packed.card_mul_le)
      obtain ⟨done, ends, between⟩ := ih (percentages.set keyword part)
      refine ⟨done, fun fuel enough => ?_, between⟩
      rw [densities, if_neg none, counted fuel enough]
      exact ends fuel enough

/-- A phrase is counted as often as it can occur without overlap, the empty one
never, and the densities of keywords are percentages; the loops end. -/
theorem phrases_counted :
    (∀ haystack needle, ∃ count,
      (∀ fuel, haystack.length < fuel → countPhraseOccurrences fuel haystack needle = some count) ∧
      (needle ≠ [] → IsGreatest (packings needle haystack) count) ∧ (needle = [] → count = 0)) ∧
    ∀ keywords bodyWords, ∃ done,
      (∀ fuel, bodyWords.length < fuel → keywordDensity fuel keywords bodyWords = some done) ∧
      ∀ entry ∈ done, 0 ≤ entry.2 ∧ entry.2 ≤ 100 := by
  refine ⟨fun haystack needle => ?_, fun keywords bodyWords => ?_⟩
  · by_cases proper : needle = []
    · subst proper
      exact ⟨0, fun fuel _ => countPhraseOccurrences_empty fuel haystack, fun other => absurd rfl other, fun _ => rfl⟩
    · obtain ⟨count, ends, greatest⟩ := countPhraseOccurrences_greatest haystack proper
      exact ⟨count, ends, fun _ => greatest, fun empty => absurd empty proper⟩
  · unfold keywordDensity
    split
    · refine ⟨_, fun fuel _ => rfl, ?_⟩
      refine List.foldlRecOn (motive := Percentages) keywords _ (fun entry member => by cases member) ?_
      exact fun out percentages keyword _ => percentages.set keyword ⟨le_rfl, by norm_num⟩
    · exact densities_between keywords fun entry member => by cases member

end Keywords

end MarketingAgents

import Mathlib.Data.List.DropRight
import MarketingAgents.Lib.Occurrence
import MarketingAgents.Outbound.Audience

namespace MarketingAgents

open Lib PyText

/-- The text without the blanks at its ends. -/
def trimBlanks (s : String) : String := String.ofList ((s.toList.dropWhile (· = ' ')).rdropWhile (· = ' '))

/-- What the keywords rely on of `str.strip` and `re`. -/
class TitleText [PyText] [PyRegex] : Prop where
  strip_blanks : ∀ s : String, s.toList.all (fun c => c.isAlphanum || c = ' ' || c = '-') → strip s = trimBlanks s
  wordChar_alphanum : ∀ c : Char, c.isAlphanum → PyRegex.wordChar c = true
  wordChar_blank : PyRegex.wordChar ' ' = false

section Phrases

variable [PyRegex]

/-- The phrase stands in the title between `first` and `last`, with no word character next to it. -/
structure PhraseAt (phrase title first last : List Char) : Prop where
  split : title = first ++ phrase ++ last
  before : ∀ c ∈ first.getLast?, PyRegex.wordChar c = false
  after : ∀ c ∈ last.head?, PyRegex.wordChar c = false

/-- The title contains the phrase as a delimited one. -/
def HasPhrase (phrase title : List Char) : Prop := ∃ first last, PhraseAt phrase title first last

/-- Against a word character there is a boundary where no other one is next to it. -/
theorem boundary_right_iff {outside : Option Char} {c : Char} (word : PyRegex.wordChar c = true) :
    boundary outside (some c) = true ↔ ∀ d ∈ outside, PyRegex.wordChar d = false := by
  cases outside <;> simp [boundary, word]

theorem boundary_left_iff {outside : Option Char} {c : Char} (word : PyRegex.wordChar c = true) :
    boundary (some c) outside = true ↔ ∀ d ∈ outside, PyRegex.wordChar d = false := by
  cases outside <;> simp [boundary, word]

theorem wordFrom_iff {word : List Char} {before : Option Char} {text : List Char} :
    wordFrom word before text = true ↔ ∃ first rest, text = first ++ rest ∧ rest ≠ [] ∧ word <+: rest ∧
      boundary (elementBefore before first) word.head? = true ∧
      boundary word.getLast? (rest.drop word.length).head? = true := by
  induction text generalizing before with
  | nil =>
    refine iff_of_false (by simp [wordFrom]) ?_
    rintro ⟨first, rest, split, some_left, _⟩
    exact some_left (List.append_eq_nil_iff.mp split.symm).2
  | cons c text ih =>
    rw [wordFrom, Bool.or_eq_true, Bool.and_eq_true, Bool.and_eq_true, List.isPrefixOf_iff_prefix, ih]
    constructor
    · rintro (⟨⟨starts, opens⟩, closes⟩ | ⟨first, rest, rfl, some_left, starts, opens, closes⟩)
      · exact ⟨[], c :: text, rfl, List.cons_ne_nil _ _, starts, opens, closes⟩
      · exact ⟨c :: first, rest, rfl, some_left, starts, by rwa [elementBefore_cons], closes⟩
    · rintro ⟨first, rest, split, some_left, starts, opens, closes⟩
      cases first with
      | nil =>
        cases split
        exact Or.inl ⟨⟨starts, opens⟩, closes⟩
      | cons d first =>
        cases split
        exact Or.inr ⟨first, rest, rfl, some_left, starts, by rwa [elementBefore_cons] at opens, closes⟩

/-- For a word between word characters the search finds its delimited occurrences. -/
theorem wordFrom_iff_phrase {word title : List Char} {c d : Char} (head : c ∈ word.head?) (last : d ∈ word.getLast?)
    (opens : PyRegex.wordChar c = true) (closes : PyRegex.wordChar d = true) :
    wordFrom word none title = true ↔ HasPhrase word title := by
  rw [wordFrom_iff, Option.mem_def.mp head, Option.mem_def.mp last]
  constructor
  · rintro ⟨first, rest, rfl, _, ⟨after, rfl⟩, front, back⟩
    rw [boundary_right_iff opens, elementBefore, Option.or_none] at front
    rw [boundary_left_iff closes, List.drop_left] at back
    exact ⟨first, after, by rw [List.append_assoc], front, back⟩
  · rintro ⟨first, after, split, front, back⟩
    have nonempty : word ≠ [] := by
      rintro rfl
      cases head
    refine ⟨first, word ++ after, by rw [split, List.append_assoc], List.append_ne_nil_of_left_ne_nil nonempty _,
      List.prefix_append .., ?_, ?_⟩
    · rw [boundary_right_iff opens, elementBefore, Option.or_none]
      exact front
    · rw [boundary_left_iff closes, List.drop_left]
      exact back

theorem HasPhrase.president [PyText] [TitleText] {title : List Char} (found : HasPhrase "vice president".toList title) :
    HasPhrase "president".toList title := by
  obtain ⟨first, last, split, _, after⟩ := found
  have words : "vice president".toList = "vice ".toList ++ "president".toList := by decide
  refine ⟨first ++ "vice ".toList, last, ?_, fun c before => ?_, after⟩
  · rw [split, words]
    simp only [List.append_assoc]
  · rw [List.getLast?_append] at before
    cases Option.some.inj before
    exact TitleText.wordChar_blank

end Phrases

section Keywords

variable [PyText] [PyRegex]

omit [PyRegex] in
/-- What a bucket looks for in a title. -/
def phrasesOf (key : String) : List (List Char) :=
  (seniorityBuckets.filter (·.key = key)).flatMap fun bucket =>
    bucket.titleKeywords.map fun keyword => (strip keyword).toList

variable [TitleText] {bucket : SegmentBucket} {keyword : String}

theorem strip_keyword (listed : bucket ∈ seniorityBuckets) (member : keyword ∈ bucket.titleKeywords) :
    strip keyword = trimBlanks keyword := by
  have plain : ∀ bucket ∈ seniorityBuckets, ∀ keyword ∈ bucket.titleKeywords,
      keyword.toList.all (fun c => c.isAlphanum || c = ' ' || c = '-') := by decide +kernel
  exact TitleText.strip_blanks keyword (plain bucket listed keyword member)

theorem phrasesOf_eq (key : String) : phrasesOf key = (seniorityBuckets.filter (·.key = key)).flatMap fun bucket =>
    bucket.titleKeywords.map fun keyword => (trimBlanks keyword).toList := by
  unfold phrasesOf
  refine List.flatMap_congr fun bucket listed => List.map_congr_left fun keyword member => ?_
  rw [strip_keyword (List.mem_filter.mp listed).1 member]

/-- Every keyword begins and ends with a letter, so the search finds its delimited occurrences. -/
theorem hasKeyword_iff (listed : bucket ∈ seniorityBuckets) (member : keyword ∈ bucket.titleKeywords) (title : String) :
    hasKeyword title keyword = true ↔ HasPhrase (strip keyword).toList title.toList := by
  have edges : ∀ bucket ∈ seniorityBuckets, ∀ keyword ∈ bucket.titleKeywords,
      (trimBlanks keyword).toList.head?.any Char.isAlphanum ∧ (trimBlanks keyword).toList.getLast?.any Char.isAlphanum := by
    decide +kernel
  obtain ⟨front, back⟩ := edges bucket listed keyword member
  rw [← strip_keyword listed member] at front back
  obtain ⟨c, head, opens⟩ := (Option.any_eq_true ..).mp front
  obtain ⟨d, last, closes⟩ := (Option.any_eq_true ..).mp back
  exact wordFrom_iff_phrase head last (TitleText.wordChar_alphanum c opens) (TitleText.wordChar_alphanum d closes)

/-- The only phrase of the vice presidents that one of the chiefs is a part of. -/
theorem eq_vice_president {phrase outer : List Char} (chief : phrase ∈ phrasesOf "c_suite") (vice : outer ∈ phrasesOf "vp")
    (part : phrase <:+: outer) : outer = "vice president".toList := by
  have only : ∀ phrase ∈ (seniorityBuckets.filter (·.key = "c_suite")).flatMap fun bucket =>
      bucket.titleKeywords.map fun keyword => (trimBlanks keyword).toList,
      ∀ outer ∈ (seniorityBuckets.filter (·.key = "vp")).flatMap fun bucket =>
        bucket.titleKeywords.map fun keyword => (trimBlanks keyword).toList,
      phrase <:+: outer → outer = "vice president".toList := by decide +kernel
  rw [phrasesOf_eq] at chief vice
  exact only phrase chief outer vice part

/-- The title has a phrase of a vice president, none of a chief except within
such a phrase, and the seniority decides nothing. -/
structure MeantForVp (seniority title : String) : Prop where
  unrecognised : seniority = "" ∨ ∀ bucket ∈ seniorityBuckets, seniority ∉ bucket.seniorityValues
  phrase : ∃ phrase ∈ phrasesOf "vp", HasPhrase phrase title.toList
  inside : ∀ phrase ∈ phrasesOf "c_suite", ∀ first last, PhraseAt phrase title.toList first last →
    ∃ outer ∈ phrasesOf "vp", ∃ first' last', PhraseAt outer title.toList first' last' ∧
      first'.length ≤ first.length ∧ last'.length ≤ last.length

/-- A chief's phrase is found in such a title exactly where it is a vice president's. -/
theorem MeantForVp.chief_iff {seniority title : String} (meant : MeantForVp seniority title) :
    (∃ phrase ∈ phrasesOf "c_suite", HasPhrase phrase title.toList) ↔ HasPhrase "vice president".toList title.toList := by
  constructor
  · rintro ⟨phrase, chief, first, last, here⟩
    obtain ⟨outer, vice, first', last', there, left, right⟩ := meant.inside phrase chief first last here
    have part := infix_of_inside (here.split.symm.trans there.split) left right
    rw [eq_vice_president chief vice part] at there
    exact ⟨first', last', there⟩
  · intro vice
    refine ⟨"president".toList, ?_, vice.president⟩
    rw [phrasesOf_eq]
    decide +kernel

theorem any_hasKeyword_iff (listed : bucket ∈ seniorityBuckets) (title : String) :
    bucket.titleKeywords.any (hasKeyword title) = true ↔ ∃ phrase ∈ phrasesOf bucket.key, HasPhrase phrase title.toList := by
  rw [List.any_eq_true]
  constructor
  · rintro ⟨keyword, member, found⟩
    refine ⟨(strip keyword).toList, ?_, (hasKeyword_iff listed member title).mp found⟩
    exact List.mem_flatMap.mpr ⟨bucket, List.mem_filter.mpr ⟨listed, decide_eq_true rfl⟩, List.mem_map_of_mem member⟩
  · rintro ⟨phrase, member, found⟩
    obtain ⟨other, there, mapped⟩ := List.mem_flatMap.mp member
    obtain ⟨listed', sameKey⟩ := List.mem_filter.mp there
    cases List.inj_on_of_nodup_map seniorityBuckets_keys listed' listed (of_decide_eq_true sameKey)
    obtain ⟨keyword, searched, rfl⟩ := List.mem_map.mp mapped
    exact ⟨keyword, searched, (hasKeyword_iff listed searched title).mpr found⟩

theorem MeantForVp.titled {seniority title : String} (meant : MeantForVp seniority title) : title ≠ "" := by
  rintro rfl
  obtain ⟨phrase, vice, first, last, split, _⟩ := meant.phrase
  have empty : phrase = [] := by
    have lengths := congrArg List.length split
    simp only [String.toList_empty, List.length_nil, List.length_append] at lengths
    exact List.length_eq_zero_iff.mp (by omega)
  rw [phrasesOf_eq, empty] at vice
  exact absurd vice (by decide +kernel)

omit [TitleText] in
/-- Where the seniority decides nothing the title does. -/
theorem bucketForMember_fallback {m : AudienceMember} {seniority title : String}
    (rank : wordAt m.payload "seniority" = some seniority) (named : wordAt m.payload "title" = some title)
    (unrecognised : seniority = "" ∨ ∀ bucket ∈ seniorityBuckets, seniority ∉ bucket.seniorityValues) (titled : title ≠ "") :
    bucketForMember m =
      (seniorityBuckets.find? fun bucket => bucket.titleKeywords.any (hasKeyword title)).or seniorityBuckets.getLast? := by
  have unranked : (if seniority = "" then none
      else seniorityBuckets.find? fun bucket => seniority ∈ bucket.seniorityValues) = none := by
    split
    · rfl
    · rename_i some_
      refine List.find?_eq_none.mpr fun bucket listed => ?_
      simpa using unrecognised.resolve_left some_ bucket listed
  rw [bucketForMember, rank, named]
  show (if seniority = "" then none else seniorityBuckets.find? fun bucket => seniority ∈ bucket.seniorityValues).or
    ((if title = "" then none else seniorityBuckets.find? fun bucket => bucket.titleKeywords.any (hasKeyword title)).or
      seniorityBuckets.getLast?) = _
  rw [unranked, if_neg titled, Option.none_or]

/-- A title meant for the vice presidents gets there unless it spells them out:
the last word of that phrase is a chief's. -/
theorem bucketForMember_vp_iff {m : AudienceMember} {seniority title : String}
    (rank : wordAt m.payload "seniority" = some seniority) (named : wordAt m.payload "title" = some title)
    (meant : MeantForVp seniority title) :
    (bucketForMember m).map SegmentBucket.key = some "vp" ↔ ¬ HasPhrase "vice president".toList title.toList := by
  obtain ⟨chief, vice, rest, shape, chiefKey, viceKey⟩ : ∃ chief vice rest, seniorityBuckets = chief :: vice :: rest ∧
      chief.key = "c_suite" ∧ vice.key = "vp" := ⟨_, _, _, rfl, rfl, rfl⟩
  have chiefListed : chief ∈ seniorityBuckets := by simp [shape]
  have viceListed : vice ∈ seniorityBuckets := by simp [shape]
  have chiefIff := any_hasKeyword_iff chiefListed title
  have viceIff := any_hasKeyword_iff viceListed title
  rw [chiefKey, meant.chief_iff] at chiefIff
  rw [viceKey] at viceIff
  rw [bucketForMember_fallback rank named meant.unrecognised meant.titled, shape, ← chiefIff, List.find?_cons,
    List.find?_cons, viceIff.mpr meant.phrase]
  cases chief.titleKeywords.any (hasKeyword title) with
  | true => simp [chiefKey]
  | false => simp [viceKey]

end Keywords

section Segments

variable [PyText] [PyRegex] {members : List AudienceMember} {segments : List (SegmentBucket × List AudienceMember)}

/-- Segments in the order of seniority, each with all the members of its bucket,
and every member in one of them. -/
structure Segmented (members : List AudienceMember) (segments : List (SegmentBucket × List AudienceMember)) : Prop where
  ordered : (segments.map Prod.fst).Sublist seniorityBuckets
  own : ∀ segment ∈ segments, segment.2 = members.filter (bucketForMember · = some segment.1) ∧ segment.2 ≠ []
  each : ∀ m ∈ members, ∃ segment ∈ segments, m ∈ segment.2 ∧ ∀ other ∈ segments, m ∈ other.2 → other = segment

/-- The members that are listed under the key of a bucket are those of the bucket. -/
theorem keyed_members {keyed : List (String × AudienceMember)}
    (listed : (members.mapM fun m => (bucketForMember m).map fun bucket => (bucket.key, m)) = some keyed)
    {bucket : SegmentBucket} (ranked : bucket ∈ seniorityBuckets) :
    (keyed.filter (·.1 = bucket.key)).map Prod.snd = members.filter (bucketForMember · = some bucket) := by
  induction members generalizing keyed with
  | nil =>
    cases Option.some.inj listed
    rfl
  | cons m members ih =>
    rw [List.mapM_cons] at listed
    obtain ⟨entry, here, rest⟩ := Option.bind_eq_some_iff.mp listed
    obtain ⟨later, below, same⟩ := Option.bind_eq_some_iff.mp rest
    cases Option.some.inj same
    obtain ⟨mine, found, rfl⟩ := Option.map_eq_some_iff.mp here
    rw [List.filter_cons, List.filter_cons, found]
    have agree : mine.key = bucket.key ↔ some mine = some bucket := by
      rw [Option.some.injEq]
      refine ⟨fun sameKey => ?_, congrArg SegmentBucket.key⟩
      exact List.inj_on_of_nodup_map seniorityBuckets_keys (bucketForMember_mem found) ranked sameKey
    by_cases sameKey : mine.key = bucket.key
    · simp [sameKey, agree.mp sameKey, ih below]
    · simp [sameKey, mt agree.mpr sameKey, ih below]

/-- No member is left out: the members are segmented unless a title or a seniority is no text. -/
theorem segmentMembers_ok_iff :
    (∃ segments, segmentMembers members = some segments) ↔ ∀ m ∈ members, ∃ bucket, bucketForMember m = some bucket := by
  constructor
  · rintro ⟨segments, done⟩ m member
    obtain ⟨keyed, listed, _⟩ := Option.map_eq_some_iff.mp done
    obtain ⟨entry, here⟩ := mapM_some_iff.mp ⟨keyed, listed⟩ m member
    obtain ⟨bucket, found, _⟩ := Option.map_eq_some_iff.mp here
    exact ⟨bucket, found⟩
  · intro found
    have each : ∀ m ∈ members, ∃ entry, ((bucketForMember m).map fun bucket => (bucket.key, m)) = some entry := by
      intro m member
      obtain ⟨bucket, here⟩ := found m member
      exact ⟨(bucket.key, m), by rw [here, Option.map_some]⟩
    obtain ⟨keyed, listed⟩ := mapM_some_iff.mpr each
    exact ⟨_, congrArg (Option.map _) listed⟩

theorem segmentMembers_segmented (done : segmentMembers members = some segments) : Segmented members segments := by
  obtain ⟨keyed, listed, rfl⟩ := Option.map_eq_some_iff.mp done
  have same : (seniorityBuckets.map fun bucket => (bucket, (keyed.filter (·.1 = bucket.key)).map Prod.snd)) =
      seniorityBuckets.map fun bucket => (bucket, members.filter (bucketForMember · = some bucket)) :=
    List.map_congr_left fun bucket ranked => by rw [keyed_members listed ranked]
  rw [same]
  have shape : ∀ segment, segment ∈ (seniorityBuckets.map fun bucket =>
      (bucket, members.filter (bucketForMember · = some bucket))).filter (·.2 ≠ []) ↔
      segment.1 ∈ seniorityBuckets ∧ segment.2 = members.filter (bucketForMember · = some segment.1) ∧ segment.2 ≠ [] := by
    intro segment
    rw [List.mem_filter, List.mem_map, decide_eq_true_iff]
    constructor
    · rintro ⟨⟨bucket, ranked, rfl⟩, some_⟩
      exact ⟨ranked, rfl, some_⟩
    · rintro ⟨ranked, own, some_⟩
      exact ⟨⟨segment.1, ranked, Prod.ext rfl own.symm⟩, some_⟩
  refine ⟨?_, fun segment member => ((shape segment).mp member).2, fun m member => ?_⟩
  · have sublist := (List.filter_sublist (p := fun segment : SegmentBucket × List AudienceMember => segment.2 ≠ [])
      (l := seniorityBuckets.map fun bucket => (bucket, members.filter (bucketForMember · = some bucket)))).map Prod.fst
    have whole : (seniorityBuckets.map fun bucket =>
        (bucket, members.filter (bucketForMember · = some bucket))).map Prod.fst = seniorityBuckets := by
      rw [List.map_map]
      exact List.map_id _
    rwa [whole] at sublist
  · obtain ⟨bucket, found⟩ := segmentMembers_ok_iff.mp ⟨_, done⟩ m member
    have inside : m ∈ members.filter (bucketForMember · = some bucket) := List.mem_filter.mpr ⟨member, decide_eq_true found⟩
    refine ⟨(bucket, members.filter (bucketForMember · = some bucket)), ?_, inside, fun other there again => ?_⟩
    · exact (shape _).mpr ⟨bucketForMember_mem found, rfl, List.ne_nil_of_mem inside⟩
    · obtain ⟨_, own, _⟩ := (shape other).mp there
      rw [own] at again
      have same := of_decide_eq_true (List.mem_filter.mp again).2
      rw [found] at same
      exact Prod.ext (Option.some.inj same).symm (by rw [own, ← Option.some.inj same])

/-- Titles fall back to the bucket of the vice presidents as they should unless
they spell them out, and the segments divide the members in the order of seniority. -/
theorem title_fallback_iff [TitleText] :
    (∀ m seniority title, wordAt m.payload "seniority" = some seniority → wordAt m.payload "title" = some title →
      MeantForVp seniority title →
      ((bucketForMember m).map SegmentBucket.key = some "vp" ↔ ¬ HasPhrase "vice president".toList title.toList)) ∧
    (∀ members, (∃ segments, segmentMembers members = some segments) ↔
      ∀ m ∈ members, ∃ bucket, bucketForMember m = some bucket) ∧
    ∀ members segments, segmentMembers members = some segments → Segmented members segments :=
  ⟨fun _ _ _ rank named meant => bucketForMember_vp_iff rank named meant, fun _ => segmentMembers_ok_iff,
    fun _ _ done => segmentMembers_segmented done⟩

end Segments

theorem trimBlanks_trimBlanks (s : String) : trimBlanks (trimBlanks s) = trimBlanks s := by
  have front : ((s.toList.dropWhile (· = ' ')).rdropWhile (· = ' ')).dropWhile (· = ' ') =
      (s.toList.dropWhile (· = ' ')).rdropWhile (· = ' ') := by
    refine List.dropWhile_eq_self_iff.mpr fun some_ => ?_
    have short := List.rdropWhile_prefix (· = ' ') (s.toList.dropWhile (· = ' '))
    rw [short.getElem some_]
    exact List.dropWhile_get_zero_not _ s.toList (some_.trans_le short.length_le)
  unfold trimBlanks
  rw [String.toList_ofList, front, List.rdropWhile_idempotent]

/-- `PyText.plain` with a `str.strip` that strips blanks. -/
@[reducible] def PyText.trimmed : PyText :=
  { PyText.plain with
    strip := trimBlanks
    strip_empty := by decide +kernel
    strip_strip := trimBlanks_trimBlanks
    strip_lower := fun _ => rfl }

namespace TitleBuckets

local instance bucketsText : PyText := PyText.trimmed

local instance bucketsRegex : PyRegex := PyRegex.plain

instance : TitleText where
  strip_blanks _ _ := rfl
  wordChar_alphanum _ word := word
  wordChar_blank := by decide

def titled (title : String) : AudienceMember := ⟨1, title, [("title", .str title)]⟩

theorem of_sales_apart : ∀ c ∈ " of sales".toList.head?, PyRegex.wordChar c = false := by
  intro c member
  have blank : " of sales".toList.head? = some ' ' := by decide +kernel
  rw [blank] at member
  cases member
  decide

/-- Searched for before the vice presidents, the chiefs get every title that spells them out. -/
theorem vice_president_is_a_chief : MeantForVp "" "vice president of sales" ∧
    (bucketForMember (titled "vice president of sales")).map SegmentBucket.key = some "c_suite" := by
  have vice : "vice president".toList ∈ phrasesOf "vp" := by decide +kernel
  have spelled : PhraseAt "vice president".toList "vice president of sales".toList [] " of sales".toList :=
    ⟨by decide +kernel, by simp, of_sales_apart⟩
  refine ⟨⟨Or.inl rfl, ⟨_, vice, [], _, spelled⟩, fun phrase chief first last here => ?_⟩, by decide +kernel⟩
  have only : ∀ phrase ∈ phrasesOf "c_suite", ∀ i ∈ List.range 24,
      phrase <+: "vice president of sales".toList.drop i → i = 5 ∧ phrase.length = 9 := by decide +kernel
  have lengths := congrArg List.length here.split
  rw [List.length_append, List.length_append] at lengths
  have long : "vice president of sales".toList.length = 23 := by decide +kernel
  have starts : phrase <+: "vice president of sales".toList.drop first.length := by
    rw [here.split, List.append_assoc, List.drop_left]
    exact List.prefix_append ..
  obtain ⟨place, size⟩ := only phrase chief first.length (List.mem_range.mpr (by omega)) starts
  have rest : " of sales".toList.length = 9 := by decide +kernel
  exact ⟨_, vice, [], _, spelled, Nat.zero_le _, by omega⟩

/-- A title with an abbreviation gets where it should. -/
theorem title_fallback_abbreviated :
    (bucketForMember (titled "vp of sales")).map SegmentBucket.key = some "vp" ∧
    ∃ segments, segmentMembers [titled "vp of sales"] = some segments ∧ Segmented [titled "vp of sales"] segments := by
  have named : wordAt (titled "vp of sales").payload "title" = some "vp of sales" := by decide +kernel
  have abbreviated : PhraseAt "vp".toList "vp of sales".toList [] " of sales".toList :=
    ⟨by decide +kernel, by simp, of_sales_apart⟩
  have chiefless : ∀ phrase ∈ phrasesOf "c_suite", ¬ phrase <:+: "vp of sales".toList := by decide +kernel
  have meant : MeantForVp "" "vp of sales" := by
    refine ⟨Or.inl rfl, ⟨"vp".toList, by decide +kernel, [], _, abbreviated⟩, fun phrase chief first last here => ?_⟩
    exact absurd ⟨first, last, here.split.symm⟩ (chiefless phrase chief)
  have unspelled : ¬ "vice president".toList <:+: "vp of sales".toList := by decide +kernel
  obtain ⟨titles, complete, segmented⟩ := title_fallback_iff
  have bucket := (titles (titled "vp of sales") "" _ (by decide +kernel) named meant).mpr fun ⟨first, last, here⟩ =>
    unspelled ⟨first, last, here.split.symm⟩
  obtain ⟨segments, done⟩ := (complete [titled "vp of sales"]).mpr fun m member => by
    obtain ⟨found, is, _⟩ := Option.map_eq_some_iff.mp bucket
    exact ⟨found, List.mem_singleton.mp member ▸ is⟩
  exact ⟨bucket, segments, done, segmented _ _ done⟩

end TitleBuckets

end MarketingAgents

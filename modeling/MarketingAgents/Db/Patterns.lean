import MarketingAgents.Db.Jsonb

namespace MarketingAgents

open Lib PyText

/-- A character that stands for itself in a `LIKE` pattern. -/
def literalChar (c : Char) : Bool := c != '%' && c != '_' && c != '\\'

theorem literalChar_iff {c : Char} : literalChar c = true ↔ c ≠ '%' ∧ c ≠ '_' ∧ c ≠ '\\' := by
  simp [literalChar, and_assoc]

theorem like_percent (pattern text : List Char) : like ('%' :: pattern) text = text.tails.any (like pattern) := rfl

theorem like_escape (c : Char) (pattern : List Char) (d : Char) (text : List Char) :
    like ('\\' :: c :: pattern) (d :: text) = (decide (c = d) && like pattern text) := rfl

/-- A literal character of a pattern takes the same character of the text. -/
theorem like_cons {c : Char} (literal : literalChar c = true) (pattern : List Char) (d : Char) (text : List Char) :
    like (c :: pattern) (d :: text) = (decide (c = d) && like pattern text) := by
  have plain := literalChar_iff.mp literal
  rw [like]
  · exact plain.1
  · exact fun _ _ escape _ => plain.2.2 escape
  · exact plain.2.1

theorem like_cons_nil {c : Char} (literal : literalChar c = true) (pattern : List Char) : like (c :: pattern) [] = false := by
  have plain := literalChar_iff.mp literal
  simp [like, plain]

theorem like_anything (text : List Char) : like ['%'] text = true := by
  rw [like_percent, List.any_eq_true]
  exact ⟨[], (List.mem_tails _ _).mpr (List.nil_suffix), rfl⟩

theorem like_literal_front {value : List Char} (literal : ∀ c ∈ value, literalChar c = true) (text : List Char) :
    like (value ++ ['%']) text = true ↔ value <+: text := by
  induction value generalizing text with
  | nil => simp [like_anything]
  | cons c value ih =>
    have plain := literal c (List.mem_cons_self ..)
    cases text with
    | nil => simp [like_cons_nil plain]
    | cons d text =>
      rw [List.cons_append, like_cons plain, Bool.and_eq_true, decide_eq_true_iff, List.cons_prefix_cons,
        ih fun c member => literal c (List.mem_cons_of_mem _ member)]

/-- Between two wildcards a literal value matches where it occurs. -/
theorem like_literal {value : List Char} (literal : ∀ c ∈ value, literalChar c = true) (text : List Char) :
    like ('%' :: (value ++ ['%'])) text = true ↔ value <:+: text := by
  rw [like_percent, List.any_eq_true]
  constructor
  · rintro ⟨tail, member, matched⟩
    exact ((like_literal_front literal tail).mp matched).isInfix.trans ((List.mem_tails _ _).mp member).isInfix
  · rintro ⟨before, after, rfl⟩
    refine ⟨value ++ after, (List.mem_tails _ _).mpr ⟨before, by simp⟩, ?_⟩
    exact (like_literal_front literal _).mpr (List.prefix_append value after)

/-- A literal pattern matches itself alone. -/
theorem like_literal_whole {value : List Char} (literal : ∀ c ∈ value, literalChar c = true) (text : List Char) :
    like value text = true ↔ value = text := by
  induction value generalizing text with
  | nil => exact List.isEmpty_iff.trans eq_comm
  | cons c value ih =>
    have plain := literal c (List.mem_cons_self ..)
    cases text with
    | nil => simp [like_cons_nil plain]
    | cons d text =>
      rw [like_cons plain, Bool.and_eq_true, decide_eq_true_iff, List.cons.injEq,
        ih fun c member => literal c (List.mem_cons_of_mem _ member)]

section Specimens

/-- A text that a pattern matches: each wildcard stands for one letter, and an
escape at the very end for the wildcard that comes after the pattern. -/
def specimen : List Char → List Char
  | [] => []
  | '%' :: pattern => 'a' :: specimen pattern
  | '_' :: pattern => 'a' :: specimen pattern
  | ['\\'] => ['%']
  | '\\' :: c :: pattern => c :: specimen pattern
  | c :: pattern => c :: specimen pattern

/-- The pattern ends in an escape that escapes nothing. -/
def dangling : List Char → Bool
  | [] => false
  | ['\\'] => true
  | '\\' :: _ :: pattern => dangling pattern
  | _ :: pattern => dangling pattern

theorem dangling_cons {c : Char} (other : c ≠ '\\') (pattern : List Char) : dangling (c :: pattern) = dangling pattern := by
  rw [dangling]
  · exact fun escape _ => other escape
  · exact fun _ _ escape _ => other escape

theorem dangling_literal {pattern : List Char} (literal : ∀ c ∈ pattern, literalChar c = true) : dangling pattern = false := by
  induction pattern with
  | nil => rfl
  | cons c pattern ih =>
    have plain := literalChar_iff.mp (literal c (List.mem_cons_self ..))
    rw [dangling_cons plain.2.2]
    exact ih fun d member => literal d (List.mem_cons_of_mem _ member)

/-- A pattern is read wildcard by wildcard, escape by escape and letter by letter. -/
theorem pattern_induction {motive : List Char → Prop} (nil : motive [])
    (percent : ∀ pattern, motive pattern → motive ('%' :: pattern))
    (underscore : ∀ pattern, motive pattern → motive ('_' :: pattern)) (alone : motive ['\\'])
    (escape : ∀ c pattern, motive pattern → motive ('\\' :: c :: pattern))
    (literal : ∀ c pattern, literalChar c = true → motive pattern → motive (c :: pattern)) (pattern : List Char) :
    motive pattern := by
  induction pattern using specimen.induct with
  | case1 => exact nil
  | case2 pattern ih => exact percent pattern ih
  | case3 pattern ih => exact underscore pattern ih
  | case4 => exact alone
  | case5 c pattern ih => exact escape c pattern ih
  | case6 c pattern notPercent notUnderscore notAlone notEscape ih =>
    refine literal c pattern (literalChar_iff.mpr ⟨notPercent, notUnderscore, fun same => ?_⟩) ih
    cases pattern with
    | nil => exact notAlone same rfl
    | cons d rest => exact notEscape d rest same rfl

theorem specimen_percent (pattern : List Char) : specimen ('%' :: pattern) = 'a' :: specimen pattern := rfl

theorem specimen_escape (c : Char) (pattern : List Char) : specimen ('\\' :: c :: pattern) = c :: specimen pattern := rfl

theorem specimen_cons {c : Char} (literal : literalChar c = true) (pattern : List Char) :
    specimen (c :: pattern) = c :: specimen pattern := by
  have plain := literalChar_iff.mp literal
  rw [specimen]
  · exact plain.1
  · exact plain.2.1
  · exact fun escape _ => plain.2.2 escape
  · exact fun _ _ escape _ => plain.2.2 escape

theorem like_specimen_front (pattern : List Char) : like (pattern ++ ['%']) (specimen pattern) = true := by
  induction pattern using pattern_induction with
  | nil => exact like_anything []
  | percent pattern ih =>
    rw [List.cons_append, specimen_percent, like_percent, List.any_eq_true]
    exact ⟨specimen pattern, (List.mem_tails _ _).mpr (List.suffix_cons ..), ih⟩
  | underscore pattern ih => exact ih
  | alone => decide
  | escape c pattern ih =>
    rw [List.cons_append, List.cons_append, specimen_escape, like_escape]
    simpa using ih
  | literal c pattern literal ih =>
    rw [List.cons_append, specimen_cons literal, like_cons literal]
    simpa using ih

theorem like_specimen_between (value : List Char) : like ('%' :: (value ++ ['%'])) (specimen value) = true := by
  rw [like_percent, List.any_eq_true]
  exact ⟨specimen value, (List.mem_tails _ _).mpr List.suffix_rfl, like_specimen_front value⟩

/-- Every pattern that does not end in an escape matches its specimen. -/
theorem like_specimen {pattern : List Char} (complete : dangling pattern = false) : like pattern (specimen pattern) = true := by
  induction pattern using pattern_induction with
  | nil => rfl
  | percent pattern ih =>
    rw [specimen_percent, like_percent, List.any_eq_true]
    exact ⟨specimen pattern, (List.mem_tails _ _).mpr (List.suffix_cons ..), ih complete⟩
  | underscore pattern ih => exact ih complete
  | alone => cases complete
  | escape c pattern ih =>
    rw [specimen_escape, like_escape]
    simpa using ih complete
  | literal c pattern literal ih =>
    rw [dangling_cons (literalChar_iff.mp literal).2.2] at complete
    rw [specimen_cons literal, like_cons literal]
    simpa using ih complete

theorem specimen_length (pattern : List Char) : (specimen pattern).length ≤ pattern.length := by
  induction pattern using pattern_induction with
  | nil => exact le_rfl
  | percent pattern ih | underscore pattern ih => exact Nat.succ_le_succ ih
  | alone => exact le_rfl
  | escape c pattern ih =>
    rw [specimen_escape, List.length_cons, List.length_cons, List.length_cons]
    omega
  | literal c pattern literal ih =>
    rw [specimen_cons literal]
    exact Nat.succ_le_succ ih

theorem mem_specimen {pattern : List Char} {c : Char} (member : c ∈ specimen pattern) :
    c ∈ pattern ∨ c = 'a' ∨ c = '%' := by
  induction pattern using pattern_induction with
  | nil => cases member
  | percent pattern ih | underscore pattern ih =>
    rcases List.mem_cons.mp member with here | below
    · exact Or.inr (Or.inl here)
    · exact (ih below).imp_left (List.mem_cons_of_mem _)
  | alone => exact Or.inr (Or.inr (List.mem_singleton.mp member))
  | escape d pattern ih =>
    rcases List.mem_cons.mp member with rfl | below
    · exact Or.inl (by simp)
    · exact (ih below).imp_left fun inside => List.mem_cons_of_mem _ (List.mem_cons_of_mem _ inside)
  | literal d pattern literal ih =>
    rw [specimen_cons literal, List.mem_cons] at member
    rcases member with rfl | below
    · exact Or.inl (List.mem_cons_self ..)
    · exact (ih below).imp_left (List.mem_cons_of_mem _)

/-- A pattern with a wildcard or an escape is not its own specimen. -/
theorem literal_of_specimen_eq {pattern : List Char} (same : specimen pattern = pattern) :
    ∀ c ∈ pattern, literalChar c = true := by
  induction pattern using pattern_induction with
  | nil => simp
  | percent pattern ih | underscore pattern ih | alone => exact absurd (List.cons.inj same).1 (by decide)
  | escape c pattern ih =>
    have shorter := specimen_length pattern
    have lengths := congrArg List.length same
    rw [specimen_escape, List.length_cons, List.length_cons, List.length_cons] at lengths
    omega
  | literal c pattern literal ih =>
    rw [specimen_cons literal, List.cons.injEq] at same
    exact List.forall_mem_cons.mpr ⟨literal, ih same.2⟩

theorem literal_of_infix_specimen {value : List Char} (inside : value <:+: specimen value) :
    ∀ c ∈ value, literalChar c = true :=
  literal_of_specimen_eq (inside.eq_of_length_le (specimen_length value)).symm

end Specimens

/-- `lower` as the database takes it, one character after the other. It turns no other
character into a metacharacter or a NUL, and keeps what is in lower case. -/
class CaseFold [PyText] where
  fold : Char → Char
  lower_toList : ∀ s : String, (lower s).toList = s.toList.map fold
  fold_eq : ∀ d ∈ ['%', '_', '\\', '\x00'], ∀ c, fold c = d ↔ c = d
  fold_letter : fold 'a' = 'a'

@[reducible] def CaseFold.plain : @CaseFold PyText.plain :=
  @CaseFold.mk PyText.plain id (fun s => (List.map_id s.toList).symm) (fun _ _ _ => Iff.rfl) rfl

section Folding

open CaseFold

variable [PyText] [CaseFold]

theorem literalChar_fold (c : Char) : literalChar (fold c) = literalChar c := by
  rw [Bool.eq_iff_iff, literalChar_iff, literalChar_iff, ne_eq, ne_eq, ne_eq, fold_eq '%' (by decide), fold_eq '_' (by decide),
    fold_eq '\\' (by decide)]

/-- A value is literal in lower case exactly when it is literal. -/
theorem literal_lower {value : String} :
    (∀ c ∈ (lower value).toList, literalChar c = true) ↔ ∀ c ∈ value.toList, literalChar c = true := by
  rw [lower_toList, List.forall_mem_map]
  exact forall₂_congr fun c _ => by rw [literalChar_fold]

/-- What ends in an escape does so in lower case. -/
theorem dangling_fold (pattern : List Char) : dangling (pattern.map fold) = dangling pattern := by
  have kept (d : Char) (meta_ : d ∈ ['%', '_', '\\', '\x00']) : fold d = d := (fold_eq d meta_ d).mpr rfl
  induction pattern using pattern_induction with
  | nil => rfl
  | percent pattern ih | underscore pattern ih =>
    rw [List.map_cons, kept _ (by decide)]
    exact ih
  | alone => rw [List.map_singleton, kept _ (by decide)]
  | escape c pattern ih =>
    rw [List.map_cons, List.map_cons, kept _ (by decide)]
    exact ih
  | literal c pattern literal ih =>
    have other := (literalChar_iff.mp literal).2.2
    have other' : fold c ≠ '\\' := fun same => other ((fold_eq '\\' (by decide) c).mp same)
    rw [List.map_cons, dangling_cons other', dangling_cons other, ih]

theorem toList_lower_between (value : String) :
    (lower ("%" ++ value ++ "%")).toList = '%' :: ((lower value).toList ++ ['%']) := by
  have percent : fold '%' = '%' := (fold_eq '%' (by decide) '%').mpr rfl
  simp [lower_toList, percent]

/-- The specimen of a value in lower case is in lower case. -/
theorem lower_specimen (value : String) :
    (lower (String.ofList (specimen (lower value).toList))).toList = specimen (lower value).toList := by
  rw [lower_toList, String.toList_ofList]
  refine (List.map_congr_left fun c member => ?_).trans (List.map_id _)
  rcases mem_specimen member with inside | rfl | rfl
  · have again := congrArg String.toList (lower_lower value)
    rw [lower_toList (lower value)] at again
    rw [lower_toList] at inside again
    obtain ⟨d, there, rfl⟩ := List.mem_map.mp inside
    exact List.map_inj_left.mp (again.trans (List.map_id _).symm) (fold d) (List.mem_map_of_mem there)
  · exact fold_letter
  · exact (fold_eq '%' (by decide) '%').mpr rfl

/-- `ILIKE` between two wildcards looks for the value exactly if the value is literal. -/
theorem ilike_between_iff (value : String) :
    (∀ text, ilike ("%" ++ value ++ "%") text = contains (lower value) (lower text)) ↔
      ∀ c ∈ value.toList, literalChar c = true := by
  have reads : ∀ text, ilike ("%" ++ value ++ "%") text = contains (lower value) (lower text) ↔
      (like ('%' :: ((lower value).toList ++ ['%'])) (lower text).toList = true ↔
        (lower value).toList <:+: (lower text).toList) := by
    intro text
    rw [ilike, toList_lower_between, contains, Bool.eq_iff_iff, decide_eq_true_iff]
  rw [← literal_lower]
  constructor
  · intro occurs
    have found := (reads _).mp (occurs (String.ofList (specimen (lower value).toList)))
    rw [lower_specimen] at found
    exact literal_of_infix_specimen (found.mp (like_specimen_between _))
  · exact fun literal text => (reads text).mpr (like_literal literal _)

/-- `ILIKE` with a literal pattern compares without regard to case. -/
theorem ilike_literal {value text : String} (literal : ∀ c ∈ value.toList, literalChar c = true) :
    ilike value text = true ↔ lower value = lower text := by
  rw [ilike, like_literal_whole (literal_lower.mpr literal), String.toList_inj]

end Folding

end MarketingAgents

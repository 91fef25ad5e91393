import Mathlib.Data.List.Basic
import Mathlib.Data.List.Infix
import Mathlib.Data.List.TakeWhile

namespace Lib

variable {α : Type*}

/-- Items of one class, between `least` and `most` in a row. -/
structure Piece (α : Type*) where
  holds : α → Bool
  least : Nat := 1
  most : Option Nat := some 1

/-- The run is one that the piece can take. -/
def Piece.Takes (p : Piece α) (run : List α) : Prop :=
  (∀ a ∈ run, p.holds a = true) ∧ p.least ≤ run.length ∧ ∀ most ∈ p.most, run.length ≤ most

/-- The run is made up of one run for each piece. -/
inductive Matches : List (Piece α) → List α → Prop
  | nil : Matches [] []
  | cons {p : Piece α} {pieces : List (Piece α)} {first rest : List α} (takes : p.Takes first)
      (others : Matches pieces rest) : Matches (p :: pieces) (first ++ rest)

/-- The longest front that a piece takes if it may. -/
def Piece.reach (p : Piece α) (text : List α) : Nat :=
  min (text.takeWhile p.holds).length (p.most.getD text.length)

/-- A greedy piece tries the longest front first and gives back one item at a time. -/
def backtrack (next : List α → Option Nat) (text : List α) (least : Nat) : Nat → Option Nat
  | 0 => if least = 0 then next text else none
  | count + 1 =>
    if count + 1 < least then none
    else ((next (text.drop (count + 1))).map (count + 1 + ·)).or (backtrack next text least count)

/-- The length of the match at the front of the text. -/
def matchHere : List (Piece α) → List α → Option Nat
  | [], _ => some 0
  | p :: pieces, text => backtrack (matchHere pieces) text p.least (p.reach text)

section Match

variable {next : List α → Option Nat} {text : List α} {least : Nat}

theorem of_backtrack {most width : Nat} (found : backtrack next text least most = some width) :
    ∃ count later, least ≤ count ∧ count ≤ most ∧ next (text.drop count) = some later ∧ width = count + later := by
  induction most with
  | zero =>
    rw [backtrack] at found
    split at found
    · rename_i none
      exact ⟨0, width, none.le, le_rfl, found, (Nat.zero_add _).symm⟩
    · cases found
  | succ most ih =>
    rw [backtrack] at found
    split at found
    · cases found
    · rename_i enough
      rcases Option.or_eq_some_iff.mp found with here | ⟨_, fewer⟩
      · obtain ⟨later, ahead, rfl⟩ := Option.map_eq_some_iff.mp here
        exact ⟨most + 1, later, not_lt.mp enough, le_rfl, ahead, rfl⟩
      · obtain ⟨count, later, low, high, rest⟩ := ih fewer
        exact ⟨count, later, low, high.trans (Nat.le_succ most), rest⟩

theorem backtrack_isSome {most count : Nat} (low : least ≤ count) (high : count ≤ most)
    (ahead : (next (text.drop count)).isSome) : (backtrack next text least most).isSome := by
  induction most with
  | zero =>
    obtain rfl := Nat.le_zero.mp high
    rw [backtrack, if_pos (Nat.le_zero.mp low)]
    exact ahead
  | succ most ih =>
    rw [backtrack, if_neg (not_lt.mpr (low.trans high)), Option.isSome_or, Bool.or_eq_true]
    rcases Nat.of_le_succ high with fewer | rfl
    · exact Or.inr (ih fewer)
    · exact Or.inl (by rwa [Option.isSome_map])

/-- What is found matches. -/
theorem matchHere_sound {pieces : List (Piece α)} {width : Nat} (found : matchHere pieces text = some width) :
    width ≤ text.length ∧ Matches pieces (text.take width) := by
  induction pieces generalizing text width with
  | nil =>
    obtain rfl := Option.some.inj found
    exact ⟨Nat.zero_le _, .nil⟩
  | cons p pieces ih =>
    obtain ⟨count, later, low, high, ahead, rfl⟩ := of_backtrack found
    obtain ⟨inside, rest⟩ := ih ahead
    have front : count ≤ (text.takeWhile p.holds).length := high.trans (min_le_left _ _)
    have length : count ≤ text.length := front.trans (List.takeWhile_prefix _).length_le
    rw [List.length_drop] at inside
    refine ⟨by omega, ?_⟩
    rw [List.take_add]
    refine .cons ⟨fun a member => ?_, ?_, fun most bound => ?_⟩ rest
    · have same : text.take count = (text.takeWhile p.holds).take count := by
        rw [List.prefix_iff_eq_take.mp (List.takeWhile_prefix p.holds), List.take_take, min_eq_left front]
      rw [same] at member
      exact List.mem_takeWhile_imp (List.mem_of_mem_take member)
    · rwa [List.length_take_of_le length]
    · rw [List.length_take_of_le length]
      have capped := high.trans (min_le_right _ _)
      rwa [Option.mem_def.mp bound] at capped

/-- Where the text begins with a match, one is found. -/
theorem matchHere_isSome {pieces : List (Piece α)} {run : List α} (matched : Matches pieces run) (rest : List α) :
    (matchHere pieces (run ++ rest)).isSome := by
  induction matched generalizing rest with
  | nil => rfl
  | @cons p pieces first others takes _ ih =>
    obtain ⟨inside, low, high⟩ := takes
    rw [List.append_assoc, matchHere]
    refine backtrack_isSome low (le_min ?_ ?_) (by rw [List.drop_left]; exact ih rest)
    · rw [List.takeWhile_append_of_pos inside, List.length_append]
      exact Nat.le_add_right _ _
    · cases bound : p.most with
      | none => simp
      | some most => exact high most bound

end Match

/-- A pattern that takes no empty run. -/
structure Pattern (α : Type*) where
  pieces : List (Piece α)
  nonempty : ∃ p ∈ pieces, 0 < p.least

namespace Pattern

/-- The text behind `skip` items, with the value in the place of each match from left to right. -/
def subFrom (P : Pattern α) (value : List α) : Nat → List α → List α
  | _, [] => []
  | skip + 1, _ :: rest => P.subFrom value skip rest
  | 0, a :: rest =>
    match matchHere P.pieces (a :: rest) with
    | some width => value ++ P.subFrom value (width - 1) rest
    | none => a :: P.subFrom value 0 rest

/-- `pattern.sub(value, text)`. -/
def sub (P : Pattern α) (value text : List α) : List α := P.subFrom value 0 text

/-- No part of the text matches. -/
def Clean (P : Pattern α) (text : List α) : Prop := ∀ run, run <:+: text → ¬ Matches P.pieces run

/-- No piece takes the item. -/
def Foreign (P : Pattern α) (a : α) : Prop := ∀ p ∈ P.pieces, p.holds a = false

/-- The value has borders that no match can cross, and nothing between them matches. -/
def Apart (P : Pattern α) (value : List α) : Prop :=
  ∃ front middle back, value = front :: (middle ++ [back]) ∧ P.Foreign front ∧ P.Foreign back ∧ P.Clean middle

variable {P Q : Pattern α} {text value : List α}

theorem Clean.mono {part : List α} (clean : P.Clean text) (inside : part <:+: text) : P.Clean part :=
  fun run within => clean run (within.trans inside)

/-- Each item of a match is taken by a piece. -/
theorem mem_matches {pieces : List (Piece α)} {run : List α} (matched : Matches pieces run) :
    (∀ a ∈ run, ∃ p ∈ pieces, p.holds a = true) ∧
      ∀ p ∈ pieces, 0 < p.least → ∃ a ∈ run, p.holds a = true := by
  induction matched with
  | nil => exact ⟨nofun, nofun⟩
  | @cons p pieces first rest takes _ ih =>
    constructor
    · intro a member
      rcases List.mem_append.mp member with here | later
      · exact ⟨p, List.mem_cons_self .., takes.1 a here⟩
      · obtain ⟨q, listed, holds⟩ := ih.1 a later
        exact ⟨q, List.mem_cons_of_mem _ listed, holds⟩
    · intro q listed positive
      rcases List.mem_cons.mp listed with rfl | listed
      · obtain ⟨a, member⟩ := List.exists_mem_of_length_pos (positive.trans_le takes.2.1)
        exact ⟨a, List.mem_append_left _ member, takes.1 a member⟩
      · obtain ⟨a, member, holds⟩ := ih.2 q listed positive
        exact ⟨a, List.mem_append_right _ member, holds⟩

/-- A text without an item that the pattern needs. -/
theorem clean_of_lacks {p : Piece α} (listed : p ∈ P.pieces) (positive : 0 < p.least)
    (lacks : ∀ a ∈ text, p.holds a = false) : P.Clean text := by
  intro run inside matched
  obtain ⟨a, member, holds⟩ := (mem_matches matched).2 p listed positive
  rw [lacks a (inside.subset member)] at holds
  cases holds

theorem clean_nil : P.Clean [] := by
  obtain ⟨p, listed, positive⟩ := P.nonempty
  exact clean_of_lacks listed positive (fun _ member => nomatch member)

theorem ne_nil_of_matches {run : List α} (matched : Matches P.pieces run) : run ≠ [] := by
  rintro rfl
  exact clean_nil [] List.infix_rfl matched

/-- No match crosses an item that no piece takes. -/
theorem clean_split {a : α} (foreign : P.Foreign a) {before after : List α} (left : P.Clean before)
    (right : P.Clean after) : P.Clean (before ++ a :: after) := by
  induction before with
  | nil =>
    intro run inside matched
    rcases List.infix_cons_iff.mp inside with front | later
    · obtain ⟨b, tail, rfl⟩ := List.exists_cons_of_ne_nil (ne_nil_of_matches matched)
      obtain ⟨rfl, _⟩ := List.cons_prefix_cons.mp front
      obtain ⟨p, listed, holds⟩ := (mem_matches matched).1 b (List.mem_cons_self ..)
      rw [foreign p listed] at holds
      cases holds
    · exact right run later matched
  | cons b before ih =>
    intro run inside matched
    rcases List.infix_cons_iff.mp inside with front | later
    · -- a match at the front ends before the item
      rcases List.prefix_or_prefix_of_prefix front (List.prefix_append (b :: before) (a :: after)) with short | ⟨tail, rfl⟩
      · exact left run short.isInfix matched
      · have ends : tail <+: a :: after := (List.prefix_append_right_inj (b :: before)).mp front
        cases tail with
        | nil => exact left _ (by simp) matched
        | cons c tail =>
          obtain ⟨rfl, _⟩ := List.cons_prefix_cons.mp ends
          obtain ⟨p, listed, holds⟩ := (mem_matches matched).1 c (by simp)
          rw [foreign p listed] at holds
          cases holds
    · exact ih (left.mono (List.suffix_cons ..).isInfix) run later matched

/-- A value between two clean parts that it holds apart. -/
theorem Apart.clean_between (apart : P.Apart value) {before after : List α} (left : P.Clean before)
    (right : P.Clean after) : P.Clean (before ++ (value ++ after)) := by
  obtain ⟨front, middle, back, rfl, foreign, foreign', clean⟩ := apart
  have behind : P.Clean (middle ++ back :: after) := clean_split foreign' clean right
  have shape : before ++ (front :: (middle ++ [back]) ++ after) = before ++ front :: (middle ++ back :: after) := by simp
  rw [shape]
  exact clean_split foreign left behind

theorem subFrom_eq_drop (P : Pattern α) (value : List α) (skip : Nat) (text : List α) :
    P.subFrom value skip text = P.sub value (text.drop skip) := by
  induction text generalizing skip with
  | nil => simp [sub, subFrom]
  | cons a rest ih =>
    cases skip with
    | zero => rfl
    | succ skip => exact ih skip

/-- A text begins with a match, or with an item that stays. -/
theorem sub_cons (P : Pattern α) (value : List α) (a : α) (rest : List α) :
    (∃ width, matchHere P.pieces (a :: rest) = some (width + 1) ∧
      P.sub value (a :: rest) = value ++ P.sub value (rest.drop width)) ∨
    ((∀ run, run <+: a :: rest → ¬ Matches P.pieces run) ∧ P.sub value (a :: rest) = a :: P.sub value rest) := by
  have unfolded : P.sub value (a :: rest) = match matchHere P.pieces (a :: rest) with
      | some width => value ++ P.subFrom value (width - 1) rest
      | none => a :: P.subFrom value 0 rest := rfl
  cases found : matchHere P.pieces (a :: rest) with
  | none =>
    refine Or.inr ⟨?_, by rw [unfolded, found]; rfl⟩
    rintro run ⟨after, same⟩ matched
    have hit := matchHere_isSome matched after
    rw [same, found] at hit
    cases hit
  | some width =>
    cases width with
    | zero => exact absurd rfl (ne_nil_of_matches (matchHere_sound found).2)
    | succ width => exact Or.inl ⟨width, rfl, by rw [unfolded, found, ← subFrom_eq_drop]; rfl⟩

/-- A substitution keeps clean parts of the text, each free of its own pattern,
and sets the value between them. -/
theorem sub_parts (P : Pattern α) (value text : List α) : ∃ (first : List α) (parts : List (List α)),
    P.sub value text = first ++ parts.flatMap (value ++ ·) ∧ (first <+: text ∧ P.Clean first) ∧
      ∀ part ∈ parts, part <:+: text ∧ P.Clean part := by
  induction length : text.length using Nat.strong_induction_on generalizing text with
  | _ n ih =>
    cases text with
    | nil => exact ⟨[], [], rfl, ⟨List.nil_prefix, clean_nil⟩, nofun⟩
    | cons a rest =>
      have shorter : ∀ width, (rest.drop width).length < n := fun width => by
        rw [← length, List.length_cons, List.length_drop]
        omega
      rcases sub_cons P value a rest with ⟨width, _, replaced⟩ | ⟨here, kept⟩
      · obtain ⟨first, parts, shape, ⟨front, clean⟩, others⟩ := ih _ (shorter width) _ rfl
        have suffix : rest.drop width <:+ a :: rest := (List.drop_suffix _ _).trans (List.suffix_cons ..)
        refine ⟨[], first :: parts, by rw [replaced, shape]; simp, ⟨List.nil_prefix, clean_nil⟩, fun part member => ?_⟩
        rcases List.mem_cons.mp member with rfl | member
        · exact ⟨front.isInfix.trans suffix.isInfix, clean⟩
        · exact ⟨(others part member).1.trans suffix.isInfix, (others part member).2⟩
      · obtain ⟨first, parts, shape, ⟨front, clean⟩, others⟩ := ih _ (shorter 0) _ rfl
        have suffix : rest <:+ a :: rest := List.suffix_cons ..
        rw [List.drop_zero] at shape front
        refine ⟨a :: first, parts, by rw [kept, shape]; rfl, ⟨(List.prefix_cons_inj a).mpr front, fun run inside => ?_⟩,
          fun part member => ⟨(others part member).1.trans suffix.isInfix, (others part member).2⟩⟩
        rcases List.infix_cons_iff.mp inside with starts | later
        · exact here run (starts.trans ((List.prefix_cons_inj a).mpr front))
        · exact clean run later

theorem Apart.clean_parts (apart : Q.Apart value) {first : List α} {parts : List (List α)} (clean : Q.Clean first)
    (others : ∀ part ∈ parts, Q.Clean part) : Q.Clean (first ++ parts.flatMap (value ++ ·)) := by
  induction parts generalizing first with
  | nil => simpa using clean
  | cons part parts ih =>
    have here := apart.clean_between clean (others part (List.mem_cons_self ..))
    have whole := ih here fun later member => others later (List.mem_cons_of_mem _ member)
    simpa using whole

/-- Behind a substitution nothing matches. -/
theorem clean_sub (apart : P.Apart value) (text : List α) : P.Clean (P.sub value text) := by
  obtain ⟨first, parts, shape, ⟨_, clean⟩, others⟩ := sub_parts P value text
  rw [shape]
  exact apart.clean_parts clean fun part member => (others part member).2

/-- A substitution makes no match of another pattern. -/
theorem Clean.sub (clean : Q.Clean text) (apart : Q.Apart value) (P : Pattern α) : Q.Clean (P.sub value text) := by
  obtain ⟨first, parts, shape, ⟨front, _⟩, others⟩ := sub_parts P value text
  rw [shape]
  exact apart.clean_parts (clean.mono front.isInfix) fun part member => clean.mono (others part member).1

theorem sub_of_clean (clean : P.Clean text) (value : List α) : P.sub value text = text := by
  induction text with
  | nil => rfl
  | cons a rest ih =>
    rcases sub_cons P value a rest with ⟨width, found, _⟩ | ⟨_, kept⟩
    · exact absurd (matchHere_sound found).2 (clean _ (List.take_prefix _ _).isInfix)
    · rw [kept, ih (clean.mono (List.suffix_cons ..).isInfix)]

/-- The substitutions of several patterns, one after the other. -/
def subEach (patterns : List (Pattern α)) (value text : List α) : List α :=
  patterns.foldl (fun text P => P.sub value text) text

theorem clean_subEach {patterns : List (Pattern α)} (apart : ∀ P ∈ patterns, P.Apart value) (text : List α) :
    (∀ P ∈ patterns, P.Clean (subEach patterns value text)) ∧
      ∀ Q : Pattern α, Q.Apart value → Q.Clean text → Q.Clean (subEach patterns value text) := by
  induction patterns generalizing text with
  | nil => exact ⟨nofun, fun Q _ clean => clean⟩
  | cons P patterns ih =>
    obtain ⟨mine, kept⟩ := ih (fun Q listed => apart Q (List.mem_cons_of_mem _ listed)) (P.sub value text)
    refine ⟨fun Q listed => ?_, fun Q away clean => kept Q away (clean.sub away P)⟩
    rcases List.mem_cons.mp listed with rfl | later
    · exact kept Q (apart Q (List.mem_cons_self ..)) (clean_sub (apart Q (List.mem_cons_self ..)) text)
    · exact mine Q later

theorem subEach_of_clean {patterns : List (Pattern α)} (clean : ∀ P ∈ patterns, P.Clean text) (value : List α) :
    subEach patterns value text = text := by
  unfold subEach
  induction patterns with
  | nil => rfl
  | cons P patterns ih =>
    rw [List.foldl_cons, sub_of_clean (clean P (List.mem_cons_self ..))]
    exact ih fun Q listed => clean Q (List.mem_cons_of_mem _ listed)

end Pattern

end Lib

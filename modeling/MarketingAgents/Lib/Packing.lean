import Mathlib.Algebra.Order.BigOperators.Group.Finset
import Mathlib.Order.Interval.Finset.Nat

namespace Lib

variable {α : Type*} {needle text : List α} {places : Finset Nat} {i count : Nat}

/-- The needle stands in the text at the place. -/
def Occurs (needle text : List α) (i : Nat) : Prop :=
  i + needle.length ≤ text.length ∧ (text.drop i).take needle.length = needle

/-- Occurrences of the needle at these places, no two of which share an element of the text. -/
structure Packed (needle text : List α) (places : Finset Nat) : Prop where
  occur : ∀ i ∈ places, Occurs needle text i
  disjoint : ∀ i ∈ places, ∀ j ∈ places, i ≠ j →
    Disjoint (Finset.Ico i (i + needle.length)) (Finset.Ico j (j + needle.length))

/-- How many disjoint occurrences there can be at a time. -/
def packings (needle text : List α) : Set Nat := {n | ∃ places, Packed needle text places ∧ places.card = n}

theorem Packed.empty (needle text : List α) : Packed needle text ∅ := ⟨by simp, by simp⟩

/-- Of disjoint occurrences at most one begins within the length of the needle. -/
theorem Packed.card_window_le (packed : Packed needle text places) (i : Nat) :
    (places.filter fun p => i ≤ p ∧ p < i + needle.length).card ≤ 1 := by
  refine Finset.card_le_one.mpr fun a here b there => ?_
  obtain ⟨first, low, high⟩ := Finset.mem_filter.mp here
  obtain ⟨second, low', high'⟩ := Finset.mem_filter.mp there
  by_contra different
  -- the later of the two places belongs to both occurrences
  have inFirst : max a b ∈ Finset.Ico a (a + needle.length) := Finset.mem_Ico.mpr (by omega)
  have inSecond : max a b ∈ Finset.Ico b (b + needle.length) := Finset.mem_Ico.mpr (by omega)
  exact Finset.disjoint_left.mp (packed.disjoint a first b second different) inFirst inSecond

/-- Disjoint occurrences fit into the text. -/
theorem Packed.card_mul_le (packed : Packed needle text places) : places.card * needle.length ≤ text.length := by
  have within : places.biUnion (fun i => Finset.Ico i (i + needle.length)) ⊆ Finset.range text.length := by
    intro x member
    obtain ⟨i, listed, inside⟩ := Finset.mem_biUnion.mp member
    have fits := (packed.occur i listed).1
    rw [Finset.mem_Ico] at inside
    rw [Finset.mem_range]
    omega
  have size := Finset.card_le_card within
  rw [Finset.card_biUnion packed.disjoint, Finset.card_range] at size
  simpa using size

/-- An occurrence behind all others may be added to them. -/
theorem Packed.insert (packed : Packed needle text places) (before : ∀ p ∈ places, p + needle.length ≤ i)
    (here : Occurs needle text i) : Packed needle text (insert i places) where
  occur := by
    intro j member
    rcases Finset.mem_insert.mp member with rfl | listed
    · exact here
    · exact packed.occur j listed
  disjoint := by
    have apart : ∀ p ∈ places, Disjoint (Finset.Ico p (p + needle.length)) (Finset.Ico i (i + needle.length)) := by
      intro p listed
      have behind := before p listed
      refine Finset.disjoint_left.mpr fun x inside inside' => ?_
      rw [Finset.mem_Ico] at inside inside'
      omega
    intro j member k member' different
    rcases Finset.mem_insert.mp member with rfl | listed <;> rcases Finset.mem_insert.mp member' with rfl | listed'
    · exact absurd rfl different
    · exact (apart k listed').symm
    · exact apart j listed
    · exact packed.disjoint j listed k listed' different

/-- What a scan from left to right has when it has come to the place `i`: as
many occurrences before it as there can be of those that begin before it. -/
structure Ahead (needle text : List α) (i count : Nat) : Prop where
  attained : ∃ places, Packed needle text places ∧ places.card = count ∧ ∀ p ∈ places, p + needle.length ≤ i
  most : ∀ places, Packed needle text places → (places.filter (· < i)).card ≤ count

theorem Ahead.start (needle text : List α) : Ahead needle text 0 0 where
  attained := ⟨∅, .empty needle text, rfl, by simp⟩
  most := by simp

/-- An occurrence that is found is taken. -/
theorem Ahead.take (ahead : Ahead needle text i count) (proper : needle ≠ []) (here : Occurs needle text i) :
    Ahead needle text (i + needle.length) (count + 1) where
  attained := by
    obtain ⟨places, packed, size, before⟩ := ahead.attained
    have length := List.length_pos_iff.mpr proper
    have fresh : i ∉ places := fun listed => by
      have behind := before i listed
      omega
    refine ⟨insert i places, packed.insert before here, by rw [Finset.card_insert_of_notMem fresh, size], ?_⟩
    intro p member
    rcases Finset.mem_insert.mp member with rfl | listed
    · exact le_rfl
    · have behind := before p listed
      omega
  most := by
    intro places packed
    have covered : places.filter (· < i + needle.length) ⊆
        places.filter (· < i) ∪ places.filter fun p => i ≤ p ∧ p < i + needle.length := by
      intro p member
      rw [Finset.mem_filter] at member
      rw [Finset.mem_union, Finset.mem_filter, Finset.mem_filter]
      rcases Nat.lt_or_ge p i with before | behind
      · exact Or.inl ⟨member.1, before⟩
      · exact Or.inr ⟨member.1, behind, member.2⟩
    calc (places.filter (· < i + needle.length)).card
        ≤ (places.filter (· < i)).card + (places.filter fun p => i ≤ p ∧ p < i + needle.length).card :=
          (Finset.card_le_card covered).trans (Finset.card_union_le ..)
      _ ≤ count + 1 := Nat.add_le_add (ahead.most places packed) (packed.card_window_le i)

/-- A place where the needle does not stand is passed over. -/
theorem Ahead.skip (ahead : Ahead needle text i count) (absent : ¬ Occurs needle text i) : Ahead needle text (i + 1) count where
  attained := by
    obtain ⟨places, packed, size, before⟩ := ahead.attained
    exact ⟨places, packed, size, fun p listed => (before p listed).trans (Nat.le_succ i)⟩
  most := by
    intro places packed
    have same : places.filter (· < i + 1) = places.filter (· < i) := by
      refine Finset.filter_congr fun p listed => ?_
      have other : p ≠ i := fun equal => absent (equal ▸ packed.occur p listed)
      omega
    rw [same]
    exact ahead.most places packed

/-- A scan that has come to where no further occurrence begins has found as many as there can be. -/
theorem Ahead.greatest (ahead : Ahead needle text i count) (done : text.length < i + needle.length) :
    IsGreatest (packings needle text) count := by
  obtain ⟨places, packed, size, _⟩ := ahead.attained
  refine ⟨⟨places, packed, size⟩, ?_⟩
  rintro _ ⟨others, packed', rfl⟩
  have all : others.filter (· < i) = others := by
    refine Finset.filter_true_of_mem fun p listed => ?_
    have fits := (packed'.occur p listed).1
    omega
  rw [← all]
  exact ahead.most others packed'

end Lib

import Mathlib.Data.List.Chain

namespace Lib

variable {α κ : Type*} {asks answers : α → List κ} {log first last : List α} {m n : α} {id : κ} {i : Nat}

/-- A log of requests and replies: every request is answered by the very next
entry, and an entry answers nothing that the one before it did not ask. -/
structure Paired (asks answers : α → List κ) (log : List α) : Prop where
  opens : ∀ m ∈ log.head?, answers m = []
  links : log.IsChain fun m n => ∀ id, id ∈ asks m ↔ id ∈ answers n
  closes : ∀ m ∈ log.getLast?, asks m = []

/-- No request is asked under an identifier that an earlier entry has used. -/
def AsksApart (asks : α → List κ) (log : List α) : Prop := log.Pairwise fun m n => ∀ id ∈ asks m, id ∉ asks n

namespace Paired

theorem nil : Paired asks answers ([] : List α) := ⟨by simp, .nil, by simp⟩

theorem single (asksNone : asks m = []) (answersNone : answers m = []) : Paired asks answers [m] :=
  ⟨by simp [answersNone], .singleton m, by simp [asksNone]⟩

theorem append (left : Paired asks answers first) (right : Paired asks answers last) :
    Paired asks answers (first ++ last) where
  opens m member := by
    cases first with
    | nil => exact right.opens m member
    | cons head rest => exact left.opens m member
  links := by
    refine List.isChain_append.mpr ⟨left.links, right.links, fun m endsFirst n opensLast id => ?_⟩
    rw [left.closes m endsFirst, right.opens n opensLast]
  closes m member := by
    cases last with
    | nil => exact left.closes m (by simpa using member)
    | cons head rest => exact right.closes m (by simpa [List.getLast?_append] using member)

/-- A request together with the reply to it may stand anywhere between entries. -/
theorem exchange (opens : answers m = []) (link : ∀ id, id ∈ asks m ↔ id ∈ answers n) (closes : asks n = []) :
    Paired asks answers [m, n] :=
  ⟨by simp [opens], by simpa using link, by simp [closes]⟩

/-- What is left of a log after its front is cut away is paired again if it
opens with an entry that answers nothing. -/
theorem suffix (paired : Paired asks answers (first ++ last)) (opens : ∀ m ∈ last.head?, answers m = []) :
    Paired asks answers last where
  opens := opens
  links := paired.links.right_of_append
  closes m member := by
    refine paired.closes m ?_
    cases last with
    | nil => simp at member
    | cons head rest => simpa [List.getLast?_append] using member

theorem answered (paired : Paired asks answers log) (here : log[i]? = some m) (asked : id ∈ asks m) :
    ∃ n, log[i + 1]? = some n ∧ id ∈ answers n := by
  obtain ⟨inside, rfl⟩ := List.getElem?_eq_some_iff.mp here
  by_cases later : i + 1 < log.length
  · refine ⟨log[i + 1], List.getElem?_eq_getElem later, ?_⟩
    exact (List.isChain_iff_getElem.mp paired.links i later id).mp asked
  · have final : log.getLast? = some log[i] := by
      rw [List.getLast?_eq_getElem?, List.getElem?_eq_getElem (by omega)]
      congr 2
      omega
    rw [paired.closes _ final] at asked
    simp at asked

theorem asked (paired : Paired asks answers log) (here : log[i]? = some n) (answered : id ∈ answers n) :
    ∃ j m, i = j + 1 ∧ log[j]? = some m ∧ id ∈ asks m := by
  obtain ⟨inside, rfl⟩ := List.getElem?_eq_some_iff.mp here
  cases i with
  | zero =>
    have front : log.head? = some log[0] := by rw [List.head?_eq_getElem?, List.getElem?_eq_getElem inside]
    rw [paired.opens _ front] at answered
    simp at answered
  | succ j =>
    refine ⟨j, log[j], rfl, List.getElem?_eq_getElem (by omega), ?_⟩
    exact (List.isChain_iff_getElem.mp paired.links j inside id).mpr answered

/-- What an entry answers was asked before it. -/
theorem asked_before (paired : Paired asks answers (first ++ n :: last)) (answered : id ∈ answers n) :
    ∃ m ∈ first, id ∈ asks m := by
  rcases List.eq_nil_or_concat first with rfl | ⟨earlier, m, rfl⟩
  · rw [paired.opens n rfl] at answered
    simp at answered
  · have link := (List.isChain_append.mp paired.links).2.2 m (by simp) n rfl
    exact ⟨m, by simp, (link id).mpr answered⟩

end Paired

end Lib

import Mathlib.Data.List.Basic
import Mathlib.Data.List.MinMax

namespace Lib

/-- How many of the times lie in the window of length `len` that opens at `start`. -/
def occupancy (len : Int) (times : List Int) (start : Int) : Nat :=
  times.countP fun time => start ≤ time ∧ time < start + len

/-- No window of length `len` holds more than `limit` of the times. -/
def Sparse (len : Int) (limit : Nat) (times : List Int) : Prop := ∀ start, occupancy len times start ≤ limit

variable {α : Type*} {len : Int} {limit : Nat} {times : List Int}

theorem occupancy_append (len : Int) (times more : List Int) (start : Int) :
    occupancy len (times ++ more) start = occupancy len times start + occupancy len more start :=
  List.countP_append ..

theorem Sparse.nil (len : Int) (limit : Nat) : Sparse len limit [] := fun _ => Nat.zero_le _

/-- A window without length holds nothing. -/
theorem Sparse.of_empty (empty : len ≤ 0) (limit : Nat) (times : List Int) : Sparse len limit times := by
  intro start
  have none : occupancy len times start = 0 := by
    refine List.countP_eq_zero.mpr fun time _ within => ?_
    have inside : start ≤ time ∧ time < start + len := of_decide_eq_true within
    omega
  omega

theorem Sparse.of_length_le (few : times.length ≤ limit) : Sparse len limit times :=
  fun _ => List.countP_le_length.trans few

theorem Sparse.perm {times' : List Int} (sparse : Sparse len limit times) (perm : times.Perm times') :
    Sparse len limit times' := by
  intro start
  have same : occupancy len times' start = occupancy len times start := (perm.countP_eq _).symm
  rw [same]
  exact sparse start

/-- A time that is not before any other may be added while fewer than
`limit` of the others are less than `len` old. -/
theorem Sparse.append_latest {now : Int} (sparse : Sparse len limit times) (latest : ∀ time ∈ times, time ≤ now)
    (room : times.countP (fun time => now - len < time) < limit) : Sparse len limit (times ++ [now]) := by
  intro start
  rw [occupancy_append]
  by_cases inside : start ≤ now ∧ now < start + len
  · have recent : occupancy len times start ≤ times.countP fun time => now - len < time := by
      refine List.countP_mono_left fun time member within => ?_
      simp only [decide_eq_true_eq] at within ⊢
      have bound := latest time member
      omega
    have one : occupancy len [now] start = 1 := by simp [occupancy, inside]
    omega
  · have none : occupancy len [now] start = 0 := by simpa [occupancy] using inside
    have before := sparse start
    omega

/-- The fullest windows open at one of the times. -/
theorem sparse_iff_members : Sparse len limit times ↔ ∀ start ∈ times, occupancy len times start ≤ limit := by
  refine ⟨fun sparse start _ => sparse start, fun members start => ?_⟩
  -- the window may open at the first time in it without losing any
  cases first : (times.filter fun time => start ≤ time ∧ time < start + len).minimum with
  | top =>
    have empty := List.minimum_eq_top.mp first
    have none : occupancy len times start = 0 := by
      rw [occupancy, List.countP_eq_length_filter, empty, List.length_nil]
    omega
  | coe least =>
    have member := List.minimum_mem first
    obtain ⟨listed, within⟩ := List.mem_filter.mp member
    have inside : start ≤ least ∧ least < start + len := of_decide_eq_true within
    have widened : occupancy len times start ≤ occupancy len times least := by
      refine List.countP_mono_left fun time here counted => ?_
      have least_le : least ≤ time := List.minimum_le_of_mem (List.mem_filter.mpr ⟨here, counted⟩) first
      simp only [decide_eq_true_eq] at counted ⊢
      omega
    exact widened.trans (members least listed)

/-- How many times the window that opens at `anchor` holds, the anchor and the
later times in their order until one is out of reach. -/
def reach (len anchor : Int) (later : List Int) : Nat := 1 + (later.takeWhile fun time => time - anchor < len).length

/-- No window that opens at a time and looks at the times after it holds more than `limit`. -/
def Anchored (len : Int) (limit : Nat) : List Int → Prop
  | [] => True
  | anchor :: later => reach len anchor later ≤ limit ∧ Anchored len limit later

/-- Behind a time that is not after any of the others, the window that opens
there reaches all it holds. -/
theorem reach_eq_occupancy (positive : 0 < len) {anchor : Int} {later : List Int}
    (sorted : (anchor :: later).Pairwise (· ≤ ·)) : reach len anchor later = occupancy len (anchor :: later) anchor := by
  obtain ⟨first, ordered⟩ := List.pairwise_cons.mp sorted
  have tail : (later.takeWhile fun time => time - anchor < len).length = occupancy len later anchor := by
    clear sorted
    induction later with
    | nil => rfl
    | cons time later ih =>
      obtain ⟨before, ordered⟩ := List.pairwise_cons.mp ordered
      have after := first time (List.mem_cons_self ..)
      by_cases within : time - anchor < len
      · have inside : anchor ≤ time ∧ time < anchor + len := ⟨after, by omega⟩
        have rest := ih (fun other member => first other (List.mem_cons_of_mem _ member)) ordered
        rw [List.takeWhile_cons_of_pos (by simpa using within), List.length_cons, rest]
        simp only [occupancy]
        rw [List.countP_cons_of_pos (by simpa using inside)]
      · -- the times are in order, so none of the rest is in reach either
        have none : occupancy len (time :: later) anchor = 0 := by
          refine List.countP_eq_zero.mpr fun other member => ?_
          have late : time ≤ other := by
            rcases List.mem_cons.mp member with rfl | there
            · exact le_rfl
            · exact before other there
          simp only [decide_eq_true_eq]
          omega
        rw [List.takeWhile_cons_of_neg (by simpa using within), none, List.length_nil]
  have here : anchor ≤ anchor ∧ anchor < anchor + len := ⟨le_rfl, by omega⟩
  rw [reach, tail, occupancy, occupancy, List.countP_cons_of_pos (by simpa using here)]
  omega

/-- For times in order it is enough to look ahead from each of them. -/
theorem anchored_iff_sparse (positive : 0 < len) (sorted : times.Pairwise (· ≤ ·)) :
    Anchored len limit times ↔ Sparse len limit times := by
  rw [sparse_iff_members]
  induction times with
  | nil => simp [Anchored]
  | cons anchor later ih =>
    obtain ⟨first, ordered⟩ := List.pairwise_cons.mp sorted
    have ahead := reach_eq_occupancy positive sorted
    have step : ∀ start, occupancy len (anchor :: later) start =
        occupancy len later start + if start ≤ anchor ∧ anchor < start + len then 1 else 0 := by
      intro start
      simp only [occupancy, List.countP_cons, decide_eq_true_eq]
    rw [Anchored, ih ordered, List.forall_mem_cons, ahead]
    refine and_congr_right fun here => ⟨fun rest start member => ?_, fun rest start member => ?_⟩
    · by_cases same : start = anchor
      · rw [same]
        exact here
      · have after := first start member
        have bound := rest start member
        rw [step, if_neg (by omega)]
        exact bound
    · have bound := rest start member
      rw [step] at bound
      omega

theorem takeWhile_length_le_iff {p : α → Bool} {items : List α} (closed : items.Pairwise fun a b => p b = true → p a = true)
    {k : Nat} : (items.takeWhile p).length ≤ k ↔ ∀ bound : k < items.length, p items[k] = false := by
  induction items generalizing k with
  | nil => simp
  | cons a items ih =>
    obtain ⟨first, rest⟩ := List.pairwise_cons.mp closed
    by_cases here : p a = true
    · rw [List.takeWhile_cons_of_pos here, List.length_cons]
      cases k with
      | zero => simp [here]
      | succ k => simpa using ih rest (k := k)
    · rw [List.takeWhile_cons_of_neg here, List.length_nil]
      refine iff_of_true (Nat.zero_le _) fun bound => ?_
      cases k with
      | zero => simpa using here
      | succ k =>
        simp only [List.getElem_cons_succ]
        by_contra inside
        exact here (first _ (List.getElem_mem _) (by simpa using inside))

/-- Times in order are sparse where each is at least the window's length
behind the one `limit` places before it. -/
theorem sparse_iff_spaced (positive : 0 < len) (sorted : times.Pairwise (· ≤ ·)) :
    Sparse len limit times ↔ ∀ i, ∀ bound : i + limit < times.length, len ≤ times[i + limit] - times[i] := by
  rw [← anchored_iff_sparse positive sorted]
  induction times with
  | nil => simp [Anchored]
  | cons anchor later ih =>
    obtain ⟨first, ordered⟩ := List.pairwise_cons.mp sorted
    have closed : later.Pairwise fun a b => decide (b - anchor < len) = true → decide (a - anchor < len) = true := by
      refine ordered.imp fun before within => ?_
      simp only [decide_eq_true_eq] at within ⊢
      omega
    have ahead : reach len anchor later ≤ limit ↔ ∀ bound : limit < (anchor :: later).length,
        len ≤ (anchor :: later)[limit] - anchor := by
      unfold reach
      cases limit with
      | zero => simpa using positive
      | succ limit =>
        have counted := takeWhile_length_le_iff closed (k := limit)
        rw [Nat.add_comm, Nat.succ_le_succ_iff, counted]
        simp
    rw [Anchored, ih ordered, ahead]
    constructor
    · rintro ⟨here, rest⟩ i bound
      cases i with
      | zero => simpa using here (by simpa using bound)
      | succ i =>
        have spaced := rest i (by simp only [List.length_cons] at bound; omega)
        simpa [Nat.succ_add] using spaced
    · intro spaced
      refine ⟨fun bound => by simpa using spaced 0 (by simpa using bound), fun i bound => ?_⟩
      have later := spaced (i + 1) (by simp only [List.length_cons]; omega)
      simpa [Nat.succ_add] using later

/-- Where what counts comes first, a prefix holds all of it that fits. -/
theorem countP_take {p : α → Bool} {items : List α} (closed : items.Pairwise fun a b => p b = true → p a = true) (k : Nat) :
    (items.take k).countP p = min k (items.countP p) := by
  induction items generalizing k with
  | nil => simp
  | cons a items ih =>
    obtain ⟨first, rest⟩ := List.pairwise_cons.mp closed
    cases k with
    | zero => simp
    | succ k =>
      rw [List.take_succ_cons, List.countP_cons, List.countP_cons, ih rest]
      by_cases here : p a = true
      · simp only [here, if_true]
        omega
      · have none : items.countP p = 0 :=
          List.countP_eq_zero.mpr fun b member counts => here (first b member counts)
        simp [here, none]

/-- Where what counts comes last, a suffix holds all of it that fits. -/
theorem countP_drop {p : α → Bool} {items : List α} (closed : items.Pairwise fun a b => p a = true → p b = true) (k : Nat) :
    (items.drop (items.length - k)).countP p = min k (items.countP p) := by
  have reversed := countP_take (p := p) (List.pairwise_reverse.mpr closed) k
  rwa [List.take_reverse, List.countP_reverse, List.countP_reverse] at reversed

end Lib

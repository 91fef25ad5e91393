import MarketingAgents.Lib.Run

namespace Lib

variable {σ ρ π : Type*}

/-- How a transaction works: what it holds at its start, what its next
statement reads of the committed table, and what its commit makes of the table,
unless a constraint rolls it back. -/
structure Protocol (σ ρ π : Type*) where
  start : ρ → π
  read : σ → π → π
  commit : σ → π → Option σ

/-- The committed table, and the open transactions with what they hold. -/
structure Shared (σ π : Type*) where
  table : σ
  working : List (Nat × π) := []
  next : Nat := 0

inductive TxOp (ρ : Type*) where
  | start (request : ρ)
  | read (id : Nat)
  | commit (id : Nat)
  | abort (id : Nat)

/-- A column is written where the value that is set differs from the one that was loaded. -/
def patched {α : Type*} [DecidableEq α] (loaded stored : α) : Option α → α
  | some value => if value = loaded then stored else value
  | none => stored

namespace Protocol

/-- One statement of one transaction, or its end. -/
def step (T : Protocol σ ρ π) (s : Shared σ π) : TxOp ρ → Shared σ π
  | .start request => { s with working := (s.next, T.start request) :: s.working, next := s.next + 1 }
  | .read id => { s with working := s.working.map fun w => if w.1 = id then (w.1, T.read s.table w.2) else w }
  | .commit id =>
    match s.working.find? (·.1 = id) with
    | some w => { s with table := (T.commit s.table w.2).getD s.table, working := s.working.filter (·.1 ≠ id) }
    | none => s
  | .abort id => { s with working := s.working.filter (·.1 ≠ id) }

variable {T : Protocol σ ρ π} {I : σ → Prop} {J : σ → π → Prop} {s : Shared σ π}

/-- What a transaction holds stays true of the table whatever the others commit,
and with it its own commit keeps the invariant of the table. -/
structure Sound (T : Protocol σ ρ π) (I : σ → Prop) (J : σ → π → Prop) : Prop where
  start : ∀ t request, I t → J t (T.start request)
  read : ∀ t p, I t → J t p → J t (T.read t p)
  commit : ∀ t p t', I t → J t p → T.commit t p = some t' → I t'
  rely : ∀ t p t' q, I t → J t p → T.commit t p = some t' → J t q → J t' q

/-- The invariant of the table, and what each open transaction holds. -/
def Holds (I : σ → Prop) (J : σ → π → Prop) (s : Shared σ π) : Prop := I s.table ∧ ∀ w ∈ s.working, J s.table w.2

theorem Holds.start {t : σ} (start : I t) : Holds I J ({ table := t } : Shared σ π) := ⟨start, nofun⟩

/-- A step that commits something, with the transaction that does. -/
theorem step_table (T : Protocol σ ρ π) (s : Shared σ π) (op : TxOp ρ) :
    (T.step s op).table = s.table ∨ ∃ w ∈ s.working, T.commit s.table w.2 = some (T.step s op).table := by
  cases op with
  | start | read | abort => exact Or.inl rfl
  | commit id =>
    simp only [step]
    split
    · rename_i w found
      cases done : T.commit s.table w.2 with
      | none => exact Or.inl rfl
      | some t => exact Or.inr ⟨w, List.mem_of_find?_eq_some found, done⟩
    · exact Or.inl rfl

theorem Sound.step (sound : Sound T I J) (holds : Holds I J s) (op : TxOp ρ) : Holds I J (T.step s op) := by
  obtain ⟨table, working⟩ := holds
  cases op with
  | start request =>
    refine ⟨table, fun w member => ?_⟩
    rcases List.mem_cons.mp member with rfl | old
    · exact sound.start _ request table
    · exact working w old
  | read id =>
    refine ⟨table, fun w member => ?_⟩
    obtain ⟨old, there, rfl⟩ := List.mem_map.mp member
    split
    · exact sound.read _ _ table (working old there)
    · exact working old there
  | commit id =>
    simp only [Protocol.step]
    split
    · rename_i w found
      have mine := working w (List.mem_of_find?_eq_some found)
      cases done : T.commit s.table w.2 with
      | none => exact ⟨table, fun other member => working other (List.mem_of_mem_filter member)⟩
      | some t =>
        exact ⟨sound.commit _ _ _ table mine done, fun other member =>
          sound.rely _ _ _ _ table mine done (working other (List.mem_of_mem_filter member))⟩
    · exact ⟨table, working⟩
  | abort id => exact ⟨table, fun other member => working other (List.mem_of_mem_filter member)⟩

theorem Sound.run (sound : Sound T I J) (holds : Holds I J s) (ops : List (TxOp ρ)) : Holds I J (Lib.run T.step s ops) :=
  run_invariant holds (fun _ op kept => sound.step kept op) ops

/-- What every commit guarantees of the tables before and after it, a run
guarantees of those at its ends. -/
theorem Sound.guarantee (sound : Sound T I J) {R : σ → σ → Prop} (refl : ∀ t, R t t)
    (trans : ∀ t t' t'', R t t' → R t' t'' → R t t'')
    (commit : ∀ t p t', I t → J t p → T.commit t p = some t' → R t t') (holds : Holds I J s) (ops : List (TxOp ρ)) :
    R s.table (Lib.run T.step s ops).table := by
  have kept : Holds I J (Lib.run T.step s ops) ∧ R s.table (Lib.run T.step s ops).table := by
    refine run_invariant (I := fun reached => Holds I J reached ∧ R s.table reached.table) ⟨holds, refl _⟩
      (fun reached op kept => ⟨sound.step kept.1 op, ?_⟩) ops
    rcases step_table T reached op with same | ⟨w, member, done⟩
    · exact same.symm ▸ kept.2
    · exact trans _ _ _ kept.2 (commit _ _ _ kept.1.1 (kept.1.2 w member) done)
  exact kept.2

end Protocol

end Lib

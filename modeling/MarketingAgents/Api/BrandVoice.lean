import MarketingAgents.Db.Models
import MarketingAgents.Lib.Rows
import MarketingAgents.Lib.Transactions

namespace MarketingAgents

open Lib

/-- A row of `brand_voice`. -/
structure BrandVoice where
  id : Uuid
  tenantId : Uuid
  name : String
  isActive : Bool
  toneDescriptors : List String := []
  doWords : List String := []
  dontWords : List String := []
  sampleParagraphs : List String := []
  readingGradeTarget : Option Rat := none
deriving DecidableEq

/-- `BrandVoiceCreate`. -/
structure VoiceBody where
  name : String
  isActive : Bool := false
  toneDescriptors : List String := []
  doWords : List String := []
  dontWords : List String := []
  sampleParagraphs : List String := []
  readingGradeTarget : Option Rat := none

/-- The fields that a `BrandVoicePatch` sets, each possibly to null. -/
structure VoicePatch where
  name : Option (Option String) := none
  toneDescriptors : Option (Option (List String)) := none
  doWords : Option (Option (List String)) := none
  dontWords : Option (Option (List String)) := none
  sampleParagraphs : Option (Option (List String)) := none
  readingGradeTarget : Option (Option Rat) := none
deriving DecidableEq

/-- `setattr` field by field, and the `UPDATE` of the row as it is then stored. -/
def VoicePatch.apply (patch : VoicePatch) (loaded stored : BrandVoice) : BrandVoice :=
  { stored with
    name := patched loaded.name stored.name patch.name.join
    toneDescriptors := patched loaded.toneDescriptors stored.toneDescriptors patch.toneDescriptors.join
    doWords := patched loaded.doWords stored.doWords patch.doWords.join
    dontWords := patched loaded.dontWords stored.dontWords patch.dontWords.join
    sampleParagraphs := patched loaded.sampleParagraphs stored.sampleParagraphs patch.sampleParagraphs.join
    readingGradeTarget := patched loaded.readingGradeTarget stored.readingGradeTarget patch.readingGradeTarget }

/-- A null goes into a column that must not be null. -/
def VoicePatch.nulls (patch : VoicePatch) : Bool :=
  patch.name = some none || patch.toneDescriptors = some none || patch.doWords = some none || patch.dontWords = some none ||
    patch.sampleParagraphs = some none

inductive VoiceRequest where
  | create (tenantId : Uuid) (body : VoiceBody)
  | patch (tenantId voiceId : Uuid) (patch : VoicePatch)
  | activate (tenantId voiceId : Uuid)

/-- Where a request stands: with the voice it has loaded, and with the active
voices that the `UPDATE` of `_deactivate_others` has found. -/
inductive VoiceWork where
  | started (request : VoiceRequest)
  | creating (tenantId : Uuid) (body : VoiceBody) (others : List Uuid)
  | patching (voice : BrandVoice) (patch : VoicePatch)
  | loaded (voice : BrandVoice)
  | activating (voice : BrandVoice) (others : List Uuid)
  | answered
  | notFound

/-- The table, and the activations that were committed, newest first. -/
structure VoiceTable where
  voices : List BrandVoice := []
  nextId : Uuid := 0
  switches : List (Uuid × Uuid) := []

namespace VoiceTable

def voice? (t : VoiceTable) (tenantId voiceId : Uuid) : Option BrandVoice :=
  t.voices.find? fun v => v.id = voiceId ∧ v.tenantId = tenantId

/-- `get_active_brand_voice` and the Content Creator, whose `scalar_one_or_none` raises on two rows. -/
def active (t : VoiceTable) (tenantId : Uuid) : List BrandVoice := t.voices.filter fun v => v.tenantId = tenantId ∧ v.isActive

def activeIds (t : VoiceTable) (tenantId : Uuid) : List Uuid := (t.active tenantId).map BrandVoice.id

/-- What the requests read: `db.get`, and the rows for `_deactivate_others`. -/
def read (t : VoiceTable) : VoiceWork → VoiceWork
  | .started (.create tenantId body) => .creating tenantId body (if body.isActive then t.activeIds tenantId else [])
  | .started (.patch tenantId voiceId patch) =>
    match t.voice? tenantId voiceId with
    | none => .notFound
    | some v => if patch = {} then .answered else .patching v patch
  | .started (.activate tenantId voiceId) =>
    match t.voice? tenantId voiceId with
    | none => .notFound
    | some v => if v.isActive then .answered else .loaded v
  | .loaded v => .activating v ((t.activeIds v.tenantId).filter (· ≠ v.id))
  | work => work

/-- Two rows that the unique indexes allow beside each other. -/
def Compatible (a b : BrandVoice) : Prop := a.tenantId = b.tenantId → a.name ≠ b.name ∧ ¬ (a.isActive ∧ b.isActive)

instance (a b : BrandVoice) : Decidable (Compatible a b) :=
  inferInstanceAs (Decidable (a.tenantId = b.tenantId → a.name ≠ b.name ∧ ¬ (a.isActive ∧ b.isActive)))

def store (t : VoiceTable) (voices : List BrandVoice) : Option VoiceTable :=
  if voices.Pairwise Compatible then some { t with voices := voices } else none

def deactivate (voices : List BrandVoice) (others : List Uuid) : List BrandVoice :=
  updateWhere (fun v => v.id ∈ others) (fun v => { v with isActive := false }) voices

def activate (voices : List BrandVoice) (id : Uuid) : List BrandVoice :=
  updateWhere (·.id = id) (fun v => { v with isActive := true }) voices

def newVoice (id tenantId : Uuid) (body : VoiceBody) : BrandVoice :=
  ⟨id, tenantId, body.name, body.isActive, body.toneDescriptors, body.doWords, body.dontWords, body.sampleParagraphs,
    body.readingGradeTarget⟩

/-- The writes of a request and their commit. -/
def commit (t : VoiceTable) : VoiceWork → Option VoiceTable
  | .creating tenantId body others =>
    let switches := if body.isActive then (tenantId, t.nextId) :: t.switches else t.switches
    store { t with nextId := t.nextId + 1, switches := switches }
      (deactivate t.voices others ++ [newVoice t.nextId tenantId body])
  | .patching v patch =>
    if patch.nulls then none else store t (updateWhere (·.id = v.id) (patch.apply v) t.voices)
  | .activating v others =>
    store { t with switches := (v.tenantId, v.id) :: t.switches } (activate (deactivate t.voices others) v.id)
  | .answered => some t
  | _ => none

end VoiceTable

/-- Any number of requests to `/api/brand-voices` at work at once. -/
def brandVoices : Protocol VoiceTable VoiceRequest VoiceWork where
  start := .started
  read := VoiceTable.read
  commit := VoiceTable.commit

namespace VoiceTable

/-- The active voice of each tenant is the one it last switched to. -/
structure Switched (t : VoiceTable) : Prop where
  ids : (t.voices.map BrandVoice.id).Nodup
  below : ∀ v ∈ t.voices, v.id < t.nextId
  compatible : t.voices.Pairwise Compatible
  register : ∀ tenantId, t.activeIds tenantId = ((t.switches.find? (·.1 = tenantId)).map Prod.snd).toList

/-- The rows with these ids are the tenant's. -/
def Owns (t : VoiceTable) (tenantId : Uuid) (ids : List Uuid) : Prop :=
  ∀ id ∈ ids, ∃ v ∈ t.voices, v.id = id ∧ v.tenantId = tenantId

/-- What a request has loaded is stored, under the same tenant. -/
def Grounded (t : VoiceTable) : VoiceWork → Prop
  | .creating tenantId body others => t.Owns tenantId others ∧ (body.isActive = false → others = [])
  | .patching v _ | .loaded v => t.Owns v.tenantId [v.id]
  | .activating v others => t.Owns v.tenantId (v.id :: others)
  | _ => True

section Tables

variable {t t' : VoiceTable} {tenantId : Uuid} {ids : List Uuid}

theorem owns_activeIds (t : VoiceTable) (tenantId : Uuid) : t.Owns tenantId (t.activeIds tenantId) := by
  intro id listed
  obtain ⟨v, active, rfl⟩ := List.mem_map.mp listed
  obtain ⟨member, mine⟩ := List.mem_filter.mp active
  exact ⟨v, member, rfl, (of_decide_eq_true mine).1⟩

theorem voice?_owns {voiceId : Uuid} {v : BrandVoice} (found : t.voice? tenantId voiceId = some v) :
    v ∈ t.voices ∧ v.id = voiceId ∧ v.tenantId = tenantId := by
  have hit := List.find?_some found
  exact ⟨List.mem_of_find?_eq_some found, of_decide_eq_true hit⟩

/-- Of the rows of one tenant that the indexes allow, one is active at most. -/
theorem active_eq_singleton {voices : List BrandVoice} (compatible : voices.Pairwise Compatible) {v : BrandVoice}
    (member : v ∈ voices) (active : v.isActive = true) :
    voices.filter (fun w => w.tenantId = v.tenantId ∧ w.isActive) = [v] := by
  have listed : v ∈ voices.filter fun w => w.tenantId = v.tenantId ∧ w.isActive :=
    List.mem_filter.mpr ⟨member, decide_eq_true ⟨rfl, active⟩⟩
  have pairs : (voices.filter fun w => w.tenantId = v.tenantId ∧ w.isActive).Pairwise Compatible :=
    compatible.sublist List.filter_sublist
  have mine : ∀ w ∈ voices.filter (fun w => w.tenantId = v.tenantId ∧ w.isActive), w.tenantId = v.tenantId ∧ w.isActive = true :=
    fun w there => of_decide_eq_true (List.mem_filter.mp there).2
  generalize voices.filter (fun w => w.tenantId = v.tenantId ∧ w.isActive) = own at listed pairs mine
  cases own with
  | nil => cases listed
  | cons first rest =>
    cases rest with
    | nil => rw [List.mem_singleton.mp listed]
    | cons second rest =>
      have clash := (List.pairwise_cons.mp pairs).1 second (List.mem_cons_self ..)
      obtain ⟨tenant, one⟩ := mine first (List.mem_cons_self ..)
      obtain ⟨tenant', two⟩ := mine second (List.mem_cons_of_mem _ (List.mem_cons_self ..))
      exact absurd ⟨one, two⟩ (clash (tenant.trans tenant'.symm)).2

theorem store_eq {voices : List BrandVoice} (done : t.store voices = some t') :
    voices.Pairwise Compatible ∧ t' = { t with voices := voices } := by
  unfold store at done
  split at done
  · rename_i compatible
    exact ⟨compatible, (Option.some.inj done).symm⟩
  · cases done

theorem store_of_compatible (t : VoiceTable) {voices : List BrandVoice} (compatible : voices.Pairwise Compatible) :
    t.store voices = some { t with voices := voices } := if_pos compatible

/-- Rewriting rows of one tenant leaves the active voices of another alone. -/
theorem filter_other {voices : List BrandVoice} {p : BrandVoice → Bool} {f : BrandVoice → BrandVoice} {other : Uuid}
    (mine : ∀ v ∈ voices, p v = true → v.tenantId = tenantId) (keeps : ∀ v, (f v).tenantId = v.tenantId)
    (differs : tenantId ≠ other) :
    (updateWhere p f voices).filter (fun v => v.tenantId = other ∧ v.isActive) =
      voices.filter fun v => v.tenantId = other ∧ v.isActive := by
  refine filter_updateWhere fun v member hit => ?_
  have tenant := mine v member hit
  have away : v.tenantId ≠ other := fun same => differs (tenant.symm.trans same)
  exact ⟨decide_eq_false fun both => away both.1, decide_eq_false fun both => away ((keeps v).symm.trans both.1)⟩

theorem Owns.only (nodup : (t.voices.map BrandVoice.id).Nodup) (owns : t.Owns tenantId ids) :
    ∀ v ∈ t.voices, v.id ∈ ids → v.tenantId = tenantId := by
  intro v member listed
  obtain ⟨w, there, id, tenant⟩ := owns v.id listed
  rw [← eq_of_key_eq nodup there member id]
  exact tenant

/-- The switch that a commit makes: the tenant's active voice is the new one, the others have theirs. -/
theorem Switched.switch (switched : t.Switched) {v : BrandVoice} (compatible : t'.voices.Pairwise Compatible)
    (ids : (t'.voices.map BrandVoice.id).Nodup) (below : ∀ v ∈ t'.voices, v.id < t'.nextId) (member : v ∈ t'.voices)
    (active : v.isActive = true) (switches : t'.switches = (v.tenantId, v.id) :: t.switches)
    (others : ∀ other, v.tenantId ≠ other → t'.active other = t.active other) : t'.Switched where
  ids := ids
  below := below
  compatible := compatible
  register tenantId := by
    rw [switches, List.find?_cons]
    by_cases mine : v.tenantId = tenantId
    · subst mine
      rw [decide_eq_true rfl]
      unfold activeIds VoiceTable.active
      rw [active_eq_singleton compatible member active]
      rfl
    · rw [decide_eq_false mine]
      unfold activeIds
      rw [others tenantId mine]
      exact switched.register tenantId

def key (v : BrandVoice) : Uuid × Uuid := (v.id, v.tenantId)

theorem map_deactivate {κ : Type*} (f : BrandVoice → κ) (blind : ∀ v b, f { v with isActive := b } = f v)
    (voices : List BrandVoice) (others : List Uuid) : (deactivate voices others).map f = voices.map f :=
  updateWhere_keys f voices fun v _ => blind v false

theorem map_activate {κ : Type*} (f : BrandVoice → κ) (blind : ∀ v b, f { v with isActive := b } = f v)
    (voices : List BrandVoice) (id : Uuid) : (activate voices id).map f = voices.map f :=
  updateWhere_keys f voices fun v _ => blind v true

theorem map_patch {κ : Type*} (f : BrandVoice → κ) {patch : VoicePatch} {loaded : BrandVoice}
    (blind : ∀ v, f (patch.apply loaded v) = f v) (voices : List BrandVoice) (id : Uuid) :
    (updateWhere (·.id = id) (patch.apply loaded) voices).map f = voices.map f :=
  updateWhere_keys f voices fun v _ => blind v

/-- No commit removes a voice or gives it to another tenant. -/
theorem commit_keys {work : VoiceWork} (done : t.commit work = some t') : t.voices.map key <+: t'.voices.map key := by
  unfold commit at done
  split at done
  · obtain ⟨_, rfl⟩ := store_eq done
    rw [List.map_append, map_deactivate key fun _ _ => rfl]
    exact List.prefix_append _ _
  · split at done
    · cases done
    · obtain ⟨_, rfl⟩ := store_eq done
      exact (map_patch key (fun _ => rfl) _ _).symm ▸ List.prefix_rfl
  · obtain ⟨_, rfl⟩ := store_eq done
    rw [map_activate key fun _ _ => rfl, map_deactivate key fun _ _ => rfl]
  · rw [Option.some.inj done]
  · cases done

theorem Owns.rely {work : VoiceWork} (done : t.commit work = some t') (owns : t.Owns tenantId ids) : t'.Owns tenantId ids := by
  intro id listed
  obtain ⟨v, member, rfl, rfl⟩ := owns id listed
  obtain ⟨w, there, same⟩ := List.mem_map.mp ((commit_keys done).subset (List.mem_map_of_mem (f := key) member))
  exact ⟨w, there, congrArg Prod.fst same, congrArg Prod.snd same⟩

theorem Grounded.rely {work other : VoiceWork} (done : t.commit work = some t') (grounded : t.Grounded other) :
    t'.Grounded other := by
  cases other with
  | creating tenantId body others => exact ⟨grounded.1.rely done, grounded.2⟩
  | patching | loaded | activating => exact Owns.rely done grounded
  | started | answered | notFound => trivial

/-- What a request has read of the active voices is what the table holds, until
somebody else commits. -/
theorem Grounded.read {work : VoiceWork} (grounded : t.Grounded work) : t.Grounded (t.read work) := by
  have known : ∀ {tenantId voiceId v}, t.voice? tenantId voiceId = some v → t.Owns v.tenantId [v.id] := by
    intro tenantId voiceId v found id listed
    rw [List.mem_singleton.mp listed]
    exact ⟨v, (voice?_owns found).1, rfl, rfl⟩
  cases work with
  | started request =>
    cases request with
    | create tenantId body =>
      refine ⟨?_, fun inactive => by simp [inactive]⟩
      split
      · exact owns_activeIds t tenantId
      · exact nofun
    | patch tenantId voiceId patch =>
      rw [VoiceTable.read]
      split
      · trivial
      · rename_i v found
        split
        · trivial
        · exact known found
    | activate tenantId voiceId =>
      rw [VoiceTable.read]
      split
      · trivial
      · rename_i v found
        split
        · trivial
        · exact known found
  | loaded v =>
    intro id listed
    rcases List.mem_cons.mp listed with rfl | other
    · exact grounded v.id (List.mem_singleton_self _)
    · exact owns_activeIds t v.tenantId id (List.mem_of_mem_filter other)
  | creating | patching | activating | answered | notFound => exact grounded

/-- What a commit leaves of the ids: the rows it had, and perhaps one with the next id. -/
theorem Switched.ids_of {more : List Uuid} (switched : t.Switched)
    (ids : t'.voices.map BrandVoice.id = t.voices.map BrandVoice.id ++ more)
    (next : t'.nextId = t.nextId + more.length) (fresh : ∀ id ∈ more, id = t.nextId) (single : more.length ≤ 1) :
    (t'.voices.map BrandVoice.id).Nodup ∧ ∀ v ∈ t'.voices, v.id < t'.nextId := by
  constructor
  · rw [ids, List.nodup_append]
    refine ⟨switched.ids, List.nodup_iff_count_le_one.mpr fun id => List.count_le_length.trans single, fun id old other new => ?_⟩
    obtain ⟨v, member, rfl⟩ := List.mem_map.mp old
    rw [fresh other new]
    exact (switched.below v member).ne
  · intro v member
    have listed : v.id ∈ t.voices.map BrandVoice.id ++ more := ids ▸ List.mem_map_of_mem member
    rw [next]
    rcases List.mem_append.mp listed with old | new
    · obtain ⟨w, there, same⟩ := List.mem_map.mp old
      rw [← same]
      exact (switched.below w there).trans_le (Nat.le_add_right _ _)
    · rw [fresh v.id new]
      exact Nat.lt_add_of_pos_right (List.length_pos_of_mem new)

/-- A rewriting that keeps tenants, ids and `is_active` keeps the active voices. -/
theorem activeIds_updateWhere {p : BrandVoice → Bool} {f : BrandVoice → BrandVoice}
    (keeps : ∀ v, (f v).id = v.id ∧ (f v).tenantId = v.tenantId ∧ (f v).isActive = v.isActive) (voices : List BrandVoice)
    (tenantId : Uuid) :
    ((updateWhere p f voices).filter fun v => v.tenantId = tenantId ∧ v.isActive).map BrandVoice.id =
      (voices.filter fun v => v.tenantId = tenantId ∧ v.isActive).map BrandVoice.id := by
  unfold updateWhere
  rw [List.filter_map, List.map_map]
  have same : ((fun v : BrandVoice => decide (v.tenantId = tenantId ∧ v.isActive = true)) ∘
      fun v => if p v = true then f v else v) = fun v => decide (v.tenantId = tenantId ∧ v.isActive = true) := by
    funext v
    simp only [Function.comp_apply]
    split
    · rw [(keeps v).2.1, (keeps v).2.2]
    · rfl
  rw [same]
  refine List.map_congr_left fun v _ => ?_
  simp only [Function.comp_apply]
  split
  · exact (keeps v).1
  · rfl

/-- A voice that is created active deactivates the others that the request has read,
in the same commit. -/
theorem Switched.create (switched : t.Switched) {body : VoiceBody} {others : List Uuid} (owns : t.Owns tenantId others)
    (unasked : body.isActive = false → others = []) (done : t.commit (.creating tenantId body others) = some t') :
      t'.Switched := by
  obtain ⟨compatible, same⟩ := store_eq done
  have voices : t'.voices = deactivate t.voices others ++ [newVoice t.nextId tenantId body] := by rw [same]
  rw [← voices] at compatible
  have idsOf : t'.voices.map BrandVoice.id = t.voices.map BrandVoice.id ++ [t.nextId] := by
    rw [voices, List.map_append, map_deactivate BrandVoice.id fun _ _ => rfl]
    rfl
  obtain ⟨ids, below⟩ := switched.ids_of idsOf (by rw [same]; rfl) (fun id member => List.mem_singleton.mp member) le_rfl
  have mine : ∀ v ∈ t.voices, decide (v.id ∈ others) = true → v.tenantId = tenantId := fun v member hit =>
    owns.only switched.ids v member (of_decide_eq_true hit)
  cases asked : body.isActive with
  | true =>
    have member : newVoice t.nextId tenantId body ∈ t'.voices := voices ▸ List.mem_append_right _ (List.mem_singleton_self _)
    refine switched.switch compatible ids below member asked ?_ fun other differs => ?_
    · rw [same]
      exact if_pos asked
    · have new : decide ((newVoice t.nextId tenantId body).tenantId = other ∧ (newVoice t.nextId tenantId body).isActive = true) =
          false := decide_eq_false fun both => differs both.1
      have kept := filter_other (f := fun v => { v with isActive := false }) mine (fun _ => rfl) differs
      rw [VoiceTable.active, voices, List.filter_append, List.filter_singleton, new]
      exact (List.append_nil _).trans kept
  | false =>
    refine ⟨ids, below, compatible, fun tenant => ?_⟩
    have quiet : deactivate t.voices others = t.voices := by
      rw [unasked asked]
      exact updateWhere_eq_self fun v _ hit => absurd (of_decide_eq_true hit) List.not_mem_nil
    have new : decide ((newVoice t.nextId tenantId body).tenantId = tenant ∧ (newVoice t.nextId tenantId body).isActive = true) =
        false := by
      refine decide_eq_false fun both => ?_
      have active : body.isActive = true := both.2
      rw [asked] at active
      cases active
    have active : t'.active tenant = t.active tenant := by
      rw [VoiceTable.active, voices, quiet, List.filter_append, List.filter_singleton, new]
      exact List.append_nil _
    have switches : t'.switches = t.switches := by
      rw [same]
      exact if_neg (by simp [asked])
    rw [activeIds, active, switches]
    exact switched.register tenant

theorem Switched.activate (switched : t.Switched) {v : BrandVoice} {others : List Uuid}
    (owns : t.Owns v.tenantId (v.id :: others))
    (done : t.commit (.activating v others) = some t') : t'.Switched := by
  obtain ⟨compatible, same⟩ := store_eq done
  have voices : t'.voices = VoiceTable.activate (deactivate t.voices others) v.id := by rw [same]
  rw [← voices] at compatible
  have keys : (deactivate t.voices others).map key = t.voices.map key := map_deactivate key (fun _ _ => rfl) _ _
  have idsOf : t'.voices.map BrandVoice.id = t.voices.map BrandVoice.id ++ [] := by
    rw [voices, map_activate BrandVoice.id fun _ _ => rfl, map_deactivate BrandVoice.id fun _ _ => rfl, List.append_nil]
  obtain ⟨ids, below⟩ := switched.ids_of idsOf (by rw [same]; rfl) (fun _ none => nomatch none) (Nat.zero_le _)
  obtain ⟨w, there, id, tenant⟩ := owns v.id (List.mem_cons_self ..)
  obtain ⟨w', there', sameKey⟩ := List.mem_map.mp (keys.symm ▸ List.mem_map_of_mem (f := key) there)
  have id' : w'.id = v.id := (congrArg Prod.fst sameKey).trans id
  have tenant' : w'.tenantId = v.tenantId := (congrArg Prod.snd sameKey).trans tenant
  have only := owns.only switched.ids
  have member : { w' with isActive := true } ∈ t'.voices :=
    voices ▸ mem_updateWhere.mpr (Or.inl ⟨w', there', decide_eq_true id', rfl⟩)
  refine switched.switch compatible ids below member rfl (by rw [same, id', tenant']) fun other differs => ?_
  have differs : v.tenantId ≠ other := fun equal => differs (tenant'.trans equal)
  have first : (deactivate t.voices others).filter (fun v => v.tenantId = other ∧ v.isActive) = t.active other :=
    filter_other (f := fun v => { v with isActive := false })
      (fun v member hit => only v member (List.mem_cons_of_mem _ (of_decide_eq_true hit))) (fun _ => rfl) differs
  rw [← first, VoiceTable.active, voices]
  refine filter_other (f := fun v => { v with isActive := true }) (fun x member hit => ?_) (fun _ => rfl) differs
  obtain ⟨y, stored, sameKey⟩ := List.mem_map.mp (keys ▸ List.mem_map_of_mem (f := key) member)
  have sameId : y.id = v.id := (congrArg Prod.fst sameKey).trans (of_decide_eq_true hit)
  have sameTenant : y.tenantId = x.tenantId := congrArg Prod.snd sameKey
  rw [← sameTenant]
  exact only y stored (sameId ▸ List.mem_cons_self ..)

theorem Switched.commit (switched : t.Switched) {work : VoiceWork} (grounded : t.Grounded work)
    (done : t.commit work = some t') : t'.Switched := by
  cases work with
  | creating tenantId body others => exact switched.create grounded.1 grounded.2 done
  | activating v others => exact switched.activate grounded done
  | patching v patch =>
    rw [VoiceTable.commit] at done
    split at done
    · cases done
    · obtain ⟨compatible, same⟩ := store_eq done
      have voices : t'.voices = updateWhere (·.id = v.id) (patch.apply v) t.voices := by rw [same]
      rw [← voices] at compatible
      have idsOf : t'.voices.map BrandVoice.id = t.voices.map BrandVoice.id ++ [] := by
        rw [voices, map_patch BrandVoice.id fun _ => rfl, List.append_nil]
      obtain ⟨ids, below⟩ := switched.ids_of idsOf (by rw [same]; rfl) (fun _ none => nomatch none) (Nat.zero_le _)
      refine ⟨ids, below, compatible, fun tenant => ?_⟩
      have active := activeIds_updateWhere (p := fun w => decide (w.id = v.id)) (f := patch.apply v) (fun _ => ⟨rfl, rfl, rfl⟩)
        t.voices tenant
      rw [activeIds, VoiceTable.active, voices, active, same]
      exact switched.register tenant
  | answered => exact Option.some.inj done ▸ switched
  | started | loaded | notFound => cases done

theorem brandVoices_sound : brandVoices.Sound Switched Grounded where
  start _ _ _ := trivial
  read _ _ _ grounded := grounded.read
  commit _ _ _ switched grounded done := switched.commit grounded done
  rely _ _ _ _ _ _ done grounded := grounded.rely done

/-- What a switch to one voice makes of a row. -/
def switchRow (others : List Uuid) (id : Uuid) (v : BrandVoice) : BrandVoice :=
  let quiet := if v.id ∈ others then { v with isActive := false } else v
  if quiet.id = id then { quiet with isActive := true } else quiet

theorem activate_deactivate (voices : List BrandVoice) (others : List Uuid) (id : Uuid) :
    VoiceTable.activate (deactivate voices others) id = voices.map (switchRow others id) := by
  unfold VoiceTable.activate deactivate updateWhere
  rw [List.map_map]
  refine List.map_congr_left fun v _ => ?_
  simp [switchRow]

theorem switchRow_key (others : List Uuid) (id : Uuid) (v : BrandVoice) :
    (switchRow others id v).tenantId = v.tenantId ∧ (switchRow others id v).name = v.name ∧
      ((switchRow others id v).isActive = true → v.id = id ∨ v.isActive = true ∧ v.id ∉ others) := by
  by_cases other : v.id ∈ others <;> by_cases mine : v.id = id <;> simp_all [switchRow]

/-- When the other active voices of the tenant are switched off, the indexes allow the switch. -/
theorem Switched.switch_compatible (switched : t.Switched) {v : BrandVoice} (member : v ∈ t.voices) :
    (VoiceTable.activate (deactivate t.voices ((t.activeIds v.tenantId).filter (· ≠ v.id))) v.id).Pairwise Compatible := by
  rw [activate_deactivate, List.pairwise_map]
  have distinct : t.voices.Pairwise fun a b => a.id ≠ b.id := List.pairwise_map.mp switched.ids
  refine (switched.compatible.and distinct).imp_of_mem fun {a b} here there both sameTenant => ?_
  obtain ⟨compatible, differ⟩ := both
  obtain ⟨tenant, name, active⟩ := switchRow_key ((t.activeIds v.tenantId).filter (· ≠ v.id)) v.id a
  obtain ⟨tenant', name', active'⟩ := switchRow_key ((t.activeIds v.tenantId).filter (· ≠ v.id)) v.id b
  rw [tenant, tenant'] at sameTenant
  rw [name, name']
  refine ⟨(compatible sameTenant).1, fun bothActive => ?_⟩
  -- a row that is active after the switch is the voice itself, or one of another tenant
  have only : ∀ x ∈ t.voices, x.isActive = true → x.id ∉ (t.activeIds v.tenantId).filter (· ≠ v.id) →
      x.tenantId = v.tenantId → x.id = v.id := by
    intro x stored isActive absent same
    by_contra other
    refine absent (List.mem_filter.mpr ⟨List.mem_map.mpr ⟨x, ?_, rfl⟩, decide_eq_true other⟩)
    exact List.mem_filter.mpr ⟨stored, decide_eq_true ⟨same, isActive⟩⟩
  have self : ∀ x ∈ t.voices, x.id = v.id → x.tenantId = v.tenantId := fun x stored same =>
    congrArg BrandVoice.tenantId (eq_of_key_eq switched.ids stored member same)
  rcases active bothActive.1 with first | ⟨first, absent⟩
  · rcases active' bothActive.2 with second | ⟨second, absent'⟩
    · exact differ (first.trans second.symm)
    · exact differ (first.trans (only b there second absent' (sameTenant.symm.trans (self a here first))).symm)
  · rcases active' bothActive.2 with second | ⟨second, _⟩
    · exact differ ((only a here first absent (sameTenant.trans (self b there second))).trans second.symm)
    · exact (compatible sameTenant).2 ⟨first, second⟩

/-- An activation that nobody disturbs makes its voice the active one. -/
theorem Switched.undisturbed (switched : t.Switched) {voiceId : Uuid} (known : (t.voice? tenantId voiceId).isSome) :
    ∃ t', t.commit (t.read (t.read (.started (.activate tenantId voiceId)))) = some t' ∧ t'.activeIds tenantId = [voiceId] := by
  obtain ⟨v, found⟩ := Option.isSome_iff_exists.mp known
  obtain ⟨member, rfl, rfl⟩ := voice?_owns found
  have grounded : t.Grounded (t.read (t.read (.started (.activate v.tenantId v.id)))) := Grounded.read (Grounded.read trivial)
  have first : t.read (.started (.activate v.tenantId v.id)) = if v.isActive then .answered else .loaded v := by
    rw [VoiceTable.read, found]
  rw [first] at grounded ⊢
  by_cases active : v.isActive = true
  · rw [if_pos active]
    exact ⟨t, rfl, by rw [activeIds, VoiceTable.active, active_eq_singleton switched.compatible member active]; rfl⟩
  · rw [if_neg active] at grounded ⊢
    have done := store_of_compatible { t with switches := (v.tenantId, v.id) :: t.switches } (switched.switch_compatible member)
    refine ⟨_, done, ?_⟩
    rw [(switched.commit grounded done).register, List.find?_cons, decide_eq_true rfl]
    rfl

end Tables

/-- Whatever the interleaving of the requests, and whichever of them fail: a
tenant has at most one active voice, the one of its last committed switch, no two
of its voices have one name, and an activation that nobody disturbs succeeds. -/
theorem voices_follow_the_switches (ops : List (TxOp VoiceRequest)) :
    let s := Lib.run brandVoices.step { table := {} } ops
    ∀ tenantId, s.table.activeIds tenantId = ((s.table.switches.find? (·.1 = tenantId)).map Prod.snd).toList ∧
      ((s.table.voices.filter (·.tenantId = tenantId)).map BrandVoice.name).Nodup ∧
      ∀ voiceId, (s.table.voice? tenantId voiceId).isSome → ∃ t',
        s.table.commit (s.table.read (s.table.read (.started (.activate tenantId voiceId)))) = some t' ∧
          t'.activeIds tenantId = [voiceId] := by
  intro s tenantId
  have start : Switched {} := ⟨List.nodup_nil, nofun, List.Pairwise.nil, fun _ => rfl⟩
  have reached := (brandVoices_sound.run (.start start) ops).1
  refine ⟨reached.register tenantId, ?_, fun voiceId known => reached.undisturbed known⟩
  refine List.pairwise_map.mpr ((reached.compatible.sublist List.filter_sublist).imp_of_mem fun here there compatible => ?_)
  have mine := of_decide_eq_true (List.mem_filter.mp here).2
  have mine' := of_decide_eq_true (List.mem_filter.mp there).2
  exact (compatible (mine.trans mine'.symm)).1

end VoiceTable

end MarketingAgents

/-
What the connector registry keeps over any sequence of calls. Each call is read off once: a call that raises leaves the
registry alone, and a call that answers makes one of the updates its lemma lists. From that, over runs: the version of a
connector only grows and two manifests of one version are the same, and a connector is active only by its own activation.
For the loading of a directory: when the invariants across connectors survive it.
-/
import Middleware.Connector.Registry

namespace Middleware.Connector

open Lib

/-! ## Lists side by side -/

section Forall2

variable {A B C : Type} {R : A → B → Prop} {T : B → C → Prop}

theorem forall₂_comp {as : List A} {bs : List B} {cs : List C} (h : List.Forall₂ R as bs) (h' : List.Forall₂ T bs cs) :
    List.Forall₂ (fun a c => ∃ b, R a b ∧ T b c) as cs := by
  induction h generalizing cs with
  | nil =>
    cases h'
    exact .nil
  | cons hr _ ih =>
    cases h' with
    | cons ht h' => exact .cons ⟨_, hr, ht⟩ (ih h')

theorem forall₂_left {as : List A} {bs : List B} (h : List.Forall₂ R as bs) : ∀ a ∈ as, ∃ b ∈ bs, R a b := by
  induction h with
  | nil => simp
  | cons hr _ ih =>
    intro a ha
    rcases List.mem_cons.1 ha with rfl | ha
    · exact ⟨_, by simp, hr⟩
    · obtain ⟨b, hb, hr⟩ := ih a ha
      exact ⟨b, by simp [hb], hr⟩

end Forall2

/-! ## Versions and records -/

/-- The version that the manifest's text stands for. -/
def ConnectorManifest.semver (m : ConnectorManifest) : SemanticVersion :=
  (SemanticVersion.parse m.version).toOption.getD { major := 0, minor := 0, patch := 0 }

theorem ConnectorManifest.parse_version (m : ConnectorManifest) : SemanticVersion.parse m.version = .ok m.semver := by
  obtain ⟨v, hv⟩ := m.versioned
  rw [semver, hv]
  rfl

/-- The place of the registered version in the order of semantic versions. -/
abbrev RegisteredConnector.rank (r : RegisteredConnector) : Precedence := r.manifest.semver.rank

/-- The states a manifest may be registered in. -/
abbrev Registrable (state : ConnectorState) : Prop :=
  state ∈ [ConnectorState.declared, .validated, .installedDisabled]

variable {r : RegisteredConnector} {id : String}

namespace ConnectorRegistry

theorem lookup_put (self : ConnectorRegistry) (record : RegisteredConnector) (id : String) :
    (self.put record).lookup id = if id = record.manifest.connectorId then some record else self.lookup id := by
  by_cases hid : id = record.manifest.connectorId
  · subst hid
    simp [lookup, put]
  · simp [lookup, put, hid, AList.lookup_insert_ne hid]

theorem lookup_id {self : ConnectorRegistry} (h : self.lookup id = some r) :
    r.manifest.connectorId = id := self.keyed id r h

/-- Records with different ids are put down next to each other. -/
theorem lookup_puts {records : List RegisteredConnector} (hnodup : (records.map (·.manifest.connectorId)).Nodup)
    (self : ConnectorRegistry) (id : String) (r : RegisteredConnector) :
    (records.foldl put self).lookup id = some r ↔
      r ∈ records ∧ r.manifest.connectorId = id ∨
        (∀ r' ∈ records, r'.manifest.connectorId ≠ id) ∧ self.lookup id = some r := by
  induction records generalizing self with
  | nil => simp
  | cons a rest ih =>
    simp only [List.map_cons, List.nodup_cons, List.mem_map, not_exists, not_and] at hnodup
    rw [List.foldl_cons, ih hnodup.2, lookup_put]
    by_cases hid : id = a.manifest.connectorId
    · subst hid
      constructor
      · rintro (⟨hr, hid⟩ | ⟨-, hr⟩)
        · exact absurd hid (hnodup.1 r hr)
        · rw [if_pos rfl] at hr
          exact .inl (by simp [Option.some.inj hr])
      · rintro (⟨hr, hid⟩ | ⟨hno, -⟩)
        · rcases List.mem_cons.1 hr with rfl | hr
          · exact .inr ⟨hnodup.1, if_pos rfl⟩
          · exact .inl ⟨hr, hid⟩
        · exact absurd rfl (hno a (by simp))
    · rw [if_neg hid]
      constructor
      · rintro (⟨hr, he⟩ | ⟨hno, hr⟩)
        · exact .inl ⟨by simp [hr], he⟩
        · refine .inr ⟨?_, hr⟩
          rintro r' hr'
          rcases List.mem_cons.1 hr' with rfl | hr'
          · exact fun he => hid he.symm
          · exact hno r' hr'
      · rintro (⟨hr, he⟩ | ⟨hno, hr⟩)
        · rcases List.mem_cons.1 hr with rfl | hr
          · exact absurd he.symm hid
          · exact .inl ⟨hr, he⟩
        · exact .inr ⟨fun r' hr' => hno r' (by simp [hr']), hr⟩

end ConnectorRegistry

open ConnectorRegistry

/-! ## What a call does -/

variable {state : ConnectorState}

section Calls

variable {others : Obj → List Problem} {self self' : ConnectorRegistry}

structure Registers (others : Obj → List Problem) (raw : Obj) (state : ConnectorState) (record : RegisteredConnector) : Prop where
  manifest : parseManifest others raw = .ok record.manifest
  digest : manifestDigest others raw = .ok record.manifestDigest
  registered : record.state = state
  registrable : Registrable state

variable {r : Except Error RegisteredConnector}

theorem registerManifest_cases {raw : Obj} {replace : Bool}
    (h : invoke (registerManifest others raw state replace) self = (r, self')) :
    (∃ e, r = .error e ∧ self' = self) ∨
      ∃ record, Registers others raw state record ∧
        (self.lookup record.manifest.connectorId = none ∧ r = .ok record ∧ self' = self.put record ∨
          replace = true ∧ ∃ existing, self.lookup record.manifest.connectorId = some existing ∧
            (existing.rank = record.rank ∧ existing.manifestDigest = record.manifestDigest ∧ r = .ok existing ∧ self' = self ∨
              existing.rank < record.rank ∧ r = .ok record ∧ self' = self.put record)) := by
  rcases guard_peel h with h | ⟨hstate, h⟩
  · exact .inl h
  rcases lift_peel h with h | ⟨manifest, hmanifest, h⟩
  · exact .inl h
  rcases lift_peel h with h | ⟨digest, hdigest, h⟩
  · exact .inl h
  rcases lift_peel h with h | ⟨newVersion, hnew, h⟩
  · exact .inl h
  have h := get_peel h
  have hregisters : Registers others raw state { manifest := manifest, manifestDigest := digest, state := state } :=
    ⟨hmanifest, hdigest, rfl, not_not.1 hstate⟩
  have hnew' : newVersion = manifest.semver := by
    rw [manifest.parse_version] at hnew
    exact (Except.ok.inj hnew).symm
  split at h
  · rename_i hnone
    obtain ⟨rfl, rfl⟩ := Prod.mk.inj h
    exact .inr ⟨_, hregisters, .inl ⟨hnone, rfl, rfl⟩⟩
  · rename_i existing hsome
    rcases guard_peel h with h | ⟨hreplace, h⟩
    · exact .inl h
    rcases lift_peel h with h | ⟨existingVersion, hexisting, h⟩
    · exact .inl h
    rcases lift_peel h with h | ⟨backwards, hbackwards, h⟩
    · exact .inl h
    rcases guard_peel h with h | ⟨hforward, h⟩
    · exact .inl h
    have hexisting' : existingVersion = existing.manifest.semver := by
      rw [existing.manifest.parse_version] at hexisting
      exact (Except.ok.inj hexisting).symm
    have hvalid := SemanticVersion.parse_valid hnew
    have hvalid' := SemanticVersion.parse_valid hexisting
    have hle : existingVersion.rank ≤ newVersion.rank := by
      apply not_lt.1
      exact fun hlt => hforward ((SemanticVersion.lt_iff hvalid hvalid' hbackwards).2 hlt)
    rw [hexisting', hnew'] at hle
    by_cases heq : newVersion.eq existingVersion = true
    · rw [if_pos heq] at h
      rcases guard_peel h with h | ⟨hsame, h⟩
      · exact .inl h
      obtain ⟨rfl, rfl⟩ := Prod.mk.inj h
      have hrank := (SemanticVersion.eq_iff hvalid hvalid').1 heq
      rw [hexisting', hnew'] at hrank
      exact .inr ⟨_, hregisters, .inr ⟨by simpa using hreplace, existing, hsome,
        .inl ⟨hrank.symm, (not_not.1 hsame).symm, rfl, rfl⟩⟩⟩
    · rw [if_neg heq] at h
      obtain ⟨rfl, rfl⟩ := Prod.mk.inj h
      have hne : existing.manifest.semver.rank ≠ manifest.semver.rank := by
        intro he
        apply heq
        rw [SemanticVersion.eq_iff hvalid hvalid', hexisting', hnew', he]
      exact .inr ⟨_, hregisters, .inr ⟨by simpa using hreplace, existing, hsome,
        .inr ⟨lt_of_le_of_ne hle hne, rfl, rfl⟩⟩⟩

theorem setState_cases {expected new : ConnectorState}
    (h : invoke (setState id expected new) self = (r, self')) :
    (∃ e, r = .error e ∧ self' = self) ∨
      ∃ existing, self.lookup id = some existing ∧ existing.state = expected ∧
        (new = expected ∧ r = .ok existing ∧ self' = self ∨
          new ∈ allowedTransitions expected ∧ r = .ok { existing with state := new } ∧
            self' = self.put { existing with state := new }) := by
  have h := get_peel h
  split at h
  · obtain ⟨rfl, rfl⟩ := Prod.mk.inj h
    exact .inl ⟨_, rfl, rfl⟩
  · rename_i existing hsome
    rcases guard_peel h with h | ⟨hexpected, h⟩
    · exact .inl h
    have hstate := not_not.1 hexpected
    by_cases hnew : new = expected
    · rw [if_pos hnew] at h
      obtain ⟨rfl, rfl⟩ := Prod.mk.inj h
      exact .inr ⟨existing, hsome, hstate, .inl ⟨hnew, rfl, rfl⟩⟩
    · rw [if_neg hnew] at h
      rcases guard_peel h with h | ⟨hallowed, h⟩
      · exact .inl h
      obtain ⟨rfl, rfl⟩ := Prod.mk.inj h
      exact .inr ⟨existing, hsome, hstate, .inr ⟨not_not.1 hallowed, rfl, rfl⟩⟩

/-! ## Loading a directory -/

variable {candidates : List (Obj × ConnectorManifest)}

theorem readCandidates_ok {files : List ConnectorFile} {owners : Ledger.Dict String String}
    (h : readCandidates others files owners = .ok candidates) :
    List.Forall₂ (fun file c => file.contents = some (.obj c.1) ∧ parseManifest others c.1 = .ok c.2) files candidates := by
  induction files generalizing owners candidates with
  | nil =>
    cases h
    exact .nil
  | cons file rest ih =>
    unfold readCandidates at h
    split at h
    · cases h
    · rename_i raw hraw
      obtain ⟨manifest, hmanifest, h⟩ := bind_ok h
      obtain ⟨owners', -, h⟩ := bind_ok h
      obtain ⟨later, hlater, h⟩ := bind_ok h
      cases h
      exact .cons ⟨hraw, hmanifest⟩ (ih hlater)
    · cases h

/-- Candidates that are all registered have new ids, different from each other. -/
theorem stage_ok {loaded : List RegisteredConnector}
    (h : invoke (stage others state candidates) self = (.ok loaded, self')) :
    self' = loaded.foldl put self ∧ List.Forall₂ (fun c r => Registers others c.1 state r) candidates loaded ∧
      (loaded.map (·.manifest.connectorId)).Nodup ∧ ∀ r ∈ loaded, self.lookup r.manifest.connectorId = none := by
  induction candidates generalizing self loaded with
  | nil =>
    obtain ⟨hr, rfl⟩ := Prod.mk.inj h
    cases hr
    exact ⟨rfl, .nil, by simp, by simp⟩
  | cons c rest ih =>
    rcases bind_peel h with ⟨e, -, hr⟩ | ⟨record, mid, hrecord, h⟩
    · cases hr
    rcases bind_peel h with ⟨e, -, hr⟩ | ⟨later, mid', hlater, h⟩
    · cases hr
    obtain ⟨hr, rfl⟩ := Prod.mk.inj h
    cases hr
    rcases registerManifest_cases hrecord with ⟨e, he, -⟩ | ⟨record', hregisters, ⟨hfresh, hr, rfl⟩ | ⟨hreplace, -⟩⟩
    · cases he
    · cases hr
      obtain ⟨hfold, hall, hnodup, hnew⟩ := ih hlater
      -- a later record was fresh beside the one registered first, so it has another id
      have hother : ∀ r ∈ later, r.manifest.connectorId ≠ record.manifest.connectorId ∧
          self.lookup r.manifest.connectorId = none := by
        intro r hr
        have h := hnew r hr
        rw [lookup_put] at h
        split at h
        · cases h
        · rename_i hne
          exact ⟨hne, h⟩
      refine ⟨hfold, .cons hregisters hall, ?_, ?_⟩
      · simp only [List.map_cons, List.nodup_cons, List.mem_map, not_exists, not_and]
        exact ⟨fun r hr => (hother r hr).1, hnodup⟩
      · intro r hr
        rcases List.mem_cons.1 hr with rfl | hr
        · exact hfresh
        · exact (hother r hr).2
    · cases hreplace

structure Loads (others : Obj → List Problem) (directory : List ConnectorFile) (state : ConnectorState)
    (registry : ConnectorRegistry) (loaded : List RegisteredConnector) : Prop where
  files : List.Forall₂ (fun file r => ∃ raw, file.contents = some (.obj raw) ∧ Registers others raw state r)
    (connectorFiles directory) loaded
  distinct : (loaded.map (·.manifest.connectorId)).Nodup
  fresh : ∀ r ∈ loaded, registry.lookup r.manifest.connectorId = none
  staged : (loaded.foldl put empty).validateGlobalInvariants = []

theorem loadDirectory_cases {directory : List ConnectorFile}
    {r : Except Error (List RegisteredConnector)} (h : invoke (loadDirectory others directory state) self = (r, self')) :
    (∃ e, r = .error e ∧ self' = self) ∨
      ∃ loaded, Loads others directory state self loaded ∧ r = .ok loaded ∧ self' = loaded.foldl put self := by
  rcases lift_peel h with h | ⟨candidates, hcandidates, h⟩
  · exact .inl h
  rcases guard_peel h with h | ⟨-, h⟩
  · exact .inl h
  split at h
  · obtain ⟨rfl, rfl⟩ := Prod.mk.inj h
    exact .inl ⟨_, rfl, rfl⟩
  · rename_i loaded staged hstaged
    rcases guard_peel h with h | ⟨hvalid, h⟩
    · exact .inl h
    have h := get_peel h
    split at h
    · obtain ⟨rfl, rfl⟩ := Prod.mk.inj h
      exact .inl ⟨_, rfl, rfl⟩
    · rename_i hnone
      obtain ⟨rfl, rfl⟩ := Prod.mk.inj h
      obtain ⟨rfl, hall, hnodup, -⟩ := stage_ok hstaged
      refine .inr ⟨loaded, ⟨?_, hnodup, ?_, not_not.1 hvalid⟩, rfl, rfl⟩
      · apply (forall₂_comp (readCandidates_ok hcandidates) hall).imp
        rintro file record ⟨c, ⟨hraw, -⟩, hregisters⟩
        exact ⟨c.1, hraw, hregisters⟩
      · intro record hr
        simpa using List.find?_eq_none.1 hnone record hr

/-- What a call that answers makes of the registry. -/
inductive Change (call : RegistryCall) (self : ConnectorRegistry) : ConnectorRegistry → Prop
  | same : Change call self self
  | registered (record : RegisteredConnector) (fresh : self.lookup record.manifest.connectorId = none)
      (registrable : Registrable record.state) : Change call self (self.put record)
  | replaced (record existing : RegisteredConnector) (found : self.lookup record.manifest.connectorId = some existing)
      (newer : existing.rank < record.rank) (registrable : Registrable record.state) : Change call self (self.put record)
  | moved (id : String) (existing : RegisteredConnector) (state : ConnectorState) (found : self.lookup id = some existing)
      (allowed : state ∈ allowedTransitions existing.state) (asked : call = .setState id existing.state state) :
      Change call self (self.put { existing with state := state })
  | loaded (records : List RegisteredConnector) (distinct : (records.map (·.manifest.connectorId)).Nodup)
      (fresh : ∀ r ∈ records, self.lookup r.manifest.connectorId = none)
      (registrable : ∀ r ∈ records, Registrable r.state) : Change call self (records.foldl put self)

theorem Registers.state_registrable {raw : Obj} {record : RegisteredConnector}
    (h : Registers others raw state record) : Registrable record.state := by
  rw [h.registered]
  exact h.registrable

/-- A call raises and leaves the registry alone, or it answers and makes one change. -/
theorem exec_cases (call : RegistryCall) (self : ConnectorRegistry) :
    (∃ e, exec others call self = (.error e, self)) ∨
      ∃ answer, (exec others call self).1 = .ok answer ∧ Change call self (exec others call self).2 := by
  cases call with
  | registerManifest raw state replace =>
    rcases hx : invoke (registerManifest others raw state replace) self with ⟨r, s'⟩
    rw [exec, invoke_bind, hx]
    rcases registerManifest_cases hx with ⟨e, rfl, rfl⟩ | ⟨record, hr, ⟨hfresh, rfl, rfl⟩ | ⟨-, existing, hfound, h⟩⟩
    · exact .inl ⟨e, rfl⟩
    · exact .inr ⟨_, rfl, .registered record hfresh hr.state_registrable⟩
    · rcases h with ⟨-, -, rfl, rfl⟩ | ⟨hnewer, rfl, rfl⟩
      · exact .inr ⟨_, rfl, .same⟩
      · exact .inr ⟨_, rfl, .replaced record existing hfound hnewer hr.state_registrable⟩
  | setState id expected new =>
    rcases hx : invoke (setState id expected new) self with ⟨r, s'⟩
    rw [exec, invoke_bind, hx]
    rcases setState_cases hx with ⟨e, rfl, rfl⟩ | ⟨existing, hfound, rfl, ⟨-, rfl, rfl⟩ | ⟨hallowed, rfl, rfl⟩⟩
    · exact .inl ⟨e, rfl⟩
    · exact .inr ⟨_, rfl, .same⟩
    · exact .inr ⟨_, rfl, .moved id existing new hfound hallowed rfl⟩
  | loadDirectory directory state =>
    rcases hx : invoke (loadDirectory others directory state) self with ⟨r, s'⟩
    rw [exec, hx]
    rcases loadDirectory_cases hx with ⟨e, rfl, rfl⟩ | ⟨loaded, hl, rfl, rfl⟩
    · exact .inl ⟨e, rfl⟩
    · refine .inr ⟨_, rfl, .loaded loaded hl.distinct hl.fresh ?_⟩
      intro r hr
      obtain ⟨file, -, raw, -, hregisters⟩ := forall₂_left hl.files.flip r hr
      exact hregisters.state_registrable

end Calls

/-! ## Runs -/

section Runs

variable {others : Obj → List Problem} {self self' : ConnectorRegistry} {call : RegistryCall}

/-- A registered manifest stays until a newer version replaces it. -/
structure Follows (r r' : RegisteredConnector) : Prop where
  rank : r.rank ≤ r'.rank
  same : r.rank = r'.rank → r'.manifest = r.manifest ∧ r'.manifestDigest = r.manifestDigest

theorem Follows.refl (r : RegisteredConnector) : Follows r r := ⟨le_rfl, fun _ => ⟨rfl, rfl⟩⟩

theorem Follows.trans {a b c : RegisteredConnector} (h : Follows a b) (h' : Follows b c) : Follows a c := by
  refine ⟨h.rank.trans h'.rank, ?_⟩
  intro he
  -- between equal versions nothing moves
  have hab : a.rank = b.rank := le_antisymm h.rank (he ▸ h'.rank)
  have hbc : b.rank = c.rank := hab.symm.trans he
  obtain ⟨hm, hd⟩ := h.same hab
  obtain ⟨hm', hd'⟩ := h'.same hbc
  exact ⟨hm'.trans hm, hd'.trans hd⟩

theorem change_follows (h : Change call self self') (hr : self.lookup id = some r) :
    ∃ r', self'.lookup id = some r' ∧ Follows r r' := by
  cases h with
  | same => exact ⟨r, hr, .refl r⟩
  | registered record hfresh =>
    refine ⟨r, ?_, .refl r⟩
    rw [lookup_put, if_neg, hr]
    rintro rfl
    rw [hfresh] at hr
    cases hr
  | replaced record existing hfound hnewer =>
    rw [lookup_put]
    split
    · rename_i hid
      subst hid
      rw [hfound] at hr
      cases hr
      exact ⟨record, rfl, hnewer.le, fun he => absurd he hnewer.ne⟩
    · exact ⟨r, hr, .refl r⟩
  | moved id' existing state hfound =>
    rw [lookup_put]
    split
    · rename_i hid
      have hid' := lookup_id hfound
      rw [hid, hid', hfound] at hr
      cases hr
      exact ⟨_, rfl, le_rfl, fun _ => ⟨rfl, rfl⟩⟩
    · exact ⟨r, hr, .refl r⟩
  | loaded records hdistinct hfresh =>
    refine ⟨r, ?_, .refl r⟩
    rw [lookup_puts hdistinct]
    refine .inr ⟨?_, hr⟩
    rintro r' hr' rfl
    rw [hfresh r' hr'] at hr
    cases hr

theorem exec_follows (call : RegistryCall) (self : ConnectorRegistry)
    (hr : self.lookup id = some r) : ∃ r', (exec others call self).2.lookup id = some r' ∧ Follows r r' := by
  rcases exec_cases call self with ⟨e, he⟩ | ⟨answer, -, h⟩
  · rw [he]
    exact ⟨r, hr, .refl r⟩
  · exact change_follows h hr

theorem runCalls_concat (calls : List RegistryCall) (call : RegistryCall) :
    runCalls others (calls ++ [call]) = (exec others call (runCalls others calls)).2 := by
  simp [runCalls]

/-- What was registered at some time is followed by what is registered at any later time. -/
theorem run_follows (pre post : List RegistryCall)
    (hr : (runCalls others pre).lookup id = some r) :
    ∃ r', (runCalls others (pre ++ post)).lookup id = some r' ∧ Follows r r' := by
  induction post using List.reverseRecOn with
  | nil => exact ⟨r, by simpa using hr, .refl r⟩
  | append_singleton post call ih =>
    obtain ⟨r', hr', h⟩ := ih
    obtain ⟨r'', hr'', h'⟩ := exec_follows call _ hr'
    rw [← List.append_assoc, runCalls_concat]
    exact ⟨r'', hr'', h.trans h'⟩

theorem registrable_not_active (h : Registrable state) : state ≠ .active := by
  rintro rfl
  simp [Registrable] at h

/-- Only one call makes a connector active, and it leaves the manifest as it is. -/
theorem exec_active (hr : (exec others call self).2.lookup id = some r)
    (hactive : r.state = .active) : self.lookup id = some r ∨
      call = .setState id .installedDisabled .active ∧ self.lookup id = some { r with state := .installedDisabled } := by
  rcases @exec_cases others call self with ⟨e, he⟩ | ⟨answer, -, h⟩
  · rw [he] at hr
    exact .inl hr
  · generalize (exec others call self).2 = self' at h hr
    cases h with
    | same => exact .inl hr
    | registered record _ hreg | replaced record _ _ _ hreg =>
      rw [lookup_put] at hr
      split at hr
      · cases hr
        exact absurd hactive (registrable_not_active hreg)
      · exact .inl hr
    | moved id' existing state hfound hallowed hasked =>
      rw [lookup_put] at hr
      split at hr
      · rename_i hid
        have hid' := lookup_id hfound
        cases hr
        subst hactive
        have hold : existing.state = .installedDisabled := by
          revert hallowed
          cases existing.state <;> simp [allowedTransitions]
        right
        rw [hasked, hold, hid, hid', hfound, ← hold]
        exact ⟨rfl, rfl⟩
      · exact .inl hr
    | loaded records hdistinct _ hreg =>
      rcases (lookup_puts hdistinct _ _ _).1 hr with ⟨hmem, -⟩ | ⟨-, hr⟩
      · exact absurd hactive (registrable_not_active (hreg r hmem))
      · exact .inl hr

/-- An active connector was activated, with the manifest it has now. -/
theorem run_active {calls : List RegistryCall}
    (hr : (runCalls others calls).lookup id = some r) (hactive : r.state = .active) :
    ∃ pre post, calls = pre ++ RegistryCall.setState id .installedDisabled .active :: post ∧
      (runCalls others pre).lookup id = some { r with state := .installedDisabled } := by
  induction calls using List.reverseRecOn with
  | nil => cases hr
  | append_singleton calls call ih =>
    rw [runCalls_concat] at hr
    rcases exec_active hr hactive with hbefore | ⟨rfl, hbefore⟩
    · obtain ⟨pre, post, rfl, hpre⟩ := ih hbefore
      exact ⟨pre, post ++ [call], by simp, hpre⟩
    · exact ⟨calls, [], rfl, hbefore⟩

end Runs

end Middleware.Connector

/-
The invariants across connectors: what `validate_global_invariants` finds, whatever the order of the records, and when
loading a directory keeps them. A directory is checked against itself before it is loaded, and not against the connectors
that are registered already.
-/
import Middleware.Connector.Invariants

namespace Middleware.Connector

open Lib ConnectorRegistry

/-! ## The audit -/

/-- Two manifests beside each other: no overlapping command prefixes, no common webhook route. -/
structure Apart (m m' : ConnectorManifest) : Prop where
  prefixes : m.connectorId ≠ m'.connectorId → ∀ c ∈ m.commandPolicies, ∀ c' ∈ m'.commandPolicies,
    overlaps c.commandPrefix c'.commandPrefix = false
  routes : ∀ w ∈ m.webhookPolicies, ∀ w' ∈ m'.webhookPolicies, w.routePath ≠ w'.routePath

theorem overlaps_comm (a b : String) : overlaps a b = overlaps b a := Bool.or_comm ..

theorem Apart.symm {m m' : ConnectorManifest} (h : Apart m m') : Apart m' m := by
  refine ⟨?_, fun w hw w' hw' he => h.routes w' hw' w hw he.symm⟩
  intro hne c hc c' hc'
  rw [overlaps_comm]
  exact h.prefixes hne.symm c' hc' c hc

theorem commands_fold (id : String) (commands : List CommandPolicy) (a : Audit) :
    (commands.foldl (Audit.command id) a).commandOwners = a.commandOwners ++ commands.map (·.commandPrefix, id) ∧
    (commands.foldl (Audit.command id) a).webhookRoutes = a.webhookRoutes ∧
    ((commands.foldl (Audit.command id) a).errors = [] ↔ a.errors = [] ∧
      ∀ c ∈ commands, ∀ prior ∈ a.commandOwners, prior.2 ≠ id → overlaps c.commandPrefix prior.1 = false) := by
  induction commands generalizing a with
  | nil => simp
  | cons command rest ih =>
    obtain ⟨howners, hroutes, herrors⟩ := ih (a.command id command)
    rw [List.foldl_cons]
    refine ⟨?_, hroutes, ?_⟩
    · rw [howners]
      simp [Audit.command]
    · rw [herrors]
      simp only [Audit.command, List.append_eq_nil_iff, List.map_eq_nil_iff, List.filter_eq_nil_iff, List.mem_append,
        List.mem_cons, forall_eq_or_imp]
      constructor
      · rintro ⟨⟨ha, hcommand⟩, hrest⟩
        refine ⟨ha, ?_, fun c hc prior hprior => hrest c hc prior (.inl hprior)⟩
        intro prior hprior hne
        simpa [hne] using hcommand prior hprior
      · rintro ⟨ha, hcommand, hrest⟩
        refine ⟨⟨ha, ?_⟩, ?_⟩
        · intro prior hprior
          by_cases hne : prior.2 = id
          · simp [hne]
          · simp [hcommand prior hprior hne]
        · intro c hc prior hprior hne
          rcases hprior with hprior | hprior
          · exact hrest c hc prior hprior hne
          · simp only [List.not_mem_nil, or_false] at hprior
            exact absurd (by rw [hprior]) hne

theorem webhooks_fold {id : String} (hid : id ≠ "") {webhooks : List WebhookPolicy}
    (hnodup : (webhooks.map (·.routePath)).Nodup) (a : Audit)
    (hnamed : ∀ path owner, a.webhookRoutes.lookup path = some owner → owner ≠ "") :
    (webhooks.foldl (Audit.webhook id) a).commandOwners = a.commandOwners ∧
    (∀ path, (webhooks.foldl (Audit.webhook id) a).webhookRoutes.lookup path =
      if path ∈ webhooks.map (·.routePath) then some id else a.webhookRoutes.lookup path) ∧
    ((webhooks.foldl (Audit.webhook id) a).errors = [] ↔ a.errors = [] ∧
      ∀ w ∈ webhooks, a.webhookRoutes.lookup w.routePath = none) := by
  induction webhooks generalizing a with
  | nil => simp
  | cons webhook rest ih =>
    simp only [List.map_cons, List.nodup_cons] at hnodup
    have hlookup : ∀ path, (a.webhook id webhook).webhookRoutes.lookup path =
        if path = webhook.routePath then some id else a.webhookRoutes.lookup path := by
      intro path
      by_cases hp : path = webhook.routePath
      · subst hp
        simp [Audit.webhook]
      · simp [Audit.webhook, hp, AList.lookup_insert_ne hp]
    have hnamed' : ∀ path owner, (a.webhook id webhook).webhookRoutes.lookup path = some owner → owner ≠ "" := by
      intro path owner h
      rw [hlookup] at h
      split at h
      · cases h
        exact hid
      · exact hnamed path owner h
    obtain ⟨howners, hroutes, herrors⟩ := ih hnodup.2 _ hnamed'
    have hhead : (a.webhook id webhook).errors = [] ↔ a.errors = [] ∧ a.webhookRoutes.lookup webhook.routePath = none := by
      simp only [Audit.webhook, List.append_eq_nil_iff]
      split
      · rename_i prior hprior
        simp [hprior, hnamed _ _ hprior]
      · rename_i hnone
        simp [hnone]
    rw [List.foldl_cons]
    refine ⟨howners, ?_, ?_⟩
    · intro path
      rw [hroutes, hlookup]
      by_cases hp : path = webhook.routePath
      · simp [hp]
      · simp [hp]
    · rw [herrors, hhead, and_assoc, List.forall_mem_cons]
      have hrest : (∀ w ∈ rest, (a.webhook id webhook).webhookRoutes.lookup w.routePath = none) ↔
          ∀ w ∈ rest, a.webhookRoutes.lookup w.routePath = none := by
        apply forall₂_congr
        intro w hw
        rw [hlookup, if_neg]
        intro he
        exact hnodup.1 (List.mem_map.2 ⟨w, hw, he⟩)
      rw [hrest]

/-- What the audit knows after the records `rs`. -/
structure Audited (rs : List RegisteredConnector) (a : Audit) : Prop where
  owners : a.commandOwners =
    rs.flatMap fun r => r.manifest.commandPolicies.map fun c => (c.commandPrefix, r.manifest.connectorId)
  routes : ∀ path, a.webhookRoutes.lookup path = none ↔ ∀ r ∈ rs, ∀ w ∈ r.manifest.webhookPolicies, w.routePath ≠ path
  named : ∀ path owner, a.webhookRoutes.lookup path = some owner → owner ≠ ""
  errors : a.errors = [] ↔ rs.Pairwise fun r r' => Apart r.manifest r'.manifest

theorem audited_record {rs : List RegisteredConnector} {a : Audit} (h : Audited rs a) (r : RegisteredConnector) :
    Audited (rs ++ [r]) (a.record r) := by
  obtain ⟨howners, hroutes, herrors⟩ := commands_fold r.manifest.connectorId r.manifest.commandPolicies a
  have hnamed := h.named
  rw [← hroutes] at hnamed
  obtain ⟨howners', hroutes', herrors'⟩ := webhooks_fold r.manifest.named r.manifest.routed _ hnamed
  refine ⟨?_, ?_, ?_, ?_⟩
  · rw [Audit.record, howners', howners, h.owners]
    simp
  · intro path
    rw [Audit.record, hroutes', hroutes]
    by_cases hp : path ∈ r.manifest.webhookPolicies.map (·.routePath)
    · rw [if_pos hp]
      obtain ⟨w, hw, rfl⟩ := List.mem_map.1 hp
      simp only [reduceCtorEq, false_iff, not_forall]
      exact ⟨r, by simp, w, hw, by simp⟩
    · rw [if_neg hp, h.routes]
      simp only [List.mem_append, List.mem_singleton]
      constructor
      · rintro hno r' (hr' | rfl) w hw
        · exact hno r' hr' w hw
        · exact fun he => hp (List.mem_map.2 ⟨w, hw, he⟩)
      · exact fun hno r' hr' => hno r' (.inl hr')
  · intro path owner
    rw [Audit.record, hroutes', hroutes]
    split
    · rintro ⟨⟩
      exact r.manifest.named
    · exact h.named path owner
  · rw [Audit.record, herrors', herrors, hroutes, h.errors, h.owners, List.pairwise_append]
    simp only [List.pairwise_singleton, true_and, List.mem_singleton, forall_eq, List.mem_flatMap, List.mem_map, h.routes]
    constructor
    · rintro ⟨⟨hpairs, hcommands⟩, hwebhooks⟩
      refine ⟨hpairs, fun r' hr' => ⟨?_, ?_⟩⟩
      · intro hne c hc c' hc'
        rw [overlaps_comm]
        exact hcommands c' hc' (c.commandPrefix, r'.manifest.connectorId) ⟨r', hr', c, hc, rfl⟩ hne
      · exact fun w hw w' hw' => hwebhooks w' hw' r' hr' w hw
    · rintro ⟨hpairs, happart⟩
      refine ⟨⟨hpairs, ?_⟩, ?_⟩
      · rintro c hc prior ⟨r', hr', c', hc', rfl⟩ hne
        rw [overlaps_comm]
        exact (happart r' hr').prefixes hne c' hc' c hc
      · exact fun w hw r' hr' w' hw' => (happart r' hr').routes w' hw' w hw

theorem audited_fold (rs : List RegisteredConnector) : Audited rs (rs.foldl Audit.record {}) := by
  induction rs using List.reverseRecOn with
  | nil => exact ⟨rfl, by simp, by simp, by simp⟩
  | append_singleton rs r ih =>
    rw [List.foldl_append]
    exact audited_record ih r

/-! ## Registries -/

section Registries

variable {self : ConnectorRegistry}

theorem mem_list {r : RegisteredConnector} : r ∈ self.list ↔ ∃ id, self.lookup id = some r := by
  unfold list
  rw [List.mem_filterMap]
  constructor
  · rintro ⟨id, -, h⟩
    exact ⟨id, h⟩
  · rintro ⟨id, h⟩
    refine ⟨id, ?_, h⟩
    rw [(List.perm_insertionSort _ _).mem_iff, ← AList.mem_keys, ← AList.lookup_isSome]
    exact Option.isSome_of_eq_some h

theorem list_nodup : self.list.Nodup := by
  apply List.Nodup.filterMap
  · intro id id' r h h'
    rw [← lookup_id h, ← lookup_id h']
  · exact (List.perm_insertionSort _ _).nodup_iff.2 self.connectors.keys_nodup

theorem validateGlobalInvariants_nil : self.validateGlobalInvariants = [] ↔
    ∀ id r id' r', self.lookup id = some r → self.lookup id' = some r' → id ≠ id' → Apart r.manifest r'.manifest := by
  rw [validateGlobalInvariants, (audited_fold self.list).errors]
  constructor
  · intro h id r id' r' hr hr' hne
    have hsymm : Std.Symm fun r r' : RegisteredConnector => Apart r.manifest r'.manifest := ⟨fun _ _ h => h.symm⟩
    refine h.forall (mem_list.2 ⟨id, hr⟩) (mem_list.2 ⟨id', hr'⟩) ?_
    rintro rfl
    exact hne ((lookup_id hr).symm.trans (lookup_id hr'))
  · intro h
    apply list_nodup.pairwise_of_forall_ne
    intro r hr r' hr' hne
    obtain ⟨id, hr⟩ := mem_list.1 hr
    obtain ⟨id', hr'⟩ := mem_list.1 hr'
    refine h id r id' r' hr hr' ?_
    rintro rfl
    rw [hr] at hr'
    exact hne (Option.some.inj hr')

/-- Some file of the directory holds a manifest that parses as `m`. -/
def Holds (others : Obj → List Problem) (directory : List ConnectorFile) (m : ConnectorManifest) : Prop :=
  ∃ file ∈ connectorFiles directory, ∃ raw, file.contents = some (.obj raw) ∧ parseManifest others raw = .ok m

variable {others : Obj → List Problem} {directory : List ConnectorFile} {state : ConnectorState}
  {loaded : List RegisteredConnector}

theorem Loads.holds (h : Loads others directory state self loaded) (m : ConnectorManifest) :
    Holds others directory m ↔ ∃ r ∈ loaded, r.manifest = m := by
  constructor
  · rintro ⟨file, hfile, raw, hraw, hm⟩
    obtain ⟨r, hr, raw', hraw', hregisters⟩ := forall₂_left h.files file hfile
    refine ⟨r, hr, ?_⟩
    rw [hraw] at hraw'
    cases hraw'
    rw [hregisters.manifest] at hm
    exact Except.ok.inj hm
  · rintro ⟨r, hr, rfl⟩
    obtain ⟨file, hfile, raw, hraw, hregisters⟩ := forall₂_left h.files.flip r hr
    exact ⟨file, hfile, raw, hraw, hregisters.manifest⟩

/-- Loading keeps the invariants exactly when the directory's manifests are apart from the registered ones. -/
theorem load_keeps (h : Loads others directory state self loaded) (hself : self.validateGlobalInvariants = []) :
    (loaded.foldl put self).validateGlobalInvariants = [] ↔
      ∀ m, Holds others directory m → ∀ id r, self.lookup id = some r → Apart m r.manifest := by
  have hstaged := h.staged
  rw [validateGlobalInvariants_nil] at hself hstaged ⊢
  constructor
  · intro hall m hm id r hr
    obtain ⟨record, hrecord, rfl⟩ := (h.holds m).1 hm
    have hfresh := h.fresh record hrecord
    refine hall record.manifest.connectorId record id r ?_ ?_ ?_
    · exact (lookup_puts h.distinct _ _ _).2 (.inl ⟨hrecord, rfl⟩)
    · refine (lookup_puts h.distinct _ _ _).2 (.inr ⟨?_, hr⟩)
      rintro r' hr' rfl
      rw [h.fresh r' hr'] at hr
      cases hr
    · rintro rfl
      rw [hfresh] at hr
      cases hr
  · intro hapart id r id' r' hr hr' hne
    rcases (lookup_puts h.distinct _ _ _).1 hr with ⟨hmem, hid⟩ | ⟨-, hold⟩
    · rcases (lookup_puts h.distinct _ _ _).1 hr' with ⟨hmem', hid'⟩ | ⟨-, hold'⟩
      · refine hstaged id r id' r' ?_ ?_ hne
        · exact (lookup_puts h.distinct _ _ _).2 (.inl ⟨hmem, hid⟩)
        · exact (lookup_puts h.distinct _ _ _).2 (.inl ⟨hmem', hid'⟩)
      · exact hapart _ ((h.holds _).2 ⟨r, hmem, rfl⟩) id' r' hold'
    · rcases (lookup_puts h.distinct _ _ _).1 hr' with ⟨hmem', hid'⟩ | ⟨-, hold'⟩
      · exact (hapart _ ((h.holds _).2 ⟨r', hmem', rfl⟩) id r hold).symm
      · exact hself id r id' r' hold hold' hne

theorem exec_load (h : (exec others (.loadDirectory directory state) self).1 = .ok loaded) :
    Loads others directory state self loaded ∧
      (exec others (.loadDirectory directory state) self).2 = loaded.foldl put self := by
  rcases hx : invoke (loadDirectory others directory state) self with ⟨r, self'⟩
  rw [exec, hx] at h ⊢
  rcases loadDirectory_cases hx with ⟨e, rfl, -⟩ | ⟨loaded', hl, rfl, rfl⟩
  · cases h
  · cases h
    exact ⟨hl, rfl⟩

end Registries

/-! ## The guarantees of a run -/

/-- While a connector keeps its version it keeps its manifest: between its activation and now nothing replaced it. -/
theorem active_since {others : Obj → List Problem} {calls : List RegistryCall} {id : String} {r : RegisteredConnector}
    (hr : (runCalls others calls).lookup id = some r) (hactive : r.state = .active) :
    ∃ pre post, calls = pre ++ RegistryCall.setState id .installedDisabled .active :: post ∧
      (runCalls others pre).lookup id = some { r with state := .installedDisabled } ∧
      ∀ mid, mid <+: .setState id .installedDisabled .active :: post →
        ∃ r', (runCalls others (pre ++ mid)).lookup id = some r' ∧ r'.manifest = r.manifest := by
  obtain ⟨pre, post, hcalls, hpre⟩ := run_active hr hactive
  refine ⟨pre, post, hcalls, hpre, ?_⟩
  rintro mid ⟨rest, hrest⟩
  obtain ⟨r', hr', hfirst⟩ := run_follows pre mid hpre
  obtain ⟨r'', hr'', hlast⟩ := run_follows (pre ++ mid) rest hr'
  rw [List.append_assoc, hrest, ← hcalls, hr] at hr''
  cases hr''
  refine ⟨r', hr', (hfirst.same ?_).1⟩
  exact le_antisymm hfirst.rank hlast.rank

/-- Over every sequence of calls: the registered version of a connector never decreases and one version never has two
digests; an active connector was activated with the manifest it has; a call that raises changes nothing. A directory
that loads keeps the invariants across connectors exactly when each of its manifests is apart from each registered one. -/
theorem registry_kept (others : Obj → List Problem) :
    (∀ pre post id r, (runCalls others pre).lookup id = some r → ∃ r', (runCalls others (pre ++ post)).lookup id = some r' ∧
      r.rank ≤ r'.rank ∧ (r.rank = r'.rank → r'.manifestDigest = r.manifestDigest)) ∧
    (∀ calls id r, (runCalls others calls).lookup id = some r → r.state = .active →
      ∃ pre post, calls = pre ++ .setState id .installedDisabled .active :: post ∧
        (runCalls others pre).lookup id = some { r with state := .installedDisabled } ∧
        ∀ mid, mid <+: .setState id .installedDisabled .active :: post →
          ∃ r', (runCalls others (pre ++ mid)).lookup id = some r' ∧ r'.manifest = r.manifest) ∧
    (∀ call self e, (exec others call self).1 = .error e → (exec others call self).2 = self) ∧
    (∀ directory state self loaded, (exec others (.loadDirectory directory state) self).1 = .ok loaded →
      self.validateGlobalInvariants = [] →
      ((exec others (.loadDirectory directory state) self).2.validateGlobalInvariants = [] ↔
        ∀ m, Holds others directory m → ∀ id r, self.lookup id = some r → Apart m r.manifest)) := by
  refine ⟨?_, ?_, ?_, ?_⟩
  · intro pre post id r hr
    obtain ⟨r', hr', h⟩ := run_follows pre post hr
    exact ⟨r', hr', h.rank, fun he => (h.same he).2⟩
  · intro calls id r hr hactive
    exact active_since hr hactive
  · intro call self e he
    rcases @exec_cases others call self with ⟨e', h⟩ | ⟨answer, h, -⟩
    · rw [h]
    · rw [h] at he
      cases he
  · intro directory state self loaded hok hself
    obtain ⟨hl, hafter⟩ := exec_load hok
    rw [hafter]
    exact load_keeps hl hself

/-- A complete manifest with one command prefix and one webhook. -/
def sampleManifest (connectorId commandPrefix routePath : String) : Obj :=
  [("manifest_version", .str "1.0"), ("connector_id", .str connectorId), ("display_name", .str "SMS"),
    ("version", .str "1.0.0"), ("cell", .str "core-communications"), ("repository", .str "codestra/sms"),
    ("enabled_by_default", .bool false), ("direct_n8n_access", .bool false),
    ("runtime_binding", .obj [("status", .str "UNVERIFIED_TEMPLATE_ONLY"), ("base_url", .str "https://sms.internal.invalid"),
      ("health_path", .str "/health"), ("operation_path_template", .str "/v1/operations/\x7boperation_id\x7d/status")]),
    ("authentication", .obj [("type", .str "mtls"), ("audience", .str "sms"), ("scopes", .arr [.str "sms.send"]),
      ("secret_references", .arr [.str "SMS_MTLS_CERT"])]),
    ("commands", .arr [.obj [("prefix", .str commandPrefix), ("required_capability", .str "SMS_DELIVERY"),
      ("timeout_seconds", .int 30), ("readback_required", .bool true),
      ("retry_policy", .obj [("maximum_attempts", .int 5), ("initial_backoff_seconds", .int 2),
        ("maximum_backoff_seconds", .int 120), ("jitter_ratio", .int 0), ("unknown_outcome_requires_readback", .bool true)])]]),
    ("events", .arr [.obj [("event_type", .str "sms.message.delivered.v1"), ("direction", .str "inbound")]]),
    ("webhooks", .arr [.obj [("endpoint_key", .str "sms-events"), ("route_path", .str routePath),
      ("signature_algorithm", .str "hmac-sha256"), ("signature_header", .str "X-Signature"),
      ("timestamp_header", .str "X-Timestamp"), ("event_id_header", .str "X-Event-Id"),
      ("maximum_clock_skew_seconds", .int 300), ("maximum_body_bytes", .int 1048576),
      ("acknowledgement_deadline_seconds", .int 5), ("secret_reference", .str "SMS_WEBHOOK_SECRET")]]),
    ("forbidden_payload_keys", .arr [.str "access_token", .str "client_secret", .str "password", .str "private_key",
      .str "provider_token", .str "refresh_token"]),
    ("workflow_families", .arr [.str "messaging.sms"])]

def smsRegistry : ConnectorRegistry :=
  runCalls (fun _ => []) [.registerManifest (sampleManifest "sms" "sms." "/v1/webhooks/sms") .declared false]

/-- A directory with a connector for part of the same commands. -/
def bulkDirectory : List ConnectorFile :=
  [{ path := "bulk.connector.json", contents := some (.obj (sampleManifest "sms-bulk" "sms.bulk." "/v1/webhooks/bulk")) }]

/-- Loading the second connector succeeds and leaves two connectors with overlapping prefixes. -/
theorem overlapping_load : smsRegistry.validateGlobalInvariants = [] ∧
    (∃ loaded, (exec (fun _ => []) (.loadDirectory bulkDirectory .declared) smsRegistry).1 = .ok loaded) ∧
    (exec (fun _ => []) (.loadDirectory bulkDirectory .declared) smsRegistry).2.validateGlobalInvariants ≠ [] := by
  refine ⟨by decide +kernel, ⟨_, rfl⟩, by decide +kernel⟩

end Middleware.Connector

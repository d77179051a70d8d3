/-
What `PostgresCommunicationsStore` (`app/communications.py`) reads: the rows of a tenant come into the cached store, by
`load_tenant` all of them, by `refresh_idempotency` those of one submission. `submit_message` over this store reads both before it
looks at the cache.

A payload is the message or event that it holds.
-/
import Middleware.Communications.Effects
import Middleware.Automation.Durable

namespace Middleware.Communications

open Ledger Lib
open Platform (strip)
open Automation.Durable (isTenantId)

/-- The tables, under their primary keys; the events in the order of `occurred_at` and `id`. -/
structure Durable where
  messages : OrderedDict (String × Uuid) CommunicationMessage := []
  events : List (String × MessageEvent) := []
  idempotency : OrderedDict (String × String × String) (String × Uuid) := []
  providerEvents : OrderedDict (String × String) String := []
  suppressions : List (String × String × String) := []
  cancellations : List (String × Uuid × String) := []
  foreignKey : ∀ key entry, idempotency.get key = some entry → ∃ message, messages.get (key.1, entry.2) = some message

/-- `asyncpg_tenant_connection`, which checks the tenant. -/
def tenantConnection (tenantId : String) : Except Exc Unit :=
  let value := strip tenantId
  if value.isEmpty then .error (.valueError "tenant_id is required")
  else if !isTenantId value.toList then .error (.valueError "tenant_id contains unsupported characters")
  else .ok ()

namespace Durable

variable (d : Durable) (tenantId : String)

def loadMessages (s : Store) : Store := (d.messages.filter (·.1.1 = tenantId)).foldl (fun s m => s.putMessage m.2) s

def loadEvents (s : Store) : Store := (d.events.filter (·.1 = tenantId)).foldl (fun s row => s.addEvent row.1 row.2) s

def loadIdempotency (s : Store) : Store :=
  { s with idempotency := (d.idempotency.filter (·.1.1 = tenantId)).foldl (fun entries m => entries.set m.1 m.2) s.idempotency }

def loadProviderEvents (s : Store) : Store :=
  { s with
    providerEventDigests :=
      (d.providerEvents.filter (·.1.1 = tenantId)).foldl (fun digests m => digests.set m.1 m.2) s.providerEventDigests }

def loadSuppressions (s : Store) : Store :=
  (d.suppressions.filter (·.1 = tenantId)).foldl (fun s row => s.suppress (.onChannel row.1 row.2.1 row.2.2)) s

def loadCancellations (s : Store) : Store :=
  { s with cancellations := (d.cancellations.filter (·.1 = tenantId)).foldl (fun rows row => rows.insert row) s.cancellations }

/-- `load_tenant`. -/
def loadTenant (s : Store) : Except Exc Store :=
  (tenantConnection tenantId).map fun _ =>
    d.loadCancellations tenantId (d.loadSuppressions tenantId (d.loadProviderEvents tenantId (d.loadIdempotency tenantId
      (d.loadEvents tenantId (d.loadMessages tenantId s)))))

/-- `refresh_idempotency`. -/
def refreshIdempotency (idempotencyKey : String) (s : Store) : Except Exc Store :=
  (tenantConnection tenantId).map fun _ =>
    match d.idempotency.get (tenantId, route, idempotencyKey) with
    | none => s
    | some entry =>
      match d.messages.get (tenantId, entry.2) with
      | none => s
      | some message =>
        let s := s.putMessage message
        { s with idempotency := s.idempotency.set (tenantId, route, idempotencyKey) entry }

end Durable

namespace Service

variable (svc : Service)

/-- What `submit_message` reads before it looks at the cache. -/
def hydrate (c : Submit svc.library) (d : Durable) (s : Store) : Except Exc Store := do
  let s ← d.loadTenant c.tenantId s
  d.refreshIdempotency c.tenantId c.idempotencyKey s

/-- `submit_message` over the store in PostgreSQL. -/
def submitDurable (c : Submit svc.library) (d : Durable) (w : World) : Except Exc (CommunicationMessage × Bool) × World :=
  match hydrate svc c d w.store with
  | .error e => (.error e, w)
  | .ok s => svc.submitMessage c { w with store := s }

end Service

/-! ## What is read -/

section Reads

variable {d : Durable} {tenantId idempotencyKey : String} {s s' : Store}

/-- The sets that live in the process only. -/
structure Local (s s' : Store) : Prop where
  senderIdentities : s'.senderIdentities = s.senderIdentities
  verifiedSenders : s'.verifiedSenders = s.verifiedSenders
  verifiedDomains : s'.verifiedDomains = s.verifiedDomains
  deniedConsent : s'.deniedConsent = s.deniedConsent

theorem Local.refl (s : Store) : Local s s := ⟨rfl, rfl, rfl, rfl⟩

theorem Local.trans {s'' : Store} (h : Local s s') (h' : Local s' s'') : Local s s'' where
  senderIdentities := h'.senderIdentities.trans h.senderIdentities
  verifiedSenders := h'.verifiedSenders.trans h.verifiedSenders
  verifiedDomains := h'.verifiedDomains.trans h.verifiedDomains
  deniedConsent := h'.deniedConsent.trans h.deniedConsent

/-- Writes of messages and events. -/
structure Projected (s s' : Store) : Prop extends Local s s' where
  idempotency : s'.idempotency = s.idempotency
  suppressions : s'.suppressions = s.suppressions

theorem Projected.trans {s'' : Store} (h : Projected s s') (h' : Projected s' s'') : Projected s s'' where
  toLocal := h.toLocal.trans h'.toLocal
  idempotency := h'.idempotency.trans h.idempotency
  suppressions := h'.suppressions.trans h.suppressions

theorem Projected.foldl {A : Type} {f : Store → A → Store} (hf : ∀ s a, Projected s (f s a)) (l : List A) (s : Store) :
    Projected s (l.foldl f s) := by
  induction l generalizing s with
  | nil => exact ⟨.refl s, rfl, rfl⟩
  | cons a rest ih => exact (hf s a).trans (ih (f s a))

theorem putMessage_projected (s : Store) (m : CommunicationMessage) : Projected s (s.putMessage m) := ⟨⟨rfl, rfl, rfl, rfl⟩, rfl, rfl⟩

theorem addEvent_projected (s : Store) (tenantId : String) (event : MessageEvent) : Projected s (s.addEvent tenantId event) :=
  ⟨⟨rfl, rfl, rfl, rfl⟩, rfl, rfl⟩

theorem loadEvents_projected (s : Store) : Projected s (d.loadEvents tenantId (d.loadMessages tenantId s)) := by
  have hmessages : Projected s (d.loadMessages tenantId s) := by
    exact .foldl (fun s _ => putMessage_projected s _) _ s
  refine hmessages.trans ?_
  exact .foldl (fun s _ => addEvent_projected s _ _) _ _

theorem loadSuppressions_local (s : Store) : Local s (d.loadSuppressions tenantId s) := by
  unfold Durable.loadSuppressions
  induction d.suppressions.filter (·.1 = tenantId) generalizing s with
  | nil => exact .refl s
  | cons row rest ih =>
    have hfirst : Local s (s.suppress (.onChannel row.1 row.2.1 row.2.2)) := ⟨rfl, rfl, rfl, rfl⟩
    exact hfirst.trans (ih _)

theorem loadSuppressions_idempotency (s : Store) : (d.loadSuppressions tenantId s).idempotency = s.idempotency := by
  unfold Durable.loadSuppressions
  induction d.suppressions.filter (·.1 = tenantId) generalizing s with
  | nil => rfl
  | cons row rest ih => exact ih (s.suppress (.onChannel row.1 row.2.1 row.2.2))

theorem suppress_foldl (l : List (String × String × String)) (s : Store) (entry : Suppression) :
    entry ∈ (l.foldl (fun s row => s.suppress (.onChannel row.1 row.2.1 row.2.2)) s).suppressions ↔
      entry ∈ s.suppressions ∨ ∃ row ∈ l, entry = .onChannel row.1 row.2.1 row.2.2 := by
  induction l generalizing s with
  | nil => simp
  | cons row rest ih =>
    rw [List.foldl_cons, ih, List.exists_mem_cons_iff]
    unfold Store.suppress
    rw [List.mem_insert_iff, or_assoc, or_left_comm]

theorem get_foldl_set {K V : Type} [DecidableEq K] {k : K} (l : OrderedDict K V) (h : k ∉ l.keys) (entries : OrderedDict K V) :
    (l.foldl (fun entries m => entries.set m.1 m.2) entries).get k = entries.get k := by
  induction l generalizing entries with
  | nil => rfl
  | cons m rest ih =>
    obtain ⟨hm, hrest⟩ := not_or.1 (fun h' => h (List.mem_cons.2 h'))
    rw [List.foldl_cons, ih hrest, OrderedDict.get_set_ne hm]

theorem loadTenant_ok (h : d.loadTenant tenantId s = .ok s') :
    s' = d.loadCancellations tenantId (d.loadSuppressions tenantId (d.loadProviderEvents tenantId (d.loadIdempotency tenantId
      (d.loadEvents tenantId (d.loadMessages tenantId s))))) := by
  unfold Durable.loadTenant at h
  cases htenant : tenantConnection tenantId with
  | error e =>
    rw [htenant] at h
    cases h
  | ok u =>
    rw [htenant] at h
    exact (Except.ok.inj h).symm

theorem loadTenant_local (h : d.loadTenant tenantId s = .ok s') : Local s s' := by
  rw [loadTenant_ok h]
  have hkeys : Local (d.loadEvents tenantId (d.loadMessages tenantId s)) (d.loadProviderEvents tenantId
      (d.loadIdempotency tenantId (d.loadEvents tenantId (d.loadMessages tenantId s)))) := ⟨rfl, rfl, rfl, rfl⟩
  have hrest : Local s (d.loadSuppressions tenantId _) :=
    ((loadEvents_projected s).toLocal.trans hkeys).trans (loadSuppressions_local _)
  exact ⟨hrest.senderIdentities, hrest.verifiedSenders, hrest.verifiedDomains, hrest.deniedConsent⟩

theorem mem_loadSuppressions (s : Store) (entry : Suppression) : entry ∈ (d.loadSuppressions tenantId s).suppressions ↔
    entry ∈ s.suppressions ∨ ∃ row ∈ d.suppressions.filter (·.1 = tenantId), entry = .onChannel row.1 row.2.1 row.2.2 :=
  suppress_foldl _ s entry

theorem loadTenant_mem (h : d.loadTenant tenantId s = .ok s') (entry : Suppression) : entry ∈ s'.suppressions ↔
    entry ∈ s.suppressions ∨ ∃ row ∈ d.suppressions.filter (·.1 = tenantId), entry = .onChannel row.1 row.2.1 row.2.2 := by
  rw [loadTenant_ok h]
  show entry ∈ (d.loadSuppressions tenantId _).suppressions ↔ _
  rw [mem_loadSuppressions]
  show entry ∈ (d.loadEvents tenantId (d.loadMessages tenantId s)).suppressions ∨ _ ↔ _
  rw [(loadEvents_projected s).suppressions]

theorem loadTenant_suppressions (h : d.loadTenant tenantId s = .ok s') (channel subject : String) :
    .onChannel tenantId channel subject ∈ s'.suppressions ↔
      .onChannel tenantId channel subject ∈ s.suppressions ∨ (tenantId, channel, subject) ∈ d.suppressions := by
  rw [loadTenant_mem h]
  refine or_congr_right ?_
  constructor
  · rintro ⟨⟨t, c, a⟩, hrow, heq⟩
    cases heq
    exact (List.mem_filter.1 hrow).1
  · intro hrow
    exact ⟨_, List.mem_filter.2 ⟨hrow, decide_eq_true rfl⟩, rfl⟩

theorem loadTenant_subject (h : d.loadTenant tenantId s = .ok s') (subject : String) :
    .subject tenantId subject ∈ s'.suppressions ↔ .subject tenantId subject ∈ s.suppressions := by
  rw [loadTenant_mem h, or_iff_left]
  rintro ⟨row, -, heq⟩
  cases heq

theorem loadTenant_idempotency (h : d.loadTenant tenantId s = .ok s') {key : String × String × String}
    (hnone : d.idempotency.get key = none) : s'.idempotency.get key = s.idempotency.get key := by
  rw [loadTenant_ok h]
  show (d.loadSuppressions tenantId _).idempotency.get key = _
  rw [loadSuppressions_idempotency]
  show (List.foldl _ (d.loadEvents tenantId (d.loadMessages tenantId s)).idempotency _).get key = _
  rw [get_foldl_set, (loadEvents_projected s).idempotency]
  intro hmem
  refine OrderedDict.get_eq_none.1 hnone ?_
  obtain ⟨m, hm, hkey⟩ := List.mem_map.1 hmem
  exact List.mem_map.2 ⟨m, (List.mem_filter.1 hm).1, hkey⟩

/-- A submission whose key the table does not have changes nothing. -/
theorem refresh_none (h : d.refreshIdempotency tenantId idempotencyKey s = .ok s')
    (hnone : d.idempotency.get (tenantId, route, idempotencyKey) = none) : s' = s := by
  unfold Durable.refreshIdempotency at h
  cases htenant : tenantConnection tenantId with
  | error e =>
    rw [htenant] at h
    cases h
  | ok u =>
    rw [htenant, hnone] at h
    exact (Except.ok.inj h).symm

/-- A key is not in the cache afterwards exactly if neither the table nor the cache had it. -/
theorem refresh_fresh (h : d.refreshIdempotency tenantId idempotencyKey s = .ok s') :
    s'.idempotency.get (tenantId, route, idempotencyKey) = none ↔
      d.idempotency.get (tenantId, route, idempotencyKey) = none ∧
        s.idempotency.get (tenantId, route, idempotencyKey) = none := by
  cases hentry : d.idempotency.get (tenantId, route, idempotencyKey) with
  | none =>
    rw [refresh_none h hentry]
    exact ⟨fun h => ⟨rfl, h⟩, fun h => h.2⟩
  | some entry =>
    obtain ⟨message, hmessage⟩ := d.foreignKey _ entry hentry
    unfold Durable.refreshIdempotency at h
    cases htenant : tenantConnection tenantId with
    | error e =>
      rw [htenant] at h
      cases h
    | ok u =>
      rw [htenant, hentry] at h
      have hstored : d.messages.get (tenantId, entry.2) = some message := hmessage
      have hs : s' = _ := (Except.ok.inj h).symm
      dsimp only at hs
      rw [hstored] at hs
      rw [hs]
      rw [OrderedDict.get_set_self]
      exact ⟨nofun, fun h => nomatch h.1⟩

end Reads

end Middleware.Communications

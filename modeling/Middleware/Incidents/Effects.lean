/-
What the calls of `MemoryIncidentStore` answer and write: the incident, its timeline, its notifications, and the identities
under which a call is known. An identity of a request stays what it was recorded as.
-/
import Middleware.Incidents.Store
import Middleware.Lib.Runs

namespace Middleware.Incidents

open Ledger Lib

/-! ## Identities -/

variable (tenantId : String)

theorem replayKey_toList (tag text : String) :
    (replayKey tenantId (tag ++ Sha256.hexdigest text)).toList =
      (tenantId.toList ++ ':' :: tag.toList) ++ (Sha256.hexdigest text).toList := by
  unfold replayKey
  simp [String.toList_append, toString]

/-- Identities whose tags end differently are different, whatever their tenants. -/
theorem replayKey_ne (tag tag' : String) (n : Nat) (hn : n < tag.toList.length) (hn' : n < tag'.toList.length)
    (h : tag.toList.reverse.get ⟨n, by simpa using hn⟩ ≠ tag'.toList.reverse.get ⟨n, by simpa using hn'⟩)
    (tenantId tenantId' text text' : String) :
    replayKey tenantId (tag ++ Sha256.hexdigest text) ≠ replayKey tenantId' (tag' ++ Sha256.hexdigest text') := by
  intro heq
  have hlist := congrArg String.toList heq
  rw [replayKey_toList, replayKey_toList] at hlist
  have hlengths : (Sha256.hexdigest text).toList.length = (Sha256.hexdigest text').toList.length := by
    rw [Sha256.hexdigest_length, Sha256.hexdigest_length]
  obtain ⟨htags, -⟩ := List.append_inj' hlist hlengths
  have hreverse := congrArg List.reverse htags
  rw [List.reverse_append, List.reverse_append, List.reverse_cons, List.reverse_cons] at hreverse
  have hget := congrArg (·[n]?) hreverse
  simp only [List.append_assoc] at hget
  rw [List.getElem?_append_left (by simpa using hn), List.getElem?_append_left (by simpa using hn'),
    List.getElem?_eq_getElem (by simpa using hn), List.getElem?_eq_getElem (by simpa using hn')] at hget
  exact h (Option.some.inj hget)

theorem request_ne_transition (tenantId' clientId key fingerprint groupKey : String) (lib : Library) (alert : AlertmanagerAlert) :
    replayKey tenantId (requestIdentity clientId key fingerprint) ≠ replayKey tenantId' (transitionIdentity lib groupKey alert) :=
  replayKey_ne "alert-request-v1:" "alert-transition-v1:" 4 (by decide) (by decide) (by decide) _ _ _ _

theorem request_ne_status (tenantId' clientId key fingerprint : String) (lib : Library) (item : AlertmanagerStatusItem)
    (observedAt : Moment) :
    replayKey tenantId (requestIdentity clientId key fingerprint) ≠ replayKey tenantId' (statusIdentity lib item observedAt) :=
  replayKey_ne "alert-request-v1:" "alert-status-v1:" 4 (by decide) (by decide) (by decide) _ _ _ _

theorem request_ne_activation (tenantId' clientId key fingerprint requestKey : String) :
    replayKey tenantId (requestIdentity clientId key fingerprint) ≠ replayKey tenantId' (activationEventIdentity requestKey) :=
  replayKey_ne "alert-request-v1:" "alert-activation-event-v1:" 5 (by decide) (by decide) (by decide) _ _ _ _

theorem request_ne_repeat (tenantId' clientId key fingerprint requestKey : String) :
    replayKey tenantId (requestIdentity clientId key fingerprint) ≠ replayKey tenantId' (repeatEventIdentity requestKey) :=
  replayKey_ne "alert-request-v1:" "alert-repeat-event-v1:" 5 (by decide) (by decide) (by decide) _ _ _ _

/-! ## What is written -/

namespace Store

/-- `list_timeline`, without its page. -/
def timeline (s : Store) (key : Key) : List IncidentTimelineEvent := (s.events.get key).getD []

def notificationsOf (s : Store) (key : Key) : List Notification := (s.notifications.get key).getD []

/-- Every incident is under its own tenant and id. -/
def Keyed (s : Store) : Prop := ∀ key r, s.incidents.get key = some r → (r.tenantId, r.incidentId) = key

end Store

/-- What is recorded stays recorded, and under an identity of a request it stays the same. -/
structure Keeps (s s' : Store) : Prop where
  recorded : ∀ k, (s.eventReplays.get k).isSome → (s'.eventReplays.get k).isSome
  request : ∀ tenantId clientId key fingerprint entry,
    s.eventReplays.get (replayKey tenantId (requestIdentity clientId key fingerprint)) = some entry →
    s'.eventReplays.get (replayKey tenantId (requestIdentity clientId key fingerprint)) = some entry

theorem Keeps.refl (s : Store) : Keeps s s := ⟨fun _ h => h, fun _ _ _ _ _ h => h⟩

variable {s : Store}

theorem Keeps.trans {s' s'' : Store} (h : Keeps s s') (h' : Keeps s' s'') : Keeps s s'' :=
  ⟨fun k hk => h'.recorded k (h.recorded k hk), fun _ _ _ _ _ hk => h'.request _ _ _ _ _ (h.request _ _ _ _ _ hk)⟩

theorem keeps_same {s' : Store} (h : s'.eventReplays = s.eventReplays) : Keeps s s' := by
  constructor
  · intro k hk
    rw [h]
    exact hk
  · intro tenantId clientId key fingerprint entry hget
    rw [h]
    exact hget

theorem keeps_record (s : Store) {tenantId identity : String} (digest : String) (replay : Replay)
    (h : ∀ tenantId' clientId key fingerprint, replayKey tenantId' (requestIdentity clientId key fingerprint) =
      replayKey tenantId identity → s.eventReplays.get (replayKey tenantId identity) = none) :
    Keeps s (s.record tenantId identity digest replay) := by
  constructor
  · intro k hk
    show ((s.eventReplays.set _ _).get k).isSome = true
    rw [OrderedDict.get_set]
    split
    · rfl
    · exact hk
  · intro tenantId' clientId key fingerprint entry hget
    show (s.eventReplays.set _ _).get _ = some entry
    rw [OrderedDict.get_set]
    split
    · rename_i heq
      rw [heq, h _ _ _ _ heq] at hget
      cases hget
    · exact hget

/-- An incident is written, with an event of its timeline and the notifications that come in. -/
structure Written (s s' : Store) (key : Key) (incident : IncidentRecord) (previous : Option IncidentState)
    (added : List Notification) : Prop where
  incidents : s'.incidents = s.incidents.set key incident
  timeline : ∃ event : IncidentTimelineEvent, event.previousState = previous ∧ event.newState = incident.state ∧
    s'.events = s.events.set key (s.timeline key ++ [event])
  notifications : ∀ k, s'.notificationsOf k = if k = key then s.notificationsOf k ++ added else s.notificationsOf k
  keeps : Keeps s s'

section Writes

variable {s s' : Store} {key : Key} {incident : IncidentRecord} {previous : Option IncidentState} {added : List Notification}

theorem record_get (identity digest : String) (replay : Replay) :
    (s.record tenantId identity digest replay).eventReplays.get (replayKey tenantId identity) = some (digest, replay) :=
  OrderedDict.get_set_self

theorem record_get_ne {tenantId identity k : String} (digest : String) (replay : Replay) (h : k ≠ replayKey tenantId identity) :
    (s.record tenantId identity digest replay).eventReplays.get k = s.eventReplays.get k :=
  OrderedDict.get_set_ne h

theorem appendEvent_events (s : Store) (hkey : (incident.tenantId, incident.incidentId) = key) (eventType : String)
    (previous : Option IncidentState) (actorId correlationId sourceDeployment : String) (operationId : Option Uuid) (metadata : Obj)
    (occurredAt : Moment) : ∃ event : IncidentTimelineEvent, event.previousState = previous ∧ event.newState = incident.state ∧
      (s.appendEvent incident eventType previous actorId correlationId sourceDeployment operationId metadata occurredAt).events =
        s.events.set key (s.timeline key ++ [event]) := by
  refine ⟨⟨s.eventSequence + 1, incident.incidentId, eventType, previous, incident.state, actorId, correlationId,
    sourceDeployment, operationId, metadata, occurredAt⟩, rfl, rfl, ?_⟩
  unfold Store.appendEvent Store.timeline
  rw [hkey]

theorem written_event (s : Store) (hkey : (incident.tenantId, incident.incidentId) = key) (eventType : String)
    (previous : Option IncidentState) (actorId correlationId sourceDeployment : String) (operationId : Option Uuid) (metadata : Obj)
    (occurredAt : Moment) :
    Written s ((s.putIncident key incident).appendEvent incident eventType previous actorId correlationId sourceDeployment operationId
      metadata occurredAt) key incident previous [] := by
  refine ⟨rfl, ?_, ?_, ⟨fun _ h => h, fun _ _ _ _ _ h => h⟩⟩
  · exact appendEvent_events (s.putIncident key incident) hkey eventType previous actorId correlationId sourceDeployment operationId
      metadata occurredAt
  · intro k
    rw [List.append_nil]
    split <;> rfl

theorem Written.notify (h : Written s s' key incident previous []) (operationId : Uuid) (kind : String) (scheduledAt : Time) :
    Written s (s'.notify key operationId kind scheduledAt) key incident previous
      [⟨s'.notificationSequence + 1, operationId, kind, scheduledAt⟩] := by
  refine ⟨h.incidents, h.timeline, ?_, ⟨h.keeps.recorded, h.keeps.request⟩⟩
  intro k
  have hk := h.notifications k
  unfold Store.notify Store.notificationsOf at hk ⊢
  rw [OrderedDict.get_set]
  split
  · rename_i heq
    subst heq
    rw [if_pos rfl, List.append_nil] at hk
    rw [Option.getD_some, hk]
  · rename_i hne
    rw [if_neg hne] at hk
    exact hk

end Writes

/-! ## What a call does -/

/-- The alert is not older than the incident's occurrence. -/
def Ingest.Current (lib : Library) (a : Ingest) (s : Store) : Prop :=
  ((s.incidents.get (a.key lib)).any fun r => webhookTransitionPredatesProjection a.alert r.startsAt r.endsAt) = false

/-- Neither the request nor the transition is known. -/
structure Ingest.New (lib : Library) (a : Ingest) (s : Store) : Prop where
  current : a.Current lib s
  request : s.eventReplays.get (replayKey a.policy.tenantId a.requestKey) = none
  transition : s.eventReplays.get (replayKey a.policy.tenantId (a.eventKey lib)) = none

/-- The result is recorded under the request and the transition. -/
structure Ingest.Records (lib : Library) (a : Ingest) (s : Store) (value : IncidentIngestionResult) : Prop where
  fresh : value.duplicate = false
  request : s.eventReplays.get (replayKey a.policy.tenantId a.requestKey) = some (a.digest lib, .result value)
  transition : (s.eventReplays.get (replayKey a.policy.tenantId (a.eventKey lib))).isSome

/-- What an alert's notification is, and when it is sent. -/
structure Ingest.Notifies (a : Ingest) (operation : CommandOperation) (added : Notification) (scheduledAt : Time) : Prop where
  operationId : added.operationId = operation.commandId
  kind : added.kind = a.notificationKind
  scheduledAt : added.scheduledAt = scheduledAt

/-- The observation is new, of the incident's occurrence and newer than what is known, and the ledger takes the cancellations. -/
structure IngestStatus.Taken (lib : Library) (a : IngestStatus) (w : World) (previous : IncidentRecord) (ledger : MemoryCommandStore) :
    Prop where
  event : w.store.eventReplays.get (replayKey a.policy.tenantId (a.eventKey lib)) = none
  request : w.store.eventReplays.get (replayKey a.policy.tenantId a.requestKey) = none
  found : w.store.incidents.get (a.key lib) = some previous
  group : previous.groupKey = a.item.groupKey
  occurrence : previous.startsAt.instant = a.item.startsAt.instant
  newer : ((a.evidence lib previous w.store).max?.any fun last => decide (a.observedAt.instant ≤ last)) = false
  cancelled : cancelPending a.policy.tenantId (a.incidentId lib) a.actorId a.now
    "warning left firing state before group wait elapsed" a.clock (a.pending lib w.store) w.ledger = (.ok (), ledger)

def Reply.duplicate : Reply → Bool
  | .result value => value.duplicate
  | .record value => value.duplicate
  | .unit => false

inductive Effect (lib : Library) (w : World) : Call → Except Exc Reply × World → Prop
  | refused (c : Call) (e : Exc) (ledger : MemoryCommandStore) : Effect lib w c (.error e, { w with ledger })
  | dispatched (t : Transition) (now : Time) (ledger : MemoryCommandStore) :
      Effect lib w (.dispatch t now) (.ok .unit, { w with ledger })
  | repeated (c : Call) (reply : Reply) (duplicate : reply.duplicate = true) : Effect lib w c (.ok reply, w)
  /-- A known transition is noted in the timeline. -/
  | suppressed (a : Ingest) (current : IncidentRecord) (value : IncidentIngestionResult) (s : Store) (duplicate : value.duplicate = true)
      (found : w.store.incidents.get (a.key lib) = some current) (incidents : s.incidents = w.store.incidents)
      (timeline : ∃ event : IncidentTimelineEvent, event.previousState = some current.state ∧ event.newState = current.state ∧
        s.events = w.store.events.set (a.key lib) (w.store.timeline (a.key lib) ++ [event]))
      (notifications : s.notifications = w.store.notifications) (keeps : Keeps w.store s) :
      Effect lib w (.ingest a) (.ok (.result value), { w with store := s })
  /-- A known transition is notified, for the first time or again. -/
  | renewed (a : Ingest) (current : IncidentRecord) (value : IncidentIngestionResult) (operation : CommandOperation)
      (added : Notification) (scheduledAt : Time) (s : Store) (ledger : MemoryCommandStore) (passes : a.Current lib w.store)
      (unknown : w.store.eventReplays.get (replayKey a.policy.tenantId a.requestKey) = none)
      (found : w.store.incidents.get (a.key lib) = some current) (firing : a.alert.status = .firing)
      (burning : current.state = .firing)
      (spaced : ∀ n ∈ w.store.notificationsOf (a.key lib),
        n.scheduledAt + seconds a.policy.warningRepeatIntervalSeconds ≤ scheduledAt)
      (notifies : a.Notifies operation added scheduledAt)
      (written : Written w.store s (a.key lib) (a.renewed current) (some current.state) [added]) (records : a.Records lib s value) :
      Effect lib w (.ingest a) (.ok (.result value), { store := s, ledger })
  /-- A new transition comes in. -/
  | arrived (a : Ingest) (value : IncidentIngestionResult) (operation : Option CommandOperation) (added : List Notification) (s : Store)
      (settled ledger : MemoryCommandStore) (new : a.New lib w.store)
      (cancelled : cancelPending a.policy.tenantId (a.incidentId lib) a.actorId a.now "warning resolved before group wait elapsed" a.clock
        (a.pending lib (w.store.incidents.get (a.key lib)) w.store) w.ledger = (.ok (), settled))
      (announced : a.announce lib (w.store.incidents.get (a.key lib))
        (a.pending lib (w.store.incidents.get (a.key lib)) w.store).length settled = (.ok operation, ledger))
      (notifies : List.Forall₂ (fun operation n => a.Notifies operation n
        (a.now + if a.notificationKind = "grouped" then seconds a.policy.warningGroupWaitSeconds else 0)) operation.toList added)
      (written : Written w.store s (a.key lib) (a.incident lib (w.store.incidents.get (a.key lib)))
        ((w.store.incidents.get (a.key lib)).map (·.state)) added)
      (records : a.Records lib s value) :
      Effect lib w (.ingest a) (.ok (.result value), { store := s, ledger })
  | observed (a : IngestStatus) (previous : IncidentRecord) (s : Store) (ledger : MemoryCommandStore)
      (taken : a.Taken lib w previous ledger)
      (written : Written w.store s (a.key lib) (a.incident previous) (some previous.state) []) :
      Effect lib w (.ingestStatus a) (.ok (.record (a.incident previous)), { store := s, ledger })
  | mutated (a : Mutate) (previous : IncidentRecord) (s : Store) (ledger : MemoryCommandStore)
      (found : w.store.incidents.get (a.tenantId, a.incidentId) = some previous) (allowed : previous.state ∈ Mutate.allowed a.action)
      (cancelled : cancelPending a.tenantId a.incidentId a.actorId a.now "warning was resolved before group wait elapsed" a.clock
        (a.pending w.store) w.ledger = (.ok (), ledger))
      (written : Written w.store s (a.tenantId, a.incidentId) (a.incident previous) (some previous.state) []) :
      Effect lib w (.mutate a) (.ok (.record (a.incident previous)), { store := s, ledger })

variable (lib : Library)

section Calls

variable {lib : Library} {w : World}

/-- The answer of a call to an alert, as a reply. -/
def asResult (r : Except Exc IncidentIngestionResult × World) : Except Exc Reply × World := (r.1.map .result, r.2)

def asRecord (r : Except Exc IncidentRecord × World) : Except Exc Reply × World := (r.1.map .record, r.2)

theorem transition_identity_ne (lib : Library) (a : Ingest) (tenantId clientId key fingerprint : String) :
    replayKey tenantId (requestIdentity clientId key fingerprint) ≠ replayKey a.policy.tenantId (a.eventKey lib) :=
  request_ne_transition _ _ _ _ _ _ _ _

variable {a : Ingest} {value : IncidentIngestionResult}

abbrev Ingest.put (lib : Library) (a : Ingest) (value : IncidentIngestionResult) (identity : String) (s : Store) : Store :=
  s.record a.policy.tenantId identity (a.digest lib) (.result value)

def Ingest.Foreign (a : Ingest) (identity : String) : Prop := ∀ tenantId clientId key fingerprint,
  replayKey tenantId (requestIdentity clientId key fingerprint) ≠ replayKey a.policy.tenantId identity

variable {s' : Store} {key : Key} {incident : IncidentRecord} {previous : Option IncidentState} {added : List Notification}
  {identity : String}

theorem put_request (hidentity : a.Foreign identity) : (a.put lib value identity s).eventReplays.get
    (replayKey a.policy.tenantId a.requestKey) = s.eventReplays.get (replayKey a.policy.tenantId a.requestKey) :=
  record_get_ne _ _ (hidentity _ _ _ _)

theorem Written.put (h : Written s s' key incident previous added) (hidentity : a.Foreign identity) :
    Written s (a.put lib value identity s') key incident previous added :=
  ⟨h.incidents, h.timeline, h.notifications, h.keeps.trans (keeps_record _ _ _ fun _ _ _ _ heq => absurd heq (hidentity _ _ _ _))⟩

theorem Written.records (h : Written s s' key incident previous added) (hfresh : value.duplicate = false)
    (hknown : (s'.eventReplays.get (replayKey a.policy.tenantId (a.eventKey lib))).isSome)
    (hnone : s'.eventReplays.get (replayKey a.policy.tenantId a.requestKey) = none) :
    Written s (a.put lib value a.requestKey s') key incident previous added ∧
      a.Records lib (a.put lib value a.requestKey s') value := by
  have hlast : Keeps s' (a.put lib value a.requestKey s') := keeps_record s' _ _ fun _ _ _ _ _ => hnone
  exact ⟨⟨h.incidents, h.timeline, h.notifications, h.keeps.trans hlast⟩, hfresh, record_get .., hlast.recorded _ hknown⟩

theorem Written.records_two (lib : Library) (h : Written s s' key incident previous added) (hfresh : value.duplicate = false)
    (hnone : s'.eventReplays.get (replayKey a.policy.tenantId a.requestKey) = none) :
    Written s (a.put lib value a.requestKey (a.put lib value (a.eventKey lib) s')) key incident previous added ∧
      a.Records lib (a.put lib value a.requestKey (a.put lib value (a.eventKey lib) s')) value := by
  have hevent := transition_identity_ne lib a
  refine (h.put hevent).records hfresh ?_ ?_
  · rw [record_get]
    rfl
  · rw [put_request hevent]
    exact hnone

theorem Written.records_three (lib : Library) (h : Written s s' key incident previous added) (hidentity : a.Foreign identity)
    (hfresh : value.duplicate = false) (hnone : s'.eventReplays.get (replayKey a.policy.tenantId a.requestKey) = none) :
    Written s (a.put lib value a.requestKey (a.put lib value identity (a.put lib value (a.eventKey lib) s'))) key incident previous
        added ∧
      a.Records lib (a.put lib value a.requestKey (a.put lib value identity (a.put lib value (a.eventKey lib) s'))) value := by
  have hevent := transition_identity_ne lib a
  have hkept : Keeps (a.put lib value (a.eventKey lib) s') (a.put lib value identity (a.put lib value (a.eventKey lib) s')) :=
    keeps_record _ _ _ fun _ _ _ _ heq => absurd heq (hidentity _ _ _ _)
  refine ((h.put hevent).put hidentity).records hfresh (hkept.recorded _ ?_) ?_
  · rw [record_get]
    rfl
  · rw [put_request hidentity, put_request hevent]
    exact hnone

theorem due_spaced {notifications : List Notification} (h : a.due notifications = true) :
    ∀ n ∈ notifications, n.scheduledAt + seconds a.policy.warningRepeatIntervalSeconds ≤ a.now := by
  intro n hn
  unfold Ingest.due at h
  rcases hmax : (notifications.map (·.scheduledAt)).max? with _ | last
  · rw [hmax] at h
    cases h
  · rw [hmax] at h
    have hle := (List.max?_eq_some_iff.1 hmax).2 n.scheduledAt (List.mem_map.2 ⟨n, hn, rfl⟩)
    exact le_trans (Int.add_le_add_right hle _) (of_decide_eq_true h)

variable {current : IncidentRecord}

theorem renewed_key (hkeyed : s.Keyed)
    (found : s.incidents.get (a.key lib) = some current) :
    ((a.renewed current).tenantId, (a.renewed current).incidentId) = a.key lib := by
  show (current.tenantId, current.incidentId) = a.key lib
  exact hkeyed _ _ found

section Renewed

variable (hkeyed : w.store.Keyed) (passes : a.Current lib w.store)
  (unknown : w.store.eventReplays.get (replayKey a.policy.tenantId a.requestKey) = none)
  (found : w.store.incidents.get (a.key lib) = some current) (firing : a.alert.status = .firing) (burning : current.state = .firing)
include hkeyed passes unknown found firing burning

theorem renewed_effect (eventType : String) (metadata : Obj) (hidentity : a.Foreign identity) (operation : CommandOperation)
    (scheduledAt : Time) (hspaced : ∀ n ∈ w.store.notificationsOf (a.key lib),
      n.scheduledAt + seconds a.policy.warningRepeatIntervalSeconds ≤ scheduledAt) (ledger : MemoryCommandStore)
    (hfresh : value.duplicate = false) :
    Effect lib w (.ingest a) (.ok (.result value), { ledger, store := a.put lib value a.requestKey (a.put lib value identity
      (a.put lib value (a.eventKey lib) (((w.store.putIncident (a.key lib) (a.renewed current)).appendEvent (a.renewed current)
        eventType (some current.state) a.actorId a.correlationId a.sourceDeployment (some operation.commandId) metadata
        (.utc a.now)).notify (a.key lib) operation.commandId a.notificationKind scheduledAt))) }) := by
  have hwritten := (written_event w.store (renewed_key hkeyed found) eventType (some current.state) a.actorId a.correlationId
    a.sourceDeployment (some operation.commandId) metadata (.utc a.now)).notify operation.commandId a.notificationKind scheduledAt
  obtain ⟨hwritten, hrecords⟩ := hwritten.records_three lib hidentity hfresh unknown
  exact .renewed a current _ operation ⟨w.store.notificationSequence + 1, operation.commandId, a.notificationKind, scheduledAt⟩ _ _
    ledger passes unknown found firing burning hspaced ⟨rfl, rfl, rfl⟩ hwritten hrecords

theorem activate_effect (hnone : w.store.notificationsOf (a.key lib) = []) :
    Effect lib w (.ingest a) (asResult (a.activate lib current w)) := by
  unfold asResult Ingest.activate
  split
  · exact .refused _ _ _
  split
  · exact .refused _ _ _
  rename_i operation ledger _
  refine renewed_effect hkeyed passes unknown found firing burning _ _ (fun _ _ _ _ => request_ne_activation _ _ _ _ _ _) operation
    _ ?_ ledger rfl
  intro n hn
  rw [hnone] at hn
  cases hn

theorem notifyAgain_effect (hdue : a.due (w.store.notificationsOf (a.key lib)) = true) :
    Effect lib w (.ingest a) (asResult (a.notifyAgain lib current w)) := by
  unfold asResult Ingest.notifyAgain
  split
  · exact .refused _ _ _
  split
  · exact .refused _ _ _
  split
  · exact .refused _ _ _
  rename_i operation ledger _
  exact renewed_effect hkeyed passes unknown found firing burning _ _ (fun _ _ _ _ => request_ne_repeat _ _ _ _ _ _) operation _
    (due_spaced hdue) ledger rfl

end Renewed

theorem suppress_effect (hkeyed : w.store.Keyed) (value : IncidentIngestionResult)
    (unknown : w.store.eventReplays.get (replayKey a.policy.tenantId a.requestKey) = none)
    (found : w.store.incidents.get (a.key lib) = some current) :
    Effect lib w (.ingest a) (asResult (a.suppress lib value current w)) := by
  have hkey : (current.tenantId, current.incidentId) = a.key lib := hkeyed _ _ found
  refine .suppressed a current _ _ rfl found rfl ?_ rfl ?_
  · exact appendEvent_events w.store hkey ..
  · refine Keeps.trans (keeps_same ?_) (keeps_record _ _ _ fun _ _ _ _ _ => ?_)
    · rfl
    · exact unknown

theorem known_effect (hkeyed : w.store.Keyed) (value : IncidentIngestionResult) (passes : a.Current lib w.store)
    (unknown : w.store.eventReplays.get (replayKey a.policy.tenantId a.requestKey) = none) :
    Effect lib w (.ingest a) (asResult (a.known lib value w)) := by
  unfold Ingest.known
  split
  · exact .refused _ _ _
  rename_i current found
  dsimp only
  split
  · rename_i h
    obtain ⟨firing, -, hnone, burning⟩ := h
    exact activate_effect hkeyed passes unknown found firing burning (List.isEmpty_iff.1 hnone)
  split
  · rename_i h
    obtain ⟨firing, -, -, burning, hdue⟩ := h
    exact notifyAgain_effect hkeyed passes unknown found firing burning hdue
  split
  · exact suppress_effect hkeyed value unknown found
  · exact .repeated _ _ rfl

theorem transition_effect (hnew : a.New lib w.store) : Effect lib w (.ingest a) (asResult (a.transition lib w)) := by
  unfold asResult Ingest.transition
  dsimp only
  split
  · exact .refused _ _ _
  rename_i u settled hcancelled
  split
  · exact .refused _ _ _
  rename_i operation ledger hannounced
  have hkey : ((a.incident lib (w.store.incidents.get (a.key lib))).tenantId,
      (a.incident lib (w.store.incidents.get (a.key lib))).incidentId) = a.key lib := rfl
  rcases operation with _ | operation
  · have hwritten := written_event w.store hkey
      (nextIncidentState ((w.store.incidents.get (a.key lib)).map (·.state)) a.alert.status.state).2
      ((w.store.incidents.get (a.key lib)).map (·.state)) a.actorId a.correlationId a.sourceDeployment none
      [("event_key", .str (a.eventKey lib)), ("payload_sha256", .str (a.digest lib))] (.utc a.now)
    have hrecords (value : IncidentIngestionResult) (hfresh : value.duplicate = false) := hwritten.records_two lib hfresh hnew.request
    exact .arrived a _ none [] _ settled ledger hnew hcancelled hannounced .nil (hrecords _ rfl).1 (hrecords _ rfl).2
  · have hwritten := (written_event w.store hkey
      (nextIncidentState ((w.store.incidents.get (a.key lib)).map (·.state)) a.alert.status.state).2
      ((w.store.incidents.get (a.key lib)).map (·.state)) a.actorId a.correlationId a.sourceDeployment (some operation.commandId)
      [("event_key", .str (a.eventKey lib)), ("payload_sha256", .str (a.digest lib))] (.utc a.now)).notify operation.commandId
      a.notificationKind (a.now + if a.notificationKind = "grouped" then seconds a.policy.warningGroupWaitSeconds else 0)
    have hrecords (value : IncidentIngestionResult) (hfresh : value.duplicate = false) := hwritten.records_two lib hfresh hnew.request
    exact .arrived a _ (some operation) [⟨w.store.notificationSequence + 1, operation.commandId, a.notificationKind,
      a.now + if a.notificationKind = "grouped" then seconds a.policy.warningGroupWaitSeconds else 0⟩] _ settled ledger hnew
      hcancelled hannounced (.cons ⟨rfl, rfl, rfl⟩ .nil) (hrecords _ rfl).1
      (hrecords _ rfl).2

theorem ingest_effect (hkeyed : w.store.Keyed) (a : Ingest) : Effect lib w (.ingest a) (asResult (ingest lib a w)) := by
  unfold ingest
  dsimp only
  split
  · exact .refused _ _ _
  rename_i hpredates
  have passes : a.Current lib w.store := by
    unfold Ingest.Current
    simpa using hpredates
  split
  · exact .refused _ _ _
  · split
    · exact .refused _ _ _
    · exact .repeated _ _ rfl
  rename_i hrequest
  split
  · exact .refused _ _ _
  · split
    · exact .refused _ _ _
    · exact known_effect hkeyed _ passes hrequest
  · rename_i htransition
    exact transition_effect ⟨passes, hrequest, htransition⟩

variable {a : IngestStatus}

theorem records_status {value : IncidentRecord}
    (hnone : s.eventReplays.get (replayKey a.policy.tenantId a.requestKey) = none) :
    Keeps s ((s.record a.policy.tenantId (a.eventKey lib) (a.digest lib) (.record value)).record a.policy.tenantId a.requestKey
      (a.digest lib) (.record value)) := by
  have hevent : ∀ tenantId clientId key fingerprint,
      replayKey tenantId (requestIdentity clientId key fingerprint) ≠ replayKey a.policy.tenantId (a.eventKey lib) := by
    intro tenantId clientId key fingerprint
    exact request_ne_status _ _ _ _ _ _ _ _
  have hnew : replayKey a.policy.tenantId a.requestKey ≠ replayKey a.policy.tenantId (a.eventKey lib) := hevent _ _ _ _
  refine (keeps_record s _ _ fun _ _ _ _ heq => absurd heq (hevent _ _ _ _)).trans (keeps_record _ _ _ fun _ _ _ _ _ => ?_)
  rw [record_get_ne _ _ hnew]
  exact hnone

variable {ledger : MemoryCommandStore} {previous : IncidentRecord}

theorem observe_effect (hkeyed : w.store.Keyed)
    (taken : a.Taken lib w previous ledger) : ∃ s, a.observe lib previous w = (.ok (a.incident previous), { store := s, ledger }) ∧
      Written w.store s (a.key lib) (a.incident previous) (some previous.state) [] := by
  have hkey : ((a.incident previous).tenantId, (a.incident previous).incidentId) = a.key lib := by
    show (previous.tenantId, previous.incidentId) = a.key lib
    exact hkeyed _ _ taken.found
  have hwritten := written_event w.store hkey (nextIncidentState (some previous.state) a.item.state).2 (some previous.state) a.actorId
    a.correlationId a.sourceDeployment none [("event_key", .str (a.eventKey lib)),
      ("silenced_by", .arr ((sorted a.item.silencedBy).map .str)), ("inhibited_by", .arr ((sorted a.item.inhibitedBy).map .str)),
      ("status_source", .str "alertmanager-status")] a.observedAt
  unfold IngestStatus.observe
  rw [taken.cancelled]
  refine ⟨_, rfl, ?_⟩
  refine ⟨hwritten.incidents, hwritten.timeline, hwritten.notifications, hwritten.keeps.trans ?_⟩
  exact Keeps.trans (records_status taken.request) (keeps_same rfl)

theorem ingestStatus_taken
    (taken : a.Taken lib w previous ledger) : ingestStatus lib a w = a.observe lib previous w := by
  unfold ingestStatus
  dsimp only
  rw [taken.event, taken.request]
  rw [taken.found]
  dsimp only
  rw [if_neg (not_not.2 taken.group), if_neg (not_not.2 taken.occurrence), taken.newer]
  rfl

theorem ingestStatus_effect (hkeyed : w.store.Keyed) (a : IngestStatus) :
    Effect lib w (.ingestStatus a) (asRecord (ingestStatus lib a w)) := by
  unfold ingestStatus
  dsimp only
  split
  · exact .refused _ _ _
  split
  · exact .refused _ _ _
  · split
    · exact .refused _ _ _
    · exact .repeated _ _ rfl
  rename_i hunknown
  have hunknown' : w.store.eventReplays.get (replayKey a.policy.tenantId (a.eventKey lib)) = none ∧
      w.store.eventReplays.get (replayKey a.policy.tenantId a.requestKey) = none := by
    rcases hfirst : w.store.eventReplays.get (replayKey a.policy.tenantId (a.eventKey lib)) with _ | entry
    · rw [hfirst] at hunknown
      exact ⟨rfl, hunknown⟩
    · rw [hfirst] at hunknown
      cases hunknown
  split
  · exact .refused _ _ _
  rename_i previous found
  split
  · exact .refused _ _ _
  rename_i hgroup
  split
  · exact .refused _ _ _
  rename_i hoccurrence
  split
  · exact .refused _ _ _
  rename_i hnewer
  rcases hcancel : cancelPending a.policy.tenantId (a.incidentId lib) a.actorId a.now
    "warning left firing state before group wait elapsed" a.clock (a.pending lib w.store) w.ledger with ⟨e | u, ledger⟩
  · unfold asRecord IngestStatus.observe
    rw [hcancel]
    exact .refused _ _ _
  · have taken : a.Taken lib w previous ledger :=
      ⟨hunknown'.1, hunknown'.2, found, not_not.1 hgroup, not_not.1 hoccurrence, by simpa using hnewer, hcancel⟩
    obtain ⟨s, hobserve, hwritten⟩ := observe_effect hkeyed taken
    rw [hobserve]
    exact .observed a previous s ledger taken hwritten

theorem mutate_effect (hkeyed : w.store.Keyed) (a : Mutate) : Effect lib w (.mutate a) (asRecord (mutate a w)) := by
  unfold mutate
  dsimp only
  split
  · split
    · exact .refused _ _ _
    · exact .repeated _ _ rfl
  split
  · exact .refused _ _ _
  rename_i previous found
  split
  · exact .refused _ _ _
  split
  · exact .refused _ _ _
  rename_i hallowed
  split
  · exact .refused _ _ _
  rename_i u ledger hcancelled
  have hkey : ((a.incident previous).tenantId, (a.incident previous).incidentId) = (a.tenantId, a.incidentId) := by
    show (previous.tenantId, previous.incidentId) = (a.tenantId, a.incidentId)
    exact hkeyed _ _ found
  have hwritten := written_event w.store hkey a.action.value (some previous.state) a.actorId a.correlationId
    previous.sourceDeployment none [("reason", .str a.reason), ("idempotency_key", .str a.idempotencyKey)] (.utc a.now)
  refine .mutated a previous _ ledger found (not_not.1 hallowed) hcancelled ?_
  exact ⟨hwritten.incidents, hwritten.timeline, hwritten.notifications, hwritten.keeps.trans (keeps_same rfl)⟩

theorem perform_effect (lib : Library) (c : Call) (hkeyed : w.store.Keyed) : Effect lib w c (perform lib c w) := by
  cases c with
  | ingest a => exact ingest_effect hkeyed a
  | ingestStatus a => exact ingestStatus_effect hkeyed a
  | mutate a => exact mutate_effect hkeyed a
  | dispatch t now =>
    unfold perform
    dsimp only
    rcases Ledger.perform (MemoryCommandStore.transition t now) w.ledger with ⟨e | operation, ledger⟩
    · exact .refused _ _ _
    · exact .dispatched t now ledger

end Calls

/-! ## Runs -/

abbrev after (lib : Library) (calls : List Call) : World := runFrom (call lib) {} calls

theorem Written.keyed {s' : Store} {key : Key} {incident : IncidentRecord} {previous : Option IncidentState}
    {added : List Notification} (h : Written s s' key incident previous added) (hs : s.Keyed)
    (hkey : (incident.tenantId, incident.incidentId) = key) : s'.Keyed := by
  intro k r hget
  rw [h.incidents, OrderedDict.get_set] at hget
  split at hget
  · rename_i hk
    cases hget
    rw [hk, hkey]
  · exact hs k r hget

variable {w : World}

theorem keyed_call (c : Call) (h : w.store.Keyed) : (call lib c w).store.Keyed := by
  have heffect := perform_effect lib c h
  unfold call
  generalize perform lib c w = x at heffect ⊢
  cases heffect with
  | refused => exact h
  | dispatched => exact h
  | repeated => exact h
  | suppressed a current value s duplicate found incidents =>
    intro k r hget
    rw [incidents] at hget
    exact h k r hget
  | renewed a current value operation added scheduledAt s ledger passes unknown found firing burning spaced notifies written =>
    exact written.keyed h (renewed_key h found)
  | arrived a value operation added s settled ledger new cancelled announced notifies written => exact written.keyed h rfl
  | observed a previous s ledger taken written =>
    refine written.keyed h ?_
    show (previous.tenantId, previous.incidentId) = _
    exact h _ _ taken.found
  | mutated a previous s ledger found allowed cancelled written =>
    refine written.keyed h ?_
    show (previous.tenantId, previous.incidentId) = _
    exact h _ _ found

theorem keyed_after (calls : List Call) : (after lib calls).store.Keyed := by
  refine runFrom_invariant (I := fun w : World => w.store.Keyed) ?_ fun w c h => keyed_call lib c h
  intro key r hget
  cases hget

theorem keeps_call (c : Call) (h : w.store.Keyed) : Keeps w.store (call lib c w).store := by
  have heffect := perform_effect lib c h
  unfold call
  generalize perform lib c w = x at heffect ⊢
  cases heffect with
  | refused => exact .refl _
  | dispatched => exact .refl _
  | repeated => exact .refl _
  | suppressed a current value s duplicate found incidents timeline notifications keeps => exact keeps
  | renewed a current value operation added scheduledAt s ledger passes unknown found firing burning spaced notifies written =>
    exact written.keeps
  | arrived a value operation added s settled ledger new cancelled announced notifies written => exact written.keeps
  | observed a previous s ledger taken written => exact written.keeps
  | mutated a previous s ledger found allowed cancelled written => exact written.keeps

theorem keeps_run (rest : List Call) (h : w.store.Keyed) :
    Keeps w.store (runFrom (call lib) w rest).store := by
  induction rest generalizing w with
  | nil => exact .refl _
  | cons c rest ih => exact (keeps_call lib c h).trans (ih (keyed_call lib c h))

end Middleware.Incidents

/-
`MemoryIncidentStore` of `app/observability_incidents.py` over `MemoryCommandStore`: alerts and status snapshots that come in,
the mutations of operators, and the notification commands that the incidents submit and cancel.

Each call runs under the store's lock, so it is one step. It has its own reading of the clock, and the ledger's calls in it
have theirs.
-/
import Middleware.Incidents.Alerts
import Middleware.Events.Storage

namespace Middleware.Incidents

open Ledger Lib
open Events (canonicalPayloadSha256)

def conflict (message : String) : Exc := .other "IncidentConflict" message

def notFound (message : String) : Exc := .other "IncidentNotFound" message

/-! ## Records -/

inductive IncidentState where
  | firing
  | acknowledged
  | resolved
  | inhibited
  | silenced
  deriving DecidableEq

/-- The states that Alertmanager reports. -/
inductive StatusState where
  | firing
  | resolved
  | inhibited
  | silenced
  deriving DecidableEq

def StatusState.value : StatusState → String
  | firing => "firing"
  | resolved => "resolved"
  | inhibited => "inhibited"
  | silenced => "silenced"

inductive IncidentAction where
  | acknowledge
  | resolve
  | reopen
  deriving DecidableEq

def IncidentAction.value : IncidentAction → String
  | acknowledge => "acknowledge"
  | resolve => "resolve"
  | reopen => "reopen"

structure IncidentRecord where
  incidentId : Uuid
  tenantId : String
  alertFingerprint : String
  groupKey : String
  state : IncidentState
  severity : String
  service : String
  environment : String
  host : String
  labels : OrderedDict String String
  annotations : OrderedDict String String
  firstSeenAt : Moment
  lastSeenAt : Time
  startsAt : Moment
  endsAt : Option Moment := none
  acknowledgedAt : Option Time := none
  acknowledgedBy : Option String := none
  resolvedAt : Option Time := none
  sourceDeployment : String
  correlationId : String
  resourceVersion : Nat
  createdAt : Time
  updatedAt : Time
  duplicate : Bool := false
  deriving DecidableEq

/-- The record with its instants in UTC: two instants are equal whatever their time zones. -/
def IncidentRecord.utc (r : IncidentRecord) : IncidentRecord :=
  { r with
    firstSeenAt := .utc r.firstSeenAt.instant
    startsAt := .utc r.startsAt.instant
    endsAt := r.endsAt.map fun m => .utc m.instant }

structure IncidentTimelineEvent where
  eventId : Nat
  incidentId : Uuid
  eventType : String
  previousState : Option IncidentState
  newState : IncidentState
  actorId : String
  correlationId : String
  sourceDeployment : String
  operationId : Option Uuid
  safeMetadata : Obj
  occurredAt : Moment

structure IncidentIngestionResult where
  incident : IncidentRecord
  operation : Option CommandOperation
  notificationStatus : String
  timelineEventId : Nat
  duplicate : Bool

def IncidentIngestionResult.duplicated (r : IncidentIngestionResult) : IncidentIngestionResult :=
  { r with
    duplicate := true
    incident := { r.incident with duplicate := true }
    operation := r.operation.map fun operation => { operation with duplicate := true } }

/-- What is recorded under an identity. -/
inductive Replay where
  | result (value : IncidentIngestionResult)
  | record (value : IncidentRecord)

/-- A notification command of an incident. -/
structure Notification where
  notificationId : Nat
  operationId : Uuid
  kind : String
  scheduledAt : Time

/-- The tenant and the incident's id. -/
abbrev Key := String × Uuid

structure Store where
  incidents : OrderedDict Key IncidentRecord := []
  events : OrderedDict Key (List IncidentTimelineEvent) := []
  eventReplays : OrderedDict String (String × Replay) := []
  notifications : OrderedDict Key (List Notification) := []
  mutations : OrderedDict (String × Uuid × IncidentAction × String × String) (String × IncidentRecord) := []
  statusObserved : OrderedDict Key Moment := []
  eventSequence : Nat := 0
  notificationSequence : Nat := 0

structure World where
  store : Store := {}
  ledger : MemoryCommandStore := {}

/-! ## Identities -/

def incidentIdentity (lib : Library) (tenantId fingerprint : String) : Uuid :=
  lib.uuid5 s!"https://operations.codestra.co/observability/incidents/{tenantId}/{fingerprint}"

def transitionIdentity (lib : Library) (groupKey : String) (alert : AlertmanagerAlert) : String :=
  "alert-transition-v1:" ++ Sha256.hexdigest (joinLines
    ["codestra-alertmanager-transition-v1", groupKey, alert.fingerprint, alert.status.value, lib.isoformat alert.startsAt])

def repeatEventIdentity (requestKey : String) : String := "alert-repeat-event-v1:" ++ Sha256.hexdigest requestKey

def suppressedEventIdentity (requestKey : String) : String := "alert-suppressed-event-v1:" ++ Sha256.hexdigest requestKey

def activationEventIdentity (requestKey : String) : String := "alert-activation-event-v1:" ++ Sha256.hexdigest requestKey

def requestIdentity (clientId key fingerprint : String) : String :=
  "alert-request-v1:" ++ Sha256.hexdigest (joinLines [clientId, key, fingerprint])

/-- The key of an identity in `_event_replays`. -/
def replayKey (tenantId identity : String) : String := s!"{tenantId}:{identity}"

/-- `repeat_command`, before the envelope's checks. -/
def repeatOf (lib : Library) (command : CommandEnvelope) (requestKey : String) : CommandEnvelope :=
  let idempotencyKey := "obs-alert-repeat-v1:" ++ Sha256.hexdigest (joinLines [command.idempotencyKey, requestKey])
  let commandId := lib.uuid5 s!"https://operations.codestra.co/observability/alert-repeats/{idempotencyKey}"
  let alert := match command.payload.lookup "alert" with
    | some (.obj alert) => alert
    | _ => []
  { command with
    commandId := commandId
    idempotencyKey := idempotencyKey
    payload := Obj.set (Obj.set command.payload "message_id" (.str commandId)) "alert"
      (.obj (Obj.set alert "notification_repeat" (.bool true))) }

/-- `repeat_command`. -/
def repeatCommand (lib : Library) (command : CommandEnvelope) (requestKey : String) : Except Exc CommandEnvelope :=
  lib.envelope (repeatOf lib command requestKey)

/-- `next_incident_state`. -/
def nextIncidentState (previous : Option IncidentState) : StatusState → IncidentState × String
  | .resolved => (.resolved, "resolved")
  | .inhibited => (.inhibited, "inhibited")
  | .silenced => (.silenced, "silenced")
  | .firing =>
    match previous with
    | some .resolved => (.firing, "reopened")
    | some .acknowledged => (.acknowledged, "firing")
    | _ => (.firing, "firing")

def AlertStatus.state : AlertStatus → StatusState
  | firing => .firing
  | resolved => .resolved

/-- `webhook_transition_predates_projection`. -/
def webhookTransitionPredatesProjection (alert : AlertmanagerAlert) (startsAt : Moment) (endsAt : Option Moment) : Bool :=
  decide (alert.startsAt.instant < startsAt.instant) ||
    (decide (alert.status = .firing) && decide (alert.startsAt.instant = startsAt.instant) && endsAt.isSome)

/-! ## Timeline and notifications -/

namespace Store

variable (s : Store)

/-- `_append_event`. -/
def appendEvent (incident : IncidentRecord) (eventType : String) (previous : Option IncidentState)
    (actorId correlationId sourceDeployment : String) (operationId : Option Uuid) (metadata : Obj) (occurredAt : Moment) : Store :=
  let key : Key := (incident.tenantId, incident.incidentId)
  let event : IncidentTimelineEvent :=
    { eventId := s.eventSequence + 1
      incidentId := incident.incidentId
      eventType := eventType
      previousState := previous
      newState := incident.state
      actorId := actorId
      correlationId := correlationId
      sourceDeployment := sourceDeployment
      operationId := operationId
      safeMetadata := metadata
      occurredAt := occurredAt }
  { s with
    eventSequence := s.eventSequence + 1
    events := s.events.set key ((s.events.get key).getD [] ++ [event]) }

def putIncident (key : Key) (incident : IncidentRecord) : Store := { s with incidents := s.incidents.set key incident }

/-- A notification is added to those of the incident. -/
def notify (key : Key) (operationId : Uuid) (kind : String) (scheduledAt : Time) : Store :=
  { s with
    notificationSequence := s.notificationSequence + 1
    notifications := s.notifications.set key
      ((s.notifications.get key).getD [] ++ [⟨s.notificationSequence + 1, operationId, kind, scheduledAt⟩]) }

/-- `_event_replays[...] = ...`. -/
def record (tenantId identity digest : String) (replay : Replay) : Store :=
  { s with eventReplays := s.eventReplays.set (replayKey tenantId identity) (digest, replay) }

end Store

/-- `_cancel_pending_grouped_notifications`, over the incident's notifications. -/
def cancelPending (tenantId : String) (incidentId : Uuid) (actorId : String) (now : Time) (reason : String) (clock : Nat → Time) :
    List Notification → MemoryCommandStore → Except Exc Unit × MemoryCommandStore
  | [], ledger => (.ok (), ledger)
  | notification :: rest, ledger =>
    let next := cancelPending tenantId incidentId actorId now reason (fun i => clock (i + 1)) rest
    if notification.kind ≠ "grouped" ∨ notification.scheduledAt ≤ now then next ledger
    else
      match Ledger.perform (MemoryCommandStore.get tenantId notification.operationId) ledger with
      | (.error e, ledger) => (.error e, ledger)
      | (.ok pending, ledger) =>
        if pending.state ≠ .persisted ∧ pending.state ≠ .queued then next ledger
        else
          match Ledger.perform (MemoryCommandStore.mutateOperation
            { tenantId := tenantId
              commandId := notification.operationId
              action := .cancel
              actorId := actorId
              idempotencyKey := s!"incident-group-wait-cancel-v1:{incidentId}:{notification.operationId}"
              expectedVersion := pending.resourceVersion
              reason := reason } (clock 0)) ledger with
          | (.error e, ledger) => (.error e, ledger)
          | (.ok _, ledger) => next ledger

/-! ## Alerts -/

/-- The arguments of `ingest`, with its reading of the clock and those of the ledger's calls. -/
structure Ingest where
  policy : AlertPolicy
  groupKey : String
  alert : AlertmanagerAlert
  actorId : String
  correlationId : String
  sourceDeployment : String
  requestIdempotencyKey : String
  command : Option CommandEnvelope
  authenticatedClientId : String
  notificationKind : String
  now : Time
  clock : Nat → Time

namespace Ingest

variable (lib : Library) (a : Ingest)

def eventKey : String := transitionIdentity lib a.groupKey a.alert

def requestKey : String := requestIdentity a.authenticatedClientId a.requestIdempotencyKey a.alert.fingerprint

/-- `payload_digest`. -/
def digest : String := canonicalPayloadSha256 [("group_key", .str a.groupKey), ("alert", .obj (a.alert.modelDump lib))]

def incidentId : Uuid := incidentIdentity lib a.policy.tenantId a.alert.fingerprint

def key : Key := (a.policy.tenantId, a.incidentId lib)

/-- `build_command` for the incident. -/
def build (firstSeenAt : Moment) : Except Exc CommandEnvelope :=
  buildCommand lib a.policy a.alert a.groupKey a.policy.receiver a.actorId a.correlationId (a.incidentId lib) firstSeenAt

/-- `self.commands.store.submit`, the last of the ledger's calls. -/
def submit (command : CommandEnvelope) (reading : Nat) (ledger : MemoryCommandStore) :
    Except Exc CommandOperation × MemoryCommandStore :=
  Ledger.perform
    (MemoryCommandStore.submit { command, authenticatedClientId := a.authenticatedClientId } (a.clock reading)) ledger

/-- The incident after another notification of the transition. -/
def renewed (previous : IncidentRecord) : IncidentRecord :=
  { previous with
    state := (nextIncidentState (some previous.state) a.alert.status.state).1
    lastSeenAt := a.now
    sourceDeployment := a.sourceDeployment
    correlationId := a.correlationId
    resourceVersion := previous.resourceVersion + 1
    updatedAt := a.now
    duplicate := false }

/-- The incident after a new transition. -/
def incident (previous : Option IncidentRecord) : IncidentRecord :=
  let state := (nextIncidentState (previous.map (·.state)) a.alert.status.state).1
  { incidentId := a.incidentId lib
    tenantId := a.policy.tenantId
    alertFingerprint := a.alert.fingerprint
    groupKey := a.groupKey
    state := state
    severity := a.alert.label "severity"
    service := a.alert.label "service"
    environment := a.alert.label "environment"
    host := a.alert.label "host"
    labels := a.alert.labels
    annotations := a.alert.annotations
    firstSeenAt := (previous.map (·.firstSeenAt)).getD a.alert.startsAt
    lastSeenAt := a.now
    startsAt := a.alert.startsAt
    endsAt := if a.alert.status = .resolved then some a.alert.endsAt else none
    acknowledgedAt := if state = .acknowledged then previous.bind (·.acknowledgedAt) else none
    acknowledgedBy := if state = .acknowledged then previous.bind (·.acknowledgedBy) else none
    resolvedAt := if state = .resolved then some a.now else none
    sourceDeployment := a.sourceDeployment
    correlationId := a.correlationId
    resourceVersion := (previous.map (·.resourceVersion + 1)).getD 1
    createdAt := (previous.map (·.createdAt)).getD a.now
    updatedAt := a.now }

/-- A known transition for which no notification was submitted yet. -/
def activate (previous : IncidentRecord) (w : World) : Except Exc IncidentIngestionResult × World :=
  match a.build lib previous.firstSeenAt with
  | .error e => (.error e, w)
  | .ok command =>
    match a.submit command 0 w.ledger with
    | (.error e, ledger) => (.error e, { w with ledger })
    | (.ok operation, ledger) =>
      let incident := a.renewed previous
      let s := w.store.putIncident (a.key lib) incident
      let s := s.appendEvent incident "firing" (some previous.state) a.actorId a.correlationId a.sourceDeployment
        (some operation.commandId) [("event_key", .str (activationEventIdentity a.requestKey)), ("payload_sha256", .str (a.digest lib)),
          ("activated_transition", .str (a.eventKey lib))] (.utc a.now)
      let wait := if a.notificationKind = "grouped" then seconds a.policy.warningGroupWaitSeconds else 0
      let s := s.notify (a.key lib) operation.commandId a.notificationKind (a.now + wait)
      let result : IncidentIngestionResult :=
        { incident := incident
          operation := some operation
          notificationStatus := if a.notificationKind = "grouped" then "scheduled" else "queued"
          timelineEventId := s.eventSequence
          duplicate := false }
      let s := s.record a.policy.tenantId (a.eventKey lib) (a.digest lib) (.result result)
      let s := s.record a.policy.tenantId (activationEventIdentity a.requestKey) (a.digest lib) (.result result)
      let s := s.record a.policy.tenantId a.requestKey (a.digest lib) (.result result)
      (.ok result, { store := s, ledger })

/-- A known transition whose notification is due again. -/
def notifyAgain (previous : IncidentRecord) (w : World) : Except Exc IncidentIngestionResult × World :=
  match a.build lib previous.firstSeenAt with
  | .error e => (.error e, w)
  | .ok command =>
    match repeatCommand lib command a.requestKey with
    | .error e => (.error e, w)
    | .ok repeated =>
      match a.submit repeated 0 w.ledger with
      | (.error e, ledger) => (.error e, { w with ledger })
      | (.ok operation, ledger) =>
        let incident := a.renewed previous
        let s := w.store.putIncident (a.key lib) incident
        let s := s.appendEvent incident "notification_repeat" (some previous.state) a.actorId a.correlationId a.sourceDeployment
          (some operation.commandId) [("event_key", .str (repeatEventIdentity a.requestKey)), ("payload_sha256", .str (a.digest lib)),
            ("repeat_of_transition", .str (a.eventKey lib))] (.utc a.now)
        let s := s.notify (a.key lib) operation.commandId a.notificationKind a.now
        let result : IncidentIngestionResult :=
          { incident := incident
            operation := some operation
            notificationStatus := "queued"
            timelineEventId := s.eventSequence
            duplicate := false }
        let s := s.record a.policy.tenantId (a.eventKey lib) (a.digest lib) (.result result)
        let s := s.record a.policy.tenantId (repeatEventIdentity a.requestKey) (a.digest lib) (.result result)
        let s := s.record a.policy.tenantId a.requestKey (a.digest lib) (.result result)
        (.ok result, { store := s, ledger })

/-- A known transition that is only noted. -/
def suppress (value : IncidentIngestionResult) (current : IncidentRecord) (w : World) : Except Exc IncidentIngestionResult × World :=
  let replay := { value.duplicated with incident := { current with duplicate := true } }
  let s := w.store.appendEvent replay.incident "notification_suppressed" (some replay.incident.state) a.actorId a.correlationId
    a.sourceDeployment (replay.operation.map (·.commandId))
    [("event_key", .str (suppressedEventIdentity a.requestKey)), ("payload_sha256", .str (a.digest lib)),
      ("suppressed_transition", .str (a.eventKey lib)), ("reason", .str "repeat_interval_not_elapsed")] (.utc a.now)
  let replay := { replay with timelineEventId := s.eventSequence }
  (.ok replay, { w with store := s.record a.policy.tenantId a.requestKey (a.digest lib) (.result replay) })

/-- The last notification is past its repeat interval. -/
def due (notifications : List Notification) : Bool :=
  (notifications.map (·.scheduledAt)).max?.any fun last =>
    decide (last + seconds a.policy.warningRepeatIntervalSeconds ≤ a.now)

/-- A transition that is known already. -/
def known (value : IncidentIngestionResult) (w : World) : Except Exc IncidentIngestionResult × World :=
  match w.store.incidents.get (a.key lib) with
  | none => (.error .keyError, w)
  | some current =>
    let notifications := (w.store.notifications.get (a.key lib)).getD []
    if a.alert.status = .firing ∧ a.command.isSome ∧ notifications.isEmpty ∧ current.state = .firing then a.activate lib current w
    else if a.alert.status = .firing ∧ a.notificationKind = "grouped" ∧ a.command.isSome ∧ current.state = .firing ∧
        a.due notifications then a.notifyAgain lib current w
    else if a.alert.status = .firing ∧ a.notificationKind = "grouped" ∧ a.command.isSome ∧ !notifications.isEmpty then
      a.suppress lib value current w
    else (.ok { value.duplicated with incident := { current with duplicate := true } }, w)

/-- The command of a new transition, if one is wanted. -/
def announce (previous : Option IncidentRecord) (reading : Nat) (ledger : MemoryCommandStore) :
    Except Exc (Option CommandOperation) × MemoryCommandStore :=
  if a.command.isNone then (.ok none, ledger)
  else
    match a.build lib ((previous.map (·.firstSeenAt)).getD a.alert.startsAt) with
    | .error e => (.error e, ledger)
    | .ok command =>
      match a.submit command reading ledger with
      | (.error e, ledger) => (.error e, ledger)
      | (.ok operation, ledger) => (.ok (some operation), ledger)

/-- The notifications that the resolution of a grouped alert cancels. -/
def pending (previous : Option IncidentRecord) (s : Store) : List Notification :=
  if a.alert.status = .resolved ∧ a.notificationKind = "grouped" ∧ previous.isSome then
    (s.notifications.get (a.key lib)).getD []
  else []

def transition (w : World) : Except Exc IncidentIngestionResult × World :=
  let previous := w.store.incidents.get (a.key lib)
  let pending := a.pending lib previous w.store
  match cancelPending a.policy.tenantId (a.incidentId lib) a.actorId a.now "warning resolved before group wait elapsed" a.clock
    pending w.ledger with
  | (.error e, ledger) => (.error e, { w with ledger })
  | (.ok _, ledger) =>
    match a.announce lib previous pending.length ledger with
    | (.error e, ledger) => (.error e, { w with ledger })
    | (.ok operation, ledger) =>
      let incident := a.incident lib previous
      let s := w.store.putIncident (a.key lib) incident
      let s := s.appendEvent incident (nextIncidentState (previous.map (·.state)) a.alert.status.state).2 (previous.map (·.state))
        a.actorId a.correlationId a.sourceDeployment (operation.map (·.commandId))
        [("event_key", .str (a.eventKey lib)), ("payload_sha256", .str (a.digest lib))] (.utc a.now)
      let wait := if a.notificationKind = "grouped" then seconds a.policy.warningGroupWaitSeconds else 0
      let s := match operation with
        | some operation => s.notify (a.key lib) operation.commandId a.notificationKind (a.now + wait)
        | none => s
      let result : IncidentIngestionResult :=
        { incident := incident
          operation := operation
          notificationStatus :=
            if a.notificationKind = "grouped" ∧ operation.isSome then "scheduled"
            else if operation.isSome then "queued"
            else if a.notificationKind = "state_only" then "state_only"
            else "disabled"
          timelineEventId := s.eventSequence
          duplicate := false }
      let s := s.record a.policy.tenantId (a.eventKey lib) (a.digest lib) (.result result)
      let s := s.record a.policy.tenantId a.requestKey (a.digest lib) (.result result)
      (.ok result, { store := s, ledger })

end Ingest

/-- `ingest`. -/
def ingest (lib : Library) (a : Ingest) (w : World) : Except Exc IncidentIngestionResult × World :=
  let s := w.store
  if (s.incidents.get (a.key lib)).any fun r => webhookTransitionPredatesProjection a.alert r.startsAt r.endsAt then
    (.error (conflict "alert transition predates the current alert occurrence"), w)
  else
    match s.eventReplays.get (replayKey a.policy.tenantId a.requestKey) with
    | some (_, .record _) => (.error (conflict "alert transition identity was reused with different content"), w)
    | some (digest, .result value) =>
      if digest ≠ a.digest lib then (.error (conflict "alert transition identity was reused with different content"), w)
      else (.ok value.duplicated, w)
    | none =>
      match s.eventReplays.get (replayKey a.policy.tenantId (a.eventKey lib)) with
      | some (_, .record _) => (.error (conflict "alert transition identity was reused with different content"), w)
      | some (digest, .result value) =>
        if digest ≠ a.digest lib then (.error (conflict "alert transition identity was reused with different content"), w)
        else a.known lib value w
      | none => a.transition lib w

/-! ## Status snapshots -/

structure AlertmanagerStatusItem where
  groupKey : String
  fingerprint : String
  startsAt : Moment
  state : StatusState
  silencedBy : List String
  inhibitedBy : List String

/-- `model_dump(mode="json")`. -/
def AlertmanagerStatusItem.modelDump (lib : Library) (item : AlertmanagerStatusItem) : Obj :=
  [("group_key", .str item.groupKey), ("fingerprint", .str item.fingerprint), ("starts_at", .str (lib.jsonTime item.startsAt)),
    ("state", .str item.state.value), ("silenced_by", .arr (item.silencedBy.map .str)),
    ("inhibited_by", .arr (item.inhibitedBy.map .str))]

/-- `sorted(ids)`. -/
def sorted (ids : List String) : List String := ids.insertionSort (· ≤ ·)

/-- `status_identity`. -/
def statusIdentity (lib : Library) (item : AlertmanagerStatusItem) (observedAt : Moment) : String :=
  "alert-status-v1:" ++ Sha256.hexdigest (dumps true (.obj
    [("group_key", .str item.groupKey), ("fingerprint", .str item.fingerprint), ("starts_at", .str (lib.isoformat item.startsAt)),
      ("state", .str item.state.value), ("silenced_by", .arr ((sorted item.silencedBy).map .str)),
      ("inhibited_by", .arr ((sorted item.inhibitedBy).map .str)), ("observed_at", .str (lib.isoformat observedAt))]))

/-- The arguments of `ingest_status`, with its reading of the clock and those of the ledger's calls. -/
structure IngestStatus where
  policy : AlertPolicy
  item : AlertmanagerStatusItem
  actorId : String
  correlationId : String
  sourceDeployment : String
  requestIdempotencyKey : String
  observedAt : Moment
  now : Time
  clock : Nat → Time

namespace IngestStatus

variable (lib : Library) (a : IngestStatus)

def eventKey : String := statusIdentity lib a.item a.observedAt

def requestKey : String := requestIdentity "alertmanager" a.requestIdempotencyKey a.item.fingerprint

def digest : String :=
  canonicalPayloadSha256 [("item", .obj (a.item.modelDump lib)), ("observed_at", .str (lib.isoformat a.observedAt))]

def incidentId : Uuid := incidentIdentity lib a.policy.tenantId a.item.fingerprint

def key : Key := (a.policy.tenantId, a.incidentId lib)

/-- The evidence that a newer observation has to exceed. -/
def evidence (previous : IncidentRecord) (s : Store) : List Time :=
  ((s.statusObserved.get (a.key lib)).map (·.instant)).toList ++
    (if previous.state = .resolved then (previous.endsAt.map (·.instant)).toList else [])

/-- The incident after the observation. -/
def incident (previous : IncidentRecord) : IncidentRecord :=
  let state := (nextIncidentState (some previous.state) a.item.state).1
  { previous with
    state := state
    endsAt := if a.item.state = .firing then none else previous.endsAt
    lastSeenAt := a.now
    sourceDeployment := a.sourceDeployment
    correlationId := a.correlationId
    resourceVersion := previous.resourceVersion + 1
    resolvedAt := if state = .resolved then some a.now else none
    updatedAt := a.now
    duplicate := false }

/-- The notifications that the observation cancels. -/
def pending (s : Store) : List Notification :=
  if a.item.state = .firing then [] else (s.notifications.get (a.key lib)).getD []

def observe (previous : IncidentRecord) (w : World) : Except Exc IncidentRecord × World :=
  match cancelPending a.policy.tenantId (a.incidentId lib) a.actorId a.now "warning left firing state before group wait elapsed"
    a.clock (a.pending lib w.store) w.ledger with
  | (.error e, ledger) => (.error e, { w with ledger })
  | (.ok _, ledger) =>
    let incident := a.incident previous
    let s := w.store.putIncident (a.key lib) incident
    let s := s.appendEvent incident (nextIncidentState (some previous.state) a.item.state).2 (some previous.state) a.actorId
      a.correlationId a.sourceDeployment none
      [("event_key", .str (a.eventKey lib)), ("silenced_by", .arr ((sorted a.item.silencedBy).map .str)),
        ("inhibited_by", .arr ((sorted a.item.inhibitedBy).map .str)), ("status_source", .str "alertmanager-status")] a.observedAt
    let s := s.record a.policy.tenantId (a.eventKey lib) (a.digest lib) (.record incident)
    let s := s.record a.policy.tenantId a.requestKey (a.digest lib) (.record incident)
    (.ok incident, { store := { s with statusObserved := s.statusObserved.set (a.key lib) a.observedAt }, ledger })

end IngestStatus

/-- `a != b` of two recorded entries, of which the first is a record: a status identity has no result. -/
def Replay.differs : String × Replay → String × Replay → Bool
  | (digest, .record a), (digest', .record b) => decide (digest ≠ digest' ∨ a.utc ≠ b.utc)
  | _, _ => true

/-- `ingest_status`. -/
def ingestStatus (lib : Library) (a : IngestStatus) (w : World) : Except Exc IncidentRecord × World :=
  let s := w.store
  let replay := s.eventReplays.get (replayKey a.policy.tenantId (a.eventKey lib))
  let requestReplay := s.eventReplays.get (replayKey a.policy.tenantId a.requestKey)
  if (replay.any fun entry => requestReplay.any (Replay.differs entry)) = true then
    (.error (conflict "request and status identities disagree"), w)
  else
    match replay <|> requestReplay with
    | some (_, .result _) => (.error (conflict "status identity was reused with different content"), w)
    | some (digest, .record value) =>
      if digest ≠ a.digest lib then (.error (conflict "status identity was reused with different content"), w)
      else (.ok { value with duplicate := true }, w)
    | none =>
      match s.incidents.get (a.key lib) with
      | none => (.error (notFound "status reconciliation incident was not found"), w)
      | some previous =>
        if previous.groupKey ≠ a.item.groupKey then (.error (notFound "status reconciliation incident was not found"), w)
        else if previous.startsAt.instant ≠ a.item.startsAt.instant then
          (.error (conflict "status evidence does not match the current alert occurrence"), w)
        else if ((a.evidence lib previous s).max?.any fun last => decide (a.observedAt.instant ≤ last)) = true then
          (.error (conflict "status observation is not newer than current evidence"), w)
        else a.observe lib previous w

/-! ## Mutations -/

/-- The arguments of `mutate`, with its reading of the clock and those of the ledger's calls. -/
structure Mutate where
  tenantId : String
  incidentId : Uuid
  action : IncidentAction
  actorId : String
  correlationId : String
  idempotencyKey : String
  expectedVersion : Nat
  reason : String
  now : Time
  clock : Nat → Time

namespace Mutate

variable (a : Mutate)

def digest : String := canonicalPayloadSha256 [("expected_version", .int a.expectedVersion), ("reason", .str a.reason)]

def mutationKey : String × Uuid × IncidentAction × String × String :=
  (a.tenantId, a.incidentId, a.action, a.actorId, a.idempotencyKey)

/-- `allowed`. -/
def allowed : IncidentAction → List IncidentState
  | .acknowledge => [.firing, .inhibited, .silenced]
  | .resolve => [.firing, .acknowledged, .inhibited, .silenced]
  | .reopen => [.resolved]

/-- `target_states`. -/
def target : IncidentAction → IncidentState
  | .acknowledge => .acknowledged
  | .resolve => .resolved
  | .reopen => .firing

def incident (previous : IncidentRecord) : IncidentRecord :=
  { previous with
    state := target a.action
    acknowledgedAt := if a.action = .acknowledge then some a.now else none
    acknowledgedBy := if a.action = .acknowledge then some a.actorId else none
    resolvedAt := if a.action = .resolve then some a.now else none
    endsAt := if a.action = .reopen then none else previous.endsAt
    correlationId := a.correlationId
    resourceVersion := previous.resourceVersion + 1
    updatedAt := a.now
    duplicate := false }

/-- The notifications that the mutation cancels. -/
def pending (s : Store) : List Notification :=
  if a.action = .resolve then (s.notifications.get (a.tenantId, a.incidentId)).getD [] else []

end Mutate

/-- `mutate`. -/
def mutate (a : Mutate) (w : World) : Except Exc IncidentRecord × World :=
  let s := w.store
  match s.mutations.get a.mutationKey with
  | some (digest, value) =>
    if digest ≠ a.digest then (.error (conflict "idempotency key was reused with different content"), w)
    else (.ok { value with duplicate := true }, w)
  | none =>
    match s.incidents.get (a.tenantId, a.incidentId) with
    | none => (.error (notFound "incident was not found"), w)
    | some previous =>
      if previous.resourceVersion ≠ a.expectedVersion then (.error (conflict "expected_version is stale"), w)
      else if previous.state ∉ Mutate.allowed a.action then
        (.error (conflict s!"incident cannot transition via {a.action.value}"), w)
      else
        match cancelPending a.tenantId a.incidentId a.actorId a.now "warning was resolved before group wait elapsed" a.clock
          (a.pending s) w.ledger with
        | (.error e, ledger) => (.error e, { w with ledger })
        | (.ok _, ledger) =>
          let incident := a.incident previous
          let s := s.putIncident (a.tenantId, a.incidentId) incident
          let s := s.appendEvent incident a.action.value (some previous.state) a.actorId a.correlationId previous.sourceDeployment
            none [("reason", .str a.reason), ("idempotency_key", .str a.idempotencyKey)] (.utc a.now)
          (.ok incident, { store := { s with mutations := s.mutations.set a.mutationKey (a.digest, incident) }, ledger })

/-! ## Calls -/

inductive Call where
  | ingest (a : Ingest)
  | ingestStatus (a : IngestStatus)
  | mutate (a : Mutate)
  /-- A worker moves a command in the ledger. -/
  | dispatch (t : Transition) (now : Time)

inductive Reply where
  | result (value : IncidentIngestionResult)
  | record (value : IncidentRecord)
  | unit

def perform (lib : Library) (c : Call) (w : World) : Except Exc Reply × World :=
  match c with
  | .ingest a => ((ingest lib a w).1.map .result, (ingest lib a w).2)
  | .ingestStatus a => ((ingestStatus lib a w).1.map .record, (ingestStatus lib a w).2)
  | .mutate a => ((mutate a w).1.map .record, (mutate a w).2)
  | .dispatch t now =>
    let r := Ledger.perform (MemoryCommandStore.transition t now) w.ledger
    (r.1.map fun _ => .unit, { w with ledger := r.2 })

def call (lib : Library) (c : Call) (w : World) : World := (perform lib c w).2

end Middleware.Incidents

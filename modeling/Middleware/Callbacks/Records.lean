/-
Callbacks: the state machine and time rules of `app/core/callbacks.py`, the tables and row security of migrations 0051,
0052 and 0068, and the endpoints `create` and `mutate` of `app/api/v1/callbacks.py`.

An endpoint locks its row and is one transaction: what it raises leaves the tables as they were. Columns that no
modelled function reads are left out, and so are the rows of `notification_command`; `desired_state` and `actual_state`
are always the state. Bodies are those that pydantic accepted.

`Library` is what the endpoints take from libraries and settings.
-/
import Middleware.Data.Json
import Middleware.Lib.Updates
import Middleware.Policy.Engine

namespace Middleware.Callbacks

open Ledger Lib Policy

/-! ## States -/

inductive State where
  | draft
  | scheduled
  | reminderPending
  | ready
  | due
  | snoozed
  | rescheduled
  | inProgress
  | completed
  | cancelled
  | missed
  | escalated
  | failed
  | blockedCompliance
deriving DecidableEq, Repr

namespace State

def value : State → String
  | draft => "DRAFT"
  | scheduled => "SCHEDULED"
  | reminderPending => "REMINDER_PENDING"
  | ready => "READY"
  | due => "DUE"
  | snoozed => "SNOOZED"
  | rescheduled => "RESCHEDULED"
  | inProgress => "IN_PROGRESS"
  | completed => "COMPLETED"
  | cancelled => "CANCELLED"
  | missed => "MISSED"
  | escalated => "ESCALATED"
  | failed => "FAILED"
  | blockedCompliance => "BLOCKED_COMPLIANCE"

/-- `TRANSITIONS`. -/
def transitions : State → List State
  | draft => [scheduled, cancelled, blockedCompliance]
  | scheduled => [reminderPending, ready, due, snoozed, rescheduled, cancelled, blockedCompliance]
  | reminderPending => [ready, due, snoozed, rescheduled, cancelled, failed]
  | ready => [due, snoozed, rescheduled, cancelled]
  | due => [inProgress, snoozed, rescheduled, missed, cancelled]
  | inProgress => [completed, failed, rescheduled]
  | snoozed => [reminderPending, ready, due, rescheduled, cancelled]
  | rescheduled => [reminderPending, ready, due, snoozed, cancelled]
  | missed => [escalated, inProgress, rescheduled, cancelled]
  | escalated => [inProgress, rescheduled, cancelled, failed]
  | failed => [scheduled, cancelled]
  | blockedCompliance => [scheduled, cancelled]
  | completed => []
  | cancelled => []

end State

/-! ## Tables -/

/-- A row of `callback_record`. -/
structure CallbackRecord where
  id : Uuid
  tenantId : String
  campaignId : String
  originalCallId : Option String := none
  assignedAgentId : Option String := none
  assignedUserId : Option String := none
  assignedTeamId : Option String := none
  phoneNumber : String
  normalizedPhone : String
  scheduledAt : Time
  customerTimezone : String
  priority : String := "NORMAL"
  reason : String
  notes : String := ""
  state : State
  reminderEmailEnabled : Bool := true
  reminderPopupEnabled : Bool := true
  emailReminder1At : Time
  emailReminder2At : Time
  popupReminderAt : Time
  completedAt : Option Time := none
  cancelledAt : Option Time := none
  completionDisposition : Option String := none
  completionNotes : Option String := none
  correlationId : String
  idempotencyKey : String
  requestHash : String
  version : Nat := 1
  contextJson : Obj := []

/-- A row of `callback_event`. -/
structure CallbackEvent where
  callbackId : Uuid
  tenantId : String
  campaignId : String
  eventType : String
  version : Nat
  idempotencyKey : String
  correlationId : String
  actorId : String
  payloadJson : Obj

inductive Channel where
  | email
  | popup
deriving DecidableEq, Repr

inductive DeliveryStatus where
  | queued
  | retryPending
  | delivered
  | staleCancelled
deriving DecidableEq, Repr

/-- `QUEUED` or `RETRY_PENDING`. -/
def DeliveryStatus.live : DeliveryStatus → Bool
  | queued | retryPending => true
  | _ => false

/-- A row of `callback_delivery`; its idempotency key is unique. -/
structure CallbackDelivery where
  callbackId : Uuid
  tenantId : String
  callbackVersion : Nat
  channel : Channel
  stage : String
  idempotencyKey : String
  status : DeliveryStatus := .queued
  providerMessageId : Option String := none
  attemptCount : Nat := 0
  lastErrorCode : Option String := none
  nextAttemptAt : Option Time

structure Db where
  records : List CallbackRecord := []
  events : List CallbackEvent := []
  deliveries : List CallbackDelivery := []

/-- `not a` for a text that may be absent. -/
def falsy (a : Option String) : Bool := a.all (· == "")

namespace Db

def record (db : Db) (id : Uuid) : Option CallbackRecord := rowAt CallbackRecord.id id db.records

def eventFor (db : Db) (tenant key : String) : Option CallbackEvent :=
  db.events.find? fun e => e.tenantId == tenant && e.idempotencyKey == key

/-- The unique and check constraints of the tables. -/
def valid (db : Db) : Bool :=
  decide (db.records.map (·.id)).Nodup &&
  decide (db.records.map fun r => (r.tenantId, r.idempotencyKey)).Nodup &&
  (db.records.all fun r => r.assignedAgentId.isSome || r.assignedTeamId.isSome) &&
  decide (db.events.map fun e => (e.callbackId, e.version, e.eventType)).Nodup &&
  decide (db.events.map fun e => (e.tenantId, e.idempotencyKey)).Nodup &&
  decide (db.deliveries.map (·.idempotencyKey)).Nodup &&
  decide (db.deliveries.map fun d => (d.callbackId, d.callbackVersion, d.channel, d.stage)).Nodup

/-- The widths of the columns that requests can exceed. -/
def fits (db : Db) : Bool :=
  (db.records.all fun r =>
    [r.assignedAgentId, r.assignedUserId, r.assignedTeamId, r.originalCallId].all (·.all fun s => decide (s.length ≤ 128)) &&
      decide (r.customerTimezone.length ≤ 64) && decide (r.idempotencyKey.length ≤ 128) &&
      decide (r.correlationId.length ≤ 128)) &&
  (db.events.all fun e => decide (e.idempotencyKey.length ≤ 128) && decide (e.correlationId.length ≤ 128) &&
    decide (e.actorId.length ≤ 128)) &&
  (db.deliveries.all fun d => decide (d.idempotencyKey.length ≤ 128))

end Db

/-- What a function raises: an HTTP error, a violated constraint, another database error, a `ValueError`, or another
exception of a library. -/
inductive Raised where
  | http (statusCode : Nat) (detail : String)
  | integrityError
  | databaseError
  | valueError
  | other
deriving DecidableEq, Repr

/-! ## Row security -/

inductive Role where
  | owner
  | callCenterAdmin
  | campaignManager
  | supervisor
  | qa
  | agent
  | service
deriving DecidableEq, Repr

def Role.value : Role → String
  | .owner => "owner"
  | .callCenterAdmin => "call_center_admin"
  | .campaignManager => "campaign_manager"
  | .supervisor => "supervisor"
  | .qa => "qa"
  | .agent => "agent"
  | .service => "service"

structure Principal where
  actor : String
  tenant : String
  campaigns : List String
  role : Role
  teams : List String

/-- What `set_callback_rls_context` sets for a transaction. -/
structure Context where
  tenant : String
  campaigns : List String
  actor : String
  role : String
  teams : List String := []

def Principal.context (p : Principal) : Context := ⟨p.tenant, p.campaigns, p.actor, p.role.value, p.teams⟩

namespace Context

/-- `complete callback RLS context is required`. -/
def complete (c : Context) : Bool :=
  !c.tenant.isEmpty && !(c.campaigns.filter (· ≠ "")).isEmpty && !c.actor.isEmpty && !c.role.isEmpty

/-- The texts of `string_to_array(',')` of a joined list. -/
def parts (l : List String) : List String :=
  (l.filter (· ≠ "")).flatMap fun s => (s.toList.splitOn ',').map String.ofList

/-- `callback_record_scope`: the rows that are read, and that may be written. -/
def sees (c : Context) (r : CallbackRecord) : Bool :=
  r.tenantId == c.tenant && (parts c.campaigns).contains r.campaignId &&
    (["service", "scheduler", "supervisor", "campaign_manager", "call_center_admin", "owner", "qa"].contains c.role ||
      r.assignedAgentId == some c.actor || r.assignedUserId == some c.actor ||
      r.assignedTeamId.any fun team => (parts c.teams).contains team)

end Context

/-- Commit a transaction that wrote these rows; what the database refuses is rolled back. -/
def Db.commit (ctx : Context) (written : List CallbackRecord) (db' : Db) : Except Raised Db :=
  if !(written.all ctx.sees && db'.fits) then .error .databaseError
  else if !db'.valid then .error .integrityError
  else .ok db'

/-! ## Libraries -/

/-- A `datetime` of a request: its instant, and its offset if it has one. -/
structure Stamp where
  instant : Time
  offset : Option Time
deriving DecidableEq

def minutes (n : Nat) : Time := n * 60 * 1000000

structure Compliance where
  consent : Bool
  dnc : Bool := false
  suppressed : Bool := false
  withinCallingHours : Bool
  campaignAllowed : Bool

/-- `CreateCallback`; the model validator asks for an agent or a team. -/
structure CreateCallback where
  tenantId : String
  campaignId : String
  originalCallId : Option String := none
  assignedAgentId : Option String := none
  assignedUserId : Option String := none
  reminderRecipientToken : Option String := none
  assignedTeamId : Option String := none
  phoneNumber : String
  scheduledAt : Stamp
  customerTimezone : String
  priority : String := "NORMAL"
  reason : String
  notes : String := ""
  reminderEmailEnabled : Bool := true
  reminderPopupEnabled : Bool := true
  compliance : Compliance
  customerContext : Obj := []
  owned : (!falsy assignedAgentId || !falsy assignedTeamId) = true := by decide

/-- `Change`. -/
structure Change where
  expectedVersion : Nat
  scheduledAt : Option Stamp := none
  customerTimezone : Option String := none
  assignedAgentId : Option String := none
  assignedTeamId : Option String := none
  reason : Option String := none
  notes : Option String := none
  completionDisposition : Option String := none
  completionNotes : Option String := none
  snoozeMinutes : Option Nat := none
deriving DecidableEq

structure Library where
  zone : ZoneInfo
  -- the text of the `ValueError` of a time zone key that is no path
  zoneKeyError : String → String
  -- the characters `\d` matches
  isDigit : Char → Bool
  -- `_hash` of a request
  hash : CreateCallback → String
  isoformat : Time → String
  emailCommandEnabled : Bool
  emailSenderProfileId : String
  emailPolicyHash : String

def canonicalTime (lib : Library) (value : Stamp) (timezone : String) : Except String Time :=
  match lib.zone timezone with
  | .error .notFound => .error "unknown customer timezone"
  | .error .invalid => .error (lib.zoneKeyError timezone)
  | .ok offsetAt =>
    match value.offset with
    | none => .error "scheduled_at must include UTC offset"
    | some offset =>
      if offsetAt value.instant ≠ offset then .error "scheduled_at offset does not match customer_timezone"
      else .ok value.instant

def normalizedPhone (lib : Library) (value : String) : Except String String :=
  let result := "+" ++ String.ofList (value.toList.filter lib.isDigit)
  if 8 ≤ result.length ∧ result.length ≤ 16 then .ok result else .error "invalid phone number"

/-- `reminders`: a day, an hour and a quarter before. -/
def reminders (scheduledAt : Time) : Time × Time × Time :=
  (scheduledAt - minutes 1440, scheduledAt - minutes 60, scheduledAt - minutes 15)

/-- The state of `compliance_state`. -/
def complianceState (c : Compliance) : State :=
  if c.consent && !c.dnc && !c.suppressed && c.withinCallingHours && c.campaignAllowed then .scheduled
  else .blockedCompliance

/-! ## Creation -/

def deliveryKey (r : CallbackRecord) (suffix : String) : String :=
  "callback:" ++ r.id ++ ":v" ++ toString r.version ++ ":" ++ suffix

/-- `_event`. -/
def event (r : CallbackRecord) (kind key : String) (actor : String) (payload : Obj) (correlation : String) : CallbackEvent :=
  { callbackId := r.id, tenantId := r.tenantId, campaignId := r.campaignId, eventType := kind, version := r.version,
    idempotencyKey := key, correlationId := correlation, actorId := actor, payloadJson := payload }

/-- A queued delivery of the row's version. -/
def delivery (r : CallbackRecord) (channel : Channel) (stage suffix : String) (nextAttemptAt : Time) : CallbackDelivery :=
  { callbackId := r.id, tenantId := r.tenantId, callbackVersion := r.version, channel := channel, stage := stage,
    idempotencyKey := deliveryKey r suffix, nextAttemptAt := some nextAttemptAt }

/-- `_queue_email_command`, its deliveries. -/
def emailDeliveries (lib : Library) (r : CallbackRecord) (body : CreateCallback) : Except Raised (List CallbackDelivery) :=
  if !r.reminderEmailEnabled || !lib.emailCommandEnabled then .ok []
  else if falsy body.reminderRecipientToken then .error (.http 422 "internal reminder recipient identity required")
  else if lib.emailSenderProfileId.isEmpty || lib.emailPolicyHash.length ≠ 64 then
    .error (.http 503 "COD callback email identity is not configured")
  else
    .ok [delivery r .email "REMINDER_24H" "email:reminder_24h" r.emailReminder1At,
      delivery r .email "REMINDER_1H" "email:reminder_1h" r.emailReminder2At]

def popupDeliveries (r : CallbackRecord) : List CallbackDelivery :=
  if r.reminderPopupEnabled then [delivery r .popup "WARNING_15M" "popup:warning-15m" r.popupReminderAt] else []

/-- The row of `create`. -/
def newRecord (lib : Library) (id : Uuid) (body : CreateCallback) (scheduled : Time) (phone key correlation : String) :
    CallbackRecord :=
  let (r1, r2, pop) := reminders scheduled
  { id := id, tenantId := body.tenantId, campaignId := body.campaignId, originalCallId := body.originalCallId,
    assignedAgentId := body.assignedAgentId, assignedUserId := body.assignedUserId, assignedTeamId := body.assignedTeamId,
    phoneNumber := body.phoneNumber, normalizedPhone := phone, scheduledAt := scheduled,
    customerTimezone := body.customerTimezone, priority := body.priority, reason := body.reason, notes := body.notes,
    state := complianceState body.compliance, reminderEmailEnabled := body.reminderEmailEnabled,
    reminderPopupEnabled := body.reminderPopupEnabled, emailReminder1At := r1, emailReminder2At := r2,
    popupReminderAt := pop, correlationId := correlation, idempotencyKey := key, requestHash := lib.hash body,
    contextJson := body.customerContext }

/-- A violated constraint as an HTTP error. -/
def conflict (detail : String) : Raised → Raised
  | .integrityError => .http 409 detail
  | e => e

/-- `create` after its checks: the row, then its event and deliveries. -/
def insertRecord (lib : Library) (p : Principal) (body : CreateCallback) (key correlation : String) (row : CallbackRecord)
    (db : Db) : Except Raised Db := do
  let db ← (Db.commit p.context [row] { db with records := db.records ++ [row] }).mapError
    (conflict "callback identity conflict")
  let emails ← emailDeliveries lib row body
  let created := event row "callback.created" (key ++ ":created") p.actor
    [("state", .str row.state.value), ("scheduled_at", .str (lib.isoformat row.scheduledAt))] correlation
  (Db.commit p.context [] { db with
    events := db.events ++ [created], deliveries := db.deliveries ++ emails ++ popupDeliveries row }).mapError
    (conflict "callback event identity conflict")

def create (lib : Library) (p : Principal) (id : Uuid) (body : CreateCallback) (key correlation : String) (db : Db) :
    Except Raised CallbackRecord × Db :=
  if body.tenantId ≠ p.tenant ∨ !p.campaigns.contains body.campaignId then (.error (.http 403 "callback scope denied"), db)
  else if !p.context.complete then (.error .valueError, db)
  else
    match db.records.find? fun r => p.context.sees r && r.tenantId == p.tenant && r.idempotencyKey == key with
    | some prior =>
      if prior.requestHash ≠ lib.hash body then (.error (.http 409 "idempotency payload conflict"), db) else (.ok prior, db)
    | none =>
      match canonicalTime lib body.scheduledAt body.customerTimezone, normalizedPhone lib body.phoneNumber with
      | .error e, _ | .ok _, .error e => (.error (.http 422 e), db)
      | .ok scheduled, .ok phone =>
        let row := newRecord lib id body scheduled phone key correlation
        match insertRecord lib p body key correlation row db with
        | .error e => (.error e, db)
        | .ok db => (.ok row, db)

/-! ## Mutation -/

inductive Target where
  | updated
  | snoozed
  | rescheduled
  | cancelled
  | completed
  | inProgress
  | reassigned
deriving DecidableEq, Repr

/-- `target.lower()`. -/
def Target.lower : Target → String
  | updated => "updated"
  | snoozed => "snoozed"
  | rescheduled => "rescheduled"
  | cancelled => "cancelled"
  | completed => "completed"
  | inProgress => "in_progress"
  | reassigned => "reassigned"

/-- The state a target asks for; an update and a reassignment keep the state. -/
def Target.state : Target → Option State
  | updated | reassigned => none
  | snoozed => some .snoozed
  | rescheduled => some .rescheduled
  | cancelled => some .cancelled
  | completed => some .completed
  | inProgress => some .inProgress

def Role.reassigns : Role → Bool
  | .supervisor | .campaignManager | .callCenterAdmin | .owner => true
  | _ => false

/-- `_load`: the row that is seen, in the principal's scope and assigned to an agent. -/
def load (p : Principal) (id : Uuid) (db : Db) : Except Raised CallbackRecord :=
  match (db.record id).filter p.context.sees with
  | none => .error (.http 404 "callback not found")
  | some row =>
    if row.tenantId ≠ p.tenant ∨ !p.campaigns.contains row.campaignId then .error (.http 403 "callback scope denied")
    else if p.role = .agent ∧ row.assignedAgentId ≠ some p.actor ∧ !row.assignedTeamId.any p.teams.contains then
      .error (.http 403 "callback assignment denied")
    else .ok row

def reassignment (p : Principal) (body : Change) : Except Raised Unit :=
  if !p.role.reassigns then .error (.http 403 "reassignment role denied")
  else if body.assignedAgentId = none ∧ body.assignedTeamId = none then
    .error (.http 422 "new agent or team is required")
  else if p.role = .supervisor ∧ body.assignedTeamId.any fun team => !p.teams.contains team then
    .error (.http 403 "reassignment team scope denied")
  else .ok ()

def schedule (lib : Library) (now : Time) (target : Target) (body : Change) (row : CallbackRecord) :
    Except Raised CallbackRecord :=
  match target with
  | .snoozed => .ok { row with scheduledAt := now + minutes (body.snoozeMinutes.getD 5) }
  | .rescheduled =>
    match body.scheduledAt, body.customerTimezone with
    | some value, some timezone =>
      if timezone = "" then .error (.http 422 "schedule and timezone required")
      else
        match canonicalTime lib value timezone with
        | .error e => .error (.http 422 e)
        | .ok t => .ok { row with scheduledAt := t, customerTimezone := timezone }
    | _, _ => .error (.http 422 "schedule and timezone required")
  | _ => .ok row

/-- The assignment fields, applied for every target; a reassignment clears the other one. -/
def assign (target : Target) (body : Change) (row : CallbackRecord) : CallbackRecord :=
  let row := match body.assignedAgentId with
    | none => row
    | some agent =>
      { row with
        assignedAgentId := some agent
        assignedTeamId := if target = .reassigned then body.assignedTeamId else row.assignedTeamId }
  match body.assignedTeamId with
  | none => row
  | some team =>
    { row with
      assignedTeamId := some team
      assignedAgentId := if target = .reassigned ∧ body.assignedAgentId = none then none else row.assignedAgentId }

/-- The other fields a mutation writes. -/
def finish (now : Time) (target : Target) (body : Change) (row : CallbackRecord) : CallbackRecord :=
  let (r1, r2, pop) := reminders row.scheduledAt
  let timed := target = .snoozed ∨ target = .rescheduled
  { row with
    notes := body.notes.getD row.notes
    reason := body.reason.getD row.reason
    emailReminder1At := if timed then r1 else row.emailReminder1At
    emailReminder2At := if timed then r2 else row.emailReminder2At
    popupReminderAt := if timed then pop else row.popupReminderAt
    completedAt := if target = .completed then some now else row.completedAt
    completionDisposition := if target = .completed then body.completionDisposition else row.completionDisposition
    completionNotes := if target = .completed then body.completionNotes else row.completionNotes
    cancelledAt := if target = .cancelled then some now else row.cancelledAt
    state := target.state.getD row.state
    version := row.version + 1 }

/-- The checks of a mutation that come before its writes. -/
def permitted (target : Target) (body : Change) (p : Principal) (row : CallbackRecord) : Except Raised Unit :=
  if row.version ≠ body.expectedVersion then .error (.http 409 "stale callback version")
  else if target = .reassigned then reassignment p body
  else .ok ()

/-- `transition` of the row's state, for a target that asks for a state. -/
def transition (target : Target) (row : CallbackRecord) : Except Raised Unit :=
  match target.state with
  | some state =>
    if row.state.transitions.contains state then .ok ()
    else .error (.http 409 ("invalid callback transition " ++ row.state.value ++ " -> " ++ state.value))
  | none => .ok ()

/-- The row after a mutation of the expected version, or what it raises. -/
def mutated (lib : Library) (now : Time) (target : Target) (body : Change) (p : Principal) (row : CallbackRecord) :
    Except Raised CallbackRecord := do
  permitted target body p row
  let timed ← schedule lib now target body row
  transition target row
  let assigned := assign target body timed
  if falsy assigned.assignedAgentId && falsy assigned.assignedTeamId then throw (.http 422 "callback cannot be orphaned")
  return finish now target body assigned

/-- The targets that cancel the deliveries of earlier versions. -/
def Target.cancels : Target → Bool
  | snoozed | rescheduled | reassigned | completed | cancelled => true
  | updated | inProgress => false

def CallbackDelivery.stale (d : CallbackDelivery) : CallbackDelivery :=
  { d with status := .staleCancelled, nextAttemptAt := none }

def cancelStale (target : Target) (row : CallbackRecord) (expectedVersion : Nat) (deliveries : List CallbackDelivery) :
    List CallbackDelivery :=
  deliveries.map fun d =>
    if target.cancels && d.callbackId == row.id && decide (d.callbackVersion ≤ expectedVersion) && d.status.live then d.stale
    else d

def optional (value : Option String) : Json := (value.map .str).getD .null

def assignment (row : CallbackRecord) : Json :=
  .obj [("agent_id", optional row.assignedAgentId), ("team_id", optional row.assignedTeamId)]

def mutationPayload (target : Target) (body : Change) (row row' : CallbackRecord) : Obj :=
  [("from_version", .int body.expectedVersion), ("state", .str row'.state.value)] ++
    if target = .reassigned then [("previous_assignment", assignment row), ("new_assignment", assignment row')] else []

def Db.mutate (db : Db) (target : Target) (body : Change) (key correlation : String) (p : Principal)
    (row row' : CallbackRecord) : Db where
  records := db.records.map fun r => if r.id = row.id then row' else r
  events := db.events ++
    [event row' ("callback." ++ target.lower) key p.actor (mutationPayload target body row row') correlation]
  deliveries := cancelStale target row body.expectedVersion db.deliveries

def mutate (lib : Library) (now : Time) (id : Uuid) (target : Target) (body : Change) (key correlation : String)
    (p : Principal) (db : Db) : Except Raised CallbackRecord × Db :=
  if !p.context.complete then (.error .valueError, db)
  else
    match load p id db with
    | .error e => (.error e, db)
    | .ok row =>
      if (db.eventFor p.tenant key).isSome then (.ok row, db)
      else
        match mutated lib now target body p row with
        | .error e => (.error e, db)
        | .ok row' =>
          match Db.commit p.context [row'] (db.mutate target body key correlation p row row') with
          | .error e => (.error e, db)
          | .ok db => (.ok row', db)

end Middleware.Callbacks

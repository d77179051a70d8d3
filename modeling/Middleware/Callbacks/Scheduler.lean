/-
The callback scheduler (`app/callback_scheduler.py`), the popup worker (`app/workers/callback_realtime.py`), and runs of
these and the endpoints over one clock. The endpoint that records delivery results is not modelled.

A pass over due callbacks is one transaction: a constraint that one row violates rolls the whole pass back. `locked` are
the rows that other transactions hold.
-/
import Middleware.Callbacks.Records
import Middleware.Lib.Runs

namespace Middleware.Callbacks

open Ledger Lib Policy

/-! ## Passes -/

/-- What a pass makes of a row: its state, its event, and the popups it queues. -/
structure Advance where
  target : State
  eventType : String
  suffix : String
  payload : CallbackRecord → Obj
  popups : List (String × String × Time)

def Advance.row (a : Advance) (r : CallbackRecord) : CallbackRecord := { r with state := a.target, version := r.version + 1 }

def Advance.event (a : Advance) (workerId : String) (r : CallbackRecord) : CallbackEvent :=
  let row := a.row r
  Callbacks.event row a.eventType ("callback:" ++ row.id ++ ":v" ++ toString row.version ++ ":" ++ a.suffix) workerId
    (a.payload r) row.correlationId

def Advance.deliveries (a : Advance) (r : CallbackRecord) : List CallbackDelivery :=
  if r.reminderPopupEnabled then a.popups.map fun (stage, suffix, t) => delivery (a.row r) .popup stage suffix t else []

/-- The tables after the rows are advanced. -/
def Db.advance (db : Db) (a : Advance) (workerId : String) (selected : List CallbackRecord) : Db where
  records := db.records.map fun r => if (selected.map (·.id)).contains r.id then a.row r else r
  events := db.events ++ selected.map (a.event workerId)
  deliveries := db.deliveries ++ selected.flatMap a.deliveries

def workerContext (workerId role tenant campaign : String) : Context := ⟨tenant, [campaign], workerId, role, []⟩

def advanceRows (ctx : Context) (a : Advance) (selected : List CallbackRecord) (db : Db) :
    Except Raised (List CallbackRecord) × Db :=
  if !ctx.complete then (.error .valueError, db)
  else
    match Db.commit ctx (selected.map a.row) (db.advance a ctx.actor selected) with
    | .error e => (.error e, db)
    | .ok db => (.ok (selected.map a.row), db)

/-- The rows of a state that are as late as this, in the scope of the worker. -/
def selectLate (ctx : Context) (campaign : String) (states : List State) (latest : Time) (locked : List Uuid)
    (db : Db) : List CallbackRecord :=
  db.records.filter fun r => ctx.sees r && r.tenantId == ctx.tenant && r.campaignId == campaign && states.contains r.state &&
    decide (r.scheduledAt ≤ latest) && !locked.contains r.id

/-- `ORDER BY scheduled_at`. -/
def earliest (a b : CallbackRecord) : Prop := a.scheduledAt ≤ b.scheduledAt

instance (a b : CallbackRecord) : Decidable (earliest a b) := inferInstanceAs (Decidable (_ ≤ _))

def dueAdvance (now : Time) : Advance where
  target := .due
  eventType := "callback.due"
  suffix := "due"
  payload r := [("previous_state", .str r.state.value)]
  popups := [("DUE", "popup:due", now), ("AGENT_REMINDER_10M", "popup:agent-reminder", now + minutes 10)]

/-- The states `claim_due` selects. -/
def claimable : List State := [.scheduled, .reminderPending, .ready, .snoozed, .rescheduled]

/-- The rows `claim_due` selects. -/
def dueRows (workerId tenant campaign : String) (limit : Nat) (now : Time) (locked : List Uuid) (db : Db) :
    List CallbackRecord :=
  ((selectLate (workerContext workerId "scheduler" tenant campaign) campaign claimable now locked db).insertionSort
    earliest).take limit

def claimDue (workerId tenant campaign : String) (limit : Nat) (now : Time) (locked : List Uuid) (db : Db) :
    Except Raised (List CallbackRecord) × Db :=
  advanceRows (workerContext workerId "scheduler" tenant campaign) (dueAdvance now)
    (dueRows workerId tenant campaign limit now locked db) db

def missedAdvance (graceMinutes : Nat) (now : Time) : Advance where
  target := .missed
  eventType := "callback.missed"
  suffix := "missed"
  payload _ := [("grace_minutes", .int graceMinutes)]
  popups := [("MISSED", "popup:missed", now)]

def markMissed (workerId tenant campaign : String) (graceMinutes : Nat) (now : Time) (locked : List Uuid) (db : Db) :
    Except Raised (List CallbackRecord) × Db :=
  let ctx := workerContext workerId "scheduler" tenant campaign
  advanceRows ctx (missedAdvance graceMinutes now)
    (selectLate ctx campaign [.due] (now - minutes graceMinutes) locked db) db

def escalatedAdvance (escalationMinutes : Nat) (now : Time) : Advance where
  target := .escalated
  eventType := "callback.escalated"
  suffix := "escalated"
  payload _ := [("escalation_minutes", .int escalationMinutes)]
  popups := [("ESCALATED", "popup:escalated", now)]

def escalateMissed (workerId tenant campaign : String) (escalationMinutes : Nat) (now : Time) (locked : List Uuid)
    (db : Db) : Except Raised (List CallbackRecord) × Db :=
  let ctx := workerContext workerId "scheduler" tenant campaign
  advanceRows ctx (escalatedAdvance escalationMinutes now)
    (selectLate ctx campaign [.missed] (now - minutes escalationMinutes) locked db) db

/-! ## Reconciliation -/

/-- The callback of a delivery, where the worker sees it. -/
def joined (ctx : Context) (db : Db) (d : CallbackDelivery) : Option CallbackRecord :=
  (db.record d.callbackId).filter ctx.sees

/-- A delivery that `reconcile` cancels: of an earlier version, or of a callback that is over. -/
def outdated (ctx : Context) (tenant campaign : String) (db : Db) (d : CallbackDelivery) : Bool :=
  d.status.live && (joined ctx db d).any fun r =>
    decide (d.callbackVersion < r.version) ||
      r.tenantId == tenant && r.campaignId == campaign && [State.completed, .cancelled].contains r.state

/-- `reconcile`; its counts are left out. -/
def reconcile (tenant campaign : String) (db : Db) : Except Raised Unit × Db :=
  let ctx := workerContext "callback-reconciler" "scheduler" tenant campaign
  if !ctx.complete then (.error .valueError, db)
  else
    (.ok (), { db with deliveries := db.deliveries.map fun d => if outdated ctx tenant campaign db d then d.stale else d })

/-! ## Popups -/

/-- `STAGE_EVENTS`. -/
def stageEvents : List (String × String) :=
  [("WARNING", "callback.warning"), ("WARNING_15M", "callback.warning"), ("DUE", "callback.due"),
    ("MISSED", "callback.missed"), ("ESCALATED", "callback.escalated"), ("CANCELLED", "callback.cancelled"),
    ("COMPLETED", "callback.completed"), ("RESCHEDULED", "callback.rescheduled")]

def stageEvent (stage : String) : Option String := stageEvents.lookup stage.toUpper

/-- `_document` of a delivery: its event type, user and agent, or none where it raises. -/
def document (d : CallbackDelivery) (r : CallbackRecord) : Option (String × String × String) :=
  match stageEvent d.stage with
  | none => none
  | some eventType =>
    if falsy r.assignedUserId || falsy r.assignedAgentId then none
    else some (eventType, r.assignedUserId.getD "", r.assignedAgentId.getD "")

/-- What the gateway answers: it accepts, it fails or refuses, or its answer is no object. -/
inductive Gateway where
  | accepted
  | refused
  | malformed
deriving DecidableEq

/-- One delivery of `deliver_callback_popups`; none where it raises. -/
def deliverOne (now : Time) (gateway : CallbackDelivery → Gateway) (d : CallbackDelivery) (r : CallbackRecord) :
    Option CallbackDelivery :=
  let retried := { d with
    attemptCount := d.attemptCount + 1, status := .retryPending, lastErrorCode := some "WEBSOCKET_DELIVERY_FAILED"
    nextAttemptAt := some (now + seconds (min 300 (2 ^ min (d.attemptCount + 1) 8))) }
  if d.callbackVersion ≠ r.version then some d.stale
  else
    match document d r, gateway d with
    | none, _ | some _, .refused => some retried
    | some _, .accepted =>
      some { d with status := .delivered, providerMessageId := some d.idempotencyKey, nextAttemptAt := none }
    | some _, .malformed => none

/-- `ORDER BY next_attempt_at`. -/
def soonest (a b : CallbackDelivery × CallbackRecord) : Prop := a.1.nextAttemptAt.getD 0 ≤ b.1.nextAttemptAt.getD 0

instance (a b : CallbackDelivery × CallbackRecord) : Decidable (soonest a b) := inferInstanceAs (Decidable (_ ≤ _))

def duePopups (ctx : Context) (tenant campaign : String) (limit : Nat) (now : Time) (locked : List String) (db : Db) :
    List (CallbackDelivery × CallbackRecord) :=
  let rows := db.deliveries.filterMap fun d =>
    if d.channel = .popup ∧ d.status.live = true ∧ (d.nextAttemptAt.any fun t => decide (t ≤ now)) = true ∧
        locked.contains d.idempotencyKey = false then
      ((joined ctx db d).filter fun r => r.tenantId == tenant && r.campaignId == campaign).map fun r => (d, r)
    else none
  (rows.insertionSort soonest).take limit

/-- `deliver_callback_popups` with a readable token. -/
def deliverCallbackPopups (tenant campaign : String) (limit : Nat) (now : Time) (gateway : CallbackDelivery → Gateway)
    (locked : List String) (db : Db) : Except Raised Unit × Db :=
  let ctx := workerContext "callback-realtime-worker" "service" tenant campaign
  if !ctx.complete then (.error .valueError, db)
  else
    match (duePopups ctx tenant campaign limit now locked db).mapM fun x => deliverOne now gateway x.1 x.2 with
    | none => (.error .other, db)
    | some written =>
      (.ok (), { db with deliveries := db.deliveries.map fun d =>
        (written.find? fun x => x.idempotencyKey == d.idempotencyKey).getD d })

/-! ## Runs -/

/-- A mutation that was made, not answered from an earlier one. -/
structure Mutation where
  tenant : String
  key : String
  callbackId : Uuid
  target : Target
  body : Change
deriving DecidableEq

/-- The tables, the clock, and the mutations that were made, newest first. -/
structure World where
  db : Db := {}
  clock : Time
  made : List Mutation := []

inductive Act where
  | create (p : Principal) (id : Uuid) (body : CreateCallback) (key correlation : String)
  | mutate (p : Principal) (id : Uuid) (target : Target) (body : Change) (key correlation : String)
  | claimDue (workerId tenant campaign : String) (limit : Nat) (locked : List Uuid)
  | markMissed (workerId tenant campaign : String) (graceMinutes : Nat) (locked : List Uuid)
  | escalateMissed (workerId tenant campaign : String) (escalationMinutes : Nat) (locked : List Uuid)
  | reconcile (tenant campaign : String)
  | deliverCallbackPopups (tenant campaign : String) (limit : Nat) (gateway : CallbackDelivery → Gateway)
      (locked : List String)

/-- An action after some time. -/
structure Step where
  elapsed : Nat
  act : Act

def Act.mutation : Act → Option Mutation
  | .mutate p id target body key _ => some ⟨p.tenant, key, id, target, body⟩
  | _ => none

/-- The clock an action reads. -/
def Step.now (s : Step) (w : World) : Time := w.clock + s.elapsed

def Act.run (lib : Library) (now : Time) : Act → Db → Db
  | create p id body key correlation, db => (Callbacks.create lib p id body key correlation db).2
  | mutate p id target body key correlation, db => (Callbacks.mutate lib now id target body key correlation p db).2
  | claimDue workerId tenant campaign limit locked, db =>
    (Callbacks.claimDue workerId tenant campaign limit now locked db).2
  | markMissed workerId tenant campaign graceMinutes locked, db =>
    (Callbacks.markMissed workerId tenant campaign graceMinutes now locked db).2
  | escalateMissed workerId tenant campaign escalationMinutes locked, db =>
    (Callbacks.escalateMissed workerId tenant campaign escalationMinutes now locked db).2
  | reconcile tenant campaign, db => (Callbacks.reconcile tenant campaign db).2
  | deliverCallbackPopups tenant campaign limit gateway locked, db =>
    (Callbacks.deliverCallbackPopups tenant campaign limit now gateway locked db).2

/-- A mutating call that is answered by a mutation, not from an earlier event with its key. -/
def Act.makes (lib : Library) (now : Time) (db : Db) : Act → Bool
  | mutate p id target body key correlation =>
    (Callbacks.mutate lib now id target body key correlation p db).1.isOk && (db.eventFor p.tenant key).isNone
  | _ => false

def Step.next (lib : Library) (s : Step) (w : World) : World where
  db := s.act.run lib (s.now w) w.db
  clock := s.now w
  made := if s.act.makes lib (s.now w) w.db then s.act.mutation.toList ++ w.made else w.made

end Middleware.Callbacks

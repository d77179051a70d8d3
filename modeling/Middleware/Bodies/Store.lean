/-
The encrypted bodies of webhooks: the body store of `api/crypto.py`, `accept` and `reconcile_pending_bodies` of
`api/webhook_ingress.py` and the webhook inbox of `api/repository.py`, as coroutines, and the pool of deliveries and
cleaners over one store.

Every file operation and every transaction is one call. It fails before or after it took effect, or it succeeds; a process
may be killed at any of them. The content of a body file is left out: a file that is there holds the body it is named after.
-/
import Middleware.Lib.Pool
import Middleware.Data.Sha256

namespace Middleware.Bodies

open Lib

abbrev Time := Int
abbrev Uuid := String

/-- `hashlib.sha256(data).hexdigest()`. -/
def hexdigest (data : List UInt8) : String :=
  let words := Sha256.toWords (Sha256.pad (data.map UInt8.toNat))
  String.ofList ((Sha256.hashBlocks (words.length / 16) words Sha256.initialHash).flatMap Sha256.hexWord)

/-- `file:{tenant_id}/{webhook_id}/{safe_event}-{body_digest}.bin`. -/
structure Reference where
  tenantId : Uuid
  webhookId : Uuid
  safeEvent : String
  bodySha256 : String
  deriving DecidableEq

def Reference.text (r : Reference) : String :=
  "file:" ++ r.tenantId ++ "/" ++ r.webhookId ++ "/" ++ r.safeEvent ++ "-" ++ r.bodySha256 ++ ".bin"

/-- A request that names a webhook. -/
structure Delivery where
  tenantId : Uuid
  webhookId : Uuid
  eventId : String
  body : List UInt8

def Delivery.bodySha256 (d : Delivery) : String := hexdigest d.body

def Delivery.reference (d : Delivery) : Reference where
  tenantId := d.tenantId
  webhookId := d.webhookId
  safeEvent := String.ofList ((Sha256.hexdigest d.eventId).toList.take 24)
  bodySha256 := d.bodySha256

structure PendingBodyRecord where
  reference : Reference
  tenantId : Uuid
  webhookId : Uuid
  eventId : String
  bodySha256 : String
  createdAt : Time

def Delivery.record (d : Delivery) (createdAt : Time) : PendingBodyRecord :=
  ⟨d.reference, d.tenantId, d.webhookId, d.eventId, d.bodySha256, createdAt⟩

/-- `connector_webhook_event_keys`; the key is `(webhook_id, event_id)`. -/
structure EventKey where
  tenantId : Uuid
  webhookId : Uuid
  eventId : String
  bodySha256 : String

/-- `connector_webhook_inbox`. -/
structure InboxRow where
  inboxId : Uuid
  tenantId : Uuid
  webhookId : Uuid
  eventId : String
  bodySha256 : String
  encryptedBodyReference : Reference

/-- The two tables and the files. -/
structure Store where
  eventKeys : List EventKey := []
  inbox : List InboxRow := []
  bodies : List Reference := []
  pending : List PendingBodyRecord := []
  temporaries : List Nat := []
  nextTemporary : Nat := 0

/-! ## Files -/

/-- `_pending_path`. -/
def pendingPath (r : Reference) : String := Sha256.hexdigest r.text ++ ".json"

/-- The two references have one pending record. -/
def samePath (a b : Reference) : Bool := a == b || pendingPath a == pendingPath b

/-- The last step of `_write_pending_record`, which replaces the record. -/
def writePendingRecord (record : PendingBodyRecord) (s : Store) : Store :=
  { s with pending := s.pending.filter (fun r => !samePath r.reference record.reference) ++ [record] }

/-- `unlink(missing_ok=True)` of a pending record. -/
def unlinkPending (reference : Reference) (s : Store) : Store :=
  { s with pending := s.pending.filter fun r => !samePath r.reference reference }

/-- `sorted(reconciliation_root.glob("*.json"))`; a file is given by the reference it is named after. -/
def globPending (s : Store) : List Reference :=
  (s.pending.map (·.reference)).insertionSort fun a b => pendingPath a ≤ pendingPath b

def readPending (file : Reference) (s : Store) : Option PendingBodyRecord :=
  s.pending.find? fun r => samePath r.reference file

/-- `os.replace(temporary_path, target)`. -/
def replaceBody (temporary : Nat) (reference : Reference) (s : Store) : Store :=
  { s with
    bodies := reference :: s.bodies.filter (· ≠ reference)
    temporaries := s.temporaries.filter (· ≠ temporary) }

def unlinkTemporary (temporary : Nat) (s : Store) : Store :=
  { s with temporaries := s.temporaries.filter (· ≠ temporary) }

def mkstemp (s : Store) : Store :=
  { s with temporaries := s.nextTemporary :: s.temporaries, nextTemporary := s.nextTemporary + 1 }

/-- `remove`. -/
def removeBody (reference : Reference) (s : Store) : Store :=
  { s with bodies := s.bodies.filter (· ≠ reference) }

/-! ## Transactions -/

/-- What can be raised. `invalid` stands for `KeyError`, `TypeError` and `ValueError`. -/
inductive Failure where
  | os
  | invalid
  | problem (code : String)
  | other
  deriving DecidableEq

def semanticConflict : Failure := .problem "WEBHOOK_SEMANTIC_CONFLICT"

inductive ReferenceState where
  | accepted
  | rejected
  | unreferenced
  deriving DecidableEq

def InboxRow.isOf (tenantId webhookId : Uuid) (eventId : String) (r : InboxRow) : Bool :=
  r.tenantId == tenantId && r.webhookId == webhookId && r.eventId == eventId

/-- `webhook_body_reference_state`. -/
def webhookBodyReferenceState (record : PendingBodyRecord) (s : Store) : ReferenceState :=
  match s.inbox.find? (InboxRow.isOf record.tenantId record.webhookId record.eventId) with
  | none => .unreferenced
  | some row =>
    if row.bodySha256 = record.bodySha256 ∧ row.encryptedBodyReference = record.reference then .accepted else .rejected

/-- The inbox half of `persist_verified_webhook`. -/
def insertInbox (d : Delivery) (duplicate : Bool) (inboxId : Uuid) (s : Store) : Except Failure (Bool × Uuid) × Store :=
  match s.inbox.find? (InboxRow.isOf d.tenantId d.webhookId d.eventId) with
  | some row => (.ok (true, row.inboxId), s)
  | none =>
    (.ok (duplicate, inboxId),
      { s with inbox := s.inbox ++ [⟨inboxId, d.tenantId, d.webhookId, d.eventId, d.bodySha256, d.reference⟩] })

/-- `persist_verified_webhook`: `(duplicate, inbox_id)`. -/
def persistVerifiedWebhook (d : Delivery) (inboxId : Uuid) (s : Store) : Except Failure (Bool × Uuid) × Store :=
  match s.eventKeys.find? fun key => key.webhookId == d.webhookId && key.eventId == d.eventId with
  | none =>
    insertInbox d false inboxId { s with eventKeys := s.eventKeys ++ [⟨d.tenantId, d.webhookId, d.eventId, d.bodySha256⟩] }
  | some key =>
    -- `scalar_one` finds nothing of another tenant
    if key.tenantId ≠ d.tenantId then (.error .other, s)
    else if key.bodySha256 ≠ d.bodySha256 then (.error semanticConflict, s)
    else insertInbox d true inboxId s

/-! ## Calls -/

inductive Call where
  | time
  -- the route, the policy, the body and the signature of a delivery
  | verify (d : Delivery)
  -- the pending records
  | glob
  | read (file : Reference)
  | writePending (record : PendingBodyRecord)
  | unlinkPending (reference : Reference)
  -- the bodies
  | bodyExists (reference : Reference)
  | mkstemp (reference : Reference)
  | writeTemporary (temporary : Nat) (reference : Reference)
  | replace (temporary : Nat) (reference : Reference)
  | unlinkTemporary (temporary : Nat)
  | remove (reference : Reference)
  -- the tables
  | referenceState (record : PendingBodyRecord)
  | persistVerified (d : Delivery)

@[reducible] def Call.Answer : Call → Type
  | .time => Time
  | .glob => List Reference
  | .read _ => PendingBodyRecord
  | .bodyExists _ => Bool
  | .mkstemp _ => Nat
  | .referenceState _ => ReferenceState
  | .persistVerified _ => Bool × Uuid
  | .verify _ | .writePending _ | .unlinkPending _ | .writeTemporary _ _ | .replace _ _ | .unlinkTemporary _ | .remove _ => Unit

abbrev Coro (α : Type) := Prog Call.Answer Failure α
abbrev Answered := Ev Call.Answer Failure
abbrev ask (c : Call) : Coro c.Answer := Prog.ask c

/-! ## The body store -/

/-- `mark_accepted`. -/
def markAccepted (reference : Reference) : Coro Unit := ask (.unlinkPending reference)

/-- `discard_pending`. -/
def discardPending (reference : Reference) : Coro Unit := do
  ask (.remove reference)
  markAccepted reference

/-- The part of `persist_with_status` whose `finally` removes the temporary file. After `os.replace` there is none. -/
def promote (d : Delivery) (createdAt : Time) (temporary : Nat) : Coro Unit :=
  tryCatch
    (do
      ask (.writeTemporary temporary d.reference)
      ask (.writePending (d.record createdAt))
      ask (.replace temporary d.reference))
    fun e => do
      ask (.unlinkTemporary temporary)
      throw e

/-- `persist_with_status`: whether the body was created. -/
def persistWithStatus (d : Delivery) : Coro Bool := do
  let createdAt ← ask .time
  if ← ask (.bodyExists d.reference) then
    ask (.writePending (d.record createdAt))
    return false
  else
    let temporary ← ask (.mkstemp d.reference)
    promote d createdAt temporary
    return true

/-- The loop of `scan_pending_records`: the mature records, and the number of malformed ones. -/
def readRecords (cutoff : Time) : List Reference → Coro (List PendingBodyRecord × Nat)
  | [] => return ([], 0)
  | file :: files => do
    let record ← tryCatch (some <$> ask (.read file)) fun
      | .os | .invalid => pure none
      | e => throw e
    let (records, invalid) ← readRecords cutoff files
    match record with
    | none => return (records, invalid + 1)
    | some record => return (if record.createdAt ≤ cutoff then record :: records else records, invalid)

/-- `scan_pending_records`. -/
def scanPendingRecords (olderThanSeconds : Int) (now : Option Time) : Coro (List PendingBodyRecord × Nat) := do
  if olderThanSeconds < 0 then throw .invalid
  else
    let current ← match now with
      | some now => pure now
      | none => ask .time
    let files ← ask .glob
    readRecords (current - olderThanSeconds) files

/-! ## Reconciliation -/

structure Reconciled where
  examined : Nat := 0
  retained : Nat := 0
  removed : Nat := 0
  deferred : Nat := 0
  invalid : Nat := 0

def Reconciled.retain (r : Reconciled) : Reconciled := { r with retained := r.retained + 1 }
def Reconciled.remove (r : Reconciled) : Reconciled := { r with removed := r.removed + 1 }
def Reconciled.defer (r : Reconciled) : Reconciled := { r with deferred := r.deferred + 1 }

/-- An `OSError` is logged, and the count says so. -/
def deferring (count : Reconciled → Reconciled) (p : Coro Unit) : Coro (Reconciled → Reconciled) :=
  tryCatch (do
    p
    return count) fun
    | .os => pure Reconciled.defer
    | e => throw e

/-- The body of the loop of `reconcile_pending_bodies`. -/
def reconcileRecord (record : PendingBodyRecord) : Coro (Reconciled → Reconciled) := do
  match ← tryCatch (some <$> ask (.referenceState record)) fun _ => pure none with
  | none => return Reconciled.defer
  | some .accepted => deferring Reconciled.retain (markAccepted record.reference)
  | some .rejected | some .unreferenced => deferring Reconciled.remove (discardPending record.reference)

def reconcileRecords (result : Reconciled) : List PendingBodyRecord → Coro Reconciled
  | [] => return result
  | record :: records => do
    let count ← reconcileRecord record
    reconcileRecords (count result) records

def bodyReconciliationGraceSeconds : Int := 300

/-- `reconcile_pending_bodies`. -/
def reconcilePendingBodies (graceSeconds : Int) (now : Option Time) : Coro Reconciled := do
  let (records, invalid) ← scanPendingRecords graceSeconds now
  reconcileRecords { examined := records.length, invalid := invalid } records

/-! ## Acceptance -/

/-- The transaction of `accept`: a body that is refused for its content is discarded. -/
def persistVerified (d : Delivery) : Coro (Bool × Uuid) :=
  tryCatch (ask (.persistVerified d)) fun e =>
    if e = semanticConflict then do
      tryCatch (discardPending d.reference) fun
        | .os => pure ()
        | e => throw e
      throw e
    else throw e

/-- `accept`. -/
def accept (webhookIngressEnabled : Bool) (d : Delivery) : Coro (Bool × Uuid) := do
  if !webhookIngressEnabled then throw (.problem "WEBHOOK_INGRESS_DISABLED")
  else
    let _ ← reconcilePendingBodies bodyReconciliationGraceSeconds none
    ask (.verify d)
    let _ ← persistWithStatus d
    let accepted ← persistVerified d
    tryCatch (markAccepted d.reference) fun
      | .os => pure ()
      | e => throw e
    return accepted

/-! ## The pool -/

inductive Outside where
  | os
  | invalid
  | other

def Outside.failure : Outside → Failure
  | .os => .os
  | .invalid => .invalid
  | .other => .other

/-- A call fails before it took effect, or after it. -/
inductive Fault where
  | before (e : Outside)
  | after (e : Outside)

structure Input where
  now : Time
  uuid : Uuid := ""
  fault : Option Fault := none
  admitted : Except Failure Unit := .ok ()

def Fault.outside : Fault → Outside
  | .before e | .after e => e

/-- A call that takes effect before it fails, or not. -/
def Input.perform {α : Type} (i : Input) (f : Store → Except Failure α × Store) (s : Store) : Except Failure α × Store :=
  match i.fault with
  | some (.before e) => (.error e.failure, s)
  | some (.after e) => (.error e.failure, (f s).2)
  | none => f s

def Input.file (i : Input) (f : Store → Store) : Store → Except Failure Unit × Store := i.perform fun s => (.ok (), f s)

/-- A call that takes effect and is answered, or fails. -/
def Input.attempt {α : Type} (i : Input) (f : Store → Except Failure α × Store) (s : Store) : Except Failure α × Store :=
  match i.fault with
  | some fault => (.error fault.outside.failure, s)
  | none => f s

def exec (i : Input) : (c : Call) → Store → Except Failure c.Answer × Store
  | .time, s => (.ok i.now, s)
  | .verify _, s => (i.admitted, s)
  | .glob, s => i.attempt (fun s => (.ok (globPending s), s)) s
  | .read file, s => i.attempt (fun s => (match readPending file s with
      | some record => .ok record
      | none => .error .os, s)) s
  | .writePending record, s => i.file (writePendingRecord record) s
  | .unlinkPending reference, s => i.file (unlinkPending reference) s
  | .bodyExists reference, s => i.attempt (fun s => (.ok (decide (reference ∈ s.bodies)), s)) s
  | .mkstemp _, s => i.attempt (fun s => (.ok s.nextTemporary, mkstemp s)) s
  | .writeTemporary _ _, s => i.file id s
  | .replace temporary reference, s => i.file (replaceBody temporary reference) s
  | .unlinkTemporary temporary, s => i.file (unlinkTemporary temporary) s
  | .remove reference, s => i.file (removeBody reference) s
  | .referenceState record, s => i.attempt (fun s => (.ok (webhookBodyReferenceState record s), s)) s
  | .persistVerified d, s => i.perform (persistVerifiedWebhook d i.uuid) s

/-- What may run over a store. -/
inductive Job where
  | accept (webhookIngressEnabled : Bool) (d : Delivery)
  | reconcilePendingBodies (graceSeconds : Int) (now : Option Time)

def Job.coroutine : Job → Coro Unit
  | .accept enabled d => discard (Bodies.accept enabled d)
  | .reconcilePendingBodies graceSeconds now => discard (Bodies.reconcilePendingBodies graceSeconds now)

/-- The ingress services over one store; a process may be suspended before every call. -/
def ingress : System Call.Answer Failure Unit Store Input Job where
  exec := exec
  sync _ := false
  prog := Job.coroutine

abbrev Run := Pool Call.Answer Failure Unit Store Job
abbrev Step := Action Input Job
abbrev LogEntry := Entry Call.Answer Failure Store

/-- The services after a list of actions over an empty store. -/
def run (actions : List Step) : Run := ingress.run ⟨{}, [], []⟩ actions

end Middleware.Bodies

/-
The durable outbox: the rows of `outbox_event` (migrations 0002 and 0005), the statements and functions of
`app/workers/outbox.py`, and `RetryPolicy` of `app/core/reliability.py`. `deliver_once` of
`app/workers/scraper_odoo_delivery.py` claims with a statement of its own, which selects one topic.

A function is one transaction. It is given its reading of the clock, and the rows that other transactions hold locked.
-/
import Middleware.Data.Json
import Middleware.Ledger.Types
import Middleware.Lib.Updates

namespace Middleware.Outbox

open Ledger Lib

/-! ## Rows -/

inductive Status where
  | pending
  | retry
  | processing
  | delivered
  | deadLetter
deriving DecidableEq, Repr

structure Item where
  id : Uuid
  topic : String
  payload : Obj
  correlationId : Option String := none
  status : Status := .pending
  attempts : Int := 0
  nextAttemptAt : Option Time := none
  lockedAt : Option Time := none
  deadLetteredAt : Option Time := none
  replayCount : Nat := 0
  lastError : Option String := none
  createdAt : Time

/-- `ck_outbox_attempts_nonnegative`. -/
def Item.valid (i : Item) : Bool := decide (0 ≤ i.attempts)

/-- How a function fails: `ValueError`, a constraint of the table, or no row in processing. -/
inductive Raised where
  | valueError
  | integrity
  | notProcessing
deriving DecidableEq, Repr

/-! ## Retry policies -/

structure RetryPolicy where
  maxAttempts : Int := 5
  baseSeconds : Int := 5
  maxSeconds : Int := 300

/-- `delay`, in seconds. -/
def RetryPolicy.delay (policy : RetryPolicy) (attempts : Int) : Except Raised Int :=
  if attempts < 1 then .error .valueError
  else .ok (min policy.maxSeconds (policy.baseSeconds * 2 ^ (attempts - 1).toNat))

/-- A `timedelta`. -/
def seconds (n : Int) : Time := n * 1000000

/-! ## Claims -/

/-- The rows a claim may take, of one topic or of any. -/
def Item.claimable (topic : Option String) (now : Time) (i : Item) : Bool :=
  topic.all (· == i.topic) && [Status.pending, .retry].contains i.status && i.nextAttemptAt.all fun t => decide (t ≤ now)

/-- `ORDER BY created_at, id`. -/
def claimOrder (a b : Item) : Prop := a.createdAt < b.createdAt ∨ a.createdAt = b.createdAt ∧ a.id ≤ b.id

instance (a b : Item) : Decidable (claimOrder a b) := inferInstanceAs (Decidable (_ ∨ _))

/-- The rows of `claimable`, those that are locked skipped. -/
def claimable (topic : Option String) (limit : Nat) (now : Time) (locked : List Uuid) (items : List Item) : List Item :=
  ((items.filter fun i => i.claimable topic now && !locked.contains i.id).insertionSort claimOrder).take limit

def Item.claimed (now leaseUntil : Time) (i : Item) : Item :=
  { i with status := .processing, lockedAt := some now, nextAttemptAt := some leaseUntil }

def writeRows (ids : List Uuid) (f : Item → Item) (items : List Item) : List Item :=
  items.map fun i => if ids.contains i.id then f i else i

/-- `CLAIM_SQL`, and `CLAIM` of the scraper's delivery for its topic. -/
def claimRows (topic : Option String) (limit : Nat) (leaseSeconds : Int) (now : Time) (locked : List Uuid)
    (items : List Item) : List Item × List Item :=
  let rows := claimable topic limit now locked items
  let leaseUntil := now + seconds leaseSeconds
  (rows.map (·.claimed now leaseUntil), writeRows (rows.map (·.id)) (·.claimed now leaseUntil) items)

def claimBatch (limit leaseSeconds : Int) (now : Time) (locked : List Uuid) (items : List Item) :
    Except Raised (List Item) × List Item :=
  if limit < 1 ∨ 100 < limit then (.error .valueError, items)
  else
    let (rows, items) := claimRows none limit.toNat leaseSeconds now locked items
    (.ok rows, items)

/-- The claim of `deliver_once`. -/
def claimLeads (limit : Nat) (leaseSeconds : Int) (now : Time) (locked : List Uuid) (items : List Item) :
    Except Raised (List Item) × List Item :=
  let (rows, items) := claimRows (some "sales.lead.odoo.apply") limit leaseSeconds now locked items
  (.ok rows, items)

/-! ## Settling -/

def Item.isProcessing (i : Item) : Bool := decide (i.status = .processing)

/-- The write of `ACK_SQL`. -/
def Item.acknowledged (i : Item) : Item :=
  { i with status := .delivered, lockedAt := none, nextAttemptAt := none, lastError := none }

def acknowledge (itemId : Uuid) (items : List Item) : Except Raised Bool × List Item :=
  let (row, items) := updateOne Item.id Raised.integrity Item.valid itemId Item.isProcessing Item.acknowledged items
  (row.map (·.isSome), items)

/-- The write of `FAIL_SQL`. -/
def Item.failed (attempts : Int) (dead : Bool) (lastError : String) (nextAttemptAt : Option Time) (now : Time) (i : Item) :
    Item :=
  { i with
    attempts := attempts, status := if dead then .deadLetter else .retry, lastError := some lastError
    nextAttemptAt := nextAttemptAt, lockedAt := none, deadLetteredAt := if dead then some now else none }

/-- Whether a failure is the last one. -/
def isDead (policy : RetryPolicy) (attempts : Int) (permanent : Bool) : Bool :=
  permanent || decide (policy.maxAttempts ≤ attempts)

/-- `record_failure`; `redact` is the redaction of a text. -/
def recordFailure (redact : String → String) (policy : RetryPolicy) (itemId : Uuid) (currentAttempts : Int)
    (error : String) (permanent : Bool) (now : Time) (items : List Item) : Except Raised Status × List Item :=
  let attempts := currentAttempts + 1
  let dead := isDead policy attempts permanent
  match (if dead then .ok none else (policy.delay attempts).map fun s => some (now + seconds s)) with
  | .error e => (.error e, items)
  | .ok nextAttemptAt =>
    match updateOne Item.id Raised.integrity Item.valid itemId Item.isProcessing
        (·.failed attempts dead (redact error) nextAttemptAt now) items with
    | (.error e, items) => (.error e, items)
    | (.ok none, items) => (.error .notProcessing, items)
    | (.ok (some _), items) => (.ok (if dead then .deadLetter else .retry), items)

/-! ## Recovery and replay -/

/-- The rows `RECOVER_SQL` selects. -/
def Item.expired (now : Time) (i : Item) : Bool := i.isProcessing && i.nextAttemptAt.any fun t => decide (t ≤ now)

def Item.recovered (now : Time) (i : Item) : Item :=
  { i with
    status := .retry, lockedAt := none, nextAttemptAt := some now
    lastError := some (i.lastError.getD "worker lease expired") }

def recoverExpiredLeases (now : Time) (items : List Item) : List Uuid × List Item :=
  let ids := (items.filter (·.expired now)).map (·.id)
  (ids, writeRows ids (·.recovered now) items)

/-- The write of `REPLAY_SQL`. -/
def Item.replayed (i : Item) : Item :=
  { i with
    status := .pending, attempts := 0, nextAttemptAt := none, lockedAt := none, lastError := none, deadLetteredAt := none
    replayCount := i.replayCount + 1 }

def replayDeadLetter (itemId : Uuid) (items : List Item) : Except Raised Bool × List Item :=
  let (row, items) := updateOne Item.id Raised.integrity Item.valid itemId (fun i => decide (i.status = .deadLetter))
    Item.replayed items
  (row.map (·.isSome), items)

/-- The row a producer adds; a taken id fails. -/
def addItem (i : Item) (items : List Item) : Except Raised Unit × List Item :=
  if (rowAt Item.id i.id items).isSome then (.error .integrity, items) else (.ok (), items ++ [i])

/-! ## Workers -/

/-- The worker of one claimed row, with the attempts it read in its claim; it is alive until its last call or its crash. -/
structure Worker where
  item : Uuid
  attempts : Int
  alive : Bool := true

/-- What happened to a row, for counting. -/
inductive Event where
  | created (id : Uuid)
  | claimed (id : Uuid)
  | recovered (id : Uuid)
  | replayed (id : Uuid)
deriving DecidableEq

/-- The outbox, the workers in the order of their claims, and what happened, newest first. -/
structure World where
  items : List Item := []
  workers : List Worker := []
  log : List Event := []

inductive Step where
  | create (id : Uuid) (topic : String) (payload : Obj) (correlationId : Option String) (createdAt : Time)
  | claimBatch (limit leaseSeconds : Int) (now : Time) (locked : List Uuid)
  | claimLeads (limit : Nat) (leaseSeconds : Int) (now : Time) (locked : List Uuid)
  | acknowledge (worker : Nat)
  | recordFailure (worker : Nat) (error : String) (permanent : Bool) (now : Time)
  | finish (worker : Nat)
  | recoverExpiredLeases (now : Time)
  | replayDeadLetter (id : Uuid)

/-- The world after a claim: one worker for each row. -/
def World.claim (w : World) (x : Except Raised (List Item) × List Item) : World :=
  match x with
  | (.error _, _) => w
  | (.ok rows, items) =>
    { items := items, workers := w.workers ++ rows.map fun i => ⟨i.id, i.attempts, true⟩
      log := (rows.map fun i => Event.claimed i.id) ++ w.log }

/-- A call of a worker that is still alive. -/
def World.settle (w : World) (worker : Nat) (act : Worker → List Item) : World :=
  match w.workers[worker]? with
  | some x => if x.alive then { w with items := act x } else w
  | none => w

def Step.next (redact : String → String) (policy : RetryPolicy) : Step → World → World
  | create id topic payload correlationId createdAt, w =>
    match addItem { id := id, topic := topic, payload := payload, correlationId := correlationId, createdAt := createdAt }
        w.items with
    | (.error _, _) => w
    | (.ok (), items) => { w with items := items, log := .created id :: w.log }
  | claimBatch limit leaseSeconds now locked, w => w.claim (Outbox.claimBatch limit leaseSeconds now locked w.items)
  | claimLeads limit leaseSeconds now locked, w => w.claim (Outbox.claimLeads limit leaseSeconds now locked w.items)
  | acknowledge worker, w => w.settle worker fun x => (Outbox.acknowledge x.item w.items).2
  | recordFailure worker error permanent now, w =>
    w.settle worker fun x => (Outbox.recordFailure redact policy x.item x.attempts error permanent now w.items).2
  | finish worker, w => { w with workers := w.workers.modify worker fun x => { x with alive := false } }
  | recoverExpiredLeases now, w =>
    let (ids, items) := Outbox.recoverExpiredLeases now w.items
    { w with items := items, log := ids.map Event.recovered ++ w.log }
  | replayDeadLetter id, w =>
    match Outbox.replayDeadLetter id w.items with
    | (.ok true, items) => { w with items := items, log := .replayed id :: w.log }
    | _ => w

end Middleware.Outbox

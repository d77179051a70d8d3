/-
The workers of the campaign saga, run against one another. `process_saga` is taken apart where it commits or waits for Odoo:
it holds the lock of its row from its start until it renewed the lease or wrote an outcome, and every later write is a
transaction of its own. Each action reads its own clock, and a worker may crash anywhere.

`history`, `drawn` and `resends` are written by the runs and read by no function of the source.
-/
import Middleware.Campaign.Records
import Middleware.Lib.Runs

namespace Middleware.Campaign

open Ledger Lib Policy

abbrev Worker := Nat

structure Claim where
  sagaId : Uuid
  attempts : Nat
  reservedAt : Option Time
deriving DecidableEq

def OdooCampaignSaga.claim (saga : OdooCampaignSaga) : Claim := ⟨saga.sagaId, saga.attempts, saga.reservedAt⟩

/-- How far a dispatch came. -/
inductive Phase where
  | loaded
  | renewed (desired : DesiredState)
  | applied (desired : DesiredState) (observation : AdapterObservation)
  | ready (desired : DesiredState)
  | sent (desired : DesiredState) (readback : ActualStateReadback)

/-- A `process_saga` under way: the row in memory, and the key its row was to send again when it started. -/
structure Run where
  saga : OdooCampaignSaga
  phase : Phase
  resends : Option String

/-- A call of `report_actual_state`, with the desired state read in the same dispatch. -/
structure Sent where
  sagaId : Uuid
  desired : DesiredState
  resends : Option String
  readback : ActualStateReadback

/-- What the workers did, newest first. -/
structure History where
  claims : List (Worker × Claim) := []
  renewals : List (Worker × Claim) := []
  applied : List (Worker × Claim × Option String) := []
  -- the claim that the row carried, for each successful guarded update
  writes : List (Worker × Claim) := []
  sent : List Sent := []

structure World where
  events : List IntegrationEvent := []
  sagas : List OdooCampaignSaga := []
  -- the rows an enrolment is still to insert
  pending : Worker → List IntegrationEvent := fun _ => []
  -- the claim a worker is to process
  held : Worker → Option Claim := fun _ => none
  runs : Worker → Option Run := fun _ => none
  locks : Uuid → Option Worker := fun _ => none
  -- the values `uuid4` returned
  drawn : List String := []
  -- the key of the readback whose transport failure set the row to RETRY
  resends : Uuid → Option String := fun _ => none
  history : History := {}

namespace World

def row (w : World) (id : Uuid) : Option OdooCampaignSaga := rowAt OdooCampaignSaga.sagaId id w.sagas

/-- Another worker holds the lock of the row. -/
def blocked (w : World) (worker : Worker) (id : Uuid) : Bool := (w.locks id).any fun other => decide (other ≠ worker)

/-- The end of a worker's transaction. -/
def release (w : World) (worker : Worker) : World :=
  { w with locks := fun id => (w.locks id).filter fun other => decide (other ≠ worker) }

/-- The end of a worker's dispatch. -/
def finish (w : World) (worker : Worker) : World :=
  { w.release worker with runs := Function.update w.runs worker none }

/-- The rows after a change of one of them. -/
def update (w : World) (id : Uuid) (f : OdooCampaignSaga → OdooCampaignSaga) : List OdooCampaignSaga :=
  w.sagas.map fun r => if r.sagaId = id then f r else r

/-- `_guarded_update`: none where the reservation was lost, or the database refuses the row. -/
def guardedUpdate (w : World) (worker : Worker) (saga : OdooCampaignSaga) (f : OdooCampaignSaga → OdooCampaignSaga) :
    Option World :=
  match w.row saga.sagaId with
  | none => none
  | some row =>
    if saga.heldBy row && (f row).fits then
      some ({ w with
        sagas := w.update saga.sagaId f
        history := { w.history with writes := (worker, row.claim) :: w.history.writes } }.release worker)
    else none

/-- `_terminate`, and the end of the dispatch. -/
def terminate (w : World) (worker : Worker) (now : Time) (saga : OdooCampaignSaga) (outcome : Outcome) : World :=
  ((w.guardedUpdate worker saga (·.terminated now outcome)).getD w).finish worker

/-! ## Actions -/

def select (w : World) (worker : Worker) (limit : Nat) : World :=
  { w with pending := Function.update w.pending worker (pendingEvents limit w.events w.sagas) }

/-- The next row of an enrolment; one that breaks a unique constraint is skipped. -/
def insert (lib : Library) (w : World) (worker : Worker) (id : Uuid) : World :=
  match w.pending worker with
  | [] => w
  | event :: rest =>
    let w := { w with pending := Function.update w.pending worker rest }
    match sagaForEvent lib id event with
    | none => w
    | some saga => if unused saga w.sagas then { w with sagas := w.sagas ++ [saga] } else w

/-- `claim_saga`; `skipped` are the rows that other transactions hold. -/
def claim (lib : Library) (w : World) (worker : Worker) (now : Time) (skipped : List Uuid) : World :=
  if (w.held worker).isSome || (w.runs worker).isSome then w
  else
    match w.sagas.find? fun r => r.claimable now && (w.locks r.sagaId).isNone && !skipped.contains r.sagaId with
    | none => w
    | some saga =>
      let claimed := saga.claimed lib now
      { w with
        sagas := w.update saga.sagaId fun _ => claimed
        held := Function.update w.held worker (some claimed.claim)
        history := { w.history with claims := (worker, claimed.claim) :: w.history.claims } }

/-- A row that lease recovery writes: it waits for a row that is locked. -/
def recoverable (w : World) (now : Time) (saga : OdooCampaignSaga) : Bool := saga.expired now && (w.locks saga.sagaId).isNone

/-- `recover_expired_leases`. -/
def recover (lib : Library) (w : World) (now : Time) : World :=
  { w with
    sagas := w.sagas.map fun r => if w.recoverable now r then r.recovered lib now else r
    resends := fun id => if (w.row id).any (w.recoverable now) then none else w.resends id }

/-- The start of `process_saga` on the row that was claimed: it is read and locked. -/
def start (w : World) (worker : Worker) : World :=
  match w.held worker with
  | none => w
  | some c =>
    if w.blocked worker c.sagaId then w
    else
      let w := { w with held := Function.update w.held worker none }
      match w.row c.sagaId with
      | none => w
      | some row =>
        if row.status ≠ .reserved then w
        else
          { w with
            locks := Function.update w.locks c.sagaId (some worker)
            runs := Function.update w.runs worker (some ⟨row, .loaded, w.resends c.sagaId⟩) }

/-- The desired state was read: the lease is renewed, or the dispatch ends. -/
def read (lib : Library) (w : World) (worker : Worker) (answer : Answer) (now : Time) : World :=
  match w.runs worker with
  | some ⟨saga, .loaded, resends⟩ =>
    match verdict lib now saga answer with
    | .terminate outcome => w.terminate worker now saga outcome
    | .proceed desired =>
      match w.guardedUpdate worker saga (·.renewed lib now) with
      | none => w.finish worker
      | some w =>
        { w with
          runs := Function.update w.runs worker (some ⟨saga.renewed lib now, .renewed desired, resends⟩)
          history := { w.history with renewals := (worker, saga.claim) :: w.history.renewals } }
  | _ => w

/-- The adapter is called, unless there is an observation to send again. -/
def apply (w : World) (worker : Worker) (now : Time) : World :=
  match w.runs worker with
  | some ⟨saga, .renewed desired, resends⟩ =>
    if saga.hasReusableObservation then
      { w with runs := Function.update w.runs worker (some ⟨saga, .ready desired, resends⟩) }
    else
      { w with
        runs := Function.update w.runs worker (some ⟨saga, .applied desired (Campaign.apply now saga desired), resends⟩)
        history := { w.history with applied := (worker, saga.claim, resends) :: w.history.applied } }
  | _ => w

/-- The observation is stored under a new key; `uuid4` returns no value twice. -/
def observe (w : World) (worker : Worker) (uuid : {s : String // s.length = 36}) : World :=
  match w.runs worker with
  | some ⟨saga, .applied desired observation, resends⟩ =>
    if w.blocked worker saga.sagaId || w.drawn.contains uuid.1 then w
    else
      let w := { w with drawn := uuid.1 :: w.drawn }
      let key := readbackKey saga uuid.1
      match w.guardedUpdate worker saga (·.observed observation key saga.attempts) with
      | none => w.finish worker
      | some w =>
        { w with
          runs := Function.update w.runs worker (some ⟨saga.observed observation key saga.attempts, .ready desired, resends⟩) }
  | _ => w

/-- The readback is sent, if its body is valid. -/
def send (w : World) (worker : Worker) : World :=
  match w.runs worker with
  | some ⟨saga, .ready desired, resends⟩ =>
    match saga.readback with
    | none => w.finish worker
    | some readback =>
      if !readback.accepted then w.finish worker
      else
        { w with
          runs := Function.update w.runs worker (some ⟨saga, .sent desired readback, resends⟩)
          history := { w.history with sent := ⟨saga.sagaId, desired, resends, readback⟩ :: w.history.sent } }
  | _ => w

def finishReadback (lib : Library) (w : World) (worker : Worker) (answer : Answer) (now : Time) : World :=
  match w.runs worker with
  | some ⟨saga, .sent _ readback, _⟩ =>
    if w.blocked worker saga.sagaId then w
    else
      let outcome := readbackOutcome lib now saga readback answer
      match w.guardedUpdate worker saga (·.terminated now outcome) with
      | none => w.finish worker
      | some w =>
        { w.finish worker with
          resends := if outcome.status = .retry then
              Function.update w.resends saga.sagaId (some readback.idempotencyKey)
            else w.resends }
  | _ => w

/-- A worker stops; what it had not committed is rolled back. -/
def crash (w : World) (worker : Worker) : World :=
  { w.finish worker with
    held := Function.update w.held worker none
    pending := Function.update w.pending worker [] }

end World

inductive Act where
  | arrive (event : IntegrationEvent)
  | select (worker : Worker) (limit : Nat)
  | insert (worker : Worker) (id : Uuid)
  | claim (worker : Worker) (now : Time) (skipped : List Uuid)
  | recover (now : Time)
  | start (worker : Worker)
  | read (worker : Worker) (answer : Answer) (now : Time)
  | apply (worker : Worker) (now : Time)
  | observe (worker : Worker) (uuid : {s : String // s.length = 36})
  | send (worker : Worker)
  | finishReadback (worker : Worker) (answer : Answer) (now : Time)
  | crash (worker : Worker)

def Act.next (lib : Library) : Act → World → World
  | arrive event, w => { w with events := w.events ++ [event] }
  | select worker limit, w => w.select worker limit
  | insert worker id, w => w.insert lib worker id
  | claim worker now skipped, w => w.claim lib worker now skipped
  | recover now, w => w.recover lib now
  | start worker, w => w.start worker
  | read worker answer now, w => w.read lib worker answer now
  | apply worker now, w => w.apply worker now
  | observe worker uuid, w => w.observe worker uuid
  | send worker, w => w.send worker
  | finishReadback worker answer now, w => w.finishReadback lib worker answer now
  | crash worker, w => w.crash worker

end Middleware.Campaign

/-
The telephony command journal and the transactions on it of `app/workers/telephony_commands.py`: `claim_authorized`, a
beat of `_renew_lease`, `_record_failure`, `_persist_submission`, and the reading and the finalization of
`dispatch_one`, with the insertion of an authorized command by `app/api/v1/commands.py`. A transaction answers and leaves
the journal it wrote, or raises and is rolled back.

A lease owner (`uuid4().hex`) is the number of the claim that took it. Time is in seconds.
-/
import Middleware.Telephony.Requests
import Middleware.Lib.Rows

namespace Middleware.Telephony

open Ledger Lib

/-- The states of a `TelephonyCommandState` that the worker and the insertion name. -/
inductive TelephonyCommandState where
  | authorized | policyDenied | submitting | submitted | readbackPending | odooResultPending | reconciliationRequired
  | failedTransient | failedPermanent
  deriving DecidableEq

def leaseSeconds : Time := 120
def maxAttempts : Nat := 8

/-- A row of `telephony_command_journal`. -/
structure JournalRow where
  commandId : Nat
  environment : String
  requestJson : Json
  state : TelephonyCommandState
  attemptCount : Nat := 0
  nextAttemptAt : Option Time := none
  leaseOwner : Option Nat := none
  createdAt : Time
  updatedAt : Time

/-- What `_persist_submission` writes as the state of an operation, and the finalization over it. -/
inductive OperationState where
  | ambiguous
  | command (state : TelephonyCommandState)

/-- A row of `telephony_operation_journal`. -/
structure OperationRow where
  operationPublicId : String
  commandId : Nat
  state : OperationState
  endpointKey : Json
  readbackEndpointKey : Json
  targetConfigurationChecksum : Json
  targetAttested : Json
  adapterServiceKey : Json
  adapterOperationId : Json
  targetSystem : String
  targetResourceType : String
  targetPublicId : String
  desiredStateVersion : Nat
  idempotencyHash : String
  desiredHash : Json
  correlationId : String
  actualHash : Json := .null
  readbackMatches : Json := .null
  responseJson : Json := .obj []
  completedAt : Option Time := none

/-- The journal: commands, operations, and how many lease owners were made up. -/
structure Journal where
  rows : List JournalRow := []
  operations : List OperationRow := []
  issued : Nat := 0

/-- A claim of a row: the command and the owner of its lease. -/
structure Claim where
  commandId : Nat
  owner : Nat
  deriving DecidableEq

namespace Journal

def row (j : Journal) (id : Nat) : Option JournalRow := j.rows.find? fun r => decide (r.commandId = id)

def operation (j : Journal) (id : Nat) : Option OperationRow := j.operations.find? fun o => decide (o.commandId = id)

def update (j : Journal) (id : Nat) (f : JournalRow → JournalRow) : Journal :=
  { j with rows := j.rows.map fun r => if r.commandId = id then f r else r }

end Journal

/-- The guard of every write of a worker: the row is being submitted under its lease. -/
def JournalRow.heldBy (r : JournalRow) (owner : Nat) : Bool := r.state == .submitting && r.leaseOwner == some owner

/-! ## Insertion and claim -/

/-- `new_command_record` as it is inserted: authorized by its policy decision or denied. -/
def newCommandRecord (commandId : Nat) (environment : String) (requestJson : Json) (allowed : Bool) (now : Time) :
    JournalRow :=
  { commandId := commandId, environment := environment, requestJson := requestJson,
    state := if allowed then .authorized else .policyDenied, createdAt := now, updatedAt := now }

/-- The condition of `claim_authorized`. -/
def claimable (environment : String) (now : Time) (r : JournalRow) : Bool :=
  r.environment == environment &&
    (([TelephonyCommandState.authorized, .failedTransient, .readbackPending].contains r.state &&
        r.nextAttemptAt.all fun t => decide (t ≤ now)) ||
      (r.state == .submitting && r.nextAttemptAt.any fun t => decide (t ≤ now)))

/-- `ORDER BY created_at LIMIT 1`. -/
def oldest : List JournalRow → Option JournalRow
  | [] => none
  | r :: rest =>
    match oldest rest with
    | none => some r
    | some r' => if r'.createdAt < r.createdAt then some r' else some r

/-- The oldest claimable row that no other transaction has locked. -/
def selectClaimable (j : Journal) (environment : String) (now : Time) (locked : List Nat) : Option JournalRow :=
  oldest (j.rows.filter fun r => claimable environment now r && !locked.contains r.commandId)

def JournalRow.claimed (r : JournalRow) (owner : Nat) (now : Time) : JournalRow :=
  { r with
    state := .submitting, attemptCount := r.attemptCount + 1, leaseOwner := some owner,
    nextAttemptAt := some (now + leaseSeconds), updatedAt := now }

/-- `claim_authorized`. -/
def claimAuthorized (environment : String) (now : Time) (locked : List Nat) (j : Journal) :
    Except Raised (Option Claim) × Journal :=
  match selectClaimable j environment now locked with
  | none => (.ok none, j)
  | some r =>
    (.ok (some ⟨r.commandId, j.issued⟩),
      { j.update r.commandId (·.claimed j.issued now) with issued := j.issued + 1 })

/-- `INSERT` of a command; the id is the primary key. -/
def insertCommand (r : JournalRow) (j : Journal) : Except Raised Unit × Journal :=
  match j.row r.commandId with
  | some _ => (.error .database, j)
  | none => (.ok (), { j with rows := j.rows ++ [r] })

/-! ## Under the lease -/

def JournalRow.renewed (r : JournalRow) (now : Time) : JournalRow :=
  { r with nextAttemptAt := some (now + leaseSeconds), updatedAt := now }

/-- One beat of `_renew_lease`: whether the lease is still held. -/
def renewLease (c : Claim) (now : Time) (j : Journal) : Except Raised Bool × Journal :=
  match j.row c.commandId with
  | some r => if r.heldBy c.owner then (.ok true, j.update c.commandId (·.renewed now)) else (.ok false, j)
  | none => (.ok false, j)

def JournalRow.failed (r : JournalRow) (exc : Raised) (now : Time) : JournalRow :=
  let permanent := exc.permanent || decide (maxAttempts ≤ r.attemptCount)
  { r with
    state := if permanent then .failedPermanent else .failedTransient
    nextAttemptAt := if permanent then none else some (now + min 300 (2 ^ min r.attemptCount 8))
    leaseOwner := none, updatedAt := now }

/-- `_record_failure`. -/
def recordFailure (c : Claim) (exc : Raised) (now : Time) (j : Journal) : Except Raised Unit × Journal :=
  match j.row c.commandId with
  | some r => if r.heldBy c.owner then (.ok (), j.update c.commandId (·.failed exc now)) else (.ok (), j)
  | none => (.ok (), j)

/-- What is read of a claimed command before its dispatch. -/
structure Loaded where
  command : TelephonyCommandRequest
  operation : Option Obj
  decision : Option PolicyDecision

/-- The operation of an earlier attempt as the adapter is told it. -/
def OperationRow.resumed (o : OperationRow) : Obj :=
  [("operation_id", .str o.operationPublicId), ("operation_public_id", .str o.operationPublicId),
    ("adapter_operation_id", o.adapterOperationId), ("endpoint_key", o.endpointKey),
    ("readback_endpoint_key", o.readbackEndpointKey),
    ("target_configuration_checksum", o.targetConfigurationChecksum), ("target_attested", o.targetAttested),
    ("desired_hash", o.desiredHash)]

/-- The second session of `dispatch_one`: the request is validated against the clock, and `UUID(None)` raises. -/
def loadClaimed (lib : Library) (decisions : Uuid → Option PolicyDecision) (commandId : Nat) (now : Time) (j : Journal) :
    Except Raised Loaded :=
  match j.row commandId with
  | none => .error (.runtimeError "claimed telephony command disappeared")
  | some r =>
    match TelephonyCommandRequest.modelValidate lib now r.requestJson with
    | .error message => .error (.validationError message)
    | .ok command =>
      match j.operation commandId with
      | some existing => .ok ⟨command, some existing.resumed, none⟩
      | none =>
        match command.policyDecisionId with
        | none => .error .typeError
        | some id => .ok ⟨command, none, decisions id⟩

/-! ## Submission and readback -/

/-- `operation[key]`. -/
def member (d : Obj) (key : String) : Except Raised Json :=
  match d.lookup key with
  | some v => .ok v
  | none => .error (.keyError key)

/-- Python's truth of a value. -/
def truthy : Json → Bool
  | .null => false
  | .bool b => b
  | .int n => n ≠ 0
  | .float r => decide (r ≠ "0.0" ∧ r ≠ "-0.0")
  | .str s => s ≠ ""
  | .arr items => !items.isEmpty
  | .obj members => !members.isEmpty

/-- `str(value)`; a list or a mapping, which is no id, keeps its canonical text. -/
def text : Json → String
  | .null => "None"
  | .bool b => if b then "True" else "False"
  | .int n => toString n
  | .float r => r
  | .str s => s
  | v => dumps true v

def submittedOperation (commandId : Nat) (command : TelephonyCommandRequest) (operation : Obj) :
    Except Raised OperationRow := do
  let publicId ← member operation "operation_public_id"
  let endpointKey ← member operation "endpoint_key"
  let readbackEndpointKey ← member operation "readback_endpoint_key"
  let checksum ← member operation "target_configuration_checksum"
  let attested ← member operation "target_attested"
  let serviceKey ← member operation "adapter_service_key"
  let adapterOperationId ← member operation "adapter_operation_id"
  let endpointId ← member operation "endpoint_id"
  let endpointVersionId ← member operation "endpoint_version_id"
  let desiredHash ← member operation "desired_hash"
  return {
    operationPublicId := text publicId, commandId := commandId
    state := if truthy ((operation.lookup "ambiguous").getD .null) then .ambiguous else .command .submitted
    endpointKey := endpointKey, readbackEndpointKey := readbackEndpointKey, targetConfigurationChecksum := checksum,
    targetAttested := attested, adapterServiceKey := serviceKey, adapterOperationId := adapterOperationId,
    targetSystem := command.targetSystem, targetResourceType := command.targetResourceType,
    targetPublicId := command.targetPublicId, desiredStateVersion := command.payload.desiredStateVersion
    idempotencyHash := payloadHash (.obj
      [("command_public_id", .str (firstSet [command.commandPublicId] (toString commandId))),
        ("resolved_endpoint_id", endpointId), ("endpoint_configuration_version", endpointVersionId)])
    desiredHash := desiredHash, correlationId := command.correlationId }

/-- `_persist_submission`. -/
def persistSubmission (c : Claim) (command : TelephonyCommandRequest) (operation : Obj) (now : Time) (j : Journal) :
    Except Raised Unit × Journal :=
  match j.row c.commandId with
  | none => (.error (.runtimeError "telephony command submission ownership conflict"), j)
  | some r =>
    if !r.heldBy c.owner then
      (.error (.runtimeError "telephony command submission ownership conflict"), j)
    else
      match member operation "operation_public_id" with
      | .error e => (.error e, j)
      | .ok publicId =>
        let renewed := j.update c.commandId (·.renewed now)
        match j.operation c.commandId with
        | none =>
          match submittedOperation c.commandId command operation with
          | .error e => (.error e, j)
          | .ok o => (.ok (), { renewed with operations := j.operations ++ [o] })
        | some existing =>
          if existing.operationPublicId ≠ text publicId then
            (.error (.runtimeError "adapter operation idempotency conflict"), j)
          else (.ok (), renewed)

def readbackState (matched : Bool) : TelephonyCommandState :=
  if matched then .odooResultPending else .reconciliationRequired

def JournalRow.finalized (r : JournalRow) (state : TelephonyCommandState) (now : Time) : JournalRow :=
  { r with state := state, nextAttemptAt := none, leaseOwner := none, updatedAt := now }

def OperationRow.finalized (o : OperationRow) (state : TelephonyCommandState) (readback : Obj) (now : Time) :
    Except Raised OperationRow := do
  let actualHash ← member readback "actual_hash"
  let readbackMatches ← member readback "readback_matches"
  let actual ← member readback "actual"
  return { o with
    state := .command state, actualHash := actualHash, readbackMatches := readbackMatches, responseJson := actual,
    completedAt := some now }

/-- The last session of `dispatch_one`. -/
def finalize (c : Claim) (matched : Bool) (readback : Obj) (now : Time) (j : Journal) :
    Except Raised Unit × Journal :=
  match j.row c.commandId, j.operation c.commandId with
  | some r, some o =>
    if !r.heldBy c.owner then (.error (.runtimeError "telephony command finalization state conflict"), j)
    else
      match o.finalized (readbackState matched) readback now with
      | .error e => (.error e, j)
      | .ok o' =>
        (.ok (), { j.update c.commandId (·.finalized (readbackState matched) now) with
          operations := j.operations.map fun p => if p.commandId = c.commandId then o' else p })
  | _, _ => (.error (.runtimeError "telephony command finalization state conflict"), j)

end Middleware.Telephony

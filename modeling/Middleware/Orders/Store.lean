/-
`OrderStore` (`app/order_orchestration.py`) and the endpoints over it (`app/api/v1/orders.py`). The records of an order and of a
command are dictionaries that the endpoints write into, so a call that raises keeps what it has written before.
-/
import Middleware.Orders.Contracts
import Middleware.Lib.OrderedDict
import Middleware.Lib.Runs

namespace Middleware.Orders

open Lib

structure Dispatch where
  workflowCode : String
  acceptedAt : DateTime
deriving DecidableEq

structure OrderRecord where
  orderId : String
  commandId : String
  workflowCode : String
  status : OrderStatus
  contentHash : String
  traceId : String
  correlationId : String
  envelope : OrderEnvelope
  duplicate : Bool := false
  n8nDispatch : Option Dispatch := none
  result : Option ResultEnvelope := none
  errorCode : Option String := none
  deadLetter : Option DeadLetterEnvelope := none

structure CommandRecord where
  commandId : String
  orderId : String
  workflowCode : String
  status : OrderStatus := .queued
  progress : List (Int × String) := []
  attempts : Nat := 0

structure OrderStore where
  orders : OrderedDict String OrderRecord := []
  byIdempotency : OrderedDict String String := []
  commands : OrderedDict String CommandRecord := []
  auditEvents : List Obj := []
  metrics : OrderedDict String Nat := []

abbrev OrderM := CallM Exc OrderStore

inductive Reply where
  | order (record : OrderRecord)
  | command (record : CommandRecord)
  | accepted (status : OrderStatus) (reference : String)

/-- The record of an order is written into. -/
def OrderStore.updateOrder (orderId : String) (f : OrderRecord → OrderRecord) (s : OrderStore) : OrderStore :=
  match s.orders.get orderId with
  | some record => { s with orders := s.orders.set orderId (f record) }
  | none => s

/-- The record of a command is written into. -/
def OrderStore.updateCommand (commandId : String) (f : CommandRecord → CommandRecord) (s : OrderStore) : OrderStore :=
  match s.commands.get commandId with
  | some command => { s with commands := s.commands.set commandId (f command) }
  | none => s

/-- `_count`. -/
def OrderStore.count (name : String) (s : OrderStore) : OrderStore :=
  { s with metrics := s.metrics.set name ((s.metrics.get name).getD 0 + 1) }

/-- `_audit`. -/
def OrderStore.audit (orderId event : String) (details : Obj) (s : OrderStore) : OrderStore :=
  { s with auditEvents := s.auditEvents ++ [[("order_id", .str orderId), ("event", .str event)] ++ details] }

namespace OrderStore

/-! ## The store -/

def newRecord (lib : Library) (order : OrderEnvelope) : OrderRecord :=
  { orderId := order.orderId, commandId := order.commandId, workflowCode := order.workflowCode,
    status := if order.approval.required then .approvalRequired else .validated, contentHash := contentHash lib order,
    traceId := order.traceId, correlationId := order.correlationId, envelope := order }

def create (lib : Library) (order : OrderEnvelope) : OrderM OrderRecord := do
  let s ← MonadState.get
  match s.byIdempotency.get order.idempotencyKey with
  | some existingId =>
    match s.orders.get existingId with
    | none => throw (.http 500 "KeyError")
    | some existing =>
      if existing.contentHash ≠ contentHash lib order then throw (.http 409 "duplicate idempotency key conflict")
      modify (count "order_duplicate_suppression_total")
      pure { existing with duplicate := true }
  | none =>
    let record := newRecord lib order
    modify fun s =>
      { s with
        orders := s.orders.set order.orderId record
        byIdempotency := s.byIdempotency.set order.idempotencyKey order.orderId }
    modify (count "orders_received_total")
    modify (count (if order.approval.status = .approved then "orders_approved_total" else "orders_validated_total"))
    modify (audit order.orderId "order_received" [("trace_id", .str order.traceId)])
    pure record

def get (orderId : String) : OrderM OrderRecord := do
  match (← MonadState.get).orders.get orderId with
  | none => throw (.http 404 "order not found")
  | some record => pure record

def command (commandId orderId : String) : OrderM CommandRecord := do
  let record ← get orderId
  match (← MonadState.get).commands.get commandId with
  | some existing =>
    if existing.orderId ≠ orderId then throw (.http 409 "command reference conflict")
    pure existing
  | none =>
    let command : CommandRecord := { commandId, orderId, workflowCode := record.workflowCode }
    modify fun s => { s with commands := s.commands.set commandId command }
    modify (count "orders_dispatched_total")
    modify (audit orderId "command_created" [("command_id", .str commandId)])
    pure command

def getCommand (commandId : String) : OrderM CommandRecord := do
  match (← MonadState.get).commands.get commandId with
  | none => throw (.http 404 "command not found")
  | some command => pure command

/-- The `max_attempts` that the endpoints leave at its default. -/
def maxAttempts : Nat := 3

def securityFailure (errorCode : String) : Bool :=
  decide (errorCode ∈ ["AUTHENTICATION_FAILURE", "AUTHORIZATION_FAILURE", "INVALID_SIGNATURE"])

/-- A failure after which the command is tried again. -/
def canRetry (command : CommandRecord) (errorCode : String) (retryable : Bool) : Bool :=
  retryable && !securityFailure errorCode && decide (command.attempts + 1 < maxAttempts)

/-- The status of a command and that of its order after a failure. -/
def failureStatus (command : CommandRecord) (errorCode : String) (retryable : Bool) : OrderStatus × OrderStatus :=
  if canRetry command errorCode retryable then (.retryScheduled, .failedRetryable)
  else if retryable then (.deadLetter, .deadLetter)
  else (.failedFinal, .failedFinal)

def recordFailure (commandId errorCode : String) (retryable : Bool) : OrderM Unit := do
  let command ← getCommand commandId
  let order ← get command.orderId
  let status := failureStatus command errorCode retryable
  modify (updateCommand commandId fun c => { c with attempts := c.attempts + 1, status := status.1 })
  modify (updateOrder command.orderId fun r => { r with status := status.2 })
  if canRetry command errorCode retryable then modify (count "orders_retried_total")
  else if retryable then modify (count "orders_dead_lettered_total")
  if securityFailure errorCode then modify (count "security_failure_retry_total")
  modify (count "orders_failed_total")
  modify (audit order.orderId "command_failure" [("command_id", .str commandId), ("error_code", .str errorCode),
    ("retryable", .bool (canRetry command errorCode retryable))])

/-- The status of a command and of its order after a result. -/
def resultStatus (status : ResultStatus) : OrderStatus := if status = .completed then .completed else .partiallyCompleted

def recordResult (commandId : String) (status : ResultStatus) : OrderM Unit := do
  let command ← getCommand commandId
  if command.status = .completed ∧ status = .completed then pure ()
  else
    let order ← get command.orderId
    modify (updateCommand commandId fun c => { c with status := resultStatus status })
    modify (updateOrder command.orderId fun r => { r with status := resultStatus status })
    modify (count (if status = .completed then "orders_completed_total" else "orders_failed_total"))
    modify (audit order.orderId "command_result" [("command_id", .str commandId), ("status", .str status.value)])

end OrderStore

/-! ## The endpoints

Each of them goes on like this after its body is validated, and `_integrity` is. -/

section Endpoints

open OrderStore

variable (lib : Library) (settings : Settings)

def receiveOrder (order : OrderEnvelope) : OrderM Reply := do
  let record ← create lib order
  pure (.order record)

def getOrder (orderId : String) : OrderM Reply := do
  let record ← get orderId
  pure (.order record)

def OrderRecord.approve (record : OrderRecord) (approvedBy : String) (now : Time) : OrderRecord :=
  { record with
    envelope := { record.envelope with
      approval := { record.envelope.approval with
        status := .approved, approvedBy := some approvedBy, approvedAt := some (.utc now) } }
    status := .approved }

def approveOrder (orderId : String) (approval : ApprovalRequest) (now : Time) : OrderM Reply := do
  let record ← get orderId
  if approval.contentHash ≠ record.contentHash then throw (.http 409 "approval content hash does not match order")
  if approval.approvedBy = record.envelope.sourceSystem then throw (.http 403 "self approval is not permitted")
  modify (updateOrder orderId fun r => r.approve approval.approvedBy now)
  pure (.order (record.approve approval.approvedBy now))

def rejectOrder (orderId : String) : OrderM Reply := do
  let record ← get orderId
  modify (updateOrder orderId fun r => { r with status := .rejected })
  pure (.order { record with status := .rejected })

def OrderRecord.dispatch (record : OrderRecord) (workflowCode : String) (now : Time) : OrderRecord :=
  { record with status := .dispatchedToN8n, n8nDispatch := some ⟨workflowCode, .utc now⟩ }

def dispatchOrder (order : OrderEnvelope) (now : Time) : OrderM Reply := do
  let record ← get order.orderId
  liftM (validateForDispatch lib settings now order)
  if record.contentHash ≠ contentHash lib order then throw (.http 409 "order content changed after intake")
  modify (updateOrder order.orderId fun r => r.dispatch order.workflowCode now)
  let _ ← command order.commandId order.orderId
  modify (updateCommand order.commandId fun c => { c with status := .dispatchedToN8n })
  pure (.accepted .dispatchedToN8n order.commandId)

/-- A callback names the command and the trace of the order. -/
def OrderRecord.checkReferences (record : OrderRecord) (commandId traceId : String) : Except Exc Unit :=
  if record.commandId ≠ commandId ∨ record.traceId ≠ traceId then .error (.http 409 "command or trace reference mismatch")
  else .ok ()

def receiveResult (result : ResultEnvelope) : OrderM Reply := do
  let record ← get result.orderId
  liftM (record.checkReferences result.commandId result.traceId)
  recordResult result.commandId result.status
  modify (updateOrder result.orderId fun r => { r with result := some result })
  let record ← get result.orderId
  pure (.accepted record.status result.orderId)

def receiveError (error : ErrorEnvelope) : OrderM Reply := do
  let record ← get error.orderId
  liftM (record.checkReferences error.commandId error.traceId)
  recordFailure error.commandId error.errorCode error.retryable
  modify (updateOrder error.orderId fun r => { r with errorCode := some error.errorCode })
  let record ← get error.orderId
  pure (.accepted record.status error.orderId)

def receiveProgress (progress : ProgressEnvelope) : OrderM Reply := do
  let record ← get progress.orderId
  if ((← MonadState.get).commands.get progress.commandId).isNone ∨ record.commandId ≠ progress.commandId then
    throw (.http 409 "command or trace reference mismatch")
  modify (updateCommand progress.commandId fun c =>
    { c with progress := c.progress ++ [(progress.progressPercent, progress.message)] })
  modify (updateOrder progress.orderId fun r => { r with status := .running })
  modify (count "order_progress_total")
  modify (audit progress.orderId "command_progress" [("command_id", .str progress.commandId),
    ("percent", .int progress.progressPercent)])
  pure (.accepted .running progress.orderId)

def receiveDeadLetter (deadLetter : DeadLetterEnvelope) : OrderM Reply := do
  let record ← get deadLetter.orderId
  liftM (record.checkReferences deadLetter.commandId deadLetter.traceId)
  modify (updateOrder deadLetter.orderId fun r => { r with status := .deadLetter, deadLetter := some deadLetter })
  modify (count "orders_dead_lettered_total")
  modify (audit deadLetter.orderId "command_dead_letter" [("command_id", .str deadLetter.commandId)])
  pure (.accepted .deadLetter deadLetter.orderId)

def reconcileOrder (orderId : String) : OrderM Reply := do
  let record ← get orderId
  pure (.accepted record.status orderId)

def createCommand (order : OrderEnvelope) : OrderM Reply := do
  let command ← command order.commandId order.orderId
  pure (.command command)

def readCommand (commandId : String) : OrderM Reply := do
  let command ← getCommand commandId
  pure (.command command)

def startCommand (commandId : String) : OrderM Reply := do
  let command ← getCommand commandId
  modify (updateCommand commandId fun c => { c with status := .running })
  let _ ← get command.orderId
  modify (updateOrder command.orderId fun r => { r with status := .running })
  pure (.command { command with status := .running })

def progressCommand (commandId : String) (progress : ProgressEnvelope) : OrderM Reply := do
  let command ← getCommand commandId
  if progress.commandId ≠ commandId then throw (.http 409 "command reference mismatch")
  let entry := (progress.progressPercent, progress.message)
  modify (updateCommand commandId fun c => { c with progress := c.progress ++ [entry] })
  pure (.command { command with progress := command.progress ++ [entry] })

end Endpoints

/-! ## Requests -/

/-- A request whose body is validated, and whose integrity is. -/
inductive Checked where
  | receiveOrder (order : OrderEnvelope)
  | getOrder (orderId : String)
  | approveOrder (orderId : String) (approval : ApprovalRequest)
  | rejectOrder (orderId : String)
  | dispatchOrder (order : OrderEnvelope)
  | receiveResult (result : ResultEnvelope)
  | receiveError (error : ErrorEnvelope)
  | receiveProgress (progress : ProgressEnvelope)
  | receiveDeadLetter (deadLetter : DeadLetterEnvelope)
  | reconcileOrder (orderId : String)
  | createCommand (order : OrderEnvelope)
  | getCommand (commandId : String)
  | startCommand (commandId : String)
  | progressCommand (commandId : String) (progress : ProgressEnvelope)

inductive Request where
  | receiveOrder (order : OrderEnvelope) (h : Headers)
  | getOrder (orderId : String)
  | approveOrder (orderId : String) (approval : ApprovalRequest) (h : Headers)
  | rejectOrder (orderId : String) (h : Headers)
  | dispatchOrder (order : OrderEnvelope) (h : Headers)
  | receiveResult (result : ResultEnvelope) (h : Headers)
  | receiveError (error : ErrorEnvelope) (h : Headers)
  | receiveProgress (progress : ProgressEnvelope) (h : Headers)
  | receiveDeadLetter (deadLetter : DeadLetterEnvelope) (h : Headers)
  | reconcileOrder (order : OrderEnvelope) (h : Headers)
  | createCommand (order : OrderEnvelope) (h : Headers)
  | getCommand (commandId : String)
  | startCommand (commandId : String) (h : Headers)
  | progressCommand (commandId : String) (progress : ProgressEnvelope) (h : Headers)
  | commandResult (commandId : String) (result : ResultEnvelope) (h : Headers)
  | commandError (commandId : String) (error : ErrorEnvelope) (h : Headers)
  | commandDeadLetter (commandId : String) (deadLetter : DeadLetterEnvelope) (h : Headers)
  | commandReconcile (commandId : String) (reconciliation : ReconciliationRequest) (h : Headers)

section Requests

variable (lib : Library) (settings : Settings)

/-- A body that is one of its model, and whole. -/
def validated {A : Type} (body : Except Exc A) (dump : A → Obj) (h : Headers) : Except Exc A := do
  let a ← body
  verifyBodyIntegrity lib settings (dump a) h
  pure a

/-- The body of a request under the path of a command names the command. -/
def underCommand (commandId named : String) : Except Exc Unit :=
  if named ≠ commandId then .error (.http 409 "command reference mismatch") else .ok ()

/-- What the endpoints check of a request before they look at the store. Those under the path of a command call the one without it,
which verifies the same body once more. -/
def Request.check : Request → Except Exc Checked
  | .receiveOrder order h => do
    let order ← validated lib settings order.modelValidate (·.modelDump lib) h
    pure (.receiveOrder order)
  | .getOrder orderId => pure (.getOrder orderId)
  | .approveOrder orderId approval h => do
    let approval ← validated lib settings approval.modelValidate (·.modelDump) h
    pure (.approveOrder orderId approval)
  | .rejectOrder orderId h => do
    verifyBodyIntegrity lib settings [] h
    pure (.rejectOrder orderId)
  | .dispatchOrder order h => do
    let order ← validated lib settings order.modelValidate (·.modelDump lib) h
    pure (.dispatchOrder order)
  | .receiveResult result h => do
    let result ← validated lib settings result.modelValidate (·.modelDump lib) h
    pure (.receiveResult result)
  | .receiveError error h => do
    let error ← validated lib settings error.modelValidate (·.modelDump) h
    pure (.receiveError error)
  | .receiveProgress progress h => do
    let progress ← validated lib settings progress.modelValidate (·.modelDump lib) h
    pure (.receiveProgress progress)
  | .receiveDeadLetter deadLetter h => do
    let deadLetter ← validated lib settings deadLetter.modelValidate (·.modelDump) h
    pure (.receiveDeadLetter deadLetter)
  | .reconcileOrder order h => do
    let order ← validated lib settings order.modelValidate (·.modelDump lib) h
    pure (.reconcileOrder order.orderId)
  | .createCommand order h => do
    let order ← validated lib settings order.modelValidate (·.modelDump lib) h
    pure (.createCommand order)
  | .getCommand commandId => pure (.getCommand commandId)
  | .startCommand commandId h => do
    verifyBodyIntegrity lib settings [] h
    pure (.startCommand commandId)
  | .progressCommand commandId progress h => do
    let progress ← validated lib settings progress.modelValidate (·.modelDump lib) h
    pure (.progressCommand commandId progress)
  | .commandResult commandId result h => do
    let result ← validated lib settings result.modelValidate (·.modelDump lib) h
    underCommand commandId result.commandId
    pure (.receiveResult result)
  | .commandError commandId error h => do
    let error ← validated lib settings error.modelValidate (·.modelDump) h
    underCommand commandId error.commandId
    pure (.receiveError error)
  | .commandDeadLetter commandId deadLetter h => do
    let deadLetter ← validated lib settings deadLetter.modelValidate (·.modelDump) h
    underCommand commandId deadLetter.commandId
    pure (.receiveDeadLetter deadLetter)
  | .commandReconcile commandId reconciliation h => do
    let reconciliation ← validated lib settings reconciliation.modelValidate (·.modelDump lib) h
    underCommand commandId reconciliation.commandId
    pure (.reconcileOrder reconciliation.orderId)

def Checked.run (now : Time) : Checked → OrderM Reply
  | .receiveOrder order => Orders.receiveOrder lib order
  | .getOrder orderId => Orders.getOrder orderId
  | .approveOrder orderId approval => Orders.approveOrder orderId approval now
  | .rejectOrder orderId => Orders.rejectOrder orderId
  | .dispatchOrder order => Orders.dispatchOrder lib settings order now
  | .receiveResult result => Orders.receiveResult result
  | .receiveError error => Orders.receiveError error
  | .receiveProgress progress => Orders.receiveProgress progress
  | .receiveDeadLetter deadLetter => Orders.receiveDeadLetter deadLetter
  | .reconcileOrder orderId => Orders.reconcileOrder orderId
  | .createCommand order => Orders.createCommand order
  | .getCommand commandId => Orders.readCommand commandId
  | .startCommand commandId => Orders.startCommand commandId
  | .progressCommand commandId progress => Orders.progressCommand commandId progress

/-- A request, and the instant at which it comes. -/
structure Event where
  request : Request
  now : Time

/-- The reply to a request, and the store it leaves. -/
def Event.answer (e : Event) (s : OrderStore) : Except Exc Reply × OrderStore :=
  match e.request.check lib settings with
  | .error x => (.error x, s)
  | .ok c => invoke (c.run lib settings e.now) s

def step (e : Event) (s : OrderStore) : OrderStore := (e.answer lib settings s).2

end Requests

/-- A body that is one of its model passes with its own hash. -/
theorem validated_unsigned {A : Type} (lib : Library) (settings : Settings) (hsecret : settings.middlewareSecret = "")
    {body : Except Exc A} {a : A} (hbody : body = .ok a) (dump : A → Obj) : validated lib settings body dump (Headers.unsigned (dump a)) = .ok a := by
  rw [hbody]
  show (verifyBodyIntegrity lib settings (dump a) (Headers.unsigned (dump a)) >>= fun _ => pure a) = _
  rw [verifyBodyIntegrity_unsigned lib hsecret]
  rfl

theorem OrderEnvelope.modelValidate_eq {o : OrderEnvelope} (hbounds : o.fieldBounds = true) (htimes : o.expiresAt.le o.requestedAt = .ok false) :
    o.modelValidate = .ok o.normalizeApprovalFields := by
  unfold OrderEnvelope.modelValidate
  rw [hbounds, htimes]
  rfl

end Middleware.Orders

/-
The contracts of the approved orders (`app/order_orchestration.py`): the bodies of the endpoints, the hash of an order's content, what
is checked before a dispatch, and the integrity of a body.
-/
import Middleware.Data.Json
import Middleware.Lib.Calls

namespace Middleware.Orders

open Lib

abbrev Time := Int

inductive OrderStatus where
  | received
  | validating
  | validated
  | approvalRequired
  | approved
  | rejected
  | queued
  | dispatchedToN8n
  | running
  | partiallyCompleted
  | completed
  | failedRetryable
  | retryScheduled
  | failedFinal
  | deadLetter
  | humanReview
  | cancelled
  | expired
deriving DecidableEq, Repr

inductive Exc where
  | http (statusCode : Nat) (detail : String)
  | validation
  | typeError
deriving DecidableEq

/-- A `datetime`, with its offset if it has a time zone. -/
structure DateTime where
  instant : Time
  utcoffset : Option Time
deriving DecidableEq

namespace DateTime

def utc (now : Time) : DateTime := ⟨now, some 0⟩

/-- `a <= b`. -/
def le (a b : DateTime) : Except Exc Bool :=
  if a.utcoffset.isSome = b.utcoffset.isSome then .ok (decide (a.instant ≤ b.instant)) else .error .typeError

end DateTime

structure Settings where
  orderOrchestrationEnabled : Bool := false
  n8nOrderDispatchEnabled : Bool := false
  middlewareSecret : String := ""

structure Library where
  /-- A `datetime` in a JSON dump. -/
  isoformat : DateTime → String
  /-- `hmac.new(key.encode(), text.encode(), hashlib.sha256).hexdigest()`. -/
  hmacHexdigest : String → String → String

/-! ## Bodies -/

inductive ApprovalStatus where
  | pending
  | approved
  | rejected
deriving DecidableEq, Repr

def ApprovalStatus.value : ApprovalStatus → String
  | pending => "pending"
  | approved => "approved"
  | rejected => "rejected"

structure Approval where
  required : Bool := true
  status : ApprovalStatus
  approvedBy : Option String := none
  approvedAt : Option DateTime := none
  contentHash : String

structure OrderEnvelope where
  schemaVersion : String := "codestra.order.command.v1"
  commandId : String
  eventId : String
  orderId : String
  orderType : String
  sourceSystem : String
  organizationId : String
  customerReference : String
  workflowCode : String
  workflowVersion : String := "1"
  approval : Approval
  approvalRequired : Option Bool := none
  approvalStatus : Option String := none
  approvalReference : Option String := none
  approvalContentHash : Option String := none
  payload : Obj := []
  requestedActions : List String
  approvedActions : Option (List String) := none
  constraints : Obj := []
  idempotencyKey : String
  correlationId : String
  traceId : String
  requestedAt : DateTime
  expiresAt : DateTime

structure ApprovalRequest where
  approvedBy : String
  contentHash : String

inductive ResultStatus where
  | completed
  | partiallyCompleted
  | failed
deriving DecidableEq, Repr

def ResultStatus.value : ResultStatus → String
  | completed => "completed"
  | partiallyCompleted => "partially_completed"
  | failed => "failed"

structure ResultEnvelope where
  schemaVersion : String := "codestra.order.result.v1"
  commandId : String
  orderId : String
  workflowCode : String
  executionId : String
  status : ResultStatus
  completedActions : List String := []
  failedActions : List String := []
  result : Obj := []
  retryable : Bool := false
  errorCode : Option String := none
  errorMessage : Option String := none
  correlationId : String
  traceId : String
  startedAt : DateTime
  completedAt : DateTime

structure ErrorEnvelope where
  commandId : String
  orderId : String
  workflowCode : String
  errorCode : String
  errorMessage : String
  retryable : Bool := false
  correlationId : String
  traceId : String

structure DeadLetterEnvelope where
  schemaVersion : String := "codestra.order.dead_letter.v1"
  commandId : String
  orderId : String
  workflowCode : String
  reasonCode : String
  reason : String
  retryCount : Nat
  correlationId : String
  traceId : String

/-- `ProgressEnvelope` and `ProgressRequest`. -/
structure ProgressEnvelope extends OrderEnvelope where
  progressPercent : Int
  message : String

/-- `ReconciliationRequest`. -/
structure ReconciliationRequest extends OrderEnvelope where
  n8nExecutionId : String

/-! ### Their dumps -/

def optional (text : Option String) : Json := (text.map Json.str).getD .null

def texts (l : List String) : Json := .arr (l.map Json.str)

def Approval.dump (lib : Library) (a : Approval) : Json :=
  .obj [("required", .bool a.required), ("status", .str a.status.value), ("approved_by", optional a.approvedBy),
    ("approved_at", optional (a.approvedAt.map lib.isoformat)), ("content_hash", .str a.contentHash)]

namespace OrderEnvelope

/-- The dump of what `content_hash` covers. -/
def content (lib : Library) (o : OrderEnvelope) : Obj :=
  [("schema_version", .str o.schemaVersion), ("command_id", .str o.commandId), ("event_id", .str o.eventId),
    ("order_id", .str o.orderId), ("order_type", .str o.orderType), ("source_system", .str o.sourceSystem),
    ("organization_id", .str o.organizationId), ("customer_reference", .str o.customerReference),
    ("workflow_code", .str o.workflowCode), ("workflow_version", .str o.workflowVersion), ("payload", .obj o.payload),
    ("requested_actions", texts o.requestedActions), ("constraints", .obj o.constraints),
    ("idempotency_key", .str o.idempotencyKey), ("correlation_id", .str o.correlationId), ("trace_id", .str o.traceId),
    ("requested_at", .str (lib.isoformat o.requestedAt)), ("expires_at", .str (lib.isoformat o.expiresAt))]

def modelDump (lib : Library) (o : OrderEnvelope) : Obj :=
  o.content lib ++ [("approval", o.approval.dump lib), ("approval_required", (o.approvalRequired.map Json.bool).getD .null),
    ("approval_status", optional o.approvalStatus), ("approval_reference", optional o.approvalReference),
    ("approval_content_hash", optional o.approvalContentHash), ("approved_actions", (o.approvedActions.map texts).getD .null)]

end OrderEnvelope

def ApprovalRequest.modelDump (a : ApprovalRequest) : Obj :=
  [("approved_by", .str a.approvedBy), ("content_hash", .str a.contentHash)]

def ResultEnvelope.modelDump (lib : Library) (r : ResultEnvelope) : Obj :=
  [("schema_version", .str r.schemaVersion), ("command_id", .str r.commandId), ("order_id", .str r.orderId),
    ("workflow_code", .str r.workflowCode), ("execution_id", .str r.executionId), ("status", .str r.status.value),
    ("completed_actions", texts r.completedActions), ("failed_actions", texts r.failedActions), ("result", .obj r.result),
    ("retryable", .bool r.retryable), ("error_code", optional r.errorCode), ("error_message", optional r.errorMessage),
    ("correlation_id", .str r.correlationId), ("trace_id", .str r.traceId), ("started_at", .str (lib.isoformat r.startedAt)),
    ("completed_at", .str (lib.isoformat r.completedAt))]

def ErrorEnvelope.modelDump (e : ErrorEnvelope) : Obj :=
  [("command_id", .str e.commandId), ("order_id", .str e.orderId), ("workflow_code", .str e.workflowCode),
    ("error_code", .str e.errorCode), ("error_message", .str e.errorMessage), ("retryable", .bool e.retryable),
    ("correlation_id", .str e.correlationId), ("trace_id", .str e.traceId)]

def DeadLetterEnvelope.modelDump (d : DeadLetterEnvelope) : Obj :=
  [("schema_version", .str d.schemaVersion), ("command_id", .str d.commandId), ("order_id", .str d.orderId),
    ("workflow_code", .str d.workflowCode), ("reason_code", .str d.reasonCode), ("reason", .str d.reason),
    ("retry_count", .int d.retryCount), ("correlation_id", .str d.correlationId), ("trace_id", .str d.traceId)]

def ProgressEnvelope.modelDump (lib : Library) (p : ProgressEnvelope) : Obj :=
  p.toOrderEnvelope.modelDump lib ++ [("progress_percent", .int p.progressPercent), ("message", .str p.message)]

def ReconciliationRequest.modelDump (lib : Library) (r : ReconciliationRequest) : Obj :=
  r.toOrderEnvelope.modelDump lib ++ [("n8n_execution_id", .str r.n8nExecutionId)]

/-! ### Their validation -/

/-- Texts with their shortest and longest lengths. -/
def bounded (fields : List (String × Nat × Nat)) : Bool :=
  fields.all fun f => decide (f.2.1 ≤ f.1.length ∧ f.1.length ≤ f.2.2)

namespace OrderEnvelope

def fieldBounds (o : OrderEnvelope) : Bool :=
  decide (o.schemaVersion = "codestra.order.command.v1") &&
  bounded [(o.commandId, 1, 128), (o.eventId, 1, 128), (o.orderId, 1, 128), (o.orderType, 1, 64), (o.sourceSystem, 1, 32),
    (o.organizationId, 1, 128), (o.customerReference, 1, 128), (o.workflowCode, 1, 64), (o.workflowVersion, 1, 16),
    (o.approval.approvedBy.getD "", 0, 128), (o.approval.contentHash, 64, 64), (o.idempotencyKey, 16, 255),
    (o.correlationId, 1, 128), (o.traceId, 1, 128)] &&
  decide (1 ≤ o.requestedActions.length ∧ o.requestedActions.length ≤ 20)

/-- `normalize_approval_fields`. -/
def normalizeApprovalFields (o : OrderEnvelope) : OrderEnvelope :=
  { o with
    approvalRequired := some (o.approvalRequired.getD o.approval.required)
    approvalStatus := some (o.approvalStatus.getD o.approval.status.value)
    approvalContentHash := some (o.approvalContentHash.getD o.approval.contentHash)
    approvedActions := some (o.approvedActions.getD o.requestedActions) }

def modelValidate (o : OrderEnvelope) : Except Exc OrderEnvelope := do
  if !o.fieldBounds then throw .validation
  if ← o.expiresAt.le o.requestedAt then throw .validation
  pure o.normalizeApprovalFields

end OrderEnvelope

def ApprovalRequest.modelValidate (a : ApprovalRequest) : Except Exc ApprovalRequest :=
  if bounded [(a.approvedBy, 1, 128), (a.contentHash, 64, 64)] then .ok a else .error .validation

def ResultEnvelope.modelValidate (r : ResultEnvelope) : Except Exc ResultEnvelope :=
  if r.schemaVersion = "codestra.order.result.v1" ∧
    bounded [(r.commandId, 1, 128), (r.orderId, 1, 128), (r.workflowCode, 1, 64), (r.executionId, 1, 128)] then .ok r
  else .error .validation

def ErrorEnvelope.modelValidate (e : ErrorEnvelope) : Except Exc ErrorEnvelope :=
  if bounded [(e.errorMessage, 0, 512)] then .ok e else .error .validation

def DeadLetterEnvelope.modelValidate (d : DeadLetterEnvelope) : Except Exc DeadLetterEnvelope :=
  if d.schemaVersion = "codestra.order.dead_letter.v1" ∧ bounded [(d.reason, 0, 512)] then .ok d else .error .validation

def ProgressEnvelope.modelValidate (p : ProgressEnvelope) : Except Exc ProgressEnvelope := do
  let order ← p.toOrderEnvelope.modelValidate
  if 0 ≤ p.progressPercent ∧ p.progressPercent ≤ 100 ∧ bounded [(p.message, 0, 256)] then
    pure { p with toOrderEnvelope := order }
  else throw .validation

def ReconciliationRequest.modelValidate (r : ReconciliationRequest) : Except Exc ReconciliationRequest := do
  let order ← r.toOrderEnvelope.modelValidate
  if bounded [(r.n8nExecutionId, 1, 128)] then pure { r with toOrderEnvelope := order } else throw .validation

/-! ## Dispatch -/

def allowedWorkflows : List String :=
  ["CDST-ORDER-VALIDATE-V1", "CDST-ORDER-ROUTER-V1", "CDST-ORDER-EXECUTE-V1", "CDST-ORDER-SHIPPING-V1",
    "CDST-ORDER-FULFILLMENT-V1", "CDST-ORDER-CUSTOMER-SETUP-V1", "CDST-ORDER-SOCIAL-DRAFT-V1",
    "CDST-ORDER-SOCIAL-CAMPAIGN-V1", "CDST-ORDER-CALLBACK-V1", "CDST-ORDER-INTERNAL-REPORT-V1", "CDST-ORDER-RESULT-V1",
    "CDST-ORDER-FAILURE-V1", "CDST-ORDER-DEAD-LETTER-V1", "CDST-ORDER-RECONCILIATION-V1"]

def allowedActions : List String :=
  ["validate_customer", "create_fulfillment_task", "request_shipping_quote", "schedule_pickup", "create_callback",
    "prepare_campaign_draft", "create_social_draft", "request_document", "generate_internal_report", "notify_internal_team"]

def blockedActions : List String :=
  ["charge_payment_method", "send_customer_message", "place_external_call", "publish_social_post", "delete_record",
    "cancel_customer_service", "export_customer_database"]

/-- `content_hash`. -/
def contentHash (lib : Library) (o : OrderEnvelope) : String := Sha256.hexdigest (dumps true (.obj (o.content lib)))

/-- `_is_synthetic`. -/
def isSynthetic (o : OrderEnvelope) : Bool := o.orderId.startsWith "CODESTRA-INTEGRATION-TEST-"

def validateForDispatch (lib : Library) (settings : Settings) (now : Time) (o : OrderEnvelope) : Except Exc Unit := do
  if ← o.expiresAt.le (.utc now) then throw (.http 422 "order has expired")
  if o.workflowCode ∉ allowedWorkflows then throw (.http 422 "workflow code is not allowlisted")
  if o.requestedActions.any (· ∈ blockedActions) then throw (.http 422 "requested action is blocked")
  if !o.requestedActions.all (· ∈ allowedActions) then throw (.http 422 "requested action is not allowlisted")
  if o.approval.required ∧ o.approval.status ≠ .approved then throw (.http 409 "approval is required before dispatch")
  if o.approval.contentHash ≠ contentHash lib o then throw (.http 409 "approval content hash does not match order")
  if !isSynthetic o ∧ !settings.orderOrchestrationEnabled then throw (.http 503 "order orchestration is disabled")
  if !settings.n8nOrderDispatchEnabled ∧ !isSynthetic o then throw (.http 503 "n8n order dispatch is disabled")

/-! ## Integrity -/

structure Headers where
  timestamp : Option String
  nonce : Option String
  signature : Option String
  bodySha256 : Option String

/-- `hmac.compare_digest`. -/
def compareDigest (a b : String) : Except Exc Bool :=
  if a.toList.all (·.toNat < 128) && b.toList.all (·.toNat < 128) then .ok (decide (a = b)) else .error .typeError

def verifyBodyIntegrity (lib : Library) (settings : Settings) (payload : Obj) (h : Headers) : Except Exc Unit := do
  let given := [h.timestamp, h.nonce, h.signature, h.bodySha256]
  if given.any (fun text => text.getD "" = "") then
    throw (.http 401 "timestamp, nonce, signature, and body hash are required")
  let computedHash := Sha256.hexdigest (dumps true (.obj payload))
  if !(← compareDigest computedHash (h.bodySha256.getD "")) then throw (.http 401 "body hash mismatch")
  if settings.middlewareSecret ≠ "" then
    let expected := lib.hmacHexdigest settings.middlewareSecret (h.timestamp.getD "" ++ "." ++ h.nonce.getD "" ++ "." ++ computedHash)
    if !(← compareDigest expected (h.signature.getD "")) then throw (.http 401 "signature invalid")

theorem compareDigest_hexdigest (text : String) : compareDigest (Sha256.hexdigest text) (Sha256.hexdigest text) = .ok true := by
  have hascii : (Sha256.hexdigest text).toList.all (·.toNat < 128) = true := by
    rw [List.all_eq_true]
    intro c hc
    obtain ⟨n, hn, rfl⟩ := Sha256.mem_hexdigest hc
    have hdigits : ∀ n < 16, decide ((Sha256.hexDigit n).toNat < 128) = true := by decide
    exact hdigits n hn
  unfold compareDigest
  rw [hascii]
  simp

/-- Headers with the hash of the body, as they come where no secret is configured. -/
def Headers.unsigned (payload : Obj) : Headers :=
  ⟨some "1767225600", some "nonce", some "unsigned", some (Sha256.hexdigest (dumps true (.obj payload)))⟩

theorem verifyBodyIntegrity_unsigned (lib : Library) {settings : Settings} (hsecret : settings.middlewareSecret = "") (payload : Obj) :
    verifyBodyIntegrity lib settings payload (Headers.unsigned payload) = .ok () := by
  have hlength := Sha256.hexdigest_length (dumps true (.obj payload))
  have hgiven : Sha256.hexdigest (dumps true (.obj payload)) ≠ "" := by
    intro heq
    rw [heq] at hlength
    cases hlength
  have hcompare := compareDigest_hexdigest (dumps true (.obj payload))
  unfold verifyBodyIntegrity Headers.unsigned
  generalize Sha256.hexdigest (dumps true (.obj payload)) = digest at hgiven hcompare
  simp only [List.any_cons, List.any_nil, Option.getD_some, hgiven, hcompare, hsecret]
  rfl

end Middleware.Orders

/-
`RestrictedController` and `ApprovalTokens` of `app/core/controller.py`: tasks with one plan, an approval that signs a token,
executions under the token, and an audit list for each task. Every call runs under the controller's lock.

The signature and the encoding of a token are parameters (`Crypto`); the draws of `uuid4` and the readings of the clock are
arguments of the calls.
-/
import Middleware.Data.Json
import Middleware.Lib.OrderedDict
import Middleware.Lib.Runs

namespace Middleware.Controller

open Lib

inductive Error where
  | controller (message : String)
  | typeError
  deriving DecidableEq

inductive TaskState where
  | created
  | planning
  | planReady
  | awaitingApproval
  | approved
  | executing
  | verifying
  | completed
  | failed
  | cancelled
  | deadLetter
  deriving DecidableEq

/-- `ALLOWED_TOOLS`. -/
def allowedTools : List String :=
  ["inspect_workspace", "list_files", "read_file", "search_code", "git_status", "git_diff", "apply_patch",
    "run_formatter", "run_linter", "run_typecheck", "run_unit_tests", "run_integration_tests", "run_security_scan",
    "run_secret_scan", "build_project", "check_service", "read_sanitized_logs", "restart_development_service"]

/-- `FORBIDDEN_ARGUMENT_KEYS`. -/
def forbiddenArgumentKeys : List String :=
  ["command", "command_string", "shell", "shell_command", "private_key", "ca_private_key", "docker_socket",
    "database_url", "password", "secret", "token"]

/-- `SENSITIVE_KEYS` of `app/core/automation.py`. -/
def sensitiveKeys : List String :=
  ["authorization", "cookie", "password", "phone", "phone_e164", "prompt", "secret", "token"]

def keyIn (key : String) (names : List String) : Bool := names.any fun name => name.toList = lower key

mutual

/-- `redact`. -/
def redact : Json → Json
  | .obj members => .obj (redactMembers members)
  | .arr items => .arr (redactItems items)
  | .null => .null
  | .bool b => .bool b
  | .int n => .int n
  | .float r => .float r
  | .str s => .str s

def redactItems : List Json → List Json
  | [] => []
  | item :: rest => redact item :: redactItems rest

def redactMembers : Obj → Obj
  | [] => []
  | (key, value) :: rest =>
    (key, if keyIn key sensitiveKeys then .str "[REDACTED]" else redact value) :: redactMembers rest

end

mutual

/-- `_reject_forbidden`. -/
def rejectForbidden (path : String) : Json → Except Error Unit
  | .obj members => rejectMembers path members
  | .arr items => rejectItems path 0 items
  | .null | .bool _ | .int _ | .float _ | .str _ => .ok ()

def rejectItems (path : String) (index : Nat) : List Json → Except Error Unit
  | [] => .ok ()
  | item :: rest => do
    rejectForbidden s!"{path}[{index}]" item
    rejectItems path (index + 1) rest

def rejectMembers (path : String) : Obj → Except Error Unit
  | [] => .ok ()
  | (key, value) :: rest => do
    if keyIn key forbiddenArgumentKeys then throw (.controller s!"forbidden field: {path}.{key}")
    rejectForbidden s!"{path}.{key}" value
    rejectMembers path rest

end

/-- `canonical_hash` of `app/core/automation.py`. -/
def canonicalHash (value : Json) : String := Sha256.hexdigest (dumps false value)

/-- `validate_workspace`. -/
def validateWorkspace (workspace : String) (allowlist : List String) : Except Error String :=
  if !"/".toList.isPrefixOf workspace.toList || (workspace.toList.splitOn '/').contains "..".toList then
    .error (.controller "workspace path denied")
  else if allowlist.contains workspace then .ok workspace
  else .error (.controller "workspace is outside the allowlist")

/-! ## Approval tokens -/

structure Claims where
  taskId : String
  tenantId : String
  serverId : String
  workspace : String
  tools : List String
  planHash : String
  approverHash : String
  iat : Int
  exp : Int
  jti : String

def Claims.payload (c : Claims) : Obj :=
  [("task_id", .str c.taskId), ("tenant_id", .str c.tenantId), ("server_id", .str c.serverId),
    ("workspace", .str c.workspace), ("tools", .arr (c.tools.map .str)), ("plan_hash", .str c.planHash),
    ("approver_hash", .str c.approverHash), ("iat", .int c.iat), ("exp", .int c.exp), ("jti", .str c.jti), ("version", .int 1)]

/-- The signing key and the encodings. -/
structure Crypto where
  /-- `_b64(hmac.new(secret, text, sha256).digest())`. -/
  mac : String → String
  /-- `hmac.new(secret, text, sha256).hexdigest()`. -/
  macHex : String → String
  /-- `_b64(text)`. -/
  b64 : String → String
  /-- `json.loads(_unb64(encoded))`; nothing for a `ValueError`. -/
  loads : String → Option Claims
  /-- `ttl_seconds`, between 30 and 600. -/
  ttlSeconds : Nat
  ttl_bounds : 30 ≤ ttlSeconds ∧ ttlSeconds ≤ 600

namespace Crypto

variable (k : Crypto)

/-- The first part of a token. -/
def encoded (c : Claims) : String := k.b64 (dumps true (.obj c.payload))

/-- The token that `issue` returns for some claims. -/
def issue (c : Claims) : String := k.encoded c ++ "." ++ k.mac (k.encoded c)

end Crypto

/-- `token.split(".", 1)`, which needs two parts. -/
def splitToken (token : String) : Option (String × String) :=
  let head := token.toList.takeWhile (· ≠ '.')
  match token.toList.drop head.length with
  | [] => none
  | _ :: rest => some (String.ofList head, String.ofList rest)

/-- The claims of a token with a valid signature. -/
def Crypto.claimsOf (k : Crypto) (token : String) : Option Claims :=
  match splitToken token with
  | none => none
  | some (encoded, supplied) => if supplied = k.mac encoded then k.loads encoded else none

structure TokenScope where
  taskId : String
  tenantId : String
  serverId : String
  workspace : String
  tool : String

/-- `verify` with `consume=True`; the second part is the set of consumed tokens. -/
def verify (k : Crypto) (token : String) (scope : TokenScope) (now : Int) (consumed : List String) :
    Except Error Claims × List String :=
  match k.claimsOf token with
  | none => (.error (.controller "approval token invalid"), consumed)
  | some claims =>
    if now < claims.iat - 5 ∨ claims.exp ≤ now then (.error (.controller "approval token expired"), consumed)
    else if claims.taskId ≠ scope.taskId ∨ claims.tenantId ≠ scope.tenantId ∨ claims.serverId ≠ scope.serverId ∨
        claims.workspace ≠ scope.workspace then (.error (.controller "approval token scope denied"), consumed)
    else if !claims.tools.contains scope.tool then (.error (.controller "approval token tool scope denied"), consumed)
    else if claims.jti.isEmpty || consumed.contains claims.jti then
      (.error (.controller "approval token replay rejected"), consumed)
    else (.ok claims, consumed ++ [claims.jti])

/-! ## The controller -/

structure PlanStep where
  tool : String
  arguments : Obj

def PlanStep.value (step : PlanStep) : Json := .obj [("tool", .str step.tool), ("arguments", .obj step.arguments)]

structure TaskRecord where
  taskId : String
  tenantId : String
  workspace : String
  title : String
  objective : String
  requestId : String
  correlationId : String
  idempotencyKeyHash : String
  requestHash : String
  state : TaskState := .created
  plan : List PlanStep := []
  planHash : String := ""
  approvalToken : String := ""

structure TaskCreate where
  title : String
  objective : String
  workspace : String

def TaskCreate.value (body : TaskCreate) : Json :=
  .obj [("title", .str body.title), ("objective", .str body.objective), ("workspace", .str body.workspace)]

structure Envelope where
  executionId : String
  taskId : String
  tenantId : String
  serverId : String
  workspace : String
  tool : String
  arguments : Json
  requestId : String
  correlationId : String
  planHash : String

def Envelope.value (e : Envelope) : Json :=
  .obj [("execution_id", .str e.executionId), ("task_id", .str e.taskId), ("tenant_id", .str e.tenantId),
    ("server_id", .str e.serverId), ("workspace", .str e.workspace), ("tool", .str e.tool), ("arguments", e.arguments),
    ("state", .str "AUTHORIZED"), ("request_id", .str e.requestId), ("correlation_id", .str e.correlationId),
    ("plan_hash", .str e.planHash)]

def Envelope.evidenceHash (e : Envelope) : String := canonicalHash e.value

structure AuditRecord where
  sequence : Nat
  taskId : String
  tenantId : String
  action : String
  details : Json
  previousHash : String
  recordedAt : Int
  recordHash : String

def AuditRecord.value (r : AuditRecord) : Json :=
  .obj [("sequence", .int r.sequence), ("task_id", .str r.taskId), ("tenant_id", .str r.tenantId),
    ("action", .str r.action), ("details", r.details), ("previous_hash", .str r.previousHash),
    ("recorded_at", .int r.recordedAt)]

def verificationChecks : List String :=
  ["PATCH_APPLIES", "FORMAT", "LINT", "TYPECHECK", "BUILD", "UNIT_TESTS", "INTEGRATION_TESTS", "MIGRATION_TEST",
    "SECURITY_SCAN", "SECRET_SCAN", "API_CONTRACT_TEST", "REVIEW_BLOCKERS", "UNEXPECTED_FILES_CHANGED"]

structure Verification where
  verificationCode : String
  executionId : String
  taskId : String
  tenantId : String
  evidenceHash : String
  signature : String

def Verification.text (v : Verification) : String :=
  dumps true (.obj [("verification_code", .str v.verificationCode), ("execution_id", .str v.executionId),
    ("task_id", .str v.taskId), ("tenant_id", .str v.tenantId),
    ("checks", .obj (verificationChecks.map fun name => (name, .str "PENDING"))), ("evidence_hash", .str v.evidenceHash)])

structure RestrictedController where
  tasks : OrderedDict String TaskRecord := []
  executions : OrderedDict String Envelope := []
  verifications : OrderedDict String Verification := []
  audits : OrderedDict String (List AuditRecord) := []
  idempotency : OrderedDict (String × String) (String × String) := []
  consumed : List String := []

/-- The answer of a call and the state it leaves. -/
abbrev Result (α : Type) := Except Error α × RestrictedController

/-- The hash before the first record. -/
def zeroHash : String := String.ofList (List.replicate 64 '0')

namespace RestrictedController

variable (s : RestrictedController)

def records (taskId : String) : List AuditRecord := (s.audits.get taskId).getD []

def nextRecord (task : TaskRecord) (action : String) (details : Obj) (now : Int) : AuditRecord :=
  let previous := s.records task.taskId
  let record : AuditRecord :=
    { sequence := previous.length + 1
      taskId := task.taskId
      tenantId := task.tenantId
      action := action
      details := redact (.obj details)
      previousHash := (previous.getLast?.map (·.recordHash)).getD zeroHash
      recordedAt := now
      recordHash := "" }
  { record with recordHash := canonicalHash record.value }

/-- `_audit`. -/
def audit (task : TaskRecord) (action : String) (details : Obj) (now : Int) : RestrictedController :=
  { s with audits := s.audits.set task.taskId (s.records task.taskId ++ [s.nextRecord task action details now]) }

def put (task : TaskRecord) : RestrictedController := { s with tasks := s.tasks.set task.taskId task }

/-- `_task`. -/
def task (taskId tenantId : String) : Except Error TaskRecord :=
  match s.tasks.get taskId with
  | some task => if task.tenantId = tenantId then .ok task else .error (.controller "task not found")
  | none => .error (.controller "task not found")

end RestrictedController

def invalidTransition : Error := .controller "invalid task state transition"

/-- `create_task`. -/
def createTask (workspaces : List String) (body : TaskCreate) (tenantId requestId correlationId idempotencyKey : String)
    (taskId : String) (now : Int) (s : RestrictedController) : Result (TaskRecord × Bool) :=
  match validateWorkspace body.workspace workspaces with
  | .error e => (.error e, s)
  | .ok workspace =>
    let keyHash := Sha256.hexdigest idempotencyKey
    let requestHash := canonicalHash body.value
    match s.idempotency.get (tenantId, keyHash) with
    | some (priorHash, priorId) =>
      if priorHash ≠ requestHash then (.error (.controller "idempotency key conflict"), s)
      else ((s.task priorId tenantId).map fun task => (task, true), s)
    | none =>
      let task : TaskRecord :=
        { taskId := taskId
          tenantId := tenantId
          workspace := workspace
          title := body.title
          objective := body.objective
          requestId := requestId
          correlationId := correlationId
          idempotencyKeyHash := keyHash
          requestHash := requestHash }
      let s := { s.put task with idempotency := s.idempotency.set (tenantId, keyHash) (requestHash, taskId) }
      (.ok (task, false), s.audit task "task.created" [("request_id", .str requestId)] now)

/-- `get_task`. -/
def getTask (taskId tenantId : String) (s : RestrictedController) : Result TaskRecord := (s.task taskId tenantId, s)

def checkStep (step : PlanStep) : Except Error Unit := do
  if !allowedTools.contains step.tool then throw (.controller "unknown tool")
  rejectForbidden "arguments" (.obj step.arguments)

def TaskRecord.planned (task : TaskRecord) (steps : List PlanStep) : TaskRecord :=
  { task with
    plan := steps
    planHash := canonicalHash (.arr (steps.map PlanStep.value))
    state := .awaitingApproval }

/-- `plan`. -/
def plan (taskId tenantId : String) (steps : List PlanStep) (now : Int) (s : RestrictedController) : Result TaskRecord :=
  match s.task taskId tenantId with
  | .error e => (.error e, s)
  | .ok task =>
    if task.state ≠ .created then (.error invalidTransition, s)
    else
      match steps.forM checkStep with
      | .error e => (.error e, s)
      | .ok () =>
        let task := task.planned steps
        (.ok task, (s.put task).audit task "task.plan_ready" [("plan_hash", .str task.planHash)] now)

/-- The tools of a plan, sorted and each once. -/
def TaskRecord.tools (task : TaskRecord) : List String := (task.plan.map (·.tool)).dedup.insertionSort (· ≤ ·)

structure Approval where
  taskId : String
  tenantId : String
  planHash : String
  approver : String
  serverId : String

def Approval.claims (k : Crypto) (a : Approval) (task : TaskRecord) (jti : String) (issued : Int) : Claims :=
  { taskId := task.taskId
    tenantId := a.tenantId
    serverId := a.serverId
    workspace := task.workspace
    tools := task.tools
    planHash := task.planHash
    approverHash := Sha256.hexdigest a.approver
    iat := issued
    exp := issued + k.ttlSeconds
    jti := jti }

/-- `approve`, with the id of the token and the readings of the clock for the token and the record. -/
def approve (k : Crypto) (a : Approval) (jti : String) (issued now : Int) (s : RestrictedController) :
    Result (TaskRecord × String) :=
  match s.task a.taskId a.tenantId with
  | .error e => (.error e, s)
  | .ok task =>
    if task.state ≠ .awaitingApproval then (.error (.controller "approval does not match current plan"), s)
    else if !a.planHash.toList.all (fun c => decide (c.toNat < 128)) then (.error .typeError, s)
    else if task.planHash ≠ a.planHash then (.error (.controller "approval does not match current plan"), s)
    else
      let token := k.issue (a.claims k task jti issued)
      let task := { task with state := .approved, approvalToken := token }
      (.ok (task, token),
        (s.put task).audit task "task.approved" [("approver", .str "[REDACTED]"), ("server_id", .str a.serverId)] now)

/-- `cancel`. -/
def cancel (taskId tenantId : String) (now : Int) (s : RestrictedController) : Result TaskRecord :=
  match s.task taskId tenantId with
  | .error e => (.error e, s)
  | .ok task =>
    if [TaskState.completed, .failed, .cancelled, .deadLetter].contains task.state then (.error invalidTransition, s)
    else
      let task := { task with state := .cancelled }
      (.ok task, (s.put task).audit task "task.cancelled" [] now)

structure Execution where
  taskId : String
  tenantId : String
  serverId : String
  tool : String
  workspace : String
  arguments : Obj
  token : String
  requestId : String
  correlationId : String

def Execution.scope (r : Execution) : TokenScope := ⟨r.taskId, r.tenantId, r.serverId, r.workspace, r.tool⟩

def Execution.envelope (r : Execution) (task : TaskRecord) (executionId : String) : Envelope :=
  { executionId := executionId
    taskId := r.taskId
    tenantId := r.tenantId
    serverId := r.serverId
    workspace := r.workspace
    tool := r.tool
    arguments := redact (.obj r.arguments)
    requestId := r.requestId
    correlationId := r.correlationId
    planHash := task.planHash }

/-- `execute`, with the id of the execution and the readings of the clock for the token and the record. -/
def execute (k : Crypto) (workspaces : List String) (r : Execution) (executionId : String) (now recorded : Int)
    (s : RestrictedController) : Result Envelope :=
  if !allowedTools.contains r.tool then (.error (.controller "unknown tool"), s)
  else
    match validateWorkspace r.workspace workspaces with
    | .error e => (.error e, s)
    | .ok _ =>
      match rejectForbidden "arguments" (.obj r.arguments) with
      | .error e => (.error e, s)
      | .ok () =>
        match s.task r.taskId r.tenantId with
        | .error e => (.error e, s)
        | .ok task =>
          if task.state ≠ .approved ∧ task.state ≠ .executing then (.error invalidTransition, s)
          else
            match verify k r.token r.scope now s.consumed with
            | (.error e, consumed) => (.error e, { s with consumed := consumed })
            | (.ok _, consumed) =>
              let envelope := r.envelope task executionId
              let task := { task with state := .executing }
              let s := { s.put task with
                executions := s.executions.set executionId envelope
                consumed := consumed }
              (.ok envelope, s.audit task "execution.authorized"
                [("execution_id", .str executionId), ("tool", .str r.tool), ("evidence_hash", .str envelope.evidenceHash)]
                recorded)

/-- `verification`, with the code it draws. -/
def verification (k : Crypto) (executionId tenantId code : String) (s : RestrictedController) : Result Verification :=
  match s.executions.get executionId with
  | none => (.error (.controller "execution not found"), s)
  | some execution =>
    if execution.tenantId ≠ tenantId then (.error (.controller "execution not found"), s)
    else
      let record : Verification :=
        { verificationCode := code
          executionId := executionId
          taskId := execution.taskId
          tenantId := tenantId
          evidenceHash := execution.evidenceHash
          signature := "" }
      let record := { record with signature := k.macHex record.text }
      (.ok record, { s with verifications := s.verifications.set code record })

/-! ## Calls -/

inductive Call where
  | createTask (body : TaskCreate) (tenantId requestId correlationId idempotencyKey : String) (taskId : String) (now : Int)
  | getTask (taskId tenantId : String)
  | plan (taskId tenantId : String) (steps : List PlanStep) (now : Int)
  | approve (a : Approval) (jti : String) (issued now : Int)
  | cancel (taskId tenantId : String) (now : Int)
  | execute (r : Execution) (executionId : String) (now recorded : Int)
  | verification (executionId tenantId code : String)

inductive Reply where
  | task (task : TaskRecord)
  | created (task : TaskRecord) (replay : Bool)
  | approved (task : TaskRecord) (token : String)
  | envelope (envelope : Envelope)
  | verification (record : Verification)

def Result.as {α : Type} (f : α → Reply) (r : Result α) : Result Reply := (r.1.map f, r.2)

def Call.tenantId : Call → String
  | .createTask _ tenantId .. => tenantId
  | .getTask _ tenantId => tenantId
  | .plan _ tenantId .. => tenantId
  | .approve a .. => a.tenantId
  | .cancel _ tenantId _ => tenantId
  | .execute r .. => r.tenantId
  | .verification _ tenantId _ => tenantId

def perform (k : Crypto) (workspaces : List String) (c : Call) (s : RestrictedController) : Result Reply :=
  match c with
  | .createTask body tenantId requestId correlationId idempotencyKey taskId now =>
    (createTask workspaces body tenantId requestId correlationId idempotencyKey taskId now s).as fun x => .created x.1 x.2
  | .getTask taskId tenantId => (getTask taskId tenantId s).as .task
  | .plan taskId tenantId steps now => (Controller.plan taskId tenantId steps now s).as .task
  | .approve a jti issued now => (Controller.approve k a jti issued now s).as fun x => .approved x.1 x.2
  | .cancel taskId tenantId now => (Controller.cancel taskId tenantId now s).as .task
  | .execute r executionId now recorded => (Controller.execute k workspaces r executionId now recorded s).as .envelope
  | .verification executionId tenantId code => (Controller.verification k executionId tenantId code s).as .verification

def call (k : Crypto) (workspaces : List String) (c : Call) (s : RestrictedController) : RestrictedController :=
  (perform k workspaces c s).2

end Middleware.Controller

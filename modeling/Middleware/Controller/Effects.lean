/-
What a call of the controller does: it refuses and changes nothing, it reads, or it makes the one change of its kind. A call
acts on a task only under the tenant of the task.
-/
import Middleware.Controller.Tasks

namespace Middleware.Controller

open Lib

section Tasks

variable {s : RestrictedController} {taskId tenantId : String} {task : TaskRecord}

theorem task_ok : s.task taskId tenantId = .ok task ↔ s.tasks.get taskId = some task ∧ task.tenantId = tenantId := by
  unfold RestrictedController.task
  cases h : s.tasks.get taskId with
  | none => simp
  | some t =>
    dsimp only
    split
    · rename_i ht
      constructor
      · rintro h
        cases h
        exact ⟨rfl, ht⟩
      · rintro ⟨h, -⟩
        cases h
        rfl
    · rename_i ht
      constructor
      · intro h
        cases h
      · rintro ⟨h, h'⟩
        cases h
        exact absurd h' ht

end Tasks

/-- The claims that `verify` accepts for a scope. -/
structure Verifies (claims : Claims) (scope : TokenScope) (now : Int) : Prop where
  started : claims.iat - 5 ≤ now
  unexpired : now < claims.exp
  taskId : claims.taskId = scope.taskId
  tenantId : claims.tenantId = scope.tenantId
  serverId : claims.serverId = scope.serverId
  workspace : claims.workspace = scope.workspace
  tool : scope.tool ∈ claims.tools

section Tokens

variable {k : Crypto} {token : String} {scope : TokenScope} {now : Int} {consumed : List String} {claims : Claims}

/-- A token is refused and nothing is consumed, or it verifies and its id is consumed for the first time. -/
theorem verify_cases (k : Crypto) (token : String) (scope : TokenScope) (now : Int) (consumed : List String) :
    (∃ e, verify k token scope now consumed = (.error e, consumed)) ∨
    ∃ claims, k.claimsOf token = some claims ∧ Verifies claims scope now ∧ claims.jti ≠ "" ∧ claims.jti ∉ consumed ∧
      verify k token scope now consumed = (.ok claims, consumed ++ [claims.jti]) := by
  unfold verify
  cases hclaims : k.claimsOf token with
  | none => exact .inl ⟨_, rfl⟩
  | some claims =>
    dsimp only
    split
    · exact .inl ⟨_, rfl⟩
    rename_i htime
    split
    · exact .inl ⟨_, rfl⟩
    rename_i hscope
    split
    · exact .inl ⟨_, rfl⟩
    rename_i htool
    split
    · exact .inl ⟨_, rfl⟩
    rename_i hjti
    simp only [not_or, not_lt, not_le, ne_eq, not_not] at htime hscope
    simp only [Bool.not_eq_true', Bool.not_eq_false, List.contains_eq_mem, decide_eq_true_eq] at htool
    simp only [Bool.or_eq_true, List.contains_eq_mem, decide_eq_true_eq, not_or, Bool.not_eq_true] at hjti
    obtain ⟨hempty, hnew⟩ := hjti
    refine .inr ⟨claims, rfl, ⟨htime.1, htime.2, hscope.1, hscope.2.1, hscope.2.2.1, hscope.2.2.2, htool⟩, ?_, hnew, rfl⟩
    rintro hjti
    rw [hjti] at hempty
    exact absurd hempty (by decide)

theorem verify_ok (hclaims : k.claimsOf token = some claims) (h : Verifies claims scope now) (hjti : claims.jti ≠ "")
    (hnew : claims.jti ∉ consumed) : verify k token scope now consumed = (.ok claims, consumed ++ [claims.jti]) := by
  have hempty : claims.jti.isEmpty = false := by simpa [String.isEmpty_iff] using hjti
  have htime : ¬ (now < claims.iat - 5 ∨ claims.exp ≤ now) := by
    have h1 := h.started
    have h2 := h.unexpired
    omega
  have hscope : ¬ (claims.taskId ≠ scope.taskId ∨ claims.tenantId ≠ scope.tenantId ∨ claims.serverId ≠ scope.serverId ∨
      claims.workspace ≠ scope.workspace) := by
    simp [h.taskId, h.tenantId, h.serverId, h.workspace]
  unfold verify
  rw [hclaims]
  simp only [if_neg htime, if_neg hscope, List.contains_eq_mem, h.tool, decide_true, Bool.not_true, Bool.false_eq_true,
    if_false, hempty, hnew, decide_false, Bool.or_self]

end Tokens

/-- An approval of the current plan of a task that waits for one. -/
structure Approvable (s : RestrictedController) (a : Approval) (task : TaskRecord) : Prop where
  found : s.tasks.get a.taskId = some task
  tenant : task.tenantId = a.tenantId
  awaiting : task.state = .awaitingApproval
  ascii : (a.planHash.toList.all fun c => decide (c.toNat < 128)) = true
  current : task.planHash = a.planHash

def TaskRecord.withToken (task : TaskRecord) (token : String) : TaskRecord :=
  { task with state := .approved, approvalToken := token }

/-- An execution that a task in APPROVED or EXECUTING takes under a token. -/
structure Executable (k : Crypto) (workspaces : List String) (s : RestrictedController) (r : Execution) (now : Int)
    (task : TaskRecord) (claims : Claims) : Prop where
  allowed : r.tool ∈ allowedTools
  workspace : validateWorkspace r.workspace workspaces = .ok r.workspace
  arguments : rejectForbidden "arguments" (.obj r.arguments) = .ok ()
  found : s.tasks.get r.taskId = some task
  tenant : task.tenantId = r.tenantId
  active : task.state = .approved ∨ task.state = .executing
  signed : k.claimsOf r.token = some claims
  verifies : Verifies claims r.scope now
  jti : claims.jti ≠ ""
  unconsumed : claims.jti ∉ s.consumed

inductive Performs (k : Crypto) (workspaces : List String) (s : RestrictedController) : Call → Result Reply → Prop
  | refused (c : Call) (e : Error) : Performs k workspaces s c (.error e, s)
  | known (body : TaskCreate) (tenantId requestId correlationId idempotencyKey taskId : String) (now : Int)
      (prior : String) (task : TaskRecord)
      (hit : s.idempotency.get (tenantId, Sha256.hexdigest idempotencyKey) = some (canonicalHash body.value, prior))
      (found : s.tasks.get prior = some task) (tenant : task.tenantId = tenantId) :
      Performs k workspaces s (.createTask body tenantId requestId correlationId idempotencyKey taskId now)
        (.ok (.created task true), s)
  | created (body : TaskCreate) (tenantId requestId correlationId idempotencyKey taskId : String) (now : Int)
      (task : TaskRecord) (workspace : validateWorkspace body.workspace workspaces = .ok body.workspace)
      (new : s.idempotency.get (tenantId, Sha256.hexdigest idempotencyKey) = none)
      (htask : task = ⟨taskId, tenantId, body.workspace, body.title, body.objective, requestId, correlationId,
        Sha256.hexdigest idempotencyKey, canonicalHash body.value, .created, [], "", ""⟩) :
      Performs k workspaces s (.createTask body tenantId requestId correlationId idempotencyKey taskId now)
        (.ok (.created task false),
          { (s.put task).audit task "task.created" [("request_id", .str requestId)] now with
            idempotency := s.idempotency.set (tenantId, Sha256.hexdigest idempotencyKey) (canonicalHash body.value, taskId) })
  | read (taskId tenantId : String) (task : TaskRecord) (found : s.tasks.get taskId = some task)
      (tenant : task.tenantId = tenantId) : Performs k workspaces s (.getTask taskId tenantId) (.ok (.task task), s)
  | planned (taskId tenantId : String) (steps : List PlanStep) (now : Int) (task : TaskRecord)
      (found : s.tasks.get taskId = some task) (tenant : task.tenantId = tenantId) (new : task.state = .created)
      (checked : steps.forM checkStep = .ok ()) :
      Performs k workspaces s (.plan taskId tenantId steps now) (.ok (.task (task.planned steps)),
        (s.put (task.planned steps)).audit (task.planned steps) "task.plan_ready"
          [("plan_hash", .str (task.planned steps).planHash)] now)
  | approved (a : Approval) (jti : String) (issued now : Int) (task task' : TaskRecord) (h : Approvable s a task)
      (htask : task' = task.withToken (k.issue (a.claims k task jti issued))) :
      Performs k workspaces s (.approve a jti issued now) (.ok (.approved task' (k.issue (a.claims k task jti issued))),
        (s.put task').audit task' "task.approved" [("approver", .str "[REDACTED]"), ("server_id", .str a.serverId)] now)
  | cancelled (taskId tenantId : String) (now : Int) (task : TaskRecord) (found : s.tasks.get taskId = some task)
      (tenant : task.tenantId = tenantId) (live : task.state ≠ .cancelled) :
      Performs k workspaces s (.cancel taskId tenantId now) (.ok (.task { task with state := .cancelled }),
        (s.put { task with state := .cancelled }).audit { task with state := .cancelled } "task.cancelled" [] now)
  | executed (r : Execution) (executionId : String) (now recorded : Int) (task : TaskRecord) (claims : Claims)
      (h : Executable k workspaces s r now task claims) :
      Performs k workspaces s (.execute r executionId now recorded) (.ok (.envelope (r.envelope task executionId)),
        { (s.put { task with state := .executing }).audit { task with state := .executing } "execution.authorized"
            [("execution_id", .str executionId), ("tool", .str r.tool),
              ("evidence_hash", .str (r.envelope task executionId).evidenceHash)] recorded with
          executions := s.executions.set executionId (r.envelope task executionId)
          consumed := s.consumed ++ [claims.jti] })
  | verified (executionId tenantId code : String) (execution : Envelope) (record : Verification)
      (found : s.executions.get executionId = some execution) (tenant : execution.tenantId = tenantId)
      (hrecord : record.tenantId = tenantId) :
      Performs k workspaces s (.verification executionId tenantId code) (.ok (.verification record),
        { s with verifications := s.verifications.set code record })

section Calls

variable {k : Crypto} {workspaces : List String} {s : RestrictedController}

theorem validateWorkspace_ok {workspace w : String} (h : validateWorkspace workspace workspaces = .ok w) : w = workspace := by
  unfold validateWorkspace at h
  split at h
  · cases h
  split at h
  · cases h
    rfl
  · cases h

theorem createTask_performs (body : TaskCreate) (tenantId requestId correlationId idempotencyKey taskId : String) (now : Int) :
    Performs k workspaces s (.createTask body tenantId requestId correlationId idempotencyKey taskId now)
      (perform k workspaces (.createTask body tenantId requestId correlationId idempotencyKey taskId now) s) := by
  unfold perform Result.as createTask
  dsimp only
  split
  · exact .refused _ _
  rename_i w hw
  have hsame := validateWorkspace_ok hw
  subst hsame
  split
  · rename_i priorHash priorId hhit
    split
    · exact .refused _ _
    · rename_i hhash
      rw [not_ne_iff] at hhash
      rw [hhash] at hhit
      cases htask : s.task priorId tenantId with
      | error e => exact .refused _ e
      | ok task =>
        obtain ⟨hfound, htenant⟩ := task_ok.1 htask
        exact .known _ _ _ _ _ _ _ priorId task hhit hfound htenant
  · rename_i hnew
    exact .created _ _ _ _ _ _ _ _ hw hnew rfl

theorem execute_performs (r : Execution) (executionId : String) (now recorded : Int) :
    Performs k workspaces s (.execute r executionId now recorded)
      (perform k workspaces (.execute r executionId now recorded) s) := by
  unfold perform Result.as execute
  dsimp only
  split
  · exact .refused _ _
  rename_i htool
  split
  · exact .refused _ _
  rename_i w hw
  have hsame := validateWorkspace_ok hw
  subst hsame
  split
  · exact .refused _ _
  rename_i harguments
  split
  · exact .refused _ _
  rename_i task htask
  obtain ⟨hfound, htenant⟩ := task_ok.1 htask
  split
  · exact .refused _ _
  rename_i hactive
  rcases verify_cases k r.token r.scope now s.consumed with ⟨e, hverify⟩ | ⟨claims, hclaims, hverifies, hjti, hnew, hverify⟩
  · rw [hverify]
    exact .refused _ e
  · rw [hverify]
    refine .executed r executionId now recorded task claims ⟨by simpa using htool, hw, harguments, hfound, htenant, ?_, hclaims,
      hverifies, hjti, hnew⟩
    by_contra hnot
    rw [not_or] at hnot
    exact hactive hnot

theorem perform_performs (k : Crypto) (workspaces : List String) (c : Call) (s : RestrictedController) :
    Performs k workspaces s c (perform k workspaces c s) := by
  cases c with
  | createTask body tenantId requestId correlationId idempotencyKey taskId now =>
    exact createTask_performs body tenantId requestId correlationId idempotencyKey taskId now
  | execute r executionId now recorded => exact execute_performs r executionId now recorded
  | getTask taskId tenantId =>
    show Performs k workspaces s _ ((s.task taskId tenantId).map .task, s)
    cases htask : s.task taskId tenantId with
    | error e => exact .refused _ e
    | ok task =>
      obtain ⟨hfound, htenant⟩ := task_ok.1 htask
      exact .read _ _ task hfound htenant
  | plan taskId tenantId steps now =>
    unfold perform Result.as plan
    dsimp only
    split
    · exact .refused _ _
    rename_i task htask
    obtain ⟨hfound, htenant⟩ := task_ok.1 htask
    split
    · exact .refused _ _
    rename_i hnew
    split
    · exact .refused _ _
    · rename_i hchecked
      exact .planned taskId tenantId steps now task hfound htenant (by simpa using hnew) hchecked
  | approve a jti issued now =>
    unfold perform Result.as approve
    dsimp only
    split
    · exact .refused _ _
    rename_i task htask
    obtain ⟨hfound, htenant⟩ := task_ok.1 htask
    split
    · exact .refused _ _
    rename_i hawaiting
    split
    · exact .refused _ _
    rename_i hascii
    split
    · exact .refused _ _
    · rename_i hcurrent
      rw [Bool.not_eq_true, Bool.not_eq_false'] at hascii
      exact .approved a jti issued now task _ ⟨hfound, htenant, by simpa using hawaiting, hascii, by simpa using hcurrent⟩ rfl
  | cancel taskId tenantId now =>
    unfold perform Result.as cancel
    dsimp only
    split
    · exact .refused _ _
    rename_i task htask
    obtain ⟨hfound, htenant⟩ := task_ok.1 htask
    split
    · exact .refused _ _
    · rename_i hlive
      refine .cancelled taskId tenantId now task hfound htenant fun h => hlive ?_
      rw [h]
      rfl
  | verification executionId tenantId code =>
    unfold perform Result.as verification
    dsimp only
    split
    · exact .refused _ _
    rename_i execution hfound
    split
    · exact .refused _ _
    · rename_i htenant
      exact .verified executionId tenantId code execution _ hfound (by simpa using htenant) rfl

end Calls

end Middleware.Controller

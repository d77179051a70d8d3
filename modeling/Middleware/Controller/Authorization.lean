/-
What every run of the controller keeps, and what it does not. An envelope is created under an earlier approval of the plan
that is still current, once for each token; but the token of an approval is consumed by the first execution and a task is
approved once, so that a plan of several steps is never executed to its end.
-/
import Middleware.Controller.Isolation

namespace Middleware.Controller

open Lib

structure ApprovedBy (k : Crypto) (workspaces : List String) (before : List Call) (r : Execution) (now : Int) (e : Envelope)
    (done : List Call) (a : Approval) (jti : String) (issued recorded : Int) (rest : List Call) (task : TaskRecord) : Prop where
  earlier : before = done ++ Call.approve a jti issued recorded :: rest
  accepted : (perform k workspaces (.approve a jti issued recorded) (after k workspaces done)).1 = .ok (.approved task r.token)
  taskId : e.taskId = task.taskId ∧ e.taskId = a.taskId
  tenantId : e.tenantId = task.tenantId ∧ e.tenantId = a.tenantId
  serverId : e.serverId = a.serverId
  workspace : e.workspace = task.workspace
  planHash : e.planHash = task.planHash ∧ e.planHash = a.planHash
  current : ∃ task', (after k workspaces before).tasks.get e.taskId = some task' ∧ task'.plan = task.plan ∧
    task'.planHash = task.planHash
  tool : e.tool ∈ task.plan.map (·.tool)
  unexpired : now < issued + k.ttlSeconds

/-- An envelope is created under an approval, for a task that was not cancelled, and with a token that was not used. -/
structure Authorized (k : Crypto) (workspaces : List String) (before : List Call) (r : Execution) (now : Int) (e : Envelope) :
    Prop where
  approval : ∃ done a jti issued recorded rest task,
    ApprovedBy k workspaces before r now e done a jti issued recorded rest task
  live : ∀ done tenantId now' rest reply, before = done ++ Call.cancel e.taskId tenantId now' :: rest →
    (perform k workspaces (.cancel e.taskId tenantId now') (after k workspaces done)).1 ≠ .ok reply
  unused : ∀ done r' executionId now' recorded rest reply, before = done ++ Call.execute r' executionId now' recorded :: rest →
    r'.token = r.token → (perform k workspaces (.execute r' executionId now' recorded) (after k workspaces done)).1 ≠ .ok reply

def executedBy (k : Crypto) (workspaces : List String) (taskId : String) (s : RestrictedController) (c : Call) :
    List (Execution × Int) :=
  match c, (perform k workspaces c s).1 with
  | .execute r _ now _, .ok _ => if r.taskId = taskId then [(r, now)] else []
  | _, _ => []

/-- The executions of a task, with the clock that their tokens were checked at. -/
def executed (k : Crypto) (workspaces : List String) (taskId : String) : RestrictedController → List Call →
    List (Execution × Int)
  | _, [] => []
  | s, c :: rest => executedBy k workspaces taskId s c ++ executed k workspaces taskId (call k workspaces c s) rest

/-- The plan can be executed: some calls after these take its steps one by one before the token expires. -/
def Completable (k : Crypto) (workspaces : List String) (before : List Call) (taskId : String) (plan : List PlanStep)
    (expiry : Int) : Prop :=
  ∃ more, Fresh (before ++ more) ∧ Secure k workspaces (before ++ more) ∧
    List.Forall₂ (fun step execution => execution.1.tool = step.tool ∧ execution.1.arguments = step.arguments ∧
      execution.2 < expiry) plan (executed k workspaces taskId (after k workspaces before) more)

/-- What a run of the controller should keep. -/
structure Controlled (k : Crypto) (workspaces : List String) (calls : List Call) : Prop where
  authorized : ∀ (before : List Call) r executionId now recorded (rest : List Call) e,
    calls = before ++ Call.execute r executionId now recorded :: rest →
    (perform k workspaces (.execute r executionId now recorded) (after k workspaces before)).1 = .ok (.envelope e) →
    Authorized k workspaces before r now e
  stored : ∀ executionId e, (after k workspaces calls).executions.get executionId = some e →
    ∃ before : List Call, ∃ r now recorded, ∃ rest : List Call, calls = before ++ Call.execute r executionId now recorded :: rest ∧
      (perform k workspaces (.execute r executionId now recorded) (after k workspaces before)).1 = .ok (.envelope e)
  audited : ∀ before, before <+: calls → ∀ id, Chained ((after k workspaces before).records id)
  contained : ∀ (before : List Call) c (rest : List Call) id task,
    calls = before ++ c :: rest → (after k workspaces before).tasks.get id = some task →
    task.tenantId ≠ c.tenantId → (after k workspaces (before ++ [c])).tasks.get id = some task ∧
      (after k workspaces (before ++ [c])).records id = (after k workspaces before).records id
  secret : ∀ tenant, replies k workspaces tenant {} calls = replies k workspaces tenant {} (alone tenant calls)
  completable : ∀ (before : List Call) a jti issued recorded (rest : List Call) task,
    calls = before ++ Call.approve a jti issued recorded :: rest →
    Approvable (after k workspaces before) a task → Completable k workspaces (before ++ [Call.approve a jti issued recorded])
      task.taskId task.plan (issued + k.ttlSeconds)

/-- An approval is of a plan of at most one step. -/
def OneStep (s : RestrictedController) : Call → Prop
  | .approve a _ _ _ => ∀ task, Approvable s a task → task.plan.length ≤ 1
  | .createTask .. | .getTask .. | .plan .. | .cancel .. | .execute .. | .verification .. => True

section Accepted

variable {k : Crypto} {workspaces : List String} {s : RestrictedController} {a : Approval} {jti : String}
  {issued now recorded : Int} {task : TaskRecord} {r : Execution} {claims : Claims} {executionId : String} {reply : Reply}

theorem approve_accepted (h : Approvable s a task) :
    (perform k workspaces (.approve a jti issued recorded) s).1 =
      .ok (.approved (task.withToken (k.issue (a.claims k task jti issued))) (k.issue (a.claims k task jti issued))) := by
  unfold perform Result.as approve
  dsimp only
  rw [task_ok.2 ⟨h.found, h.tenant⟩]
  dsimp only
  rw [if_neg (by simp [h.awaiting]), if_neg (by simp [h.ascii]), if_neg (by simp [h.current])]
  rfl

theorem cancel_accepted {taskId tenantId : String}
    (h : (perform k workspaces (.cancel taskId tenantId now) s).1 = .ok reply) :
    ∃ task, s.tasks.get taskId = some task ∧
      (call k workspaces (.cancel taskId tenantId now) s).tasks = s.tasks.set task.taskId { task with state := .cancelled } := by
  unfold call
  have hperforms := perform_performs k workspaces (.cancel taskId tenantId now) s
  generalize perform k workspaces (.cancel taskId tenantId now) s = x at hperforms h ⊢
  cases hperforms with
  | refused => cases h
  | cancelled _ _ _ task found => exact ⟨task, found, rfl⟩

theorem execute_ok (h : Executable k workspaces s r now task claims) :
    (perform k workspaces (.execute r executionId now recorded) s).1 = .ok (.envelope (r.envelope task executionId)) := by
  have hactive : ¬ (task.state ≠ .approved ∧ task.state ≠ .executing) := by
    rcases h.active with hs | hs <;> simp [hs]
  unfold perform Result.as execute
  dsimp only
  rw [if_neg (by simp [h.allowed]), h.workspace, h.arguments, task_ok.2 ⟨h.found, h.tenant⟩]
  dsimp only
  rw [if_neg hactive, verify_ok h.signed h.verifies h.jti h.unconsumed]
  rfl

end Accepted

/-! ## Safety -/

section Safety

variable {k : Crypto} {workspaces : List String} {calls before rest : List Call} {r : Execution} {executionId : String}
  {now recorded : Int} {e : Envelope}

theorem mem_tools {task : TaskRecord} {tool : String} (h : tool ∈ task.tools) : tool ∈ task.plan.map (·.tool) := by
  unfold TaskRecord.tools at h
  rw [(List.perm_insertionSort _ _).mem_iff, List.mem_dedup] at h
  exact h

theorem accepted_approval (hsecure : Secure k workspaces (before ++ Call.execute r executionId now recorded :: rest))
    {task : TaskRecord} {claims : Claims} (h : Executable k workspaces (after k workspaces before) r now task claims) :
    ∃ done a jti issued recorded' rest' approved, ApprovedBy k workspaces before r now (r.envelope task executionId) done a jti
      issued recorded' rest' approved := by
  obtain ⟨htoken, done, a, jti, issued, recorded', rest', task₀, hissue, rfl⟩ := executed_token hsecure h
  have happrovable := hissue.approvable
  have hsame := hissue.approved
  have hverifies := h.verifies
  have hkeyed : task₀.taskId = a.taskId := (standing k workspaces done).keyed _ _ happrovable.found
  have htaskId : task₀.taskId = r.taskId := hverifies.taskId
  have htenantId : a.tenantId = r.tenantId := hverifies.tenantId
  have hplanHash : task.planHash = task₀.planHash := hsame.planHash
  refine ⟨done, a, jti, issued, recorded', rest', task₀.withToken (k.issue (a.claims k task₀ jti issued)), ?_⟩
  exact {
    earlier := hissue.run
    accepted := by
      rw [htoken, hsame.approvalToken]
      exact approve_accepted happrovable
    taskId := ⟨htaskId.symm, htaskId.symm.trans hkeyed⟩
    tenantId := ⟨htenantId.symm.trans happrovable.tenant.symm, htenantId.symm⟩
    serverId := hverifies.serverId.symm
    workspace := hverifies.workspace.symm
    planHash := ⟨hplanHash, hplanHash.trans happrovable.current⟩
    current := ⟨task, h.found, hsame.plan, hsame.planHash⟩
    tool := mem_tools hverifies.tool
    unexpired := hverifies.unexpired }

theorem authorized (hfresh : Fresh calls) (hsecure : Secure k workspaces calls)
    (hcalls : calls = before ++ Call.execute r executionId now recorded :: rest)
    (h : (perform k workspaces (.execute r executionId now recorded) (after k workspaces before)).1 = .ok (.envelope e)) :
    Authorized k workspaces before r now e := by
  subst hcalls
  obtain ⟨task, claims, hexecutable, heq, -, -⟩ := execute_accepted h
  cases heq
  have htaskId : claims.taskId = r.taskId := hexecutable.verifies.taskId
  refine ⟨accepted_approval hsecure hexecutable, ?_, ?_⟩
  · rintro done tenantId now' mid reply rfl hcancel
    obtain ⟨cancelled, hfound, htasks⟩ := cancel_accepted hcancel
    -- the task is cancelled then and stays so
    have hkeyed : cancelled.taskId = r.taskId := (standing k workspaces done).keyed _ _ hfound
    have hget : (after k workspaces (done ++ [Call.cancel r.taskId tenantId now'])).tasks.get r.taskId =
        some { cancelled with state := .cancelled } := by
      rw [after_concat]
      have htasks' : (call k workspaces (.cancel r.taskId tenantId now') (after k workspaces done)).tasks = _ := htasks
      rw [htasks', hkeyed]
      exact OrderedDict.get_set_self
    have hfresh' : Fresh (done ++ [Call.cancel r.taskId tenantId now'] ++ mid) := by
      have := hfresh.left
      simpa [Execution.envelope] using this
    obtain ⟨task', hget', honward⟩ := after_task k workspaces hfresh' hget
    have hsame : done ++ [Call.cancel r.taskId tenantId now'] ++ mid =
        done ++ Call.cancel (r.envelope task executionId).taskId tenantId now' :: mid := by
      simp [Execution.envelope]
    rw [hsame, hexecutable.found] at hget'
    cases hget'
    have hstate : task.state = .cancelled := honward.cancelled rfl
    rcases hexecutable.active with hs | hs <;> rw [hs] at hstate <;> cases hstate
  · rintro done r' executionId' now' recorded' mid reply rfl htoken haccepted
    obtain ⟨task', claims', hexecutable', -, -, -⟩ := execute_accepted haccepted
    have hclaims : claims' = claims := by
      have hsigned := hexecutable'.signed
      rw [htoken, hexecutable.signed] at hsigned
      exact (Option.some.inj hsigned).symm
    have hid : r.taskId = r'.taskId := by
      have htaskId' : claims'.taskId = r'.taskId := hexecutable'.verifies.taskId
      rw [← htaskId, ← htaskId', hclaims]
    exact executed_once rfl hfresh hsecure haccepted h hid

theorem stored (h : (after k workspaces calls).executions.get executionId = some e) :
    ∃ before r now recorded rest, calls = before ++ Call.execute r executionId now recorded :: rest ∧
      (perform k workspaces (.execute r executionId now recorded) (after k workspaces before)).1 = .ok (.envelope e) := by
  induction calls using List.reverseRecOn with
  | nil => cases h
  | append_singleton calls c ih =>
    rw [after_concat] at h
    have hold : (after k workspaces calls).executions.get executionId = some e → ∃ before r now recorded rest,
        calls ++ [c] = before ++ Call.execute r executionId now recorded :: rest ∧
        (perform k workspaces (.execute r executionId now recorded) (after k workspaces before)).1 = .ok (.envelope e) := by
      intro hget
      obtain ⟨before, r, now, recorded, rest, hcalls, haccepted⟩ := ih hget
      exact ⟨before, r, now, recorded, rest ++ [c], by rw [hcalls]; simp, haccepted⟩
    rcases call_executions k workspaces c (after k workspaces calls) with
      heq | ⟨r, executionId', now, recorded, task, claims, rfl, -, hreply, heq⟩
    · rw [heq] at h
      exact hold h
    · rw [heq, OrderedDict.get_set] at h
      split at h
      · rename_i hid
        subst hid
        cases h
        exact ⟨calls, r, now, recorded, [], rfl, hreply⟩
      · exact hold h

end Safety

/-! ## Executing a plan -/

section Plans

variable {k : Crypto} {workspaces : List String} {calls before more : List Call} {s : RestrictedController} {c : Call}
  {taskId : String} {execution : Execution × Int} {executions : List (Execution × Int)}

theorem executedBy_cases (k : Crypto) (workspaces : List String) (taskId : String) (s : RestrictedController) (c : Call) :
    executedBy k workspaces taskId s c = [] ∨ ∃ r executionId now recorded reply, c = .execute r executionId now recorded ∧
      r.taskId = taskId ∧ (perform k workspaces c s).1 = .ok reply ∧ executedBy k workspaces taskId s c = [(r, now)] := by
  unfold executedBy
  split
  · rename_i r executionId now recorded reply hreply
    split
    · rename_i hid
      exact .inr ⟨r, executionId, now, recorded, reply, rfl, hid, hreply, rfl⟩
    · exact .inl rfl
  · exact .inl rfl

theorem executed_cons (h : executed k workspaces taskId s more = execution :: executions) :
    ∃ mid r executionId now recorded rest reply, more = mid ++ Call.execute r executionId now recorded :: rest ∧
      r.taskId = taskId ∧
      (perform k workspaces (.execute r executionId now recorded) (runFrom (call k workspaces) s mid)).1 = .ok reply ∧
      executions = executed k workspaces taskId (runFrom (call k workspaces) s (mid ++ [Call.execute r executionId now recorded]))
        rest := by
  induction more generalizing s with
  | nil => cases h
  | cons c rest ih =>
    unfold executed at h
    rcases executedBy_cases k workspaces taskId s c with hnone | ⟨r, executionId, now, recorded, reply, rfl, hid, hreply, hone⟩
    · rw [hnone, List.nil_append] at h
      obtain ⟨mid, r, executionId, now, recorded, rest', reply, rfl, hid, hreply, hexecutions⟩ := ih h
      exact ⟨c :: mid, r, executionId, now, recorded, rest', reply, rfl, hid, hreply, hexecutions⟩
    · rw [hone, List.singleton_append, List.cons.injEq] at h
      exact ⟨[], r, executionId, now, recorded, rest, reply, rfl, hid, hreply, h.2.symm⟩

theorem executed_length (hfresh : Fresh (before ++ more)) (hsecure : Secure k workspaces (before ++ more)) :
    (executed k workspaces taskId (after k workspaces before) more).length ≤ 1 := by
  cases hexecuted : executed k workspaces taskId (after k workspaces before) more with
  | nil => simp
  | cons execution executions =>
    obtain ⟨mid, r, executionId, now, recorded, rest, reply, rfl, hid, hreply, hexecutions⟩ := executed_cons hexecuted
    cases hnext : executions with
    | nil => simp
    | cons execution' executions' =>
      rw [hnext] at hexecutions
      obtain ⟨mid', r', executionId', now', recorded', rest', reply', hrest, hid', hreply', -⟩ := executed_cons hexecutions.symm
      subst hrest
      rw [← runFrom_append] at hreply hreply'
      -- the second one is refused, as its token is consumed
      have hcalls : before ++ (mid ++ Call.execute r executionId now recorded :: (mid' ++
          .execute r' executionId' now' recorded' :: rest')) = (before ++ mid) ++ Call.execute r executionId now recorded :: mid' ++
          .execute r' executionId' now' recorded' :: rest' := by simp
      have hposition : before ++ (mid ++ [Call.execute r executionId now recorded] ++ mid') =
          (before ++ mid) ++ Call.execute r executionId now recorded :: mid' := by simp
      rw [← runFrom_append, hposition] at hreply'
      exact absurd (hid'.trans hid.symm) (executed_once hcalls hfresh hsecure hreply hreply')

theorem Completable.length {plan : List PlanStep} {expiry : Int} (h : Completable k workspaces before taskId plan expiry) :
    plan.length ≤ 1 := by
  obtain ⟨more, hfresh, hsecure, hforall⟩ := h
  rw [hforall.length_eq]
  exact executed_length hfresh hsecure

/-- A last call stands at the end of a run or before one of its calls. -/
theorem position_concat {calls done rest : List Call} {c d : Call} (h : calls ++ [c] = done ++ d :: rest) :
    (rest = [] ∧ calls = done ∧ c = d) ∨ ∃ rest', rest = rest' ++ [c] ∧ calls = done ++ d :: rest' := by
  cases rest using List.reverseRecOn with
  | nil =>
    obtain ⟨hcalls, hc⟩ := List.append_inj' h rfl
    exact .inl ⟨rfl, hcalls, (List.cons.inj hc).1⟩
  | append_singleton rest' x =>
    rw [← List.cons_append, ← List.append_assoc] at h
    obtain ⟨hcalls, hx⟩ := List.append_inj' h rfl
    exact .inr ⟨rest', by rw [(List.cons.inj hx).1], hcalls⟩

theorem Fresh.concat (h : Fresh calls) (hnodup : c.draws.Nodup) (hnew : ∀ d ∈ c.draws, d ∉ draws calls ∧ d ≠ "") :
    Fresh (calls ++ [c]) := by
  have hdraws : draws (calls ++ [c]) = draws calls ++ c.draws := by simp [draws]
  constructor
  · rw [hdraws]
    refine List.nodup_append.2 ⟨h.nodup, hnodup, ?_⟩
    rintro d hd d' hd' rfl
    exact (hnew d hd').1 hd
  · rw [hdraws, List.mem_append, not_or]
    exact ⟨h.nonempty, fun hd => (hnew "" hd).2 rfl⟩

theorem Secure.concat (h : Secure k workspaces calls) {id : String} {task : TaskRecord}
    (htask : (after k workspaces calls).tasks.get id = some task) {r : Execution} (htoken : task.approvalToken = r.token)
    (executionId : String) (now recorded : Int) : Secure k workspaces (calls ++ [Call.execute r executionId now recorded]) := by
  refine ⟨?_, h.records, ?_⟩
  · intro done a jti issued now' rest task' hcalls happrovable
    rcases position_concat hcalls with ⟨-, -, hc⟩ | ⟨rest', -, hcalls'⟩
    · cases hc
    · exact h.issued done a jti issued now' rest' task' hcalls' happrovable
  · intro done r' executionId' now' recorded' rest hcalls encoded hsplit
    rcases position_concat hcalls with ⟨-, rfl, hc⟩ | ⟨rest', -, hcalls'⟩
    · cases hc
      exact .inl ⟨id, task, htask, htoken⟩
    · exact h.unforgeable done r' executionId' now' recorded' rest' hcalls' encoded hsplit

/-- The execution of a plan's step under the token of its approval. -/
def stepExecution (k : Crypto) (a : Approval) (task : TaskRecord) (jti : String) (issued : Int) (step : PlanStep) : Execution :=
  { taskId := task.taskId
    tenantId := task.tenantId
    serverId := a.serverId
    tool := step.tool
    workspace := task.workspace
    arguments := step.arguments
    token := k.issue (a.claims k task jti issued)
    requestId := ""
    correlationId := "" }

variable {a : Approval} {jti : String} {issued recorded : Int} {task : TaskRecord} {step : PlanStep}

theorem checked_step {steps : List PlanStep} (h : steps.forM checkStep = .ok ()) (hstep : step ∈ steps) :
    step.tool ∈ allowedTools ∧ rejectForbidden "arguments" (.obj step.arguments) = .ok () := by
  induction steps with
  | nil => cases hstep
  | cons first rest ih =>
    change (checkStep first >>= fun _ => rest.forM checkStep) = .ok () at h
    cases hfirst : checkStep first with
    | error e =>
      rw [hfirst] at h
      cases h
    | ok =>
      rw [hfirst] at h
      rcases List.mem_cons.1 hstep with rfl | hrest
      · unfold checkStep at hfirst
        by_cases htool : step.tool ∈ allowedTools
        · refine ⟨htool, ?_⟩
          simpa [htool] using hfirst
        · simp [htool] at hfirst
          cases hfirst
      · exact ih h hrest

theorem withToken_token : (task.withToken (k.issue (a.claims k task jti issued))).approvalToken =
    (stepExecution k a task jti issued step).token := rfl

theorem step_executable (hfresh : Fresh (before ++ [Call.approve a jti issued recorded]))
    (hsecure : Secure k workspaces (before ++ [Call.approve a jti issued recorded]))
    (h : Approvable (after k workspaces before) a task) (hstep : step ∈ task.plan) :
    Executable k workspaces (after k workspaces (before ++ [Call.approve a jti issued recorded]))
      (stepExecution k a task jti issued step) issued (task.withToken (k.issue (a.claims k task jti issued)))
      (a.claims k task jti issued) := by
  have hstanding := standing k workspaces before
  obtain ⟨hplan, hworkspace⟩ := hstanding.checked _ _ h.found
  have hopens := hsecure.issued before a jti issued recorded [] task rfl h
  have hallowed := checked_step hplan hstep
  have hget : (after k workspaces (before ++ [Call.approve a jti issued recorded])).tasks.get task.taskId =
      some (task.withToken (k.issue (a.claims k task jti issued))) := by
    have htasks : (call k workspaces (.approve a jti issued recorded) (after k workspaces before)).tasks =
        (after k workspaces before).tasks.set task.taskId (task.withToken (k.issue (a.claims k task jti issued))) := by
      unfold call perform Result.as approve
      dsimp only
      rw [task_ok.2 ⟨h.found, h.tenant⟩]
      dsimp only
      rw [if_neg (by simp [h.awaiting]), if_neg (by simp [h.ascii]), if_neg (by simp [h.current])]
      rfl
    rw [after_concat, htasks]
    exact OrderedDict.get_set_self
  have httl : (30 : Int) ≤ k.ttlSeconds := by exact_mod_cast k.ttl_bounds.1
  exact {
    allowed := hallowed.1
    workspace := hworkspace
    arguments := hallowed.2
    found := hget
    tenant := rfl
    active := .inl rfl
    signed := hopens
    verifies :=
      { started := by
          show issued - 5 ≤ issued
          omega
        unexpired := by
          show issued < issued + k.ttlSeconds
          omega
        taskId := rfl
        tenantId := h.tenant.symm
        serverId := rfl
        workspace := rfl
        tool := by
          show step.tool ∈ task.tools
          unfold TaskRecord.tools
          rw [(List.perm_insertionSort _ _).mem_iff, List.mem_dedup]
          exact List.mem_map.2 ⟨step, hstep, rfl⟩ }
    jti := by
      rintro heq
      have hempty : jti = "" := heq
      exact hfresh.nonempty (by simp [draws, Call.draws, hempty])
    unconsumed := approved_unconsumed hfresh hsecure hget rfl hopens }

theorem completable (hfresh : Fresh (before ++ [Call.approve a jti issued recorded]))
    (hsecure : Secure k workspaces (before ++ [Call.approve a jti issued recorded]))
    (h : Approvable (after k workspaces before) a task) (hlength : task.plan.length ≤ 1) :
    Completable k workspaces (before ++ [Call.approve a jti issued recorded]) task.taskId task.plan (issued + k.ttlSeconds) := by
  cases hplan : task.plan with
  | nil => exact ⟨[], by rwa [List.append_nil], by rwa [List.append_nil], .nil⟩
  | cons step rest =>
    have hrest : rest = [] := by
      rw [hplan, List.length_cons] at hlength
      exact List.eq_nil_of_length_eq_zero (by omega)
    have hexecutable := step_executable hfresh hsecure h (by rw [hplan]; exact List.mem_cons_self : step ∈ task.plan)
    obtain ⟨executionId, hnew⟩ :=
      Infinite.exists_notMem_finset ("" :: draws (before ++ [Call.approve a jti issued recorded])).toFinset
    rw [List.mem_toFinset, List.mem_cons, not_or] at hnew
    have htaken : (perform k workspaces (.execute (stepExecution k a task jti issued step) executionId issued issued)
        (after k workspaces (before ++ [Call.approve a jti issued recorded]))).1 = _ := execute_ok hexecutable
    refine ⟨[.execute (stepExecution k a task jti issued step) executionId issued issued], ?_, ?_, ?_⟩
    · refine hfresh.concat (List.nodup_singleton _) fun d hd => ?_
      rw [show d = executionId by simpa [Call.draws] using hd]
      exact ⟨hnew.2, hnew.1⟩
    · exact hsecure.concat hexecutable.found withToken_token _ _ _
    · have hexecuted : executed k workspaces task.taskId (after k workspaces (before ++ [Call.approve a jti issued recorded]))
          [.execute (stepExecution k a task jti issued step) executionId issued issued] =
          [(stepExecution k a task jti issued step, issued)] := by
        unfold executed executedBy
        rw [htaken]
        show (if task.taskId = task.taskId then [(stepExecution k a task jti issued step, issued)] else []) ++ [] = _
        rw [if_pos rfl]
        rfl
      have httl : (30 : Int) ≤ k.ttlSeconds := by exact_mod_cast k.ttl_bounds.1
      rw [hexecuted, hrest]
      exact .cons ⟨rfl, rfl, by show issued < _; omega⟩ .nil

end Plans

/-- A run keeps everything exactly when every plan that is approved in it has at most one step. -/
theorem controlled_iff (k : Crypto) (workspaces : List String) (calls : List Call) (hfresh : Fresh calls)
    (hsecure : Secure k workspaces calls) :
    Controlled k workspaces calls ↔ Always (call k workspaces) OneStep {} calls := by
  constructor
  · intro h
    rw [always_iff]
    rintro before c rest rfl
    cases c with
    | approve a jti issued recorded =>
      intro task happrovable
      exact (h.completable before a jti issued recorded rest task rfl happrovable).length
    | _ => trivial
  · intro hone
    refine ⟨fun before r executionId now recorded rest e hcalls haccepted => authorized hfresh hsecure hcalls haccepted,
      fun executionId e => stored, fun before _ id => chained k workspaces before id, ?_, fun tenant =>
      (alone_agrees hfresh hsecure tenant).1, ?_⟩
    · rintro before c rest id task rfl hget htenant
      have hkeyed := (standing k workspaces before).keyed
      rw [after_concat]
      exact ⟨other_task hkeyed hfresh.untaken hget htenant, other_records hkeyed hfresh.untaken hget htenant⟩
    · rintro before a jti issued recorded rest task hcalls happrovable
      have hlength : task.plan.length ≤ 1 := always_iff.1 hone before _ rest hcalls task happrovable
      have hbefore : before ++ [Call.approve a jti issued recorded] <+: calls := ⟨rest, by rw [hcalls]; simp⟩
      exact completable (hfresh.take hbefore) (hsecure.take hbefore) happrovable hlength

/-! ## A run with one task -/

theorem splitToken_join {encoded : String} (h : '.' ∉ encoded.toList) (supplied : String) :
    splitToken (encoded ++ "." ++ supplied) = some (encoded, supplied) := by
  have htoken : (encoded ++ "." ++ supplied).toList = encoded.toList ++ '.' :: supplied.toList := by
    simp [String.toList_append]
  have hhead : (encoded.toList ++ '.' :: supplied.toList).takeWhile (· ≠ '.') = encoded.toList := by
    rw [List.takeWhile_append_of_pos]
    · simp
    · intro c hc
      simp only [ne_eq, decide_eq_true_eq]
      rintro rfl
      exact h hc
  unfold splitToken
  rw [htoken, hhead]
  dsimp only
  rw [List.drop_left]
  dsimp only
  rw [String.ofList_toList, String.ofList_toList]

section Sample

variable (steps : List PlanStep)

def sampleBody : TaskCreate := ⟨"Fix", "Fix the parser", "/srv/app"⟩

def sampleTask : TaskRecord :=
  ⟨"t", "acme", "/srv/app", "Fix", "Fix the parser", "r", "c", Sha256.hexdigest "key", canonicalHash sampleBody.value, .created,
    [], "", ""⟩

def sampleApproval : Approval := ⟨"t", "acme", (sampleTask.planned steps).planHash, "olga", "s"⟩

def sampleClaims : Claims :=
  { taskId := "t"
    tenantId := "acme"
    serverId := "s"
    workspace := "/srv/app"
    tools := (sampleTask.planned steps).tools
    planHash := (sampleTask.planned steps).planHash
    approverHash := Sha256.hexdigest "olga"
    iat := 10
    exp := 310
    jti := "j" }

def sampleEncoding (text : String) : String := String.ofList ('e' :: text.toList.filter (· ≠ '.'))

def sampleLoads (encoded : String) : Option Claims :=
  if encoded = sampleEncoding (dumps true (.obj (sampleClaims steps).payload)) then some (sampleClaims steps) else none

/-- An encoding without dots, which opens the one token that is issued. -/
def sampleCrypto : Crypto where
  mac := fun _ => "m"
  macHex := fun _ => "v"
  b64 := sampleEncoding
  loads := sampleLoads steps
  ttlSeconds := 300
  ttl_bounds := by decide

/-- A task is created, planned and approved. -/
def sampleRun : List Call :=
  [.createTask sampleBody "acme" "r" "c" "key" "t" 0, .plan "t" "acme" steps 5, .approve (sampleApproval steps) "j" 10 10]

def sampleWorkspaces : List String := ["/srv/app"]

variable {steps}

theorem sample_planned (h : steps.forM checkStep = .ok ()) :
    (after (sampleCrypto steps) sampleWorkspaces ((sampleRun steps).take 2)).tasks = [("t", sampleTask.planned steps)] := by
  have hcreated : (call (sampleCrypto steps) sampleWorkspaces (.createTask sampleBody "acme" "r" "c" "key" "t" 0) {}).tasks =
      [("t", sampleTask)] := by
    rfl
  show (call (sampleCrypto steps) sampleWorkspaces (.plan "t" "acme" steps 5)
    (call (sampleCrypto steps) sampleWorkspaces (.createTask sampleBody "acme" "r" "c" "key" "t" 0) {})).tasks = _
  generalize call (sampleCrypto steps) sampleWorkspaces (.createTask sampleBody "acme" "r" "c" "key" "t" 0) {} = s at hcreated
  have htask : s.task "t" "acme" = .ok sampleTask := task_ok.2 ⟨by rw [hcreated]; rfl, rfl⟩
  unfold call perform Result.as Controller.plan
  dsimp only
  rw [htask]
  dsimp only
  rw [if_neg (by simp [sampleTask]), h]
  show s.tasks.set _ _ = _
  rw [hcreated]
  rfl

theorem hexdigest_ascii (text : String) : ((Sha256.hexdigest text).toList.all fun c => decide (c.toNat < 128)) = true := by
  have hdigit : ∀ n < 16, (Sha256.hexDigit n).toNat < 128 := by decide
  rw [List.all_eq_true]
  intro c hc
  unfold Sha256.hexdigest at hc
  rw [String.toList_ofList] at hc
  obtain ⟨word, -, hword⟩ := List.mem_flatMap.1 hc
  obtain ⟨i, -, rfl⟩ := List.mem_map.1 hword
  exact decide_eq_true (hdigit _ (Nat.mod_lt _ (by decide)))

theorem sample_approvable (h : steps.forM checkStep = .ok ()) :
    Approvable (after (sampleCrypto steps) sampleWorkspaces ((sampleRun steps).take 2)) (sampleApproval steps)
      (sampleTask.planned steps) where
  found := by
    rw [sample_planned h]
    rfl
  tenant := rfl
  awaiting := rfl
  ascii := by
    exact hexdigest_ascii _
  current := rfl

theorem sample_encoded (steps : List PlanStep) : (sampleCrypto steps).encoded (sampleClaims steps) =
    sampleEncoding (dumps true (.obj (sampleClaims steps).payload)) := rfl

theorem sample_loads (steps : List PlanStep) : (sampleCrypto steps).loads = sampleLoads steps := by
  simp only [sampleCrypto]

theorem sample_dots (text : String) : '.' ∉ (sampleEncoding text).toList := by
  unfold sampleEncoding
  simp

theorem sample_opens (steps : List PlanStep) :
    (sampleCrypto steps).claimsOf ((sampleCrypto steps).issue (sampleClaims steps)) = some (sampleClaims steps) := by
  unfold Crypto.claimsOf Crypto.issue
  rw [sample_encoded, splitToken_join (sample_dots _)]
  dsimp only
  rw [if_pos rfl, sample_loads]
  unfold sampleLoads
  rw [if_pos rfl]

theorem sample_records (steps : List PlanStep) (v : Verification) : (sampleCrypto steps).loads v.text = none := by
  rw [sample_loads]
  unfold sampleLoads
  rw [if_neg]
  intro heq
  have hhead : v.text.toList.head? = some 'e' := by
    rw [heq]
    unfold sampleEncoding
    rw [String.toList_ofList]
    rfl
  have hbrace : v.text.toList.head? = some '\x7b' := by
    unfold Verification.text dumps
    rw [String.append_assoc, String.toList_append]
    rfl
  rw [hbrace] at hhead
  exact absurd hhead (by decide)

theorem sample_run (steps : List PlanStep) :
    sampleRun steps = (sampleRun steps).take 2 ++ [Call.approve (sampleApproval steps) "j" 10 10] := rfl

theorem sample_draws (steps : List PlanStep) : draws (sampleRun steps) = ["t", "j"] := rfl

theorem sample_fresh (steps : List PlanStep) : Fresh (sampleRun steps) := by
  constructor
  · rw [sample_draws]
    decide
  · rw [sample_draws]
    decide

theorem sample_secure (h : steps.forM checkStep = .ok ()) :
    Secure (sampleCrypto steps) sampleWorkspaces (sampleRun steps) := by
  refine ⟨fun before a jti issued now rest task hcalls happrovable => ?_, sample_records steps, ?_⟩
  · unfold sampleRun at hcalls
    rcases before with _ | ⟨c₀, _ | ⟨c₁, _ | ⟨c₂, before⟩⟩⟩ <;> simp at hcalls
    obtain ⟨rfl, rfl, ⟨rfl, rfl, rfl, rfl⟩, rfl⟩ := hcalls
    have hfound : [("t", sampleTask.planned steps)].lookup "t" = some task := by
      have hget := happrovable.found
      rw [show [_, _] = (sampleRun steps).take 2 from rfl, sample_planned h] at hget
      exact hget
    have htask : sampleTask.planned steps = task := Option.some.inj hfound
    rw [← htask]
    exact sample_opens steps
  · intro before r executionId now recorded rest hcalls
    unfold sampleRun at hcalls
    rcases before with _ | ⟨c₀, _ | ⟨c₁, _ | ⟨c₂, before⟩⟩⟩ <;> simp at hcalls

end Sample

def sampleStep : PlanStep := ⟨"read_file", [("path", .str "parser.py")]⟩

/-- A plan of one step is approved and executed. -/
theorem one_step_controlled : Controlled (sampleCrypto [sampleStep]) sampleWorkspaces
    (sampleRun [sampleStep] ++ [.execute (stepExecution (sampleCrypto [sampleStep]) (sampleApproval [sampleStep])
      (sampleTask.planned [sampleStep]) "j" 10 sampleStep) "e" 20 20]) := by
  have hchecked : [sampleStep].forM checkStep = .ok () := by decide +kernel
  have hfresh := sample_fresh [sampleStep]
  have hsecure := sample_secure hchecked
  have happrovable := sample_approvable hchecked
  rw [sample_run] at hfresh hsecure
  have hexecutable := step_executable hfresh hsecure happrovable List.mem_cons_self
  rw [sample_run]
  refine (controlled_iff _ _ _ ?_ ?_).2 ?_
  · refine hfresh.concat (List.nodup_singleton _) fun d hd => ?_
    rw [← sample_run, sample_draws, show d = "e" by simpa [Call.draws] using hd]
    decide
  · exact hsecure.concat hexecutable.found withToken_token _ _ _
  · refine ⟨trivial, trivial, fun task happrovable' => ?_, trivial, trivial⟩
    have htask := happrovable.found.symm.trans happrovable'.found
    rw [← Option.some.inj htask]
    exact le_refl 1

/-- The second step of an approved plan is refused for good. -/
theorem second_step_refused : Fresh (sampleRun [sampleStep, sampleStep]) ∧
    Secure (sampleCrypto [sampleStep, sampleStep]) sampleWorkspaces (sampleRun [sampleStep, sampleStep]) ∧
    ¬ Controlled (sampleCrypto [sampleStep, sampleStep]) sampleWorkspaces (sampleRun [sampleStep, sampleStep]) := by
  have hchecked : [sampleStep, sampleStep].forM checkStep = .ok () := by decide +kernel
  refine ⟨sample_fresh _, sample_secure hchecked, fun h => ?_⟩
  have hcompletable := h.completable ((sampleRun [sampleStep, sampleStep]).take 2) _ _ _ _ [] _ rfl
    (sample_approvable hchecked)
  have hlength : 2 ≤ 1 := hcompletable.length
  omega

end Middleware.Controller

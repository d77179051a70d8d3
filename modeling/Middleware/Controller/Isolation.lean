/-
Tenants of the controller do not see each other: the answers to one tenant's calls are those of the run in which the other
tenants' calls are erased, and a call leaves the tasks and the audit lists of the other tenants.
-/
import Middleware.Controller.Executions

namespace Middleware.Controller

open Lib

/-! ## Audit lists -/

/-- A record is bound to the hash before it, carries the next number and its own hash. -/
def Bound (p : String) (n : Nat) (r : AuditRecord) : Prop :=
  r.sequence = n ∧ r.previousHash = p ∧ r.recordHash = canonicalHash r.value

/-- The records are numbered from 1 and chained from the zero hash. -/
def Chained (records : List AuditRecord) : Prop := Linked AuditRecord.recordHash Bound zeroHash 1 records

section Audits

variable {k : Crypto} {workspaces : List String} {s : RestrictedController} {c : Call} {id : String} {task : TaskRecord}

theorem nextRecord_bound (s : RestrictedController) (task : TaskRecord) (action : String) (details : Obj) (now : Int) :
    Bound (lastHash AuditRecord.recordHash zeroHash (s.records task.taskId)) (1 + (s.records task.taskId).length)
      (s.nextRecord task action details now) :=
  ⟨Nat.add_comm _ _, rfl, rfl⟩

theorem call_audits (c : Call) : (call k workspaces c s).audits = s.audits ∨
    ∃ task action details now, (call k workspaces c s).audits = (s.audit task action details now).audits ∧
      task.tenantId = c.tenantId ∧ (call k workspaces c s).tasks.get task.taskId = some task := by
  unfold call
  have hperforms := perform_performs k workspaces c s
  generalize perform k workspaces c s = x at hperforms ⊢
  cases hperforms with
  | refused => exact .inl rfl
  | known => exact .inl rfl
  | read => exact .inl rfl
  | verified => exact .inl rfl
  | created body tenantId requestId correlationId idempotencyKey taskId now task workspace new htask =>
    exact .inr ⟨task, _, _, _, rfl, by rw [htask]; rfl, OrderedDict.get_set_self⟩
  | planned taskId tenantId steps now task found tenant => exact .inr ⟨_, _, _, _, rfl, tenant, OrderedDict.get_set_self⟩
  | approved a jti issued now task task' h htask =>
    exact .inr ⟨task', _, _, _, rfl, by rw [htask]; exact h.tenant, OrderedDict.get_set_self⟩
  | cancelled taskId tenantId now task found tenant => exact .inr ⟨_, _, _, _, rfl, tenant, OrderedDict.get_set_self⟩
  | executed r executionId now recorded task claims h =>
    exact .inr ⟨{ task with state := .executing }, _, _, _, rfl, h.tenant, OrderedDict.get_set_self⟩

theorem audit_records (s : RestrictedController) (task : TaskRecord) (action : String) (details : Obj) (now : Int) (id : String) :
    (s.audit task action details now).records id =
      if id = task.taskId then s.records id ++ [s.nextRecord task action details now] else s.records id := by
  unfold RestrictedController.audit RestrictedController.records
  rw [OrderedDict.get_set]
  by_cases h : id = task.taskId
  · rw [if_pos h, if_pos h, h]
    rfl
  · rw [if_neg h, if_neg h]

theorem records_congr {s s' : RestrictedController} (h : s.audits = s'.audits) (id : String) : s.records id = s'.records id := by
  unfold RestrictedController.records
  rw [h]

theorem call_chained (h : ∀ id, Chained (s.records id)) (c : Call) (id : String) :
    Chained ((call k workspaces c s).records id) := by
  rcases call_audits c with heq | ⟨task, action, details, now, heq, -, -⟩
  · rw [records_congr heq]
    exact h id
  · rw [records_congr heq, audit_records]
    split
    · rename_i hid
      rw [hid]
      exact linked_concat.2 ⟨h task.taskId, nextRecord_bound s task action details now⟩
    · exact h id

theorem chained (k : Crypto) (workspaces : List String) (calls : List Call) (id : String) :
    Chained ((after k workspaces calls).records id) := by
  induction calls using List.reverseRecOn generalizing id with
  | nil => trivial
  | append_singleton before c ih =>
    rw [after_concat]
    exact call_chained ih c id

end Audits

/-! ## What a call leaves of other tenants -/

section Other

variable {k : Crypto} {workspaces : List String} {s : RestrictedController} {c : Call} {id : String} {task : TaskRecord}

theorem other_task (hkeyed : Keyed s) (hfresh : ∀ d ∈ c.draws, s.tasks.get d = none) (h : s.tasks.get id = some task)
    (ht : task.tenantId ≠ c.tenantId) : (call k workspaces c s).tasks.get id = some task := by
  obtain ⟨task', htask', rfl | hmoves⟩ := task_call k workspaces hkeyed hfresh h
  · exact htask'
  · exact absurd hmoves.tenant ht

theorem other_records (hkeyed : Keyed s) (hfresh : ∀ d ∈ c.draws, s.tasks.get d = none) (h : s.tasks.get id = some task)
    (ht : task.tenantId ≠ c.tenantId) : (call k workspaces c s).records id = s.records id := by
  rcases call_audits c with heq | ⟨task', action, details, now, heq, htenant, htask'⟩
  · exact records_congr heq id
  · rw [records_congr heq, audit_records, if_neg]
    intro hid
    rw [← hid, other_task hkeyed hfresh h ht] at htask'
    cases htask'
    exact ht htenant

end Other

/-! ## What a tenant sees -/

/-- Two states that one tenant cannot tell apart; the second one is that of a run without the other tenants. -/
structure Agree (k : Crypto) (tenant : String) (s s' : RestrictedController) : Prop where
  tasks : ∀ id task, task.tenantId = tenant → (s.tasks.get id = some task ↔ s'.tasks.get id = some task)
  executions : ∀ id e, e.tenantId = tenant → (s.executions.get id = some e ↔ s'.executions.get id = some e)
  idempotency : ∀ key, s.idempotency.get (tenant, key) = s'.idempotency.get (tenant, key)
  consumed : ∀ id task claims, s.tasks.get id = some task → task.tenantId = tenant →
    k.claimsOf task.approvalToken = some claims → (claims.jti ∈ s.consumed ↔ claims.jti ∈ s'.consumed)
  sub : ∀ jti ∈ s'.consumed, jti ∈ s.consumed

section Agree

variable {k : Crypto} {workspaces : List String} {tenant : String} {s s' : RestrictedController} {c : Call}
  {calls before rest : List Call}

theorem Agree.refl (k : Crypto) (tenant : String) (s : RestrictedController) : Agree k tenant s s :=
  ⟨fun _ _ _ => Iff.rfl, fun _ _ _ => Iff.rfl, fun _ => rfl, fun _ _ _ _ _ _ => Iff.rfl, fun _ h => h⟩

theorem Agree.task (h : Agree k tenant s s') (id : String) : s.task id tenant = s'.task id tenant := by
  cases htask : s.task id tenant with
  | ok task =>
    obtain ⟨hget, ht⟩ := task_ok.1 htask
    exact (task_ok.2 ⟨(h.tasks id task ht).1 hget, ht⟩).symm
  | error e =>
    cases htask' : s'.task id tenant with
    | ok task =>
      obtain ⟨hget, ht⟩ := task_ok.1 htask'
      rw [task_ok.2 ⟨(h.tasks id task ht).2 hget, ht⟩] at htask
      cases htask
    | error e' =>
      have herror : ∀ {s : RestrictedController} {e : Error}, s.task id tenant = .error e →
          e = .controller "task not found" := by
        intro s e he
        unfold RestrictedController.task at he
        repeat' split at he
        all_goals cases he
        all_goals rfl
      rw [herror htask, herror htask']

/-- The check of a token gives both states the same answer where they agree on its id. -/
theorem verify_congr {token : String} {scope : TokenScope} {now : Int} {consumed consumed' : List String}
    (h : ∀ claims, k.claimsOf token = some claims → claims.taskId = scope.taskId → claims.tenantId = scope.tenantId →
      (claims.jti ∈ consumed ↔ claims.jti ∈ consumed')) :
    (verify k token scope now consumed).1 = (verify k token scope now consumed').1 := by
  unfold verify
  cases hclaims : k.claimsOf token with
  | none => rfl
  | some claims =>
    dsimp only
    split
    · rfl
    split
    · rfl
    rename_i hscope
    split
    · rfl
    simp only [not_or, ne_eq, not_not] at hscope
    have hiff := h claims hclaims hscope.1 hscope.2.1
    have hcontains : consumed.contains claims.jti = consumed'.contains claims.jti := by
      simp [List.contains_eq_mem, hiff]
    rw [hcontains]
    split <;> rfl

/-! ### Calls of other tenants -/

theorem call_executions (k : Crypto) (workspaces : List String) (c : Call) (s : RestrictedController) :
    (call k workspaces c s).executions = s.executions ∨ ∃ r executionId now recorded task claims,
      c = .execute r executionId now recorded ∧ Executable k workspaces s r now task claims ∧
      (perform k workspaces c s).1 = .ok (.envelope (r.envelope task executionId)) ∧
      (call k workspaces c s).executions = s.executions.set executionId (r.envelope task executionId) := by
  unfold call
  have hperforms := perform_performs k workspaces c s
  generalize perform k workspaces c s = x at hperforms ⊢
  cases hperforms with
  | executed r executionId now recorded task claims h =>
    exact .inr ⟨r, executionId, now, recorded, task, claims, rfl, h, rfl, rfl⟩
  | _ => exact .inl rfl

theorem execution_drawn {id : String} {e : Envelope} (h : (after k workspaces calls).executions.get id = some e) :
    id ∈ draws calls := by
  induction calls using List.reverseRecOn generalizing e with
  | nil => cases h
  | append_singleton before c ih =>
    rw [after_concat] at h
    rw [draws_append]
    rcases call_executions k workspaces c (after k workspaces before) with
      heq | ⟨r, executionId, now, recorded, task, claims, rfl, -, -, heq⟩
    · rw [heq] at h
      exact List.mem_append_left _ (ih h)
    · rw [heq, OrderedDict.get_set] at h
      split at h
      · rename_i hid
        exact List.mem_append_right _ (by simp [draws, Call.draws, hid])
      · exact List.mem_append_left _ (ih h)

theorem call_idempotency (k : Crypto) (workspaces : List String) (c : Call) (s : RestrictedController) {key : String × String}
    (h : key.1 ≠ c.tenantId) : (call k workspaces c s).idempotency.get key = s.idempotency.get key := by
  unfold call
  have hperforms := perform_performs k workspaces c s
  generalize perform k workspaces c s = x at hperforms ⊢
  cases hperforms with
  | created body tenantId requestId correlationId idempotencyKey taskId now task workspace new htask =>
    refine OrderedDict.get_set_ne ?_
    rintro rfl
    exact h rfl
  | _ => rfl

theorem Agree.other (hfresh : Fresh (before ++ [c])) (hsecure : Secure k workspaces (before ++ [c]))
    (h : Agree k tenant (after k workspaces before) s') (ht : c.tenantId ≠ tenant) :
    Agree k tenant (call k workspaces c (after k workspaces before)) s' := by
  have hstanding := standing k workspaces before
  have htasks : ∀ id task, task.tenantId = tenant →
      ((call k workspaces c (after k workspaces before)).tasks.get id = some task ↔
        (after k workspaces before).tasks.get id = some task) := by
    intro id task howner
    constructor
    · intro hget
      cases call_task hstanding.keyed hget with
      | kept hget => exact hget
      | moved old hold hmoves => exact absurd (hmoves.tenant.symm.trans (hmoves.owner.2.1.symm.trans howner)) ht
      | new drawn taskId htenant => exact absurd (htenant.symm.trans howner) ht
    · intro hget
      exact other_task hstanding.keyed hfresh.untaken hget fun heq => ht (heq.symm.trans howner)
  refine ⟨fun id task howner => (htasks id task howner).trans (h.tasks id task howner), fun id e howner => ?_, fun key => ?_,
    fun id task claims hget howner hclaims => ?_, fun jti hmem => consumed_call (h.sub jti hmem) c⟩
  · rw [← h.executions id e howner]
    rcases call_executions k workspaces c (after k workspaces before) with
      heq | ⟨r, executionId, now, recorded, task, claims, rfl, -, -, heq⟩
    · rw [heq]
    · rw [heq, OrderedDict.get_set]
      split
      · -- the id is new, and the envelope under it names the other tenant
        rename_i hid
        subst hid
        constructor
        · intro heq
          cases heq
          exact absurd howner ht
        · intro hget
          exact absurd (execution_drawn hget) (hfresh.new (by simp [draws, Call.draws]))
      · exact Iff.rfl
  · rw [call_idempotency k workspaces c _ (fun heq : tenant = _ => ht heq.symm), h.idempotency key]
  · have hget' := (htasks id task howner).1 hget
    rw [← h.consumed id task claims hget' howner hclaims]
    rcases call_consumed k workspaces c (after k workspaces before) with
      heq | ⟨r, executionId, now, recorded, task', claims', rfl, hexecutable, heq, -⟩
    · rw [heq]
    · rw [heq, List.mem_append, List.mem_singleton]
      refine or_iff_left ?_
      -- the token that is consumed is that of a task of the other tenant
      intro hjti
      obtain ⟨htoken, -⟩ := executed_token hsecure hexecutable
      have hclaims' : k.claimsOf task'.approvalToken = some claims' := by
        rw [← htoken]
        exact hexecutable.signed
      have hid := issued_unique hfresh.left hsecure hget' hexecutable.found hclaims hclaims' hjti
      rw [hid, hexecutable.found] at hget'
      cases hget'
      exact ht (hexecutable.tenant.symm.trans howner)

/-! ### The tenant's own calls -/

theorem Agree.put (h : Agree k tenant s s') {task : TaskRecord}
    (hconsumed : ∀ claims, k.claimsOf task.approvalToken = some claims → (claims.jti ∈ s.consumed ↔ claims.jti ∈ s'.consumed)) :
    Agree k tenant (s.put task) (s'.put task) := by
  refine ⟨fun id task' howner => ?_, h.executions, h.idempotency, fun id task' claims hget howner hclaims => ?_, h.sub⟩
  · rw [put_tasks, put_tasks, OrderedDict.get_set, OrderedDict.get_set]
    split
    · exact Iff.rfl
    · exact h.tasks id task' howner
  · rw [put_tasks, OrderedDict.get_set] at hget
    split at hget
    · cases hget
      exact hconsumed claims hclaims
    · exact h.consumed id task' claims hget howner hclaims

theorem Agree.move (h : Agree k tenant s s') {taskId : String} {task task' : TaskRecord} (hfound : s.tasks.get taskId = some task)
    (ht : task.tenantId = tenant) (htoken : task'.approvalToken = task.approvalToken) :
    Agree k tenant (s.put task') (s'.put task') := by
  refine h.put fun claims hclaims => ?_
  rw [htoken] at hclaims
  exact h.consumed taskId task claims hfound ht hclaims

theorem Agree.audit (h : Agree k tenant s s') (task : TaskRecord) (action : String) (details : Obj) (now : Int) :
    Agree k tenant (s.audit task action details now) (s'.audit task action details now) :=
  ⟨h.tasks, h.executions, h.idempotency, h.consumed, h.sub⟩

theorem Agree.createTask (h : Agree k tenant s s') (workspaces : List String) (body : TaskCreate)
    (requestId correlationId idempotencyKey taskId : String) (now : Int) :
    (createTask workspaces body tenant requestId correlationId idempotencyKey taskId now s).1 =
      (createTask workspaces body tenant requestId correlationId idempotencyKey taskId now s').1 ∧
    Agree k tenant (createTask workspaces body tenant requestId correlationId idempotencyKey taskId now s).2
      (createTask workspaces body tenant requestId correlationId idempotencyKey taskId now s').2 := by
  unfold Controller.createTask
  cases validateWorkspace body.workspace workspaces with
  | error e => exact ⟨rfl, h⟩
  | ok workspace =>
    dsimp only
    rw [← h.idempotency (Sha256.hexdigest idempotencyKey)]
    cases hkey : s.idempotency.get (tenant, Sha256.hexdigest idempotencyKey) with
    | some prior =>
      obtain ⟨priorHash, priorId⟩ := prior
      dsimp only
      rw [h.task priorId]
      split
      · exact ⟨rfl, h⟩
      · exact ⟨rfl, h⟩
    | none =>
      refine ⟨rfl, Agree.audit ?_ _ _ _ _⟩
      -- the new task has no token
      let task : TaskRecord := ⟨taskId, tenant, workspace, body.title, body.objective, requestId, correlationId,
        Sha256.hexdigest idempotencyKey, canonicalHash body.value, .created, [], "", ""⟩
      have hput : Agree k tenant (s.put task) (s'.put task) := h.put fun claims hclaims => by cases hclaims
      obtain ⟨htasks, hexecutions, -, hconsumed, hsub⟩ := hput
      refine ⟨htasks, hexecutions, fun key => ?_, hconsumed, hsub⟩
      rw [OrderedDict.get_set, OrderedDict.get_set, h.idempotency key]

theorem Agree.plan (h : Agree k tenant s s') (taskId : String) (steps : List PlanStep) (now : Int) :
    (Controller.plan taskId tenant steps now s).1 = (Controller.plan taskId tenant steps now s').1 ∧
    Agree k tenant (Controller.plan taskId tenant steps now s).2 (Controller.plan taskId tenant steps now s').2 := by
  unfold Controller.plan
  rw [← h.task taskId]
  cases htask : s.task taskId tenant with
  | error e => exact ⟨rfl, h⟩
  | ok task =>
    obtain ⟨hfound, htenant⟩ := task_ok.1 htask
    dsimp only
    split
    · exact ⟨rfl, h⟩
    split
    · exact ⟨rfl, h⟩
    · refine ⟨rfl, Agree.audit ?_ _ _ _ _⟩
      exact h.move hfound htenant rfl

theorem Agree.cancel (h : Agree k tenant s s') (taskId : String) (now : Int) :
    (Controller.cancel taskId tenant now s).1 = (Controller.cancel taskId tenant now s').1 ∧
    Agree k tenant (Controller.cancel taskId tenant now s).2 (Controller.cancel taskId tenant now s').2 := by
  unfold Controller.cancel
  rw [← h.task taskId]
  cases htask : s.task taskId tenant with
  | error e => exact ⟨rfl, h⟩
  | ok task =>
    obtain ⟨hfound, htenant⟩ := task_ok.1 htask
    dsimp only
    split
    · exact ⟨rfl, h⟩
    · refine ⟨rfl, Agree.audit ?_ _ _ _ _⟩
      exact h.move hfound htenant rfl

/-- The token of an approval is new to both states. -/
theorem Agree.approve (h : Agree k tenant s s') (a : Approval) (jti : String) (issued now : Int) (ht : a.tenantId = tenant)
    (hopens : ∀ task, Approvable s a task →
      k.claimsOf (k.issue (a.claims k task jti issued)) = some (a.claims k task jti issued)) (hnew : jti ∉ s.consumed) :
    (Controller.approve k a jti issued now s).1 = (Controller.approve k a jti issued now s').1 ∧
    Agree k tenant (Controller.approve k a jti issued now s).2 (Controller.approve k a jti issued now s').2 := by
  subst ht
  unfold Controller.approve
  rw [← h.task a.taskId]
  cases htask : s.task a.taskId a.tenantId with
  | error e => exact ⟨rfl, h⟩
  | ok task =>
    obtain ⟨hfound, htenant⟩ := task_ok.1 htask
    dsimp only
    split
    · exact ⟨rfl, h⟩
    rename_i hawaiting
    split
    · exact ⟨rfl, h⟩
    rename_i hascii
    split
    · exact ⟨rfl, h⟩
    rename_i hcurrent
    rw [Bool.not_eq_true, Bool.not_eq_false'] at hascii
    refine ⟨rfl, Agree.audit ?_ _ _ _ _⟩
    refine h.put fun claims hclaims => ?_
    have hclaims' := hopens task ⟨hfound, htenant, by simpa using hawaiting, hascii, by simpa using hcurrent⟩
    have hjti : claims.jti = jti := by
      rw [Option.some.inj (hclaims.symm.trans hclaims')]
      rfl
    rw [hjti]
    exact ⟨fun hmem => absurd hmem hnew, fun hmem => h.sub jti hmem⟩

theorem Agree.execute (h : Agree k tenant s s') (workspaces : List String) (r : Execution) (executionId : String)
    (now recorded : Int) (ht : r.tenantId = tenant)
    (hstored : ∀ claims, k.claimsOf r.token = some claims → claims.taskId = r.taskId → claims.tenantId = r.tenantId →
      (claims.jti ∈ s.consumed ↔ claims.jti ∈ s'.consumed)) :
    (Controller.execute k workspaces r executionId now recorded s).1 =
      (Controller.execute k workspaces r executionId now recorded s').1 ∧
    Agree k tenant (Controller.execute k workspaces r executionId now recorded s).2
      (Controller.execute k workspaces r executionId now recorded s').2 := by
  subst ht
  unfold Controller.execute
  split
  · exact ⟨rfl, h⟩
  cases validateWorkspace r.workspace workspaces with
  | error e => exact ⟨rfl, h⟩
  | ok workspace =>
  cases rejectForbidden "arguments" (.obj r.arguments) with
  | error e => exact ⟨rfl, h⟩
  | ok =>
  rw [← h.task r.taskId]
  cases htask : s.task r.taskId r.tenantId with
  | error e => exact ⟨rfl, h⟩
  | ok task =>
    obtain ⟨hfound, htenant⟩ := task_ok.1 htask
    dsimp only
    split
    · exact ⟨rfl, h⟩
    have hsame : (verify k r.token r.scope now s.consumed).1 = (verify k r.token r.scope now s'.consumed).1 :=
      verify_congr hstored
    rcases verify_cases k r.token r.scope now s.consumed with ⟨e, hverify⟩ | ⟨claims, -, -, -, -, hverify⟩
    · rcases verify_cases k r.token r.scope now s'.consumed with ⟨e', hverify'⟩ | ⟨claims', -, -, -, -, hverify'⟩
      · rw [hverify, hverify'] at hsame
        obtain rfl := Except.error.inj hsame
        rw [hverify, hverify']
        exact ⟨rfl, h⟩
      · rw [hverify, hverify'] at hsame
        cases hsame
    · rcases verify_cases k r.token r.scope now s'.consumed with ⟨e', hverify'⟩ | ⟨claims', -, -, -, -, hverify'⟩
      · rw [hverify, hverify'] at hsame
        cases hsame
      · rw [hverify, hverify'] at hsame
        cases hsame
        rw [hverify, hverify']
        refine ⟨rfl, Agree.audit ?_ _ _ _ _⟩
        have hmove : Agree k r.tenantId (s.put { task with state := .executing }) (s'.put { task with state := .executing }) :=
          h.move hfound htenant rfl
        obtain ⟨htasks, hexecutions, hidempotency, hconsumed, hsub⟩ := hmove
        refine ⟨htasks, fun id e howner => ?_, hidempotency, fun id task' claims' hget howner hclaims => ?_, fun jti hmem => ?_⟩
        · rw [OrderedDict.get_set, OrderedDict.get_set]
          split
          · exact Iff.rfl
          · exact h.executions id e howner
        · rw [List.mem_append, List.mem_append]
          exact or_congr_left (hconsumed id task' claims' hget howner hclaims)
        · rcases List.mem_append.1 hmem with hmem | hmem
          · exact List.mem_append_left _ (h.sub jti hmem)
          · exact List.mem_append_right _ hmem

theorem Agree.verification (h : Agree k tenant s s') (executionId code : String) :
    (Controller.verification k executionId tenant code s).1 = (Controller.verification k executionId tenant code s').1 ∧
    Agree k tenant (Controller.verification k executionId tenant code s).2
      (Controller.verification k executionId tenant code s').2 := by
  -- an execution of another tenant is answered like one that is not there
  unfold Controller.verification
  cases he : s.executions.get executionId with
  | none =>
    cases he' : s'.executions.get executionId with
    | none => exact ⟨rfl, h⟩
    | some e' =>
      dsimp only
      split
      · exact ⟨rfl, h⟩
      · rename_i howner
        rw [not_ne_iff] at howner
        rw [(h.executions _ e' howner).2 he'] at he
        cases he
  | some e =>
    dsimp only
    split
    · rename_i howner
      cases he' : s'.executions.get executionId with
      | none => exact ⟨rfl, h⟩
      | some e' =>
        dsimp only
        split
        · exact ⟨rfl, h⟩
        · rename_i howner'
          rw [not_ne_iff] at howner'
          rw [(h.executions _ e' howner').2 he'] at he
          cases he
          exact absurd howner' howner
    · rename_i howner
      rw [not_ne_iff] at howner
      rw [(h.executions _ e howner).1 he]
      dsimp only
      rw [if_neg (not_ne_iff.2 howner)]
      exact ⟨rfl, h.tasks, h.executions, h.idempotency, h.consumed, h.sub⟩

/-- A call of the tenant is answered alike, and the states stay alike for it. -/
theorem Agree.own (hfresh : Fresh (before ++ [c])) (hsecure : Secure k workspaces (before ++ [c]))
    (h : Agree k tenant (after k workspaces before) s') (ht : c.tenantId = tenant) :
    (perform k workspaces c (after k workspaces before)).1 = (perform k workspaces c s').1 ∧
    Agree k tenant (call k workspaces c (after k workspaces before)) (call k workspaces c s') := by
  subst ht
  cases c with
  | createTask body tenantId requestId correlationId idempotencyKey taskId now =>
    obtain ⟨hreply, hstate⟩ := h.createTask workspaces body requestId correlationId idempotencyKey taskId now
    exact ⟨congrArg (Except.map _) hreply, hstate⟩
  | getTask taskId tenantId => exact ⟨congrArg (Except.map _) (h.task taskId), h⟩
  | plan taskId tenantId steps now =>
    obtain ⟨hreply, hstate⟩ := h.plan taskId steps now
    exact ⟨congrArg (Except.map _) hreply, hstate⟩
  | cancel taskId tenantId now =>
    obtain ⟨hreply, hstate⟩ := h.cancel taskId now
    exact ⟨congrArg (Except.map _) hreply, hstate⟩
  | verification executionId tenantId code =>
    obtain ⟨hreply, hstate⟩ := h.verification executionId code
    exact ⟨congrArg (Except.map _) hreply, hstate⟩
  | approve a jti issued now =>
    have hnew : jti ∉ (after k workspaces before).consumed := by
      intro hmem
      obtain ⟨id, task, claims, htask, hclaims, hjti, -⟩ := consumed_spent hfresh.left (hsecure.take ⟨_, rfl⟩) jti hmem
      obtain ⟨done, a', jti', issued', now', rest, task₀, hissue, rfl⟩ := stored_issued hsecure htask hclaims
      have heq : jti' = jti := hjti
      rw [heq] at hissue
      have hdrawn : jti ∈ draws [.approve a jti issued now] := by simp [draws, Call.draws]
      apply hfresh.new hdrawn
      rw [hissue.run]
      simp [draws, Call.draws]
    obtain ⟨hreply, hstate⟩ := h.approve a jti issued now rfl
      (fun task happrovable => hsecure.issued before a jti issued now [] task rfl happrovable) hnew
    exact ⟨congrArg (Except.map _) hreply, hstate⟩
  | execute r executionId now recorded =>
    obtain ⟨hreply, hstate⟩ := h.execute workspaces r executionId now recorded rfl fun claims hclaims htaskId htenantId => by
      -- the token was issued, and its claims name the tenant of its task
      obtain ⟨encoded, hsplit, hloads⟩ := claimsOf_some hclaims
      rcases hsecure.unforgeable before r executionId now recorded [] rfl encoded hsplit with
        ⟨id, task, hget, htoken⟩ | ⟨code, v, -, htext⟩
      · have hclaims' : k.claimsOf task.approvalToken = some claims := by
          rw [htoken]
          exact hclaims
        obtain ⟨done, a, jti, issued, now', rest, task₀, hissue, rfl⟩ := stored_issued hsecure hget hclaims'
        refine h.consumed id task _ hget ?_ hclaims'
        have howner : task.tenantId = task₀.tenantId := hissue.approved.tenantId
        exact howner.trans (hissue.approvable.tenant.trans htenantId)
      · rw [htext, hsecure.records v] at hloads
        cases hloads
    exact ⟨congrArg (Except.map _) hreply, hstate⟩

end Agree

/-! ## Runs -/

def replies (k : Crypto) (workspaces : List String) (tenant : String) : RestrictedController → List Call →
    List (Except Error Reply)
  | _, [] => []
  | s, c :: rest =>
    if c.tenantId = tenant then (perform k workspaces c s).1 :: replies k workspaces tenant (call k workspaces c s) rest
    else replies k workspaces tenant (call k workspaces c s) rest

def alone (tenant : String) (calls : List Call) : List Call := calls.filter fun c => c.tenantId = tenant

section Runs

variable {k : Crypto} {workspaces : List String} {tenant : String} {s : RestrictedController} {calls : List Call} {c : Call}

theorem replies_concat : replies k workspaces tenant s (calls ++ [c]) = replies k workspaces tenant s calls ++
    if c.tenantId = tenant then [(perform k workspaces c (runFrom (call k workspaces) s calls)).1] else [] := by
  induction calls generalizing s with
  | nil =>
    show (if _ then _ else _) = _
    split <;> rfl
  | cons c' rest ih =>
    rw [List.cons_append, replies, replies, runFrom_cons, ih]
    split
    · rw [List.cons_append]
    · rfl

theorem alone_agrees (hfresh : Fresh calls) (hsecure : Secure k workspaces calls) (tenant : String) :
    replies k workspaces tenant {} calls = replies k workspaces tenant {} (alone tenant calls) ∧
    Agree k tenant (after k workspaces calls) (after k workspaces (alone tenant calls)) := by
  induction calls using List.reverseRecOn with
  | nil => exact ⟨rfl, .refl k tenant {}⟩
  | append_singleton before c ih =>
    obtain ⟨hreplies, hagree⟩ := ih hfresh.left (hsecure.take ⟨_, rfl⟩)
    have halone : alone tenant (before ++ [c]) = alone tenant before ++ if c.tenantId = tenant then [c] else [] := by
      unfold alone
      by_cases ht : c.tenantId = tenant <;> simp [ht]
    rw [halone]
    by_cases ht : c.tenantId = tenant
    · obtain ⟨hreply, hstate⟩ := hagree.own hfresh hsecure ht
      rw [if_pos ht, replies_concat, replies_concat, if_pos ht, if_pos ht, hreplies, after_concat, after_concat]
      exact ⟨congrArg (fun reply => _ ++ [reply]) hreply, hstate⟩
    · rw [if_neg ht, replies_concat, if_neg ht, List.append_nil, List.append_nil, after_concat]
      exact ⟨hreplies, hagree.other hfresh hsecure ht⟩

end Runs

end Middleware.Controller

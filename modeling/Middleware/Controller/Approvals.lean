/-
Approvals over whole runs. A task goes one way: planned once, approved once, and then executed or cancelled; its token is
the one that the approval issued. A token that verifies was signed by the controller, so an execution under a task needs
the task's own token, which is consumed by the first one.
-/
import Middleware.Controller.Effects
import Middleware.Lib.Chain

namespace Middleware.Controller

open Lib

/-- The state after the calls of a run. -/
abbrev after (k : Crypto) (workspaces : List String) (calls : List Call) : RestrictedController :=
  runFrom (call k workspaces) {} calls

def Call.draws : Call → List String
  | .createTask _ _ _ _ _ taskId _ => [taskId]
  | .approve _ jti _ _ => [jti]
  | .execute _ executionId _ _ => [executionId]
  | .verification _ _ code => [code]
  | .getTask .. | .plan .. | .cancel .. => []

def draws (calls : List Call) : List String := calls.flatMap Call.draws

/-- No id is drawn twice, and none is empty. -/
structure Fresh (calls : List Call) : Prop where
  nodup : (draws calls).Nodup
  nonempty : "" ∉ draws calls

/-- A signature is made by the key's holder: a presented text with a valid one was signed before in the run, as the text of
a token or of a verification. A token that was issued opens to its claims, and the text of a verification is not the
encoding of any. -/
structure Secure (k : Crypto) (workspaces : List String) (calls : List Call) : Prop where
  issued : ∀ (before : List Call) a jti issued now (rest : List Call) task, calls = before ++ Call.approve a jti issued now :: rest →
    Approvable (after k workspaces before) a task →
    k.claimsOf (k.issue (a.claims k task jti issued)) = some (a.claims k task jti issued)
  records : ∀ v : Verification, k.loads v.text = none
  unforgeable : ∀ (before : List Call) r executionId now recorded (rest : List Call),
    calls = before ++ Call.execute r executionId now recorded :: rest →
    ∀ encoded, splitToken r.token = some (encoded, k.mac encoded) →
    (∃ id task, (after k workspaces before).tasks.get id = some task ∧ task.approvalToken = r.token) ∨
    ∃ code v, (after k workspaces before).verifications.get code = some v ∧ encoded = v.text

section Draws

variable {calls before rest more : List Call} {k : Crypto} {workspaces : List String}

theorem draws_append (calls more : List Call) : draws (calls ++ more) = draws calls ++ draws more := by
  simp [draws, List.flatMap_append]

theorem Fresh.left (h : Fresh (calls ++ more)) : Fresh calls := by
  obtain ⟨hn, he⟩ := h
  rw [draws_append] at hn he
  exact ⟨(List.nodup_append.1 hn).1, fun hmem => he (List.mem_append_left _ hmem)⟩

theorem Fresh.take (h : Fresh calls) (hb : before <+: calls) : Fresh before := by
  obtain ⟨rest, rfl⟩ := hb
  exact h.left

theorem Fresh.new (h : Fresh (calls ++ more)) {id : String} (hid : id ∈ draws more) : id ∉ draws calls := by
  have hn := h.nodup
  rw [draws_append] at hn
  exact fun hmem => (List.nodup_append.1 hn).2.2 id hmem id hid rfl

theorem Secure.take (h : Secure k workspaces calls) (hb : before <+: calls) : Secure k workspaces before := by
  obtain ⟨rest, rfl⟩ := hb
  refine ⟨?_, h.records, ?_⟩
  · rintro done a jti issued now rest' task rfl
    exact h.issued done a jti issued now (rest' ++ rest) task (by simp)
  · rintro done r executionId now recorded rest' rfl
    exact h.unforgeable done r executionId now recorded (rest' ++ rest) (by simp)

end Draws

/-! ## One way -/

inductive Moves (k : Crypto) (workspaces : List String) (s : RestrictedController) : Call → TaskRecord → TaskRecord → Prop
  | planned (taskId tenantId : String) (steps : List PlanStep) (now : Int) (task : TaskRecord)
      (tenant : task.tenantId = tenantId) (new : task.state = .created) (checked : steps.forM checkStep = .ok ()) :
      Moves k workspaces s (.plan taskId tenantId steps now) task (task.planned steps)
  | approved (a : Approval) (jti : String) (issued now : Int) (task : TaskRecord) (h : Approvable s a task) :
      Moves k workspaces s (.approve a jti issued now) task (task.withToken (k.issue (a.claims k task jti issued)))
  | cancelled (taskId tenantId : String) (now : Int) (task : TaskRecord) (tenant : task.tenantId = tenantId)
      (live : task.state ≠ .cancelled) :
      Moves k workspaces s (.cancel taskId tenantId now) task { task with state := .cancelled }
  | executed (r : Execution) (executionId : String) (now recorded : Int) (task : TaskRecord) (claims : Claims)
      (h : Executable k workspaces s r now task claims) :
      Moves k workspaces s (.execute r executionId now recorded) task { task with state := .executing }

/-- A task behind its approval, or cancelled. -/
def Settled (task : TaskRecord) : Prop := task.state ≠ .created ∧ task.state ≠ .awaitingApproval

structure SameApproval (task task' : TaskRecord) : Prop where
  settled : Settled task'
  taskId : task'.taskId = task.taskId
  tenantId : task'.tenantId = task.tenantId
  workspace : task'.workspace = task.workspace
  plan : task'.plan = task.plan
  planHash : task'.planHash = task.planHash
  approvalToken : task'.approvalToken = task.approvalToken

section Moves

variable {k : Crypto} {workspaces : List String} {s : RestrictedController} {c : Call} {task task' : TaskRecord}

theorem Moves.owner (h : Moves k workspaces s c task task') : task'.taskId = task.taskId ∧
    task'.tenantId = task.tenantId ∧ task'.workspace = task.workspace := by
  cases h <;> exact ⟨rfl, rfl, rfl⟩

theorem Moves.tenant (h : Moves k workspaces s c task task') : task.tenantId = c.tenantId := by
  cases h with
  | planned taskId tenantId steps now task tenant => exact tenant
  | approved a jti issued now task h => exact h.tenant
  | cancelled taskId tenantId now task tenant => exact tenant
  | executed r executionId now recorded task claims h => exact h.tenant

theorem Moves.settled (h : Moves k workspaces s c task task') (hs : Settled task) : SameApproval task task' := by
  cases h with
  | planned taskId tenantId steps now task tenant new => exact absurd new hs.1
  | approved a jti issued now task h => exact absurd h.awaiting hs.2
  | cancelled => exact ⟨⟨by simp, by simp⟩, rfl, rfl, rfl, rfl, rfl, rfl⟩
  | executed => exact ⟨⟨by simp, by simp⟩, rfl, rfl, rfl, rfl, rfl, rfl⟩

theorem Moves.live (h : Moves k workspaces s c task task') : task.state ≠ .cancelled := by
  cases h with
  | planned taskId tenantId steps now task tenant new => simp [new]
  | approved a jti issued now task h => simp [h.awaiting]
  | cancelled taskId tenantId now task tenant live => exact live
  | executed r executionId now recorded task claims h =>
    rcases h.active with active | active <;> simp [active]

theorem Moves.spent (h : Moves k workspaces s c task task') (hs : task.state = .executing ∨ task.state = .cancelled) :
    task'.state = .executing ∨ task'.state = .cancelled := by
  cases h with
  | planned taskId tenantId steps now task tenant new => rcases hs with hs | hs <;> simp [new] at hs
  | approved a jti issued now task h => rcases hs with hs | hs <;> simp [h.awaiting] at hs
  | cancelled => exact .inr rfl
  | executed => exact .inl rfl

theorem SameApproval.refl (hs : Settled task) : SameApproval task task := ⟨hs, rfl, rfl, rfl, rfl, rfl, rfl⟩

end Moves

/-! ## What a call does to the tasks -/

section Calls

variable {k : Crypto} {workspaces : List String} {s : RestrictedController} {c : Call} {id : String} {task task' : TaskRecord}

theorem put_tasks (s : RestrictedController) (task : TaskRecord) : (s.put task).tasks = s.tasks.set task.taskId task := rfl

/-- The tasks of a state stand under their own ids. -/
def Keyed (s : RestrictedController) : Prop := ∀ id task, s.tasks.get id = some task → task.taskId = id

/-- Where a task after a call comes from. -/
inductive Comes (k : Crypto) (workspaces : List String) (s : RestrictedController) (c : Call) (id : String)
    (task' : TaskRecord) : Prop
  | kept (h : s.tasks.get id = some task')
  | moved (task : TaskRecord) (h : s.tasks.get id = some task) (moves : Moves k workspaces s c task task')
  | new (drawn : id ∈ c.draws) (taskId : task'.taskId = id) (tenant : task'.tenantId = c.tenantId)
      (created : task'.state = .created) (unsigned : task'.approvalToken = "") (unplanned : task'.plan = [])
      (workspace : validateWorkspace task'.workspace workspaces = .ok task'.workspace)

/-- A task after a call is the one of before, one move on, or a new one under the id that is drawn. -/
theorem call_task (hkeyed : Keyed s) (h : (call k workspaces c s).tasks.get id = some task') :
    Comes k workspaces s c id task' := by
  -- a task that is put is a move of the one it was found as
  have hput : ∀ {taskId : String} {old new : TaskRecord}, s.tasks.get taskId = some old →
      Moves k workspaces s c old new → (s.tasks.set new.taskId new).get id = some task' →
      Comes k workspaces s c id task' := by
    intro taskId old new hold hmoves hget
    rw [hmoves.owner.1, hkeyed taskId old hold, OrderedDict.get_set] at hget
    split at hget
    · rename_i hid
      cases hget
      exact .moved old (hid ▸ hold) hmoves
    · exact .kept hget
  unfold call at h
  have hperforms := perform_performs k workspaces c s
  generalize perform k workspaces c s = x at hperforms h
  cases hperforms with
  | refused => exact .kept h
  | known => exact .kept h
  | read => exact .kept h
  | verified => exact .kept h
  | created body tenantId requestId correlationId idempotencyKey taskId now task workspace new htask =>
    subst htask
    change (s.tasks.set taskId _).get id = some task' at h
    rw [OrderedDict.get_set] at h
    split at h
    · rename_i hid
      cases h
      exact .new (by simp [Call.draws, hid]) hid.symm rfl rfl rfl rfl workspace
    · exact .kept h
  | planned taskId tenantId steps now task found tenant new checked =>
    exact hput found (.planned taskId tenantId steps now task tenant new checked) h
  | approved a jti issued now task task'' happrovable htask =>
    subst htask
    exact hput happrovable.found (.approved a jti issued now task happrovable) h
  | cancelled taskId tenantId now task found tenant live =>
    exact hput found (.cancelled taskId tenantId now task tenant live) h
  | executed r executionId now recorded task claims hexecutable =>
    exact hput hexecutable.found (.executed r executionId now recorded task claims hexecutable) h

variable (k workspaces) in
/-- A stored task stays, one move on at most, where the drawn ids are new. -/
theorem task_call (hkeyed : Keyed s) (hfresh : ∀ d ∈ c.draws, s.tasks.get d = none) (h : s.tasks.get id = some task) :
    ∃ task', (call k workspaces c s).tasks.get id = some task' ∧ (task' = task ∨ Moves k workspaces s c task task') := by
  have hput : ∀ {taskId : String} {old new : TaskRecord}, s.tasks.get taskId = some old → Moves k workspaces s c old new →
      ∃ task', (s.tasks.set new.taskId new).get id = some task' ∧ (task' = task ∨ Moves k workspaces s c task task') := by
    intro taskId old new hold hmoves
    rw [hmoves.owner.1, hkeyed taskId old hold, OrderedDict.get_set]
    by_cases hid : id = taskId
    · subst hid
      rw [h] at hold
      cases hold
      exact ⟨new, if_pos rfl, .inr hmoves⟩
    · exact ⟨task, by rw [if_neg hid, h], .inl rfl⟩
  unfold call
  have hperforms := perform_performs k workspaces c s
  generalize perform k workspaces c s = x at hperforms ⊢
  cases hperforms with
  | refused => exact ⟨task, h, .inl rfl⟩
  | known => exact ⟨task, h, .inl rfl⟩
  | read => exact ⟨task, h, .inl rfl⟩
  | verified => exact ⟨task, h, .inl rfl⟩
  | created body tenantId requestId correlationId idempotencyKey taskId now task₀ workspace new htask =>
    subst htask
    refine ⟨task, ?_, .inl rfl⟩
    have hne : id ≠ taskId := by
      rintro rfl
      rw [hfresh id (by simp [Call.draws])] at h
      cases h
    exact (OrderedDict.get_set_ne hne).trans h
  | planned taskId tenantId steps now task₀ found tenant new checked =>
    exact hput found (.planned taskId tenantId steps now task₀ tenant new checked)
  | approved a jti issued now task₀ task'' happrovable htask =>
    subst htask
    exact hput happrovable.found (.approved a jti issued now task₀ happrovable)
  | cancelled taskId tenantId now task₀ found tenant live =>
    exact hput found (.cancelled taskId tenantId now task₀ tenant live)
  | executed r executionId now recorded task₀ claims hexecutable =>
    exact hput hexecutable.found (.executed r executionId now recorded task₀ claims hexecutable)

end Calls

/-! ## Runs -/

/-- The approval that issued the token of a task. -/
structure Issue (k : Crypto) (workspaces : List String) (calls : List Call) (task : TaskRecord) (done : List Call)
    (a : Approval) (jti : String) (issued now : Int) (rest : List Call) (task₀ : TaskRecord) : Prop where
  run : calls = done ++ Call.approve a jti issued now :: rest
  approvable : Approvable (after k workspaces done) a task₀
  approved : SameApproval (task₀.withToken (k.issue (a.claims k task₀ jti issued))) task

def Issued (k : Crypto) (workspaces : List String) (calls : List Call) (task : TaskRecord) : Prop :=
  ∃ done a jti issued now rest task₀, Issue k workspaces calls task done a jti issued now rest task₀

structure Standing (k : Crypto) (workspaces : List String) (calls : List Call) (s : RestrictedController) : Prop where
  keyed : Keyed s
  drawn : ∀ id task, s.tasks.get id = some task → id ∈ draws calls
  checked : ∀ id task, s.tasks.get id = some task →
    task.plan.forM checkStep = .ok () ∧ validateWorkspace task.workspace workspaces = .ok task.workspace
  issued : ∀ id task, s.tasks.get id = some task →
    (task.approvalToken = "" ∧ task.state ≠ .approved ∧ task.state ≠ .executing) ∨ Issued k workspaces calls task

section Runs

variable {k : Crypto} {workspaces : List String} {calls before rest : List Call} {c : Call} {id : String}
  {task task' : TaskRecord}

theorem after_concat (k : Crypto) (workspaces : List String) (calls : List Call) (c : Call) :
    after k workspaces (calls ++ [c]) = call k workspaces c (after k workspaces calls) := runFrom_concat

theorem Issued.later (h : Issued k workspaces calls task) (c : Call) : Issued k workspaces (calls ++ [c]) task := by
  obtain ⟨done, a, jti, issued, now, rest, task₀, hrun, happrovable, happroved⟩ := h
  exact ⟨done, a, jti, issued, now, rest ++ [c], task₀, by rw [hrun]; simp, happrovable, happroved⟩

theorem Issued.moves (h : Issued k workspaces calls task) {s : RestrictedController} (hm : Moves k workspaces s c task task') :
    Issued k workspaces calls task' := by
  obtain ⟨done, a, jti, issued, now, rest, task₀, hrun, happrovable, h⟩ := h
  have hsame := hm.settled h.settled
  exact ⟨done, a, jti, issued, now, rest, task₀, hrun, happrovable, hsame.settled, hsame.taskId.trans h.taskId,
    hsame.tenantId.trans h.tenantId, hsame.workspace.trans h.workspace, hsame.plan.trans h.plan,
    hsame.planHash.trans h.planHash, hsame.approvalToken.trans h.approvalToken⟩

theorem standing (k : Crypto) (workspaces : List String) (calls : List Call) :
    Standing k workspaces calls (after k workspaces calls) := by
  induction calls using List.reverseRecOn with
  | nil => exact ⟨fun _ _ h => (by cases h), fun _ _ h => (by cases h), fun _ _ h => (by cases h), fun _ _ h => (by cases h)⟩
  | append_singleton before c ih =>
    rw [after_concat]
    refine ⟨fun id task h => ?_, fun id task h => ?_, fun id task h => ?_, fun id task h => ?_⟩
    · cases call_task ih.keyed h with
      | kept h => exact ih.keyed id task h
      | moved old hold hmoves => exact hmoves.owner.1.trans (ih.keyed id old hold)
      | new drawn taskId => exact taskId
    · rw [draws_append]
      cases call_task ih.keyed h with
      | kept h => exact List.mem_append_left _ (ih.drawn id task h)
      | moved old hold => exact List.mem_append_left _ (ih.drawn id old hold)
      | new drawn => exact List.mem_append_right _ (by simpa [draws] using drawn)
    · cases call_task ih.keyed h with
      | kept h => exact ih.checked id task h
      | new drawn taskId tenant created unsigned unplanned workspace =>
        rw [unplanned]
        exact ⟨rfl, workspace⟩
      | moved old hold hmoves =>
        obtain ⟨hplan, hworkspace⟩ := ih.checked id old hold
        cases hmoves with
        | planned taskId tenantId steps now _ tenant new checked => exact ⟨checked, hworkspace⟩
        | approved => exact ⟨hplan, hworkspace⟩
        | cancelled => exact ⟨hplan, hworkspace⟩
        | executed => exact ⟨hplan, hworkspace⟩
    · cases call_task ih.keyed h with
      | kept h => exact (ih.issued id task h).imp_right fun h => h.later c
      | new drawn taskId tenant created unsigned =>
        exact .inl ⟨unsigned, by simp [created], by simp [created]⟩
      | moved old hold hmoves =>
        rcases ih.issued id old hold with ⟨hunsigned, hidle⟩ | hissued
        · -- the first token comes from the approval itself
          cases hmoves with
          | planned => exact .inl ⟨hunsigned, by simp [TaskRecord.planned], by simp [TaskRecord.planned]⟩
          | cancelled => exact .inl ⟨hunsigned, by simp, by simp⟩
          | executed r executionId now recorded _ claims hexecutable =>
            rcases hexecutable.active with hactive | hactive
            · exact absurd hactive hidle.1
            · exact absurd hactive hidle.2
          | approved a jti issued now _ happrovable =>
            refine .inr ⟨before, a, jti, issued, now, [], old, rfl, happrovable, .refl ⟨?_, ?_⟩⟩
            · simp [TaskRecord.withToken]
            · simp [TaskRecord.withToken]
        · exact .inr ((hissued.moves hmoves).later c)

/-- The versions of a task in a run, in their order. -/
inductive Onward (task : TaskRecord) : TaskRecord → Prop
  | refl : Onward task task
  | move (k : Crypto) (workspaces : List String) (s : RestrictedController) (c : Call) {task' task'' : TaskRecord}
      (h : Onward task task') (hm : Moves k workspaces s c task' task'') : Onward task task''

theorem Onward.settled (h : Onward task task') (hs : Settled task) : SameApproval task task' := by
  induction h with
  | refl => exact .refl hs
  | move k workspaces s c _ hm ih =>
    have hsame := hm.settled ih.settled
    exact ⟨hsame.settled, hsame.taskId.trans ih.taskId, hsame.tenantId.trans ih.tenantId, hsame.workspace.trans ih.workspace,
      hsame.plan.trans ih.plan, hsame.planHash.trans ih.planHash, hsame.approvalToken.trans ih.approvalToken⟩

theorem Onward.cancelled (h : Onward task task') (hs : task.state = .cancelled) : task'.state = .cancelled := by
  induction h with
  | refl => exact hs
  | move k workspaces s c _ hm ih => exact absurd ih hm.live

theorem Fresh.untaken (h : Fresh (calls ++ c :: rest)) : ∀ d ∈ c.draws, (after k workspaces calls).tasks.get d = none := by
  intro d hd
  by_contra hsome
  obtain ⟨task, htask⟩ := Option.ne_none_iff_exists'.1 hsome
  exact h.new (by simp [draws, hd]) ((standing k workspaces calls).drawn d task htask)

variable (k workspaces) in
theorem after_task {more : List Call} (hfresh : Fresh (calls ++ more)) (h : (after k workspaces calls).tasks.get id = some task) :
    ∃ task', (after k workspaces (calls ++ more)).tasks.get id = some task' ∧ Onward task task' := by
  induction more using List.reverseRecOn with
  | nil => exact ⟨task, by rw [List.append_nil]; exact h, .refl⟩
  | append_singleton more c ih =>
    rw [← List.append_assoc] at hfresh ⊢
    obtain ⟨task', htask', honward⟩ := ih hfresh.left
    obtain ⟨task'', htask'', hmoves⟩ := task_call k workspaces (standing k workspaces (calls ++ more)).keyed hfresh.untaken htask'
    rw [after_concat]
    rcases hmoves with rfl | hmoves
    · exact ⟨task'', htask'', honward⟩
    · exact ⟨task'', htask'', .move _ _ _ _ honward hmoves⟩

end Runs

end Middleware.Controller

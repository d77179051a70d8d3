/-
Executions over whole runs: an accepted execution presents the token that the approval of its task issued, and consumes
it, so that every task is executed at most once.
-/
import Middleware.Controller.Approvals

namespace Middleware.Controller

open Lib

variable {rest' : List Call} {done : List Call}

theorem Fresh.position {calls done' rest : List Call} {c c' : Call} {d : String} (h : Fresh calls)
    (hcalls : calls = done ++ c :: rest) (hcalls' : calls = done' ++ c' :: rest') (hd : d ∈ c.draws) (hd' : d ∈ c'.draws) :
    done = done' ∧ c = c' := by
  have hne : ∀ {left right : List Call}, calls = left ++ right → d ∈ draws left → d ∈ draws right → False := by
    rintro left right rfl hl hr
    exact h.new hr hl
  have hmem : ∀ {l : List Call} {x : Call}, x ∈ l → d ∈ x.draws → d ∈ draws l :=
    fun hx hdx => List.mem_flatMap.2 ⟨_, hx, hdx⟩
  rcases List.append_eq_append_iff.1 (hcalls.symm.trans hcalls') with ⟨mid, hdone, hmid⟩ | ⟨mid, hdone, hmid⟩
  · cases mid with
    | nil =>
      rw [List.nil_append, List.cons.injEq] at hmid
      rw [List.append_nil] at hdone
      exact ⟨hdone.symm, hmid.1⟩
    | cons x mid =>
      obtain ⟨rfl, -⟩ := hmid
      exact (hne hcalls' (hmem (by rw [hdone]; simp) hd) (hmem List.mem_cons_self hd')).elim
  · cases mid with
    | nil =>
      rw [List.nil_append, List.cons.injEq] at hmid
      rw [List.append_nil] at hdone
      exact ⟨hdone, hmid.1.symm⟩
    | cons x mid =>
      obtain ⟨rfl, -⟩ := hmid
      exact (hne hcalls (hmem (by rw [hdone]; simp) hd') (hmem List.mem_cons_self hd)).elim

variable {jti : String} {executionId : String}

section Tokens

variable {k : Crypto} {workspaces : List String} {calls before rest : List Call} {c : Call} {id : String}
  {task task' : TaskRecord} {token : String} {claims claims' : Claims}

theorem claimsOf_some (h : k.claimsOf token = some claims) :
    ∃ encoded, splitToken token = some (encoded, k.mac encoded) ∧ k.loads encoded = some claims := by
  unfold Crypto.claimsOf at h
  cases hsplit : splitToken token with
  | none =>
    rw [hsplit] at h
    cases h
  | some parts =>
    obtain ⟨encoded, supplied⟩ := parts
    rw [hsplit] at h
    dsimp only at h
    split at h
    · rename_i hmac
      rw [hmac]
      exact ⟨encoded, rfl, h⟩
    · cases h

theorem claimsOf_empty : k.claimsOf "" = none := rfl

variable {task₀ : TaskRecord}

theorem Issue.opens {a : Approval} {issued now : Int}
    (h : Issue k workspaces before task done a jti issued now rest' task₀) (hsecure : Secure k workspaces (before ++ rest)) :
    task.approvalToken = k.issue (a.claims k task₀ jti issued) ∧
      k.claimsOf task.approvalToken = some (a.claims k task₀ jti issued) := by
  have htoken : task.approvalToken = k.issue (a.claims k task₀ jti issued) := h.approved.approvalToken
  rw [htoken]
  exact ⟨rfl, hsecure.issued done a jti issued now (rest' ++ rest) task₀ (by rw [h.run]; simp) h.approvable⟩

theorem stored_issued (hsecure : Secure k workspaces (before ++ rest)) (h : (after k workspaces before).tasks.get id = some task)
    (hclaims : k.claimsOf task.approvalToken = some claims) : ∃ done a jti issued now rest' task₀,
      Issue k workspaces before task done a jti issued now rest' task₀ ∧ claims = a.claims k task₀ jti issued := by
  rcases (standing k workspaces before).issued id task h with ⟨hunsigned, -⟩ | ⟨done, a, jti, issued, now, rest', task₀, hissue⟩
  · rw [hunsigned, claimsOf_empty] at hclaims
    cases hclaims
  · have hopens := (hissue.opens hsecure).2
    rw [hclaims] at hopens
    exact ⟨done, a, jti, issued, now, rest', task₀, hissue, Option.some.inj hopens⟩

theorem Issue.claims_taskId {a : Approval} {issued now : Int}
    (h : Issue k workspaces before task done a jti issued now rest' task₀) :
    (a.claims k task₀ jti issued).taskId = task.taskId ∧ task.taskId = a.taskId := by
  have htask : task.taskId = task₀.taskId := h.approved.taskId
  exact ⟨htask.symm, htask.trans ((standing k workspaces done).keyed _ _ h.approvable.found)⟩

theorem executed_token {r : Execution} {now recorded : Int}
    (hsecure : Secure k workspaces (before ++ Call.execute r executionId now recorded :: rest))
    (h : Executable k workspaces (after k workspaces before) r now task claims) :
    r.token = task.approvalToken ∧ ∃ done a jti issued at' rest' task₀,
      Issue k workspaces before task done a jti issued at' rest' task₀ ∧ claims = a.claims k task₀ jti issued := by
  obtain ⟨encoded, hsplit, hloads⟩ := claimsOf_some h.signed
  rcases hsecure.unforgeable before r executionId now recorded rest rfl encoded hsplit with
    ⟨id, task', hstored, htoken⟩ | ⟨code, v, -, htext⟩
  · have hclaims : k.claimsOf task'.approvalToken = some claims := by
      rw [htoken]
      exact h.signed
    obtain ⟨done, a, jti, issued, at', rest', task₀, hissue, heq⟩ := stored_issued hsecure hstored hclaims
    -- the claims name the task of the execution
    have hid : id = r.taskId := by
      have htask := h.verifies.taskId
      rw [heq, hissue.claims_taskId.1, (standing k workspaces before).keyed id task' hstored] at htask
      exact htask
    rw [hid, h.found] at hstored
    cases hstored
    exact ⟨htoken.symm, done, a, jti, issued, at', rest', task₀, hissue, heq⟩
  · rw [htext, hsecure.records v] at hloads
    cases hloads

theorem issued_unique (hfresh : Fresh before) (hsecure : Secure k workspaces (before ++ rest)) {id' : String}
    (h : (after k workspaces before).tasks.get id = some task) (h' : (after k workspaces before).tasks.get id' = some task')
    (hclaims : k.claimsOf task.approvalToken = some claims) (hclaims' : k.claimsOf task'.approvalToken = some claims')
    (hjti : claims.jti = claims'.jti) : id = id' := by
  obtain ⟨done, a, jti, issued, now, mid, task₀, hissue, rfl⟩ := stored_issued hsecure h hclaims
  obtain ⟨done', a', jti', issued', now', mid', task₀', hissue', rfl⟩ := stored_issued hsecure h' hclaims'
  have heq : jti = jti' := hjti
  subst heq
  obtain ⟨-, hcall⟩ := hfresh.position (d := jti) hissue.run hissue'.run (by simp [Call.draws]) (by simp [Call.draws])
  have hid := (standing k workspaces before).keyed id task h
  have hid' := (standing k workspaces before).keyed id' task' h'
  rw [← hid, ← hid', hissue.claims_taskId.2, hissue'.claims_taskId.2, (Call.approve.inj hcall).1]

end Tokens

/-! ## Consumed tokens -/

section Consumed

variable {k : Crypto} {workspaces : List String} {calls before rest : List Call} {c : Call} {id : String}
  {task task' : TaskRecord} {claims : Claims} {s : RestrictedController}

theorem call_consumed (k : Crypto) (workspaces : List String) (c : Call) (s : RestrictedController) :
    (call k workspaces c s).consumed = s.consumed ∨ ∃ r executionId now recorded task claims,
      c = .execute r executionId now recorded ∧ Executable k workspaces s r now task claims ∧
      (call k workspaces c s).consumed = s.consumed ++ [claims.jti] ∧
      (call k workspaces c s).tasks = s.tasks.set task.taskId { task with state := .executing } := by
  unfold call
  have hperforms := perform_performs k workspaces c s
  generalize perform k workspaces c s = x at hperforms ⊢
  cases hperforms with
  | executed r executionId now recorded task claims h =>
    exact .inr ⟨r, executionId, now, recorded, task, claims, rfl, h, rfl, rfl⟩
  | _ => exact .inl rfl

theorem consumed_call (h : jti ∈ s.consumed) (c : Call) : jti ∈ (call k workspaces c s).consumed := by
  rcases call_consumed k workspaces c s with heq | ⟨_, _, _, _, _, claims, -, -, heq, -⟩
  · rw [heq]
    exact h
  · rw [heq]
    exact List.mem_append_left _ h

theorem after_consumed (h : jti ∈ (after k workspaces before).consumed) (more : List Call) :
    jti ∈ (after k workspaces (before ++ more)).consumed := by
  unfold after
  rw [runFrom_append]
  exact runFrom_invariant (I := fun s : RestrictedController => jti ∈ s.consumed) h fun s c hs => consumed_call hs c

theorem execute_accepted {r : Execution} {now recorded : Int} {reply : Reply}
    (h : (perform k workspaces (.execute r executionId now recorded) s).1 = .ok reply) :
    ∃ task claims, Executable k workspaces s r now task claims ∧ reply = .envelope (r.envelope task executionId) ∧
      (call k workspaces (.execute r executionId now recorded) s).consumed = s.consumed ++ [claims.jti] ∧
      (call k workspaces (.execute r executionId now recorded) s).tasks =
        s.tasks.set task.taskId { task with state := .executing } := by
  unfold call
  have hperforms := perform_performs k workspaces (.execute r executionId now recorded) s
  generalize perform k workspaces (.execute r executionId now recorded) s = x at hperforms h ⊢
  cases hperforms with
  | refused => cases h
  | executed _ _ _ _ task claims hexecutable =>
    cases h
    exact ⟨task, claims, hexecutable, rfl, rfl, rfl⟩

theorem consumed_spent (hfresh : Fresh calls) (hsecure : Secure k workspaces calls) :
    ∀ jti ∈ (after k workspaces calls).consumed, ∃ id task claims, (after k workspaces calls).tasks.get id = some task ∧
      k.claimsOf task.approvalToken = some claims ∧ claims.jti = jti ∧
      (task.state = .executing ∨ task.state = .cancelled) := by
  induction calls using List.reverseRecOn with
  | nil =>
    intro jti h
    cases h
  | append_singleton before c ih =>
    intro jti h
    have hkeyed := (standing k workspaces before).keyed
    have hnew : ∀ d ∈ c.draws, (after k workspaces before).tasks.get d = none := hfresh.untaken
    rw [after_concat] at h ⊢
    -- a token that was consumed before stays with its task
    have hold : jti ∈ (after k workspaces before).consumed → ∃ id task claims,
        (call k workspaces c (after k workspaces before)).tasks.get id = some task ∧
        k.claimsOf task.approvalToken = some claims ∧ claims.jti = jti ∧ (task.state = .executing ∨ task.state = .cancelled) := by
      intro hmem
      obtain ⟨id, task, claims, htask, hclaims, hjti, hspent⟩ := ih hfresh.left (hsecure.take ⟨[c], rfl⟩) jti hmem
      obtain ⟨task', htask', rfl | hmoves⟩ := task_call k workspaces hkeyed hnew htask
      · exact ⟨id, task', claims, htask', hclaims, hjti, hspent⟩
      · have hsettled : Settled task := by
          rcases hspent with hs | hs <;> exact ⟨by simp [hs], by simp [hs]⟩
        exact ⟨id, task', claims, htask', by rw [(hmoves.settled hsettled).approvalToken]; exact hclaims, hjti,
          hmoves.spent hspent⟩
    rcases call_consumed k workspaces c (after k workspaces before) with
      heq | ⟨r, executionId, now, recorded, task, claims, rfl, hexecutable, heq, htasks⟩
    · rw [heq] at h
      exact hold h
    · rw [heq, List.mem_append, List.mem_singleton] at h
      rcases h with h | rfl
      · exact hold h
      · obtain ⟨htoken, -⟩ := executed_token hsecure hexecutable
        refine ⟨r.taskId, { task with state := .executing }, claims, ?_, ?_, rfl, .inl rfl⟩
        · rw [htasks, hkeyed r.taskId task hexecutable.found]
          exact OrderedDict.get_set_self
        · rw [← htoken]
          exact hexecutable.signed

theorem approved_unconsumed (hfresh : Fresh calls) (hsecure : Secure k workspaces calls)
    (h : (after k workspaces calls).tasks.get id = some task) (hstate : task.state = .approved)
    (hclaims : k.claimsOf task.approvalToken = some claims) : claims.jti ∉ (after k workspaces calls).consumed := by
  intro hmem
  obtain ⟨id', task', claims', htask', hclaims', hjti, hspent⟩ := consumed_spent hfresh hsecure _ hmem
  have hsecure' : Secure k workspaces (calls ++ []) := by
    rw [List.append_nil]
    exact hsecure
  have hid := issued_unique hfresh hsecure' h htask' hclaims hclaims' hjti.symm
  rw [hid, htask'] at h
  cases h
  rcases hspent with hs | hs <;> rw [hs] at hstate <;> cases hstate

/-- Two accepted executions of a run are of two tasks. -/
theorem executed_once {mid : List Call} {r r' : Execution} {executionId' : String} {now now' recorded recorded' : Int}
    {reply reply' : Reply}
    (hcalls : calls = before ++ Call.execute r executionId now recorded :: mid ++ Call.execute r' executionId' now' recorded' :: rest)
    (hfresh : Fresh calls) (hsecure : Secure k workspaces calls)
    (h : (perform k workspaces (.execute r executionId now recorded) (after k workspaces before)).1 = .ok reply)
    (h' : (perform k workspaces (.execute r' executionId' now' recorded')
      (after k workspaces (before ++ Call.execute r executionId now recorded :: mid))).1 = .ok reply') :
    r'.taskId ≠ r.taskId := by
  intro hid
  obtain ⟨task, claims, hexecutable, -, hconsumed, -⟩ := execute_accepted h
  obtain ⟨task', claims', hexecutable', -, -, -⟩ := execute_accepted h'
  have hfirst : Secure k workspaces (before ++ Call.execute r executionId now recorded ::
      (mid ++ Call.execute r' executionId' now' recorded' :: rest)) := by
    rw [hcalls] at hsecure
    simpa using hsecure
  have hsecond : Secure k workspaces (before ++ Call.execute r executionId now recorded :: mid ++
      .execute r' executionId' now' recorded' :: rest) := by
    rw [hcalls] at hsecure
    exact hsecure
  obtain ⟨htoken, -⟩ := executed_token hfirst hexecutable
  obtain ⟨htoken', -⟩ := executed_token hsecond hexecutable'
  -- the task has kept its token
  have hfresh' : Fresh (before ++ Call.execute r executionId now recorded :: mid) := hfresh.take ⟨_, hcalls.symm⟩
  obtain ⟨task'', htask'', honward⟩ := after_task k workspaces hfresh' hexecutable.found
  rw [← hid, hexecutable'.found] at htask''
  cases htask''
  have hsettled : Settled task := by
    rcases hexecutable.active with hs | hs <;> exact ⟨by simp [hs], by simp [hs]⟩
  have hsame : r'.token = r.token := by
    rw [htoken, htoken', (honward.settled hsettled).approvalToken]
  have hclaims : claims' = claims := by
    have := hexecutable'.signed
    rw [hsame, hexecutable.signed] at this
    exact (Option.some.inj this).symm
  have hmem : claims.jti ∈ (after k workspaces (before ++ [Call.execute r executionId now recorded])).consumed := by
    rw [after_concat, hconsumed]
    simp
  have hlater := after_consumed hmem mid
  rw [List.append_assoc, List.singleton_append] at hlater
  rw [← hclaims] at hlater
  exact hexecutable'.unconsumed hlater

end Consumed

end Middleware.Controller

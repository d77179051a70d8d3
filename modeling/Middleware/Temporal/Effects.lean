/-
What one call does to the ledger of one command (`Effect`): its row, its attempts and its audit. Once a command was
rejected before its dispatch no call changes its ledger, and an attempt that was claimed is never claimed again.
-/
import Middleware.Temporal.Activities
import Middleware.Postgres.Evidence
import Middleware.Lib.Rows

namespace Middleware.Temporal

open Ledger Postgres Lib PostgresCommandStore

def ledgerOf (s : Tables) (k : Key) : Option CommandRow × List AttemptRow × List AuditRow :=
  (s.command k, s.attempts.filter fun a => decide (a.key = k), s.audit.filter fun a => decide (a.key = k))

def stateOf (s : Tables) (k : Key) : Option CommandState := (s.command k).map (·.state)

/-- What a call may do to the ledger of a command, as far as its state and its newest attempt go. -/
inductive Effect (k : Key) (s s' : Tables) : Prop
  | same (ledger : ledgerOf s' k = ledgerOf s k)
  | submitted (none : stateOf s k = none) (state : stateOf s' k = some .persisted)
      (newest : s'.newestAttempt k = s.newestAttempt k)
  | claimed (a : AttemptRow) (found : s.newestAttempt k = some a) (running : a.state = .dispatching)
      (unclaimed : a.resultPayload = none) (command : s'.command k = s.command k)
      (newest : s'.newestAttempt k = some (claimedAttempt a))
  | rejected (a : AttemptRow) (now : Time) (state : stateOf s k = some .dispatching)
      (found : s.newestAttempt k = some a) (claim : isDispatchClaim a.resultPayload = true)
      (state' : stateOf s' k = some .cancelled) (newest : s'.newestAttempt k = some (rejectedAttempt now a))
  | opened (a : AttemptRow) (old : CommandState) (state : stateOf s k = some old) (allowed : .dispatching ∈ old.allowedTransitions)
      (state' : stateOf s' k = some .dispatching) (newest : s'.newestAttempt k = some a) (number : s.maxAttempt k < a.attemptNumber)
      (running : a.state = .dispatching)
  | advanced (old new : CommandState) (state : stateOf s k = some old) (allowed : new ∈ old.allowedTransitions)
      (state' : stateOf s' k = some new) (moved : new ≠ .dispatching) (f : AttemptRow → AttemptRow)
      (newest : s'.newestAttempt k = (s.newestAttempt k).map f) (number : ∀ a, (f a).attemptNumber = a.attemptNumber)
      (payload : ∀ a, a.resultPayload ≠ none → (f a).resultPayload ≠ none)
  | reconciled (new : CommandState) (state : stateOf s k = some .reconciliationRequired)
      (state' : stateOf s' k = some new) (moved : new ≠ .dispatching) (f : AttemptRow → AttemptRow)
      (newest : s'.newestAttempt k = (s.newestAttempt k).map f) (number : ∀ a, (f a).attemptNumber = a.attemptNumber)
      (payload : ∀ a, (f a).resultPayload ≠ none)

variable {f : CommandRow → CommandRow}

section Ledgers

variable {s s' : Tables} {k k' : Key}

theorem newest_of_ledger (h : ledgerOf s' k = ledgerOf s k) : s'.newestAttempt k = s.newestAttempt k := by
  have ha : s'.attempts.filter (fun a => decide (a.key = k)) = s.attempts.filter fun a => decide (a.key = k) :=
    congrArg (fun l => l.2.1) h
  unfold Tables.newestAttempt
  rw [ha]

theorem state_of_ledger (h : ledgerOf s' k = ledgerOf s k) : stateOf s' k = stateOf s k := by
  have hc : s'.command k = s.command k := congrArg Prod.fst h
  rw [stateOf, hc, stateOf]

theorem command_updated (hf : ∀ r, (f r).key = r.key)
    (hs : s'.commands = s.updateCommand k' f) : s'.command k = (s.command k).map fun r => if k = k' then f r else r := by
  unfold Tables.command
  rw [hs]
  exact find_map_at (fun r hr => (hf r).trans hr) s.commands

theorem attempts_updated_ne {f : AttemptRow → AttemptRow} (hf : ∀ a, (f a).key = a.key) (hk : k ≠ k') :
    (s.updateNewest k' f).filter (fun a => decide (a.key = k)) = s.attempts.filter fun a => decide (a.key = k) := by
  unfold Tables.updateNewest
  split
  · rename_i newest hn
    induction s.attempts with
    | nil => rfl
    | cons a rest ih =>
      rw [List.map_cons, List.filter_cons, List.filter_cons, ih]
      by_cases ha : a.key = k' ∧ a.attemptNumber = newest.attemptNumber
      · simp [ha, hf, Ne.symm hk]
      · simp [ha]
  · rfl

theorem attempts_appended_ne {a : AttemptRow} (ha : a.key ≠ k) :
    (s.attempts ++ [a]).filter (fun a => decide (a.key = k)) = s.attempts.filter fun a => decide (a.key = k) := by
  simp [List.filter_append, ha]

theorem audit_appended_ne {a : AuditRow} (ha : a.key ≠ k) :
    (s.audit ++ [a]).filter (fun a => decide (a.key = k)) = s.audit.filter fun a => decide (a.key = k) := by
  simp [List.filter_append, ha]

theorem ledger_write_ne {a : AuditRow} (hf : ∀ r, (f r).key = r.key) (hk : k ≠ k')
    (hc : s'.commands = s.updateCommand k' f) (ha : s'.audit = s.audit ++ [a]) (hak : a.key = k')
    (hatt : s'.attempts.filter (fun a => decide (a.key = k)) = s.attempts.filter fun a => decide (a.key = k)) :
    ledgerOf s' k = ledgerOf s k := by
  have hcommand : s'.command k = s.command k := by
    rw [command_updated hf hc]
    simp [hk]
  have hne : a.key ≠ k := by
    rw [hak]
    exact Ne.symm hk
  unfold ledgerOf
  rw [hcommand, hatt, ha, audit_appended_ne hne]

end Ledgers

/-! ## One call -/

variable (jsonb : Obj → Option Obj) (i : Input) {α : Type} {tx : Tables → Except Failure α × Tables}

section Calls

variable {s : Tables} {k : Key} {now : Time}

theorem claim_effect (k' : Key) : Effect k s (claimCallDispatch k' s).2 := by
  unfold claimCallDispatch
  split
  swap
  · exact .same rfl
  rename_i a ha
  split
  swap
  · exact .same rfl
  rename_i hfree
  by_cases hk : k = k'
  · subst hk
    refine .claimed a ha hfree.1 hfree.2 rfl ?_
    rw [newest_update (f := claimedAttempt) rfl (fun _ => rfl) fun _ => rfl, if_pos rfl, ha]
    rfl
  · refine .same ?_
    unfold ledgerOf
    rw [attempts_updated_ne (f := claimedAttempt) (fun _ => rfl) hk]
    rfl

theorem reject_effect (k' : Key) : Effect k s (rejectDispatch k' now s).2 := by
  unfold rejectDispatch
  split
  swap
  · exact .same rfl
  rename_i row a hrow ha
  split
  · exact .same rfl
  split
  swap
  · exact .same rfl
  rename_i hown
  simp only [Bool.and_eq_true, beq_iff_eq] at hown
  by_cases hk : k = k'
  · subst hk
    refine .rejected a now ?_ ha hown.2 ?_ ?_
    · rw [stateOf, hrow, Option.map_some, hown.1]
    · rw [stateOf, command_updated (f := rejectedCommand now) (fun _ => rfl) rfl, hrow]
      simp [rejectedCommand]
    · rw [newest_update (f := rejectedAttempt now) rfl (fun _ => rfl) fun _ => rfl, if_pos rfl, ha]
      rfl
  · refine .same (ledger_write_ne (f := rejectedCommand now) (fun _ => rfl) hk rfl rfl rfl ?_)
    exact attempts_updated_ne (fun _ => rfl) hk

theorem submit_effect (r : Submission) : Effect k s (submit r none now s).2 := by
  rcases submit_cases_rows r none now s with h | ⟨outbox, hnone, h⟩
  · rw [h]
    exact .same rfl
  · rw [h]
    have hcommand : ∀ k', Tables.command { s with
        commands := s.commands ++ [submittedRow r now]
        audit := s.audit ++ [submittedAudit r now]
        outbox := outbox } k' = if k' = r.key then some (submittedRow r now) else s.command k' :=
      command_append hnone rfl rfl
    by_cases hk : k = r.key
    · subst hk
      refine .submitted (by rw [stateOf, hnone]; rfl) ?_ rfl
      rw [stateOf, hcommand, if_pos rfl]
      rfl
    · refine .same ?_
      unfold ledgerOf
      have hne : (submittedAudit r now).key ≠ k := Ne.symm hk
      rw [hcommand, if_neg hk, audit_appended_ne hne]

theorem transitioned_effect {t : Transition} {current : CommandRow} (stored : Option Obj)
    (hc : s.command t.key = some current) (hallowed : t.newState ∈ current.state.allowedTransitions) :
    Effect k s (transitioned t current stored now s) := by
  have hcommand : ∀ k', (transitioned t current stored now s).command k' =
      (s.command k').map fun r => if k' = t.key then transitionedRow t now r else r :=
    fun k' => command_updated (fun _ => rfl) rfl
  by_cases hk : k = t.key
  · subst hk
    have hstate : stateOf s t.key = some current.state := by rw [stateOf, hc]; rfl
    have hstate' : stateOf (transitioned t current stored now s) t.key = some t.newState := by
      rw [stateOf, hcommand, hc]
      simp [transitionedRow]
    by_cases hd : t.newState = .dispatching
    · refine .opened (openedAttempt t (s.maxAttempt t.key + 1) now) current.state hstate (hd ▸ hallowed)
        (hd ▸ hstate') ?_ (Nat.lt_succ_self _) rfl
      refine newest_append_self ?_ rfl (Nat.lt_succ_self _)
      show transitionAttempts t stored now s = _
      rw [transitionAttempts, if_pos hd]
    · by_cases hm : t.newState ∈ [CommandState.accepted, .readbackPending, .completed, .failed, .reconciliationRequired]
      · refine .advanced current.state t.newState hstate hallowed hstate' hd
          (transitionedAttempt t stored now) ?_ (fun _ => rfl) ?_
        · rw [newest_update (f := transitionedAttempt t stored now) ?_ (fun _ => rfl) fun _ => rfl,
            if_pos rfl]
          show transitionAttempts t stored now s = _
          rw [transitionAttempts, if_neg hd, if_pos hm]
        · intro a ha
          cases stored with
          | none => exact ha
          | some p => simp [transitionedAttempt]
      · refine .advanced current.state t.newState hstate hallowed hstate' hd id ?_ (fun _ => rfl) fun _ h => h
        have hatt : (transitioned t current stored now s).attempts = s.attempts := by
          show transitionAttempts t stored now s = _
          rw [transitionAttempts, if_neg hd, if_neg hm]
        rw [Option.map_id, id, Tables.newestAttempt, hatt]
        rfl
  · refine .same (ledger_write_ne (f := transitionedRow t now) (fun _ => rfl) hk rfl rfl rfl ?_)
    show List.filter _ (transitionAttempts t stored now s) = _
    unfold transitionAttempts
    split
    · exact attempts_appended_ne fun h => hk h.symm
    · split
      · exact attempts_updated_ne (fun _ => rfl) hk
      · rfl

theorem transition_effect (t : Transition) :
    Effect k s (transition jsonb t now s).2 := by
  unfold transition
  split
  · exact .same rfl
  rename_i current hch
  obtain ⟨hc, hallowed, -⟩ := checks_command hch
  split
  · exact transitioned_effect none hc hallowed
  · split
    · exact .same rfl
    · exact transitioned_effect _ hc hallowed

theorem reconcile_effect (r : Reconciliation) :
    Effect k s (reconcile jsonb r now s).2 := by
  unfold reconcile
  split
  · exact .same rfl
  rename_i current hch
  split
  · exact .same rfl
  rename_i stored hj
  have hc := reconcile_command hch
  have hst : current.state = .reconciliationRequired := by
    unfold reconcileChecks at hch
    rw [hc] at hch
    simp only at hch
    split at hch
    · cases hch
    · rename_i hst
      exact not_not.1 hst
  have hkey : ∀ c, (reconciledRow r now c).key = c.key := by
    intro c
    unfold reconciledRow
    split <;> rfl
  by_cases hk : k = r.key
  · subst hk
    refine .reconciled (reconciledRow r now current).state ?_ ?_ ?_
      (reconciledAttempt r stored now) ?_ (fun _ => rfl) ?_
    · rw [stateOf, hc, Option.map_some, hst]
    · rw [stateOf, command_updated hkey rfl, hc]
      simp
    · unfold reconciledRow
      split
      · simp
      · simp [hst]
    · rw [newest_update (f := reconciledAttempt r stored now) rfl (fun _ => rfl) fun _ => rfl, if_pos rfl]
    · simp [reconciledAttempt]
  · refine .same (ledger_write_ne hkey hk rfl rfl rfl ?_)
    exact attempts_updated_ne (fun _ => rfl) hk

/-- A call fails from outside before or after it ran, or it runs. -/
theorem transaction_cases (tx : Tables → Except Failure α × Tables) (s : Tables) :
    (∃ e, (i.transaction tx s).1 = .error e ∧ ((i.transaction tx s).2 = s ∨ (i.transaction tx s).2 = (tx s).2)) ∨
      i.transaction tx s = tx s := by
  unfold Input.transaction
  split
  · exact .inl ⟨_, rfl, .inl rfl⟩
  · exact .inl ⟨_, rfl, .inr rfl⟩
  · exact .inr rfl

theorem transaction_effect {i : Input} (h : Effect k s (tx s).2) :
    Effect k s (i.transaction tx s).2 := by
  rcases transaction_cases i tx s with ⟨e, -, heq | heq⟩ | heq
  · rw [heq]
    exact .same rfl
  · rw [heq]
    exact h
  · rw [heq]
    exact h

theorem exec_effect (op : Call) (s : Tables) (k : Key) :
    Effect k s (exec jsonb i op s).2 := by
  cases op with
  | load r | cancellation r => exact transaction_effect (.same rfl)
  | claim r => exact transaction_effect (claim_effect r.key)
  | reject r => exact transaction_effect (reject_effect r.key)
  | submit r => exact transaction_effect (submit_effect r)
  | transition t => exact transaction_effect (transition_effect jsonb t)
  | reconcile r => exact transaction_effect (reconcile_effect jsonb r)
  | execute r | executed r | readback r | sleep => exact .same rfl

end Calls

/-! ## Stored requests -/

/-- The command of a request is stored under its digest. -/
def Intact (r : CommandExecutionRequest) (s : Tables) : Prop :=
  ∃ row, s.command r.key = some row ∧ row.payload = (r.command, r.authenticatedClientId) ∧
    row.payloadSha256 = authenticatedCommandDigest r.command r.authenticatedClientId

section Requests

variable {s s' : Tables} {k : Key} {r : CommandExecutionRequest}

theorem load_intact (h : Intact r s) (hclient : r.authenticatedClientId ≠ "") (hq : r.resumeFromQueued = false) :
    loadDurableExecutionRequest r s = .ok () := by
  obtain ⟨row, hrow, hpayload, hdigest⟩ := h
  unfold loadDurableExecutionRequest
  rw [hrow]
  simp only [hpayload, hdigest]
  rw [if_neg hclient, if_neg (by simp), if_neg (by simp), if_neg (by simp [sameRequest, hq])]

theorem Intact.updated (h : Intact r s) (hf : ∀ c, (f c).key = c.key)
    (hp : ∀ c, (f c).payload = c.payload ∧ (f c).payloadSha256 = c.payloadSha256)
    (hs : s'.commands = s.updateCommand k f) : Intact r s' := by
  obtain ⟨row, hrow, hpayload, hdigest⟩ := h
  refine ⟨if r.key = k then f row else row, ?_, ?_⟩
  · rw [command_updated hf hs, hrow]
    rfl
  · split
    · exact ⟨(hp row).1.trans hpayload, (hp row).2.trans hdigest⟩
    · exact ⟨hpayload, hdigest⟩

theorem Intact.same (h : Intact r s) (hs : s'.commands = s.commands) : Intact r s' := by
  obtain ⟨row, hrow, hrest⟩ := h
  refine ⟨row, ?_, hrest⟩
  unfold Tables.command at *
  rw [hs, hrow]

theorem Intact.appended (h : Intact r s) {c : CommandRow} (hs : s'.commands = s.commands ++ [c]) : Intact r s' := by
  obtain ⟨row, hrow, hrest⟩ := h
  refine ⟨row, ?_, hrest⟩
  unfold Tables.command at *
  rw [hs, List.find?_append, hrow]
  rfl

theorem transaction_intact {i : Input} (hs : Intact r s)
    (h : Intact r (tx s).2) : Intact r (i.transaction tx s).2 := by
  rcases transaction_cases i tx s with ⟨e, -, heq | heq⟩ | heq
  · rw [heq]
    exact hs
  · rw [heq]
    exact h
  · rw [heq]
    exact h

theorem exec_intact (op : Call) (h : Intact r s) : Intact r (exec jsonb i op s).2 := by
  cases op with
  | load r | cancellation r => exact transaction_intact h h
  | claim r =>
    refine transaction_intact h (h.same ?_)
    unfold claimCallDispatch
    split
    · split <;> rfl
    · rfl
  | reject r' =>
    refine transaction_intact h ?_
    unfold rejectDispatch
    split
    · split
      · exact h
      · split
        · exact h.updated (f := rejectedCommand i.now) (fun _ => rfl) (fun _ => ⟨rfl, rfl⟩) rfl
        · exact h
    · exact h
  | submit r' =>
    apply transaction_intact h
    rcases submit_cases_rows r' none i.now s with heq | ⟨outbox, -, heq⟩
    · exact h.same (congrArg Tables.commands heq)
    · exact h.appended (congrArg Tables.commands heq)
  | transition t =>
    apply transaction_intact h
    have hmoved : ∀ current stored, Intact r (transitioned t current stored i.now s) := fun _ _ =>
      h.updated (f := transitionedRow t i.now) (fun _ => rfl) (fun _ => ⟨rfl, rfl⟩) rfl
    unfold transition
    split
    · exact h
    · split
      · exact hmoved _ _
      · split
        · exact h
        · exact hmoved _ _
  | reconcile r' =>
    apply transaction_intact h
    unfold reconcile
    split
    · exact h
    · split
      · exact h
      · refine h.updated (f := reconciledRow r' i.now) ?_ ?_ rfl
        all_goals
          intro c
          unfold reconciledRow
          split <;> simp
  | execute r | executed r | readback r | sleep => exact h

end Requests

end Middleware.Temporal

/-
What a call of the platform does to one command. A command is looked at through its `View`: the
operation and the number of its attempts. A call leaves the view alone, creates the command, or makes
a `Change`: a transition along the table and behind its fence, a verdict at the expected version, or an
operator's mutation. Claims, settlements and adapter calls change no view.

The answers the coroutines rely on (`rely`) hold in every well-formed store, so the platform is sound
for the pool's rules.
-/
import Middleware.Ledger.History
import Middleware.Platform.Kernel

namespace Middleware.Platform

open Ledger Lib MemoryCommandStore

/-- What the ledger says about a command. -/
structure View where
  operation : CommandOperation
  attempts : Nat

abbrev View.state (v : View) : CommandState := v.operation.state

def view (s : MemoryCommandStore) (k : Key) : Option View :=
  (s.commands.lookup k).map fun entry => ⟨entry.2, ((s.attempts.lookup k).getD []).length⟩

/-- The key of the command a ledger call writes. -/
def Call.key : Call → Option Key
  | .transition t => some t.key
  | .reconcile r => some r.key
  | .mutateOperation m => some m.key
  | _ => none

/-- How a ledger call may change a command. -/
inductive Change : Call → View → View → Prop
  | transition (t : Transition) (now : Time) (v : View) (edge : t.newState ∈ v.state.allowedTransitions)
      (fence : t.newState = .dispatching ∨ ∀ n ∈ t.expectedAttempt, (v.attempts : Int) = n) :
      Change (.transition t) v
        ⟨t.updated v.operation now, if t.newState = .dispatching then v.attempts + 1 else v.attempts⟩
  | reconcile (r : Reconciliation) (now : Time) (v : View) (parked : v.state = .reconciliationRequired)
      (version : ∀ n ∈ r.expectedVersion, (v.operation.resourceVersion : Int) = n) :
      Change (.reconcile r) v ⟨r.updated v.operation now, v.attempts⟩
  | mutate (m : Mutation) (now : Time) (v : View) {s : MemoryCommandStore} {changed : CommandOperation}
      {outbox : List MemoryOutboxIntent} (version : (v.operation.resourceVersion : Int) = m.expectedVersion)
      (mutated : Mutated s m v.operation now changed outbox) :
      Change (.mutateOperation m) v ⟨Mutation.updated v.operation changed now, v.attempts⟩

/-! ## What a change can do -/

theorem queued_of_dispatching {a : CommandState} (h : .dispatching ∈ a.allowedTransitions) : a = .queued := by
  revert h; cases a <;> decide

theorem into_queued {a : CommandState} (h : .queued ∈ a.allowedTransitions) :
    a = .persisted ∨ a = .reconciliationRequired ∨ a = .failed := by
  revert h; cases a <;> decide

variable {s : MemoryCommandStore} {o : CommandOperation}

section Change

variable {c : Call} {v v' : View}

theorem mutated_state {m : Mutation} {changed : CommandOperation} {now : Time}
    {outbox : List MemoryOutboxIntent} (h : Mutated s m o now changed outbox) :
    changed.state = .cancelled ∨ changed.state = .reconciliationRequired ∨
      changed.state = .queued ∧ m.action = .retry ∧ o.state = .failed := by
  cases h with
  | cancelled => exact .inl rfl
  | parked => exact .inr (.inl rfl)
  | reconciled => exact .inr (.inl rfl)
  | retried ha hn => exact .inr (.inr ⟨rfl, ha, hn⟩)

theorem Change.attempts (h : Change c v v') :
    (v.state = .queued ∧ v'.state = .dispatching ∧ v'.attempts = v.attempts + 1) ∨
      (v'.state ≠ .dispatching ∧ v'.attempts = v.attempts) := by
  cases h with
  | transition t now _ edge _ =>
    by_cases hd : t.newState = .dispatching
    · exact .inl ⟨queued_of_dispatching (hd ▸ edge), hd, by simp [hd]⟩
    · exact .inr ⟨hd, by simp [hd]⟩
  | reconcile r now _ _ _ =>
    refine .inr ⟨?_, rfl⟩
    simp only [View.state, Reconciliation.updated]
    split <;> decide
  | mutate m now _ _ mutated =>
    refine .inr ⟨?_, rfl⟩
    rcases mutated_state mutated with hs | hs | ⟨hs, -⟩ <;>
      simp [View.state, Mutation.updated, hs]

theorem Change.dispatching (h : Change c v v') (hs : v'.state = .dispatching) :
    ∃ t, c = .transition t ∧ t.newState = .dispatching := by
  cases h with
  | transition t now _ edge _ => exact ⟨t, rfl, hs⟩
  | reconcile r now _ _ _ =>
    simp only [View.state, Reconciliation.updated] at hs
    split at hs <;> cases hs
  | mutate m now _ _ mutated =>
    simp only [View.state, Mutation.updated] at hs
    rcases mutated_state mutated with h | h | ⟨h, -⟩ <;> rw [h] at hs <;> cases hs

theorem Change.not_persisted (h : Change c v v') : v'.state ≠ .persisted := by
  cases h with
  | transition t now _ edge _ =>
    rintro hp
    have hp : t.newState = .persisted := hp
    rw [hp] at edge
    revert edge
    cases v.state <;> decide
  | reconcile r now _ _ _ =>
    simp only [View.state, Reconciliation.updated]
    split <;> decide
  | mutate m now _ _ mutated =>
    rcases mutated_state mutated with hs | hs | ⟨hs, -⟩ <;> simp [View.state, Mutation.updated, hs]

/-- Into `queued` leads a transition, from `persisted`, `reconciliation_required` or `failed` and behind
its fence, or an operator's retry of a failed command. -/
theorem Change.into_queued (h : Change c v v') (hs : v'.state = .queued) :
    (∃ t, c = .transition t ∧ t.newState = .queued ∧
      (v.state = .persisted ∨ v.state = .reconciliationRequired ∨ v.state = .failed) ∧
      ∀ n ∈ t.expectedAttempt, (v.attempts : Int) = n) ∨
    (∃ m, c = .mutateOperation m ∧ m.action = .retry ∧ v.state = .failed) := by
  cases h with
  | transition t now _ edge fence =>
    have hs : t.newState = .queued := hs
    refine .inl ⟨t, rfl, hs, Platform.into_queued (hs ▸ edge), ?_⟩
    exact fence.resolve_left (by rw [hs]; decide)
  | reconcile r now _ _ _ =>
    simp only [View.state, Reconciliation.updated] at hs
    split at hs <;> cases hs
  | mutate m now _ _ mutated =>
    simp only [View.state, Mutation.updated] at hs
    rcases mutated_state mutated with h | h | ⟨-, h⟩
    · rw [h] at hs; cases hs
    · rw [h] at hs; cases hs
    · exact .inr ⟨m, rfl, h⟩

theorem Change.into_completed (h : Change c v v') (hs : v'.state = .completed) :
    (∃ t now, c = .transition t ∧ t.newState = .completed ∧ v'.operation = t.updated v.operation now) ∨
    (∃ r now, c = .reconcile r ∧ r.matched = true ∧ v'.operation = r.updated v.operation now) := by
  cases h with
  | transition t now _ edge fence => exact .inl ⟨t, now, rfl, hs, rfl⟩
  | reconcile r now _ _ _ =>
    refine .inr ⟨r, now, rfl, ?_, rfl⟩
    simp only [View.state, Reconciliation.updated] at hs
    split at hs
    · assumption
    · cases hs
  | mutate m now _ _ mutated =>
    simp only [View.state, Mutation.updated] at hs
    rcases mutated_state mutated with h | h | ⟨h, -⟩ <;> rw [h] at hs <;> cases hs

/-- A transition keeps the version and moves along the table; every other change takes the next version. -/
theorem Change.version (h : Change c v v') :
    (v'.operation.resourceVersion = v.operation.resourceVersion ∧ v'.state ∈ v.state.allowedTransitions) ∨
      v'.operation.resourceVersion = v.operation.resourceVersion + 1 := by
  cases h with
  | transition t now _ edge _ => exact .inl ⟨rfl, edge⟩
  | reconcile r now _ _ _ => exact .inr rfl
  | mutate m now _ _ mutated => exact .inr rfl

/-- A verdict is on a parked command, which it completes or leaves parked. -/
theorem Change.verdict {r : Reconciliation} (h : Change (.reconcile r) v v') :
    v.state = .reconciliationRequired ∧ (v'.state = .completed ∨ v'.state = .reconciliationRequired) ∧
      v'.operation.resourceVersion = v.operation.resourceVersion + 1 ∧ v'.attempts = v.attempts := by
  cases h with
  | reconcile _ now _ parked _ =>
    refine ⟨parked, ?_, rfl, rfl⟩
    simp only [View.state, Reconciliation.updated]
    split <;> simp

theorem Change.not_absorbing (h : Change c v v') : v.state.absorbing = false := by
  cases h with
  | transition t now _ edge _ =>
    revert edge
    cases v.state <;> simp [CommandState.allowedTransitions, CommandState.absorbing]
  | reconcile r now _ parked _ => rw [parked]; rfl
  | mutate m now _ _ mutated =>
    show v.operation.state.absorbing = false
    cases mutated with
    | cancelled _ hn => revert hn; cases v.operation.state <;> decide
    | parked _ hn => revert hn; cases v.operation.state <;> decide
    | reconciled _ hn => revert hn; cases v.operation.state <;> decide
    | retried _ hn => rw [hn]; rfl

end Change

/-! ## One call -/

variable {attempts : List OperationAttempt}

theorem view_recorded {s' : MemoryCommandStore} {k : Key} {digest : String}
    {events : List OperationEvent}
    (h : Recorded s s' k digest o events attempts) (k' : Key) :
    view s' k' = if k' = k then some ⟨o, attempts.length⟩ else view s k' := by
  unfold view
  rw [h.commands, lookup_insert_ite, h.attempts]
  split <;> rfl

theorem view_of_lookup {k : Key} {digest : String}
    (hc : s.commands.lookup k = some (digest, o))
    (ha : s.attempts.lookup k = some attempts) : view s k = some ⟨o, attempts.length⟩ := by
  simp [view, hc, ha]

theorem length_withLast (f : OperationAttempt → OperationAttempt) (attempts : List OperationAttempt) :
    (withLast f attempts).length = attempts.length := by
  unfold withLast
  cases hl : attempts.getLast? with
  | none => simp [List.getLast?_eq_none_iff.1 hl]
  | some last =>
    have hne : attempts ≠ [] := by rintro rfl; simp at hl
    simp [Nat.sub_add_cancel (List.length_pos_iff.2 hne)]

theorem length_transitionAttempts (t : Transition) (now : Time) (attempts : List OperationAttempt) :
    (transitionAttempts t now attempts).length =
      if t.newState = .dispatching then attempts.length + 1 else attempts.length := by
  unfold transitionAttempts
  split
  · simp
  · exact length_withLast _ _

theorem transition_view (hw : WF s) (t : Transition) (now : Time) :
    (∃ e, perform (MemoryCommandStore.transition t now) s = (.error e, s)) ∨
    ∃ v v' s', perform (MemoryCommandStore.transition t now) s = (.ok v'.operation, s') ∧
      view s t.key = some v ∧ Change (.transition t) v v' ∧ v'.operation = t.updated v.operation now ∧
      (∀ k, view s' k = if k = t.key then some v' else view s k) ∧ s'.outbox = s.outbox := by
  rcases transition_cases hw.synced t now with
    h | ⟨digest, o, events, attempts, s', hc, -, ha, hedge, hfence, -, h, hrec, hout, -⟩
  · exact .inl h
  · refine .inr ⟨⟨o, attempts.length⟩, _, s', h, view_of_lookup hc ha, .transition t now _ hedge hfence, rfl,
      fun k => ?_, hout⟩
    rw [view_recorded hrec k, length_transitionAttempts]

theorem reconcile_view (hw : WF s) (r : Reconciliation) (now : Time) :
    (∃ e, perform (MemoryCommandStore.reconcile r now) s = (.error e, s)) ∨
    ∃ v v' s', perform (MemoryCommandStore.reconcile r now) s = (.ok v'.operation, s') ∧
      view s r.key = some v ∧ Change (.reconcile r) v v' ∧ v'.operation = r.updated v.operation now ∧
      (∀ k, view s' k = if k = r.key then some v' else view s k) ∧ s'.outbox = s.outbox := by
  rcases reconcile_cases hw.synced r now with
    h | ⟨digest, o, events, attempts, s', hc, -, ha, hst, hver, h, hrec, hout, -⟩
  · exact .inl h
  · refine .inr ⟨⟨o, attempts.length⟩, _, s', h, view_of_lookup hc ha, .reconcile r now _ hst hver, rfl,
      fun k => ?_, hout⟩
    rw [view_recorded hrec k, length_withLast]

theorem mutate_view (hw : WF s) (m : Mutation) (now : Time) :
    (∃ r, perform (MemoryCommandStore.mutateOperation m now) s = (r, s)) ∨
    ∃ v v' s' changed, perform (MemoryCommandStore.mutateOperation m now) s = (.ok v'.operation, s') ∧
      view s m.key = some v ∧ Change (.mutateOperation m) v v' ∧ v'.state = changed.state ∧
      Mutated s m v.operation now changed s'.outbox ∧
      (∀ k, view s' k = if k = m.key then some v' else view s k) := by
  rcases mutateOperation_cases hw.synced m now with
    h | ⟨digest, o, changed, outbox, events, attempts, s', hc, -, ha, hver, hmut, h, hrec, hout⟩
  · exact .inl h
  · subst hout
    exact .inr ⟨⟨o, attempts.length⟩, ⟨Mutation.updated o changed now, attempts.length⟩, s', changed, h,
      view_of_lookup hc ha, .mutate m now ⟨o, attempts.length⟩ hver hmut, rfl, hmut, view_recorded hrec⟩

theorem submit_view (r : Submission) (now : Time) :
    (∃ reply, perform (MemoryCommandStore.submit r now) s = (reply, s)) ∨
    ∃ s', perform (MemoryCommandStore.submit r now) s = (.ok (r.operation now), s') ∧ view s r.key = none ∧
      (∀ k, view s' k = if k = r.key then some ⟨r.operation now, 0⟩ else view s k) ∧
      s'.outbox = s.outbox ++ [r.intent (s.outbox.length + 1)] := by
  rcases submit_cases (s := s) r now with h | ⟨s', hf, -, h, hc, -, ha, -, hout, -⟩
  · exact .inl h
  · refine .inr ⟨s', h, by simp [view, hf], fun k => ?_, hout⟩
    unfold view
    rw [hc, ha, lookup_insert_ite, lookup_insert_ite]
    split <;> rfl

/-! ## Reads -/

section Reads

variable {s : MemoryCommandStore} {tenantId : String} {commandId : Uuid}

theorem get_view : perform (MemoryCommandStore.get tenantId commandId) s =
    (match view s (tenantId, commandId) with
      | some v => .ok v.operation
      | none => .error (.commandNotFound "command operation was not found"), s) := by
  unfold MemoryCommandStore.get view
  simp only [perform_bind, perform_get]
  cases s.commands.lookup (tenantId, commandId) <;> rfl

theorem latestAttempt_view : perform (MemoryCommandStore.latestAttempt tenantId commandId) s =
    (match view s (tenantId, commandId) with
      | some v => .ok v.attempts
      | none => .error (.commandNotFound "command operation was not found"), s) := by
  unfold MemoryCommandStore.latestAttempt
  rw [perform_bind, get_view]
  unfold view
  cases s.commands.lookup (tenantId, commandId) <;> rfl

theorem loadEnvelope_store : (perform (MemoryCommandStore.loadEnvelope tenantId commandId) s).2 = s := by
  unfold MemoryCommandStore.loadEnvelope
  rw [perform_bind, get_view]
  cases view s (tenantId, commandId) with
  | none => rfl
  | some v =>
    simp only [perform_bind, perform_get, Ledger.item]
    cases s.payloads.lookup (tenantId, commandId) <;> rfl

end Reads

/-! ## Soundness -/

/-- The answers a coroutine relies on: an operation carries the key it was asked for, a transition that
succeeds answers with its new state, and only a full bulkhead keeps an execution from being called. -/
def rely : (c : Call) → Except Exc c.Answer → Prop
  | .get tenantId commandId, .ok o => o.tenantId = tenantId ∧ o.commandId = commandId
  | .transition t, .ok o => o.tenantId = t.tenantId ∧ o.commandId = t.commandId ∧ o.state = t.newState
  | .acquire _, .error e => ∃ message, e = .bulkheadFull message
  | .execute _ _ _, .error _ => False
  | _, _ => True

theorem view_key (hw : WF s) {k : Key} {v : View} (h : view s k = some v) :
    v.operation.tenantId = k.1 ∧ v.operation.commandId = k.2 := by
  obtain ⟨⟨digest, o⟩, hl, rfl⟩ := Option.map_eq_some_iff.1 h
  have := hw.keyed hl
  exact ⟨congrArg Prod.fst this, congrArg Prod.snd this⟩

theorem wf_of_stepped {α : Type} {r : Except Exc α × MemoryCommandStore} (hw : WF s)
    (h : Stepped s r) : WF r.2 := h.1.wf hw

theorem wf_outbox (hw : WF s) (outbox : List MemoryOutboxIntent) :
    WF { s with outbox := outbox } :=
  Step.wf hw (.same rfl rfl rfl rfl)

theorem exec_wf (hw : WF s) (i : Input) (c : Call) : WF (exec i c s).2 := by
  cases c with
  | get t c => rw [exec, get_view]; exact hw
  | loadEnvelope t c => rw [exec, loadEnvelope_store]; exact hw
  | latestAttempt t c => rw [exec, latestAttempt_view]; exact hw
  | submit r => exact wf_of_stepped hw (submit_step r i.now)
  | transition t => exact wf_of_stepped hw (transition_step hw.synced t i.now)
  | reconcile r => exact wf_of_stepped hw (reconcile_step hw.synced r i.now)
  | recordDeadLetter d => exact wf_of_stepped hw (recordDeadLetter_bystander d i.now).stepped
  | mutateOperation m => exact wf_of_stepped hw (mutate_step hw.synced m i.now)
  | busClaim b =>
    simp only [exec, MemoryExecutionBus.claim]
    split
    · exact hw
    · exact wf_outbox hw _
  | busSettle b id outcome => exact wf_outbox hw _
  | sourceClaim r lease =>
    simp only [exec, MemoryReconciliationSource.claim]
    split
    · exact hw
    · exact wf_outbox hw _
  | sourceResolve claim r action reason =>
    simp only [exec, MemoryReconciliationSource.resolve]
    split
    · exact hw
    · exact wf_outbox hw _
  | sourceRelease claim r reason =>
    simp only [exec, MemoryReconciliationSource.release]
    split
    · exact hw
    · exact wf_outbox hw _
  | _ => exact hw

theorem platform_sound : platform.Sound WF rely where
  keeps i c s hw := exec_wf hw i c
  answers i c s hw := by
    show rely c (exec i c s).1
    cases c with
    | get t c =>
      simp only [exec, get_view]
      cases hv : view s (t, c) with
      | none => trivial
      | some v => exact view_key hw hv
    | transition t =>
      simp only [exec]
      rcases transition_view hw t i.now with ⟨e, h⟩ | ⟨v, v', s', h, hv, -, hu, -⟩
      · rw [h]; trivial
      · rw [h, hu]
        exact ⟨(view_key hw hv).1, (view_key hw hv).2, rfl⟩
    | acquire a =>
      simp only [exec]
      cases i.bulkheadFull with
      | none => trivial
      | some message => exact ⟨message, rfl⟩
    | _ => trivial

/-! ## Entries of the log -/

/-- A call that wrote a command: the change it made, and nothing else changed in the ledger. -/
structure Wrote (e : Entry Call.Answer Exc MemoryCommandStore) (k : Key) (v v' : View) : Prop where
  ok : e.ok = true
  key : e.op.key = some k
  before : view e.before k = some v
  after : view e.after k = some v'
  change : Change e.op v v'

/-- What an executed call means for a command: nothing, its creation, or a write. -/
inductive Touched (e : Entry Call.Answer Exc MemoryCommandStore) (k : Key) : Prop
  | same (h : view e.after k = view e.before k)
  | created (r : Submission) (now : Time) (op : e.op = .submit r) (key : r.key = k) (fresh : view e.before k = none)
      (h : view e.after k = some ⟨r.operation now, 0⟩)
  | wrote {v v' : View} (h : Wrote e k v v')

abbrev Executed (e : Entry Call.Answer Exc MemoryCommandStore) : Prop :=
  ∃ i, exec i e.op e.before = (e.reply, e.after)

theorem touched {e : Entry Call.Answer Exc MemoryCommandStore} (hw : WF e.before) (he : Executed e) (k : Key) :
    Touched e k := by
  obtain ⟨⟨c, reply⟩, pid, s, s'⟩ := e
  obtain ⟨i, he⟩ := he
  have hs' : s' = (exec i c s).2 := by rw [he]
  -- a call that is not a ledger write leaves the commands and the attempts as they are
  have hother : ∀ {s'' : MemoryCommandStore}, s' = s'' → s''.commands = s.commands → s''.attempts = s.attempts →
      Touched ⟨⟨c, reply⟩, pid, s, s'⟩ k := by
    rintro s'' rfl hc ha
    exact .same (by simp only [view, hc, ha])
  cases c with
  | submit r =>
    rcases submit_view (s := s) r i.now with ⟨reply', h⟩ | ⟨s'', h, hf, hv, -⟩
    · exact hother (by rw [hs', exec, h]) rfl rfl
    · have hs'' : s' = s'' := by rw [hs', exec, h]
      subst hs''
      by_cases hk : k = r.key
      · subst hk; exact .created r i.now rfl rfl hf (by rw [hv]; simp)
      · exact .same (by rw [hv]; simp [hk])
  | transition t =>
    rcases transition_view hw t i.now with ⟨e, h⟩ | ⟨v, v', s'', h, hv, hch, -, hall, -⟩
    · exact hother (by rw [hs', exec, h]) rfl rfl
    · have hs'' : s' = s'' := by rw [hs', exec, h]
      have hr : reply = .ok v'.operation := by have := congrArg Prod.fst he; rw [exec, h] at this; exact this.symm
      subst hs'' hr
      by_cases hk : k = t.key
      · subst hk; exact .wrote ⟨rfl, rfl, hv, by rw [hall]; simp, hch⟩
      · exact .same (by rw [hall]; simp [hk])
  | reconcile r =>
    rcases reconcile_view hw r i.now with ⟨e, h⟩ | ⟨v, v', s'', h, hv, hch, -, hall, -⟩
    · exact hother (by rw [hs', exec, h]) rfl rfl
    · have hs'' : s' = s'' := by rw [hs', exec, h]
      have hr : reply = .ok v'.operation := by have := congrArg Prod.fst he; rw [exec, h] at this; exact this.symm
      subst hs'' hr
      by_cases hk : k = r.key
      · subst hk; exact .wrote ⟨rfl, rfl, hv, by rw [hall]; simp, hch⟩
      · exact .same (by rw [hall]; simp [hk])
  | mutateOperation m =>
    rcases mutate_view hw m i.now with ⟨r, h⟩ | ⟨v, v', s'', changed, h, hv, hch, -, -, hall⟩
    · exact hother (by rw [hs', exec, h]) rfl rfl
    · have hs'' : s' = s'' := by rw [hs', exec, h]
      have hr : reply = .ok v'.operation := by have := congrArg Prod.fst he; rw [exec, h] at this; exact this.symm
      subst hs'' hr
      by_cases hk : k = m.key
      · subst hk; exact .wrote ⟨rfl, rfl, hv, by rw [hall]; simp, hch⟩
      · exact .same (by rw [hall]; simp [hk])
  | get t c => exact hother (by rw [hs', exec, get_view]) rfl rfl
  | loadEnvelope t c => exact hother (by rw [hs', exec, loadEnvelope_store]) rfl rfl
  | latestAttempt t c => exact hother (by rw [hs', exec, latestAttempt_view]) rfl rfl
  | recordDeadLetter d =>
    have hb := recordDeadLetter_bystander (s := s) d i.now
    exact hother (by rw [hs', exec]) hb.commands hb.attempts
  | busClaim b =>
    simp only [exec, MemoryExecutionBus.claim] at hs'
    split at hs'
    · exact hother hs' rfl rfl
    · exact hother hs' rfl rfl
  | sourceClaim r lease =>
    simp only [exec, MemoryReconciliationSource.claim] at hs'
    split at hs'
    · exact hother hs' rfl rfl
    · exact hother hs' rfl rfl
  | sourceResolve claim r action reason =>
    simp only [exec, MemoryReconciliationSource.resolve] at hs'
    split at hs'
    · exact hother hs' rfl rfl
    · exact hother hs' rfl rfl
  | sourceRelease claim r reason =>
    simp only [exec, MemoryReconciliationSource.release] at hs'
    split at hs'
    · exact hother hs' rfl rfl
    · exact hother hs' rfl rfl
  | busSettle b id outcome => exact hother hs' rfl rfl
  | _ => exact hother hs' rfl rfl

end Middleware.Platform

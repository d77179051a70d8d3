/-
What each mutating call of the ledger can do. On a store whose dictionaries are in step (`Synced`) a
call either raises and leaves the store as it was, or it makes exactly the update its lemma lists,
under the guards its lemma lists. Everything proven about runs of the ledger is proven from these
lemmas and never by unfolding a call again.
-/
import Middleware.Ledger.Memory

namespace Middleware.Ledger

/-! ## Running a call -/

section Perform

variable {α β : Type} {s : MemoryCommandStore}

@[simp] theorem perform_pure (a : α) : perform (pure a) s = (.ok a, s) := rfl

@[simp] theorem perform_throw (e : Exc) : perform (throw e : LedgerM α) s = (.error e, s) := rfl

@[simp] theorem perform_get : perform (MonadState.get : LedgerM MemoryCommandStore) s = (.ok s, s) := rfl

@[simp] theorem perform_modify (f : MemoryCommandStore → MemoryCommandStore) :
    perform (modify f) s = (.ok PUnit.unit, f s) := rfl

/-- Sequencing: an exception ends the call with the store it was raised in. -/
@[simp] theorem perform_bind (x : LedgerM α) (f : α → LedgerM β) :
    perform (x >>= f) s = match perform x s with
      | (.ok a, s') => perform (f a) s'
      | (.error e, s') => (.error e, s') := by
  show (do
    let r ← x.run s
    (ExceptT.bindCont f r.1).run r.2 : Id _) = _
  unfold perform
  generalize x.run s = r
  obtain ⟨r | r, s'⟩ := r <;> rfl

@[simp] theorem perform_ite (c : Prop) [Decidable c] (x y : LedgerM α) :
    perform (if c then x else y) s = if c then perform x s else perform y s := by
  split <;> rfl

theorem perform_item {K V : Type} [DecidableEq K] {d : Dict K V} {key : K} {v : V}
    (h : d.lookup key = some v) : perform (item d key) s = (.ok v, s) := by
  simp [item, h]

end Perform

def Submission.admitted (r : Submission) (s : MemoryCommandStore) (now : Time) : MemoryCommandStore :=
  { s with
    commands :=
      s.commands.insert r.key (authenticatedCommandDigest r.command r.authenticatedClientId, r.operation now)
    idempotency := s.idempotency.insert (r.command.tenantId, r.command.idempotencyKey)
      (authenticatedCommandDigest r.command r.authenticatedClientId, r.operation now)
    events := s.events.insert r.key [r.event now]
    attempts := s.attempts.insert r.key []
    payloads := s.payloads.insert r.key (r.command, r.authenticatedClientId)
    outbox := s.outbox ++ [r.intent (s.outbox.length + 1)] }

namespace MemoryCommandStore

/-! ## Stores in step -/

/-- Every command has its list of events, its list of attempts and its payload. -/
structure Synced (s : MemoryCommandStore) : Prop where
  events : ∀ {k}, k ∈ s.commands → ∃ events, s.events.lookup k = some events
  attempts : ∀ {k}, k ∈ s.commands → ∃ attempts, s.attempts.lookup k = some attempts
  payloads : ∀ {k}, k ∈ s.commands → ∃ payload, s.payloads.lookup k = some payload

theorem lookup_insert_ite {K V : Type} [DecidableEq K] (d : Dict K V) (k k' : K) (v : V) :
    (d.insert k v).lookup k' = if k' = k then some v else d.lookup k' := by
  by_cases hk : k' = k
  · subst hk; simp
  · simp [hk, AList.lookup_insert_ne hk]

/-- The store after one more event of the command under `k`. -/
structure Recorded (s s' : MemoryCommandStore) (k : Key) (digest : String) (operation : CommandOperation)
    (events : List OperationEvent) (attempts : List OperationAttempt) : Prop where
  commands : s'.commands = s.commands.insert k (digest, operation)
  events : s'.events = s.events.insert k events
  attempts : ∀ k', s'.attempts.lookup k' = if k' = k then some attempts else s.attempts.lookup k'
  payloads : s'.payloads = s.payloads

variable {s : MemoryCommandStore}

theorem perform_appendEvent {k : Key} {event : Nat → OperationEvent}
    {events : List OperationEvent} (h : s.events.lookup k = some events) :
    perform (appendEvent k event) s =
      (.ok PUnit.unit, { s with events := s.events.insert k (events ++ [event (events.length + 1)]) }) := by
  simp [appendEvent, perform_item h]

/-- The attempts after the newest one was rewritten, when there is one. -/
def withLast (f : OperationAttempt → OperationAttempt) (attempts : List OperationAttempt) :
    List OperationAttempt :=
  match attempts.getLast? with
  | some last => attempts.dropLast ++ [f last]
  | none => []

theorem perform_updateLastAttempt {k : Key} {f : OperationAttempt → OperationAttempt}
    {attempts : List OperationAttempt} (h : s.attempts.lookup k = some attempts) :
    ∃ a : Dict Key (List OperationAttempt),
      perform (updateLastAttempt k f attempts) s = (.ok PUnit.unit, { s with attempts := a }) ∧
      ∀ k', a.lookup k' = if k' = k then some (withLast f attempts) else s.attempts.lookup k' := by
  unfold updateLastAttempt withLast
  cases hl : attempts.getLast? with
  | some last =>
    exact ⟨_, rfl, fun k' => lookup_insert_ite _ _ _ _⟩
  | none =>
    obtain rfl : attempts = [] := List.getLast?_eq_none_iff.1 hl
    refine ⟨s.attempts, rfl, fun k' => ?_⟩
    by_cases hk : k' = k
    · subst hk; simp [h]
    · simp [hk]

theorem Synced.lookups (hs : s.Synced) {k : Key} {entry : String × CommandOperation}
    (h : s.commands.lookup k = some entry) : ∃ events attempts,
      s.events.lookup k = some events ∧ s.attempts.lookup k = some attempts := by
  have hk : k ∈ s.commands := AList.lookup_isSome.1 (by simp [h])
  obtain ⟨events, he⟩ := hs.events hk
  obtain ⟨attempts, ha⟩ := hs.attempts hk
  exact ⟨events, attempts, he, ha⟩

theorem cancelState_eq (s : MemoryCommandStore) (m : Mutation) (operation : CommandOperation) :
    cancelState s m operation = .cancelled ∨ cancelState s m operation = .reconciliationRequired := by
  unfold cancelState
  simp only
  split <;> simp

section

variable {s : MemoryCommandStore}

/-! ## Transition -/

/-- The attempts after a transition: `dispatching` opens one, any other state closes the newest. -/
def transitionAttempts (t : Transition) (now : Time) (attempts : List OperationAttempt) : List OperationAttempt :=
  if t.newState = .dispatching then attempts ++ [t.openAttempt now (attempts.length + 1)]
  else withLast (t.closeAttempt now) attempts

/-- `transition` raises and changes nothing, or the edge is in the table, the fence holds (it does
not apply to `dispatching`), and the operation, its index, its event and its attempts are stored. -/
theorem transition_store (hs : s.Synced) (t : Transition) (now : Time) :
    (∃ e, perform (transition t now) s = (.error e, s)) ∨
    ∃ digest operation events attempts a,
      s.commands.lookup t.key = some (digest, operation) ∧
      s.events.lookup t.key = some events ∧ s.attempts.lookup t.key = some attempts ∧
      t.newState ∈ operation.state.allowedTransitions ∧
      (t.newState = .dispatching ∨ ∀ n ∈ t.expectedAttempt, (attempts.length : Int) = n) ∧
      (t.readbackEvidence.isSome → t.newState ∈ [CommandState.completed, .reconciliationRequired]) ∧
      (∀ k', AList.lookup k' a = if k' = t.key then some (transitionAttempts t now attempts) else s.attempts.lookup k') ∧
      perform (transition t now) s = (.ok (t.updated operation now),
        { s with
          commands := s.commands.insert t.key (digest, t.updated operation now)
          idempotency := s.idempotency.insert (t.tenantId, operation.idempotencyKey) (digest, t.updated operation now)
          events := s.events.insert t.key (events ++ [t.event operation now (events.length + 1)])
          attempts := a }) := by
  unfold transition
  simp only [perform_bind, perform_ite, perform_get, perform_throw]
  by_cases hev : t.readbackEvidence.isSome ∧ t.newState ∉ [CommandState.completed, .reconciliationRequired]
  · exact .inl ⟨_, by rw [if_pos hev]⟩
  rw [if_neg hev]
  cases hc : s.commands.lookup t.key with
  | none => exact .inl ⟨_, rfl⟩
  | some entry =>
    obtain ⟨digest, operation⟩ := entry
    obtain ⟨events, attempts, he, ha⟩ := hs.lookups hc
    simp only [perform_bind, perform_ite, perform_get, perform_throw, perform_pure, perform_modify, ha, Option.getD_some]
    by_cases hf : t.newState ≠ .dispatching ∧
        t.expectedAttempt.any (fun n => decide ((attempts.length : Int) ≠ n))
    · exact .inl ⟨_, by rw [if_pos hf]⟩
    rw [if_neg hf]
    by_cases hedge : t.newState ∉ operation.state.allowedTransitions
    · exact .inl ⟨_, by rw [if_pos hedge]⟩
    rw [if_neg hedge]
    rw [perform_appendEvent (by exact he)]
    simp only [perform_item ha]
    have hfence : t.newState = .dispatching ∨ ∀ n ∈ t.expectedAttempt, (attempts.length : Int) = n := by
      by_cases hd : t.newState = .dispatching
      · exact .inl hd
      · refine .inr fun n hn => ?_
        simpa [hd, Option.mem_def.1 hn] using hf
    have hevid : t.readbackEvidence.isSome →
        t.newState ∈ [CommandState.completed, .reconciliationRequired] :=
      fun h => by_contra fun h' => hev ⟨h, h'⟩
    right
    by_cases hd : t.newState = .dispatching
    · rw [if_pos hd]
      refine ⟨digest, operation, events, attempts, _, rfl, he, rfl, not_not.1 hedge, hfence, hevid, fun k' => ?_, rfl⟩
      rw [transitionAttempts, if_pos hd]
      exact lookup_insert_ite _ _ _ _
    · rw [if_neg hd]
      obtain ⟨a, hrun, hl⟩ := perform_updateLastAttempt (f := t.closeAttempt now)
        (s := { s with
          commands := s.commands.insert t.key (digest, t.updated operation now)
          idempotency := s.idempotency.insert (t.tenantId, (t.updated operation now).idempotencyKey)
            (digest, t.updated operation now)
          events := s.events.insert t.key (events ++ [t.event operation now (events.length + 1)]) }) ha
      rw [hrun]
      refine ⟨digest, operation, events, attempts, a, rfl, he, rfl, not_not.1 hedge, hfence, hevid, fun k' => ?_, rfl⟩
      rw [transitionAttempts, if_neg hd]
      exact hl k'

theorem transition_cases (hs : s.Synced) (t : Transition) (now : Time) :
    (∃ e, perform (transition t now) s = (.error e, s)) ∨
    ∃ digest operation events attempts s',
      s.commands.lookup t.key = some (digest, operation) ∧
      s.events.lookup t.key = some events ∧ s.attempts.lookup t.key = some attempts ∧
      t.newState ∈ operation.state.allowedTransitions ∧
      (t.newState = .dispatching ∨ ∀ n ∈ t.expectedAttempt, (attempts.length : Int) = n) ∧
      (t.readbackEvidence.isSome → t.newState ∈ [CommandState.completed, .reconciliationRequired]) ∧
      perform (transition t now) s = (.ok (t.updated operation now), s') ∧
      Recorded s s' t.key digest (t.updated operation now)
        (events ++ [t.event operation now (events.length + 1)]) (transitionAttempts t now attempts) ∧
      s'.outbox = s.outbox ∧ s'.mutations = s.mutations := by
  rcases transition_store hs t now with h | ⟨digest, operation, events, attempts, a, hc, he, ha, hedge, hfence, hevid, hl, h⟩
  · exact .inl h
  · exact .inr ⟨digest, operation, events, attempts, _, hc, he, ha, hedge, hfence, hevid, h, ⟨rfl, rfl, hl, rfl⟩, rfl, rfl⟩

/-! ## Reconcile -/

/-- `reconcile` raises and changes nothing, or the operation awaits reconciliation at the expected
version and the verdict is stored. -/
theorem reconcile_store (hs : s.Synced) (r : Reconciliation) (now : Time) :
    (∃ e, perform (reconcile r now) s = (.error e, s)) ∨
    ∃ digest operation events attempts a,
      s.commands.lookup r.key = some (digest, operation) ∧
      s.events.lookup r.key = some events ∧ s.attempts.lookup r.key = some attempts ∧
      operation.state = .reconciliationRequired ∧
      (∀ v ∈ r.expectedVersion, (operation.resourceVersion : Int) = v) ∧
      (∀ k', AList.lookup k' a = if k' = r.key then some (withLast (r.closeAttempt now) attempts) else s.attempts.lookup k') ∧
      perform (reconcile r now) s = (.ok (r.updated operation now),
        { s with
          commands := s.commands.insert r.key (digest, r.updated operation now)
          idempotency := s.idempotency.insert (r.tenantId, operation.idempotencyKey) (digest, r.updated operation now)
          events := s.events.insert r.key (events ++ [r.event now (events.length + 1)])
          attempts := a }) := by
  unfold reconcile
  simp only [perform_bind, perform_get]
  cases hc : s.commands.lookup r.key with
  | none => exact .inl ⟨_, rfl⟩
  | some entry =>
    obtain ⟨digest, operation⟩ := entry
    obtain ⟨events, attempts, he, ha⟩ := hs.lookups hc
    simp only [perform_bind, perform_ite, perform_get, perform_throw, perform_pure, perform_modify]
    by_cases hst : operation.state ≠ .reconciliationRequired
    · exact .inl ⟨_, by rw [if_pos hst]⟩
    rw [if_neg hst]
    by_cases hv : r.expectedVersion.any fun v => decide ((operation.resourceVersion : Int) ≠ v)
    · exact .inl ⟨_, by rw [if_pos hv]⟩
    rw [if_neg hv, perform_appendEvent (by exact he)]
    simp only [perform_item ha]
    have hver : ∀ v ∈ r.expectedVersion, (operation.resourceVersion : Int) = v := fun v hm => by
      simpa [Option.mem_def.1 hm] using hv
    obtain ⟨a, hrun, hl⟩ := perform_updateLastAttempt (f := r.closeAttempt now)
      (s := { s with
        commands := s.commands.insert r.key (digest, r.updated operation now)
        idempotency := s.idempotency.insert (r.tenantId, (r.updated operation now).idempotencyKey)
          (digest, r.updated operation now)
        events := s.events.insert r.key (events ++ [r.event now (events.length + 1)]) }) ha
    rw [hrun]
    exact .inr ⟨digest, operation, events, attempts, a, rfl, he, ha, not_not.1 hst, hver, hl, rfl⟩

theorem reconcile_cases (hs : s.Synced) (r : Reconciliation) (now : Time) :
    (∃ e, perform (reconcile r now) s = (.error e, s)) ∨
    ∃ digest operation events attempts s',
      s.commands.lookup r.key = some (digest, operation) ∧
      s.events.lookup r.key = some events ∧ s.attempts.lookup r.key = some attempts ∧
      operation.state = .reconciliationRequired ∧
      (∀ v ∈ r.expectedVersion, (operation.resourceVersion : Int) = v) ∧
      perform (reconcile r now) s = (.ok (r.updated operation now), s') ∧
      Recorded s s' r.key digest (r.updated operation now)
        (events ++ [r.event now (events.length + 1)]) (withLast (r.closeAttempt now) attempts) ∧
      s'.outbox = s.outbox ∧ s'.mutations = s.mutations := by
  rcases reconcile_store hs r now with h | ⟨digest, operation, events, attempts, a, hc, he, ha, hst, hver, hl, h⟩
  · exact .inl h
  · exact .inr ⟨digest, operation, events, attempts, _, hc, he, ha, hst, hver, h, ⟨rfl, rfl, hl, rfl⟩, rfl, rfl⟩

/-! ## Operator mutations -/

/-- What an operator's mutation makes of the operation and of the outbox. -/
inductive Mutated (s : MemoryCommandStore) (m : Mutation) (operation : CommandOperation) (now : Time) :
    CommandOperation → List MemoryOutboxIntent → Prop
  /-- An idle command is cancelled together with its unleased intents. -/
  | cancelled (ha : m.action = .cancel) (hn : operation.state ∉ notCancellable)
      (hc : cancelState s m operation = .cancelled) :
      Mutated s m operation now
        { operation with
          state := .cancelled, cancelledAt := some now, cancellationReason := some m.reason }
        (mapIntents m.tenantId m.commandId cancelIntent s.outbox)
  /-- A running one is parked, its intents left alone. -/
  | parked (ha : m.action = .cancel) (hn : operation.state ∉ notCancellable)
      (hc : cancelState s m operation = .reconciliationRequired) :
      Mutated s m operation now
        { operation with
          state := .reconciliationRequired, cancelledAt := none, cancellationReason := some m.reason }
        s.outbox
  | reconciled (ha : m.action = .reconcile) (hn : operation.state ∈ reconcilable) :
      Mutated s m operation now
        { operation with
          state := .reconciliationRequired, reconciliationRequestedAt := some now,
          reconciliationReason := some m.reason }
        (mapIntents m.tenantId m.commandId parkIntent s.outbox)
  | retried (ha : m.action = .retry) (hn : operation.state = .failed) :
      Mutated s m operation now { operation with state := .queued, lastError := none }
        (s.outbox ++ [retryIntent s m operation])

theorem mutationUpdates_cases (m : Mutation) (operation : CommandOperation) (now : Time) :
    (∃ e, perform (mutationUpdates m operation now) s = (.error e, s)) ∨
    ∃ changed outbox, Mutated s m operation now changed outbox ∧
      perform (mutationUpdates m operation now) s = (.ok changed, { s with outbox := outbox }) := by
  unfold mutationUpdates
  simp only [perform_bind, perform_get]
  cases ha : m.action with
  | cancel =>
    simp only [perform_bind, perform_ite, perform_throw, perform_modify, perform_pure]
    by_cases hn : operation.state ∈ notCancellable
    · exact .inl ⟨_, by rw [if_pos hn]⟩
    rw [if_neg hn]
    rcases cancelState_eq s m operation with hc | hc
    · exact .inr ⟨_, _, .cancelled ha hn hc, by simp [hc]⟩
    · exact .inr ⟨_, _, .parked ha hn hc, by simp [hc]⟩
  | reconcile =>
    simp only [perform_bind, perform_ite, perform_throw, perform_modify, perform_pure]
    by_cases hn : operation.state ∉ reconcilable
    · exact .inl ⟨_, by rw [if_pos hn]⟩
    exact .inr ⟨_, _, .reconciled ha (not_not.1 hn), by rw [if_neg hn]⟩
  | retry =>
    simp only [perform_bind, perform_ite, perform_throw, perform_modify, perform_pure]
    by_cases hn : operation.state ≠ .failed
    · exact .inl ⟨_, by rw [if_pos hn]⟩
    exact .inr ⟨_, _, .retried ha (not_not.1 hn), by rw [if_neg hn]⟩

/-- A known key is answered from the earlier call, or refused. -/
theorem mutateOperation_known (m : Mutation) (now : Time) {entry replay : String × CommandOperation}
    (hc : s.commands.lookup m.key = some entry) (hm : s.mutations.lookup m.mutationKey = some replay) :
    perform (mutateOperation m now) s =
      (if replay.1 = mutationDigest m.expectedVersion m.reason then .ok { replay.2 with duplicate := true }
        else .error (.commandConflict "idempotency key was reused with different mutation content"), s) := by
  unfold mutateOperation
  simp only [perform_bind, perform_get, hc, hm, perform_ite, perform_throw, perform_pure]
  by_cases h : replay.1 = mutationDigest m.expectedVersion m.reason
  · rw [if_neg (not_not.2 h), if_pos h]
  · rw [if_pos h, if_neg h]

/-- `mutate_operation` with a new key raises and changes nothing, or the version is the expected one and
the mutation is stored. The index by idempotency key is left as it is. -/
theorem mutateOperation_store (hs : s.Synced) (m : Mutation) (now : Time) (hm : s.mutations.lookup m.mutationKey = none) :
    (∃ e, perform (mutateOperation m now) s = (.error e, s)) ∨
    ∃ digest operation changed outbox events attempts,
      s.commands.lookup m.key = some (digest, operation) ∧
      s.events.lookup m.key = some events ∧ s.attempts.lookup m.key = some attempts ∧
      (operation.resourceVersion : Int) = m.expectedVersion ∧
      Mutated s m operation now changed outbox ∧
      perform (mutateOperation m now) s = (.ok (Mutation.updated operation changed now),
        { s with
          commands := s.commands.insert m.key (digest, Mutation.updated operation changed now)
          events := s.events.insert m.key
            (events ++ [m.event operation (Mutation.updated operation changed now) now (events.length + 1)])
          mutations := s.mutations.insert m.mutationKey
            (mutationDigest m.expectedVersion m.reason, Mutation.updated operation changed now)
          outbox := outbox }) := by
  unfold mutateOperation
  simp only [perform_bind, perform_get]
  cases hc : s.commands.lookup m.key with
  | none => exact .inl ⟨_, rfl⟩
  | some entry =>
    obtain ⟨digest, operation⟩ := entry
    obtain ⟨events, attempts, he, ha⟩ := hs.lookups hc
    simp only [hm, perform_bind, perform_ite, perform_throw, perform_modify, perform_pure]
    by_cases hv : (operation.resourceVersion : Int) ≠ m.expectedVersion
    · exact .inl ⟨_, by rw [if_pos hv]⟩
    rw [if_neg hv]
    rcases mutationUpdates_cases (s := s) m operation now with ⟨e, hrun⟩ | ⟨changed, outbox, hmut, hrun⟩
    · exact .inl ⟨_, by rw [hrun]⟩
    · rw [hrun]
      dsimp only
      rw [perform_appendEvent (by exact he)]
      exact .inr ⟨digest, operation, changed, outbox, events, attempts, rfl, he, ha, not_not.1 hv, hmut, rfl⟩

/-- `mutate_operation` raises, or answers from an earlier call with the same key, and changes nothing;
or the version is the expected one and the mutation is recorded. The attempts stay as they are. -/
theorem mutateOperation_cases (hs : s.Synced) (m : Mutation) (now : Time) :
    (∃ r, perform (mutateOperation m now) s = (r, s)) ∨
    ∃ digest operation changed outbox events attempts s',
      s.commands.lookup m.key = some (digest, operation) ∧
      s.events.lookup m.key = some events ∧ s.attempts.lookup m.key = some attempts ∧
      (operation.resourceVersion : Int) = m.expectedVersion ∧
      Mutated s m operation now changed outbox ∧
      perform (mutateOperation m now) s = (.ok (Mutation.updated operation changed now), s') ∧
      Recorded s s' m.key digest (Mutation.updated operation changed now)
        (events ++ [m.event operation (Mutation.updated operation changed now) now (events.length + 1)])
        attempts ∧
      s'.outbox = outbox := by
  cases hm : s.mutations.lookup m.mutationKey with
  | some replay =>
    cases hc : s.commands.lookup m.key with
    | none =>
      unfold mutateOperation
      simp only [perform_bind, perform_get, hc]
      exact .inl ⟨_, rfl⟩
    | some entry => exact .inl ⟨_, mutateOperation_known m now hc hm⟩
  | none =>
    rcases mutateOperation_store hs m now hm with
      ⟨e, h⟩ | ⟨digest, operation, changed, outbox, events, attempts, hc, he, ha, hv, hmut, h⟩
    · exact .inl ⟨_, h⟩
    · refine .inr ⟨digest, operation, changed, outbox, events, attempts, _, hc, he, ha, hv, hmut, h,
        ⟨rfl, rfl, fun k' => ?_, rfl⟩, rfl⟩
      by_cases hk : k' = m.key
      · subst hk; simp [ha]
      · simp [hk]

/-! ## Submit -/

/-- `submit` finds both identities new and stores the command, or answers with the operation an identity
names, when its digest matches and no other operation has the other identity, or it raises a conflict. -/
theorem submit_store (r : Submission) (now : Time) :
    (s.commands.lookup r.key = none ∧ s.idempotency.lookup (r.command.tenantId, r.command.idempotencyKey) = none ∧
      r.destination ∈ commandDestinations ∧ perform (submit r now) s = (.ok (r.operation now), r.admitted s now)) ∨
    (∃ digest operation, (s.commands.lookup r.key = some (digest, operation) ∨
        s.commands.lookup r.key = none ∧
          s.idempotency.lookup (r.command.tenantId, r.command.idempotencyKey) = some (digest, operation)) ∧
      commandDigestMatches digest r.command r.authenticatedClientId = true ∧
      perform (submit r now) s = (.ok { operation with duplicate := true }, s)) ∨
    ∃ message, perform (submit r now) s = (.error (.commandConflict message), s) := by
  unfold submit
  simp only [perform_bind, perform_ite, perform_get, perform_throw]
  by_cases hd : r.destination ∉ commandDestinations
  · exact .inr (.inr ⟨_, by rw [if_pos hd]⟩)
  rw [if_neg hd]
  cases hid : s.commands.lookup r.key with
  | some byId =>
    right
    cases hmatch : commandDigestMatches byId.1 r.command r.authenticatedClientId with
    | true =>
      cases hkey : s.idempotency.lookup (r.command.tenantId, r.command.idempotencyKey) with
      | some byKey =>
        by_cases hne : byId.2.commandId = byKey.2.commandId
        · exact .inl ⟨byId.1, byId.2, .inl rfl, hmatch, by simp [hne, hmatch]⟩
        · exact .inr ⟨_, by simp [hne]; rfl⟩
      | none => exact .inl ⟨byId.1, byId.2, .inl rfl, hmatch, by simp [hmatch]⟩
    | false =>
      right
      cases hkey : s.idempotency.lookup (r.command.tenantId, r.command.idempotencyKey) with
      | some byKey =>
        by_cases hne : byId.2.commandId = byKey.2.commandId
        · exact ⟨_, by simp [hne, hmatch]; rfl⟩
        · exact ⟨_, by simp [hne]; rfl⟩
      | none => exact ⟨_, by simp [hmatch]; rfl⟩
  | none =>
    cases hkey : s.idempotency.lookup (r.command.tenantId, r.command.idempotencyKey) with
    | some byKey =>
      right
      cases hmatch : commandDigestMatches byKey.1 r.command r.authenticatedClientId with
      | true => exact .inl ⟨byKey.1, byKey.2, .inr ⟨rfl, rfl⟩, hmatch, by simp [hmatch]⟩
      | false => exact .inr ⟨_, by simp [hmatch]; rfl⟩
    | none => exact .inl ⟨rfl, rfl, not_not.1 hd, rfl⟩

theorem submit_cases (r : Submission) (now : Time) :
    (∃ reply, perform (submit r now) s = (reply, s)) ∨
    ∃ s', s.commands.lookup r.key = none ∧ r.destination ∈ commandDestinations ∧
      perform (submit r now) s = (.ok (r.operation now), s') ∧
      s'.commands =
        s.commands.insert r.key (authenticatedCommandDigest r.command r.authenticatedClientId, r.operation now) ∧
      s'.events = s.events.insert r.key [r.event now] ∧ s'.attempts = s.attempts.insert r.key [] ∧
      s'.payloads = s.payloads.insert r.key (r.command, r.authenticatedClientId) ∧
      s'.outbox = s.outbox ++ [r.intent (s.outbox.length + 1)] ∧ s'.mutations = s.mutations := by
  rcases submit_store (s := s) r now with ⟨hc, -, hd, h⟩ | ⟨_, _, -, -, h⟩ | ⟨_, h⟩
  · exact .inr ⟨_, hc, hd, h, rfl, rfl, rfl, rfl, rfl, rfl⟩
  · exact .inl ⟨_, h⟩
  · exact .inl ⟨_, h⟩

/-! ## Dead letters and replays -/

/-- The calls that record dead letters and replays leave the commands, their histories and the outbox
alone, and change nothing at all when they raise. -/
structure Bystander {α : Type} (s : MemoryCommandStore) (r : Except Exc α × MemoryCommandStore) : Prop where
  commands : r.2.commands = s.commands
  events : r.2.events = s.events
  attempts : r.2.attempts = s.attempts
  payloads : r.2.payloads = s.payloads
  outbox : r.2.outbox = s.outbox
  raised : ∀ e, r.1 = .error e → r.2 = s

theorem Bystander.same {α : Type} {s : MemoryCommandStore} (r : Except Exc α) : Bystander s (r, s) :=
  ⟨rfl, rfl, rfl, rfl, rfl, fun _ _ => rfl⟩

theorem recordDeadLetter_bystander (d : DeadLetter) (now : Time) :
    Bystander s (perform (recordDeadLetter d now) s) := by
  unfold recordDeadLetter latestAttempt get
  simp only [perform_bind, perform_get]
  cases hc : s.commands.lookup (d.tenantId, d.commandId) with
  | none => exact .same _
  | some entry =>
    simp only [perform_pure]
    cases hl : s.deadLetters.lookup (d.tenantId, d.commandId) with
    | some existing => exact .same _
    | none =>
      simp only [perform_bind, perform_get, hc, perform_pure, perform_modify]
      exact ⟨rfl, rfl, rfl, rfl, rfl, fun e h => by cases h⟩

theorem createReplay_bystander (r : ReplayRequest) (now : Time) :
    Bystander s (perform (createReplay r now) s) := by
  unfold createReplay getDeadLetter
  simp only [perform_bind, perform_get]
  cases hc : s.deadLetters.lookup (r.tenantId, r.commandId) with
  | none => exact .same _
  | some row =>
    simp only [perform_pure]
    cases hk : s.replayKeys.lookup (r.tenantId, r.commandId, r.idempotencyKey) with
    | some existingId =>
      simp only [perform_bind, perform_get]
      cases hr : s.replays.lookup (r.tenantId, existingId) with
      | none => simp only [item, hr, perform_throw]; exact .same _
      | some existing =>
        simp only [perform_item hr, perform_bind, perform_ite, perform_throw, perform_pure]
        split
        · exact .same _
        · exact .same _
    | none =>
      exact ⟨rfl, rfl, rfl, rfl, rfl, fun e h => by cases h⟩

theorem completeReplay_bystander (tenantId : String) (replayId replayCommandId : Uuid) :
    Bystander s (perform (completeReplay tenantId replayId replayCommandId) s) := by
  unfold completeReplay
  simp only [perform_bind, perform_get]
  cases hc : s.replays.lookup (tenantId, replayId) with
  | none => exact .same _
  | some row =>
    simp only [perform_bind, perform_ite, perform_throw, perform_modify, perform_pure]
    split
    · exact .same _
    · exact ⟨rfl, rfl, rfl, rfl, rfl, fun e h => by cases h⟩

theorem cancelReplay_bystander (tenantId : String) (replayId : Uuid) (now : Time) :
    Bystander s (perform (cancelReplay tenantId replayId now) s) := by
  unfold cancelReplay
  simp only [perform_bind, perform_get]
  cases hc : s.replays.lookup (tenantId, replayId) with
  | none => exact .same _
  | some row =>
    simp only [perform_bind, perform_ite, perform_throw, perform_modify, perform_pure]
    split
    · exact .same _
    · exact ⟨rfl, rfl, rfl, rfl, rfl, fun e h => by cases h⟩

end

end MemoryCommandStore

end Middleware.Ledger

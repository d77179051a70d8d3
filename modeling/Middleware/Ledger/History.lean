/-
The history of a command over whole runs of the ledger: any sequence of the store's mutating calls,
those that raise included. Every call is a `Step` (nothing recorded, one event appended to one
command, or a command created), and the invariant `WF` with the order `Advances` between
operations is carried along steps: event ids are 1..n and chained from `persisted` to the current
state, attempts are numbered 1..m and there is one for each `dispatching` event, identities never
change, a final state is final, and an exception leaves no trace.
-/
import Middleware.Ledger.Effects

namespace Middleware.Ledger

/-! ## One command -/

/-- The events and attempts of an operation tell one story. -/
structure Tracked (operation : CommandOperation) (events : List OperationEvent)
    (attempts : List OperationAttempt) : Prop where
  ids : events.map (·.eventId) = List.range' 1 events.length
  first : ∃ e, events.head? = some e ∧ e.previousState = none ∧ e.newState = .persisted
  chain : events.IsChain fun a b => b.previousState = some a.newState
  last : ∃ e, events.getLast? = some e ∧ e.newState = operation.state
  numbers : attempts.map (·.attemptNumber) = List.range' 1 attempts.length
  opened : attempts.length = events.countP (·.newState = .dispatching)

/-- What never changes in an operation. -/
def CommandOperation.identity (o : CommandOperation) : Uuid × String × String × String × String × String :=
  (o.commandId, o.tenantId, o.commandType, o.target, o.idempotencyKey, o.capability)

/-- One recorded change of a command: the event continues the chain, the attempts keep their numbers
and one more is opened exactly when the new state is `dispatching`. -/
structure Follows (o o' : CommandOperation) (n : Nat) (event : OperationEvent)
    (attempts attempts' : List OperationAttempt) : Prop where
  identity : o'.identity = o.identity
  live : o.state.absorbing = false
  eventId : event.eventId = n + 1
  previous : event.previousState = some o.state
  next : event.newState = o'.state
  numbers : attempts'.map (·.attemptNumber) = attempts.map (·.attemptNumber) ++
    if event.newState = .dispatching then [attempts.length + 1] else []

variable {o : CommandOperation} {events : List OperationEvent}

theorem Tracked.append {o' : CommandOperation} {event : OperationEvent}
    {attempts attempts' : List OperationAttempt} (h : Tracked o events attempts)
    (hf : Follows o o' events.length event attempts attempts') :
    Tracked o' (events ++ [event]) attempts' := by
  obtain ⟨first, hfirst, hnone, hper⟩ := h.first
  obtain ⟨last, hlast, hstate⟩ := h.last
  have hlen : attempts'.length = attempts.length + if event.newState = .dispatching then 1 else 0 := by
    have := congrArg List.length hf.numbers
    simp only [List.length_map, List.length_append] at this
    rw [this]; split <;> rfl
  refine ⟨?_, ⟨first, by simp [hfirst], hnone, hper⟩, ?_, ⟨event, by simp, hf.next⟩, ?_, ?_⟩
  · rw [List.map_append, h.ids, List.length_append, List.length_singleton, List.range'_concat]
    simp [hf.eventId, Nat.add_comm]
  · rw [List.isChain_append]
    refine ⟨h.chain, List.isChain_singleton _, fun a ha b hb => ?_⟩
    simp only [List.head?_cons, Option.mem_def, Option.some.injEq] at hb
    rw [Option.mem_def, hlast, Option.some.injEq] at ha
    rw [← hb, hf.previous, ← ha, hstate]
  · rw [hf.numbers, h.numbers, hlen]
    split
    · rw [List.range'_concat]; simp [Nat.add_comm]
    · simp
  · rw [hlen, h.opened, List.countP_append, List.countP_singleton]
    split <;> simp_all

theorem map_attemptNumber_withLast {f : OperationAttempt → OperationAttempt}
    (hf : ∀ a, (f a).attemptNumber = a.attemptNumber) (attempts : List OperationAttempt) :
    (MemoryCommandStore.withLast f attempts).map (·.attemptNumber) = attempts.map (·.attemptNumber) := by
  unfold MemoryCommandStore.withLast
  cases hl : attempts.getLast? with
  | none => simp [List.getLast?_eq_none_iff.1 hl]
  | some last =>
    conv_rhs => rw [← List.dropLast_append_getLast? last hl]
    simp [hf]

open MemoryCommandStore

/-! ## Steps -/

/-- What a call does to the commands and their histories. -/
inductive Step (s s' : MemoryCommandStore) : Prop
  | same (commands : s'.commands = s.commands) (events : s'.events = s.events)
      (attempts : s'.attempts = s.attempts) (payloads : s'.payloads = s.payloads)
  | recorded {k : Key} {digest : String} {o o' : CommandOperation} {events : List OperationEvent}
      {event : OperationEvent} {attempts attempts' : List OperationAttempt}
      (command : s.commands.lookup k = some (digest, o)) (event_list : s.events.lookup k = some events)
      (attempt_list : s.attempts.lookup k = some attempts)
      (follows : Follows o o' events.length event attempts attempts')
      (recorded : Recorded s s' k digest o' (events ++ [event]) attempts')
  | created (r : Submission) (now : Time) {digest : String} (fresh : s.commands.lookup r.key = none)
      (commands : s'.commands = s.commands.insert r.key (digest, r.operation now))
      (events : s'.events = s.events.insert r.key [r.event now])
      (attempts : s'.attempts = s.attempts.insert r.key [])
      (payloads : s'.payloads = s.payloads.insert r.key (r.command, r.authenticatedClientId))

/-- Every command of the store is tracked under its own key and can be loaded. -/
structure WF (s : MemoryCommandStore) : Prop where
  tracked : ∀ {k digest o}, s.commands.lookup k = some (digest, o) → ∃ events attempts,
    s.events.lookup k = some events ∧ s.attempts.lookup k = some attempts ∧ Tracked o events attempts
  keyed : ∀ {k digest o}, s.commands.lookup k = some (digest, o) → (o.tenantId, o.commandId) = k
  loadable : ∀ {k}, k ∈ s.commands → ∃ payload, s.payloads.lookup k = some payload

variable {s : MemoryCommandStore}

theorem WF.synced (h : WF s) : s.Synced := by
  have hm : ∀ {k}, k ∈ s.commands → ∃ digest o, s.commands.lookup k = some (digest, o) := fun hk => by
    obtain ⟨⟨digest, o⟩, he⟩ := Option.isSome_iff_exists.1 (AList.lookup_isSome.2 hk)
    exact ⟨digest, o, he⟩
  refine ⟨fun hk => ?_, fun hk => ?_, h.loadable⟩
  · obtain ⟨_, _, he⟩ := hm hk
    obtain ⟨events, _, hev, -⟩ := h.tracked he
    exact ⟨events, hev⟩
  · obtain ⟨_, _, he⟩ := hm hk
    obtain ⟨_, attempts, -, hat, -⟩ := h.tracked he
    exact ⟨attempts, hat⟩

theorem WF.empty : WF {} := ⟨fun h => by simp at h, fun h => by simp at h, fun h => by simp at h⟩

/-- How an operation may evolve: under the same identity, and not at all out of a final state. -/
structure Advances (o o' : CommandOperation) : Prop where
  identity : o'.identity = o.identity
  final : o.state.absorbing = true → o' = o

theorem Advances.refl (o : CommandOperation) : Advances o o := ⟨rfl, fun _ => rfl⟩

theorem Advances.trans {a b c : CommandOperation} (h : Advances a b) (h' : Advances b c) : Advances a c :=
  ⟨h'.identity.trans h.identity, fun hf => by
    obtain rfl := h.final hf
    exact h'.final hf⟩

/-- Every command of `s` is in `s'`, under the same digest and no earlier in its life. -/
def Extends (s s' : MemoryCommandStore) : Prop :=
  ∀ {k digest o}, s.commands.lookup k = some (digest, o) →
    ∃ o', s'.commands.lookup k = some (digest, o') ∧ Advances o o'

theorem tracked_created (r : Submission) (now : Time) : Tracked (r.operation now) [r.event now] [] :=
  ⟨rfl, ⟨_, rfl, rfl, rfl⟩, List.isChain_singleton _, ⟨_, rfl, rfl⟩, rfl, by simp [Submission.event]⟩

variable {s' : MemoryCommandStore}

theorem Step.wf (hw : WF s) (h : Step s s') : WF s' := by
  cases h with
  | same hc he ha hp => exact ⟨by rw [hc, he, ha]; exact hw.tracked, by rw [hc]; exact hw.keyed,
      by rw [hc, hp]; exact hw.loadable⟩
  | @recorded k digest o o' events event attempts attempts' hc he ha hf hr =>
    obtain ⟨events₀, attempts₀, he₀, ha₀, htr⟩ := hw.tracked hc
    obtain rfl : events = events₀ := Option.some.inj (he.symm.trans he₀)
    obtain rfl : attempts = attempts₀ := Option.some.inj (ha.symm.trans ha₀)
    have hkey := hw.keyed hc
    refine ⟨fun {k' d p} hl => ?_, fun {k' d p} hl => ?_, fun {k'} hk => ?_⟩
    · rw [hr.commands, lookup_insert_ite] at hl
      rw [hr.events, lookup_insert_ite, hr.attempts]
      by_cases hk : k' = k
      · rw [if_pos hk] at hl
        cases hl
        exact ⟨_, _, if_pos hk, if_pos hk, htr.append hf⟩
      · rw [if_neg hk] at hl
        rw [if_neg hk, if_neg hk]
        exact hw.tracked hl
    · rw [hr.commands, lookup_insert_ite] at hl
      split at hl
      · rename_i hk'
        cases hl
        have hid := hf.identity
        simp only [CommandOperation.identity, Prod.mk.injEq] at hid
        rw [hid.1, hid.2.1, hkey, hk']
      · exact hw.keyed hl
    · rw [hr.commands, AList.mem_insert] at hk
      rw [hr.payloads]
      rcases hk with rfl | hk
      · exact hw.loadable (AList.lookup_isSome.1 (by simp [hc]))
      · exact hw.loadable hk
  | created r now hf hc he ha hp =>
    refine ⟨fun {k' d p} hl => ?_, fun {k' d p} hl => ?_, fun {k'} hk => ?_⟩
    · rw [hc, lookup_insert_ite] at hl
      rw [he, ha, lookup_insert_ite, lookup_insert_ite]
      by_cases hk : k' = r.key
      · rw [if_pos hk] at hl
        cases hl
        exact ⟨_, _, if_pos hk, if_pos hk, tracked_created r now⟩
      · rw [if_neg hk] at hl
        rw [if_neg hk, if_neg hk]
        exact hw.tracked hl
    · rw [hc, lookup_insert_ite] at hl
      split at hl
      · rename_i hk'
        cases hl
        exact hk'.symm
      · exact hw.keyed hl
    · rw [hc, AList.mem_insert] at hk
      rw [hp, lookup_insert_ite]
      split
      · exact ⟨_, rfl⟩
      · exact hw.loadable (hk.resolve_left ‹_›)

theorem Step.extends (h : Step s s') : Extends s s' := by
  intro k digest o hl
  cases h with
  | same hc he ha hp => exact ⟨o, by rw [hc]; exact hl, .refl o⟩
  | @recorded k' digest' p p' events event attempts attempts' hc he ha hf hr =>
    rw [hr.commands, lookup_insert_ite]
    split
    · rename_i hk
      subst hk
      cases hl.symm.trans hc
      exact ⟨p', rfl, hf.identity, fun hfin => by rw [hf.live] at hfin; cases hfin⟩
    · exact ⟨o, hl, .refl o⟩
  | created r now hf hc he ha hp =>
    rw [hc, lookup_insert_ite]
    split
    · rename_i hk
      rw [hk, hf] at hl
      cases hl
    · exact ⟨o, hl, .refl o⟩

/-! ## Calls -/

inductive LedgerCall where
  | submit (r : Submission)
  | transition (t : Transition)
  | mutateOperation (m : Mutation)
  | reconcile (r : Reconciliation)
  | recordDeadLetter (d : DeadLetter)
  | createReplay (r : ReplayRequest)
  | completeReplay (tenantId : String) (replayId replayCommandId : Uuid)
  | cancelReplay (tenantId : String) (replayId : Uuid)

variable {α : Type}

theorem perform_discard (x : LedgerM α) (s : MemoryCommandStore) :
    perform (discard x) s = ((perform x s).1.map fun _ => (), (perform x s).2) := by
  show perform (x >>= fun _ => pure ()) s = _
  rw [perform_bind]
  rcases perform x s with ⟨e | a, s'⟩ <;> rfl

theorem absorbing_of_edge {t : CommandState} (h : t ∈ o.state.allowedTransitions) :
    o.state.absorbing = false := by
  cases hs : o.state <;> simp_all [CommandState.allowedTransitions, CommandState.absorbing]

def LedgerCall.action (now : Time) : LedgerCall → LedgerM Unit
  | .submit r => discard (MemoryCommandStore.submit r now)
  | .transition t => discard (MemoryCommandStore.transition t now)
  | .mutateOperation m => discard (MemoryCommandStore.mutateOperation m now)
  | .reconcile r => discard (MemoryCommandStore.reconcile r now)
  | .recordDeadLetter d => discard (MemoryCommandStore.recordDeadLetter d now)
  | .createReplay r => discard (MemoryCommandStore.createReplay r now)
  | .completeReplay tenantId replayId replayCommandId =>
    discard (MemoryCommandStore.completeReplay tenantId replayId replayCommandId)
  | .cancelReplay tenantId replayId => discard (MemoryCommandStore.cancelReplay tenantId replayId now)

/-- The store after a sequence of calls, each made at its own time. -/
def runCalls (s : MemoryCommandStore) (calls : List (LedgerCall × Time)) : MemoryCommandStore :=
  calls.foldl (fun s c => (perform (c.1.action c.2) s).2) s

variable {now : Time}

theorem transition_follows {t : Transition} (n : Nat)
    (attempts : List OperationAttempt) (h : t.newState ∈ o.state.allowedTransitions) :
    Follows o (t.updated o now) n (t.event o now (n + 1)) attempts (transitionAttempts t now attempts) := by
  refine ⟨rfl, absorbing_of_edge h, rfl, rfl, rfl, ?_⟩
  unfold transitionAttempts
  by_cases hd : t.newState = .dispatching
  · simp [hd, Transition.event, Transition.openAttempt]
  · simp [hd, Transition.event, map_attemptNumber_withLast (f := t.closeAttempt now) fun _ => rfl]

theorem reconcile_follows {r : Reconciliation} (n : Nat)
    (attempts : List OperationAttempt) (h : o.state = .reconciliationRequired) :
    Follows o (r.updated o now) n (r.event now (n + 1)) attempts (withLast (r.closeAttempt now) attempts) := by
  refine ⟨rfl, by rw [h]; rfl, rfl, by rw [h]; rfl, rfl, ?_⟩
  rw [map_attemptNumber_withLast (f := r.closeAttempt now) fun _ => rfl]
  have hne : (r.event now (n + 1)).newState ≠ .dispatching := by
    simp only [Reconciliation.event]; split <;> simp
  rw [if_neg hne, List.append_nil]

theorem mutate_follows {m : Mutation} {changed : CommandOperation}
    {outbox : List MemoryOutboxIntent} (n : Nat) (attempts : List OperationAttempt)
    (h : Mutated s m o now changed outbox) :
    Follows o (Mutation.updated o changed now) n (m.event o (Mutation.updated o changed now) now (n + 1))
      attempts attempts := by
  cases h with
  | cancelled _ hn | parked _ hn =>
    refine ⟨rfl, ?_, rfl, rfl, rfl, by simp [Mutation.event, Mutation.updated]⟩
    cases hs : o.state <;> simp_all [notCancellable, CommandState.absorbing]
  | reconciled _ hn =>
    refine ⟨rfl, ?_, rfl, rfl, rfl, by simp [Mutation.event, Mutation.updated]⟩
    cases hs : o.state <;> simp_all [reconcilable, CommandState.absorbing]
  | retried _ hn =>
    exact ⟨rfl, by rw [hn]; rfl, rfl, rfl, rfl, by simp [Mutation.event, Mutation.updated]⟩

/-- A call is a step that changes nothing when it raises. -/
def Stepped {α : Type} (s : MemoryCommandStore) (r : Except Exc α × MemoryCommandStore) : Prop :=
  Step s r.2 ∧ ∀ e, r.1 = .error e → r.2 = s

theorem Stepped.same (r : Except Exc α) : Stepped s (r, s) :=
  ⟨.same rfl rfl rfl rfl, fun _ _ => rfl⟩

theorem MemoryCommandStore.Bystander.stepped
    {r : Except Exc α × MemoryCommandStore} (h : Bystander s r) : Stepped s r :=
  ⟨.same h.commands h.events h.attempts h.payloads, h.raised⟩

theorem submit_step (r : Submission) (now : Time) :
    Stepped s (perform (submit r now) s) := by
  rcases submit_cases (s := s) r now with ⟨reply, h⟩ | ⟨s', hf, -, h, hc, he, ha, hp, -⟩
  · rw [h]; exact .same reply
  · rw [h]; exact ⟨.created r now hf hc he ha hp, fun _ he => by cases he⟩

theorem transition_step (hs : s.Synced) (t : Transition) (now : Time) :
    Stepped s (perform (transition t now) s) := by
  rcases transition_cases hs t now with
    ⟨e, h⟩ | ⟨digest, o, events, attempts, s', hc, he, ha, hedge, -, -, h, hrec, -⟩
  · rw [h]; exact .same _
  · rw [h]; exact ⟨.recorded hc he ha (transition_follows _ _ hedge) hrec, fun _ he => by cases he⟩

theorem mutate_step (hs : s.Synced) (m : Mutation) (now : Time) :
    Stepped s (perform (mutateOperation m now) s) := by
  rcases mutateOperation_cases hs m now with
    ⟨r, h⟩ | ⟨digest, o, changed, outbox, events, attempts, s', hc, he, ha, -, hmut, h, hrec, -⟩
  · rw [h]; exact .same r
  · rw [h]; exact ⟨.recorded hc he ha (mutate_follows _ _ hmut) hrec, fun _ he => by cases he⟩

theorem reconcile_step (hs : s.Synced) (r : Reconciliation) (now : Time) :
    Stepped s (perform (reconcile r now) s) := by
  rcases reconcile_cases hs r now with
    ⟨e, h⟩ | ⟨digest, o, events, attempts, s', hc, he, ha, hst, -, h, hrec, -⟩
  · rw [h]; exact .same _
  · rw [h]; exact ⟨.recorded hc he ha (reconcile_follows _ _ hst) hrec, fun _ he => by cases he⟩

theorem action_step (hs : s.Synced) (c : LedgerCall) (now : Time) :
    Stepped s (perform (c.action now) s) := by
  have hd : ∀ {α : Type} {x : LedgerM α}, Stepped s (perform x s) → Stepped s (perform (discard x) s) := by
    intro α x h
    rw [perform_discard]
    refine ⟨h.1, fun e he => ?_⟩
    cases hr : (perform x s).1 with
    | error e' => exact h.2 e' hr
    | ok a => rw [hr] at he; cases he
  cases c with
  | submit r => exact hd (submit_step r now)
  | transition t => exact hd (transition_step hs t now)
  | mutateOperation m => exact hd (mutate_step hs m now)
  | reconcile r => exact hd (reconcile_step hs r now)
  | recordDeadLetter d => exact hd (recordDeadLetter_bystander d now).stepped
  | createReplay r => exact hd (createReplay_bystander r now).stepped
  | completeReplay t i c => exact hd (completeReplay_bystander t i c).stepped
  | cancelReplay t i => exact hd (cancelReplay_bystander t i now).stepped

/-! ## Runs -/

theorem runCalls_wf (calls : List (LedgerCall × Time)) (hw : WF s) :
    WF (runCalls s calls) ∧ Extends s (runCalls s calls) := by
  induction calls generalizing s with
  | nil => exact ⟨hw, fun {k digest o} h => ⟨o, h, .refl o⟩⟩
  | cons c calls ih =>
    have hstep := (action_step hw.synced c.1 c.2).1
    obtain ⟨hw', hext⟩ := ih (hstep.wf hw)
    refine ⟨hw', fun {k digest o} h => ?_⟩
    obtain ⟨o₁, h₁, ha₁⟩ := hstep.extends h
    obtain ⟨o₂, h₂, ha₂⟩ := hext h₁
    exact ⟨o₂, h₂, ha₁.trans ha₂⟩

/-- The history invariant of the ledger, for every sequence of calls from the empty store: each command
is tracked by its events and attempts; whatever calls follow, it keeps its identity, and its operation
stays as it is once its state is final; and a call that raises changes nothing. -/
theorem ledger_history (before after : List (LedgerCall × Time)) :
    (∀ k digest o, (runCalls {} before).commands.lookup k = some (digest, o) →
      (∃ events attempts, (runCalls {} before).events.lookup k = some events ∧
        (runCalls {} before).attempts.lookup k = some attempts ∧ Tracked o events attempts) ∧
      ∃ o', (runCalls {} (before ++ after)).commands.lookup k = some (digest, o') ∧
        o'.identity = o.identity ∧ (o.state.absorbing = true → o' = o)) ∧
    ∀ c now e, (perform (LedgerCall.action now c) (runCalls {} before)).1 = .error e →
      (perform (LedgerCall.action now c) (runCalls {} before)).2 = runCalls {} before := by
  obtain ⟨hw, -⟩ := runCalls_wf before WF.empty
  refine ⟨fun k digest o h => ⟨hw.tracked h, ?_⟩, fun c now => (action_step hw.synced c now).2⟩
  obtain ⟨-, hext⟩ := runCalls_wf after hw
  obtain ⟨o', ho', hadv⟩ := hext h
  refine ⟨o', ?_, hadv.identity, hadv.final⟩
  rw [← ho', runCalls, List.foldl_append]
  rfl

/-! ## The timeline -/

/-- `CommandKernel.timeline`: the events of an operation, refused unless their ids are sorted and
distinct. -/
def timeline (tenantId : String) (operationId : Uuid) (limit : Nat := 200) : LedgerM (List OperationEvent) := do
  let events ← listEvents tenantId operationId limit
  let ids := events.map (·.eventId)
  if ids ≠ ids.insertionSort (· ≤ ·) ∨ ids.dedup.length ≠ ids.length then
    throw (.commandConflict "operation timeline is not monotonic")
  pure events

variable {operationId : Uuid}

theorem perform_listEvents {tenantId : String} {limit : Nat}
    {entry : String × CommandOperation}
    (hc : s.commands.lookup (tenantId, operationId) = some entry)
    (he : s.events.lookup (tenantId, operationId) = some events) :
    perform (listEvents tenantId operationId limit) s = (.ok ((events.take limit).map fun row =>
      { row with safeMetadata := redactMetadata row.safeMetadata }), s) := by
  simp only [listEvents, MemoryCommandStore.get, perform_bind, perform_get, hc, perform_pure, he, Option.getD_some]

theorem timeline_ok (hw : WF s) {tenantId : String} (limit : Nat)
    (h : (tenantId, operationId) ∈ s.commands) :
    ∃ events, perform (timeline tenantId operationId limit) s = (.ok events, s) := by
  obtain ⟨⟨digest, o⟩, hc⟩ := Option.isSome_iff_exists.1 (AList.lookup_isSome.2 h)
  obtain ⟨events, attempts, he, -, htr⟩ := hw.tracked hc
  simp only [timeline, perform_bind, perform_listEvents hc he, perform_ite, perform_throw, perform_pure,
    List.map_map]
  set ids := (events.take limit).map (OperationEvent.eventId ∘ fun row =>
    { row with safeMetadata := redactMetadata row.safeMetadata }) with hids
  have hrange : ids = (List.range' 1 events.length).take limit := by
    rw [hids, ← htr.ids, ← List.map_take]; rfl
  have hlt : ids.Pairwise (· < ·) := by
    rw [hrange]; exact List.Pairwise.sublist (List.take_sublist _ _) List.pairwise_lt_range'
  have hsorted : ids = ids.insertionSort (· ≤ ·) :=
    ((hlt.imp fun h => Nat.le_of_lt h).insertionSort_eq).symm
  have hnodup : ids.dedup = ids := List.Nodup.dedup (hlt.imp fun h => Nat.ne_of_lt h)
  exact ⟨_, if_neg (by rw [hnodup, ← hsorted]; simp)⟩

end Middleware.Ledger

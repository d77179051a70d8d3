/-
How incidents cancel their notifications: a call that takes an incident out of its firing state goes through the grouped
notifications that are still to come and cancels the commands that no worker has taken up. The webhook of a resolved alert
does so for a grouped alert only.
-/
import Middleware.Incidents.History
import Middleware.Ledger.History

namespace Middleware.Incidents

open Ledger Lib

/-! ## Commands in the ledger -/

def commandState (s : MemoryCommandStore) (tenantId : String) (commandId : Uuid) : Option CommandState :=
  (s.commands.lookup (tenantId, commandId)).map (·.2.state)

/-- The histories are in order, no intent is leased, and a command whose cancellation is on record is cancelled. -/
structure Settles (s : MemoryCommandStore) : Prop where
  wf : WF s
  unleased : ∀ i ∈ s.outbox, i.leaseOwner = none
  cancelled : ∀ tenantId commandId actorId idempotencyKey,
    (s.mutations.lookup (tenantId, commandId, .cancel, actorId, idempotencyKey)).isSome →
      commandState s tenantId commandId = some .cancelled

/-- The ledger's calls keep that, and no command leaves a final state. -/
structure Carries (s s' : MemoryCommandStore) : Prop where
  settles : Settles s'
  kept : Extends s s'

variable {entry : String × CommandOperation}

section Commands

variable {s s' s'' : MemoryCommandStore}

theorem settles_empty : Settles {} := by
  refine ⟨WF.empty, ?_, ?_⟩
  · intro i hi
    cases hi
  · intro tenantId commandId actorId idempotencyKey h
    cases h

theorem extends_refl (s : MemoryCommandStore) : Extends s s := fun h => ⟨_, h, .refl _⟩

theorem Carries.refl (h : Settles s) : Carries s s := ⟨h, extends_refl s⟩

theorem Carries.trans (h : Carries s s') (h' : Carries s' s'') : Carries s s'' := by
  refine ⟨h'.settles, ?_⟩
  intro k digest o hlookup
  obtain ⟨o', hlookup', hadvances⟩ := h.kept hlookup
  obtain ⟨o'', hlookup'', hadvances'⟩ := h'.kept hlookup'
  exact ⟨o'', hlookup'', hadvances.trans hadvances'⟩

variable {tenantId : String} {commandId : Uuid}

theorem commandState_some {state : CommandState} :
    commandState s tenantId commandId = some state ↔
      ∃ digest o, s.commands.lookup (tenantId, commandId) = some (digest, o) ∧ o.state = state := by
  unfold commandState
  rw [Option.map_eq_some_iff]
  constructor
  · rintro ⟨⟨digest, o⟩, hlookup, hstate⟩
    exact ⟨digest, o, hlookup, hstate⟩
  · rintro ⟨digest, o, hlookup, hstate⟩
    exact ⟨(digest, o), hlookup, hstate⟩

theorem extends_cancelled (h : Extends s s')
    (hstate : commandState s tenantId commandId = some .cancelled) : commandState s' tenantId commandId = some .cancelled := by
  obtain ⟨digest, o, hlookup, ho⟩ := commandState_some.1 hstate
  obtain ⟨o', hlookup', hadvances⟩ := h hlookup
  have hsame : o' = o := hadvances.final (by rw [ho]; rfl)
  rw [hsame] at hlookup'
  exact commandState_some.2 ⟨digest, o, hlookup', ho⟩

/-- The ledger after a call that neither leases an intent nor records a mutation. -/
theorem Settles.carries (hs : Settles s) (hstep : Step s s') (hunleased : ∀ i ∈ s'.outbox, i.leaseOwner = none)
    (hmutations : s'.mutations = s.mutations) : Carries s s' := by
  refine ⟨⟨hstep.wf hs.wf, hunleased, ?_⟩, hstep.extends⟩
  intro tenantId commandId actorId idempotencyKey hknown
  rw [hmutations] at hknown
  exact extends_cancelled hstep.extends (hs.cancelled _ _ _ _ hknown)

theorem submit_carries (hs : Settles s) (r : Submission) (now : Time) :
    Carries s (Ledger.perform (MemoryCommandStore.submit r now) s).2 := by
  have hstep := (submit_step (s := s) r now).1
  rcases MemoryCommandStore.submit_cases (s := s) r now with ⟨reply, h⟩ | ⟨s', -, -, h, -, -, -, -, houtbox, hmutations⟩
  · rw [h]
    exact .refl hs
  · rw [h] at hstep ⊢
    refine hs.carries hstep ?_ hmutations
    intro i hi
    rw [houtbox, List.mem_append, List.mem_singleton] at hi
    rcases hi with hi | rfl
    · exact hs.unleased i hi
    · rfl

theorem submit_lookup (r : Submission) (now : Time) {k : Ledger.Key}
    (h : s.commands.lookup k = some entry) :
    (Ledger.perform (MemoryCommandStore.submit r now) s).2.commands.lookup k = some entry := by
  rcases MemoryCommandStore.submit_cases (s := s) r now with ⟨reply, hrun⟩ | ⟨s', hnew, -, hrun, hcommands, -⟩
  · rw [hrun]
    exact h
  · rw [hrun]
    rw [hcommands, MemoryCommandStore.lookup_insert_ite, if_neg]
    · exact h
    · rintro rfl
      rw [hnew] at h
      cases h

theorem transition_carries (hs : Settles s) (t : Transition) (now : Time) :
    Carries s (Ledger.perform (MemoryCommandStore.transition t now) s).2 := by
  have hstep := (transition_step hs.wf.synced t now).1
  rcases MemoryCommandStore.transition_cases hs.wf.synced t now with
    ⟨e, h⟩ | ⟨digest, o, events, attempts, s', -, -, -, -, -, -, h, -, houtbox, hmutations⟩
  · rw [h]
    exact .refl hs
  · rw [h] at hstep ⊢
    refine hs.carries hstep ?_ hmutations
    rw [houtbox]
    exact hs.unleased

/-- A command that no worker has taken up. -/
def Waiting (s : MemoryCommandStore) (tenantId : String) (commandId : Uuid) : Prop :=
  commandState s tenantId commandId = some .persisted ∨ commandState s tenantId commandId = some .queued

theorem cancelState_waiting (hs : Settles s) (m : Mutation) {o : CommandOperation} (ho : o.state = .persisted ∨ o.state = .queued) :
    MemoryCommandStore.cancelState s m o = .cancelled := by
  have hlease : ((s.adapterIntents m.tenantId m.commandId).any fun i => i.leaseOwner.isSome && i.completedAt.isNone) = false := by
    rw [List.any_eq_false]
    intro i hi
    rw [hs.unleased i (List.mem_of_mem_filter hi)]
    simp
  unfold MemoryCommandStore.cancelState
  rw [hlease, if_pos]
  rcases ho with ho | ho <;> simp [ho]

theorem mapIntents_unleased {outbox : List MemoryOutboxIntent}
    (h : ∀ i ∈ outbox, i.leaseOwner = none) :
    ∀ i ∈ MemoryCommandStore.mapIntents tenantId commandId MemoryCommandStore.cancelIntent outbox, i.leaseOwner = none := by
  intro i hi
  obtain ⟨j, hj, rfl⟩ := List.mem_map.1 hi
  split
  · unfold MemoryCommandStore.cancelIntent
    split <;> exact h j hj
  · exact h j hj

theorem cancel_waiting (hs : Settles s) (m : Mutation) (now : Time) (haction : m.action = .cancel)
    (hwaiting : Waiting s m.tenantId m.commandId) :
    (∃ e, Ledger.perform (MemoryCommandStore.mutateOperation m now) s = (.error e, s)) ∨
    ∃ o s', Ledger.perform (MemoryCommandStore.mutateOperation m now) s = (.ok o, s') ∧ Carries s s' ∧
      commandState s' m.tenantId m.commandId = some .cancelled ∧ ∀ k, k ≠ m.key → s'.commands.lookup k = s.commands.lookup k := by
  have hunknown : s.mutations.lookup m.mutationKey = none := by
    rcases hknown : s.mutations.lookup m.mutationKey with _ | entry
    · rfl
    · have hcancelled := hs.cancelled m.tenantId m.commandId m.actorId m.idempotencyKey (by
        rw [← haction]
        exact Option.isSome_iff_exists.2 ⟨entry, hknown⟩)
      rcases hwaiting with h | h <;> (rw [hcancelled] at h; cases h)
  have hstep := (mutate_step hs.wf.synced m now).1
  rcases MemoryCommandStore.mutateOperation_store hs.wf.synced m now hunknown with
    h | ⟨digest, o, changed, outbox, events, attempts, hlookup, -, -, -, hmutated, hrun⟩
  · exact .inl h
  have ho : o.state = .persisted ∨ o.state = .queued := by
    have hstate : commandState s m.tenantId m.commandId = some o.state := commandState_some.2 ⟨digest, o, hlookup, rfl⟩
    rcases hwaiting with h | h
    · exact .inl (Option.some.inj (hstate.symm.trans h))
    · exact .inr (Option.some.inj (hstate.symm.trans h))
  have hcancel := cancelState_waiting hs m ho
  rw [hrun] at hstep
  refine .inr ⟨_, _, hrun, ?_⟩
  cases hmutated with
  | cancelled _ _ _ =>
    have hself : commandState { s with
        commands := s.commands.insert m.key (digest, Mutation.updated o { o with
          state := .cancelled, cancelledAt := some now, cancellationReason := some m.reason } now)
        events := s.events.insert m.key (events ++ [m.event o (Mutation.updated o { o with
          state := .cancelled, cancelledAt := some now, cancellationReason := some m.reason } now) now (events.length + 1)])
        mutations := s.mutations.insert m.mutationKey (mutationDigest m.expectedVersion m.reason, Mutation.updated o { o with
          state := .cancelled, cancelledAt := some now, cancellationReason := some m.reason } now)
        outbox := MemoryCommandStore.mapIntents m.tenantId m.commandId MemoryCommandStore.cancelIntent s.outbox }
          m.tenantId m.commandId = some .cancelled := by
      unfold commandState
      rw [AList.lookup_insert]
      rfl
    refine ⟨⟨⟨hstep.wf hs.wf, mapIntents_unleased hs.unleased, ?_⟩, hstep.extends⟩, hself, ?_⟩
    · intro tenantId commandId actorId idempotencyKey hknown
      rw [MemoryCommandStore.lookup_insert_ite] at hknown
      split at hknown
      · rename_i heq
        simp only [Mutation.mutationKey, Prod.mk.injEq] at heq
        rw [heq.1, heq.2.1]
        exact hself
      · exact extends_cancelled hstep.extends (hs.cancelled _ _ _ _ hknown)
    · intro k hk
      rw [MemoryCommandStore.lookup_insert_ite, if_neg hk]
  | parked _ _ hparked =>
    rw [hcancel] at hparked
    cases hparked
  | reconciled hother =>
    rw [haction] at hother
    cases hother
  | retried hother =>
    rw [haction] at hother
    cases hother

theorem perform_read (tenantId : String) (commandId : Uuid) :
    (∃ e, Ledger.perform (MemoryCommandStore.get tenantId commandId) s = (.error e, s)) ∨
    ∃ digest o, s.commands.lookup (tenantId, commandId) = some (digest, o) ∧
      Ledger.perform (MemoryCommandStore.get tenantId commandId) s = (.ok o, s) := by
  unfold MemoryCommandStore.get
  rcases hlookup : s.commands.lookup (tenantId, commandId) with _ | ⟨digest, o⟩
  · refine .inl ⟨.commandNotFound "command operation was not found", ?_⟩
    simp [Ledger.perform_bind, hlookup]
  · refine .inr ⟨digest, o, rfl, ?_⟩
    simp [Ledger.perform_bind, hlookup]

/-- A waiting command, or one that is cancelled already. -/
def Cancellable (s : MemoryCommandStore) (tenantId : String) (commandId : Uuid) : Prop :=
  Waiting s tenantId commandId ∨ commandState s tenantId commandId = some .cancelled

/-- The cancellation of pending notifications: unless it is refused, it cancels every grouped one that is still to come. -/
theorem cancelPending_spec (tenantId : String) (incidentId : Uuid) (actorId : String) (now : Time) (reason : String)
    (clock : Nat → Time) (notifications : List Notification) (hs : Settles s) :
    Carries s (cancelPending tenantId incidentId actorId now reason clock notifications s).2 ∧
    ((cancelPending tenantId incidentId actorId now reason clock notifications s).1 = .ok () →
      ∀ n ∈ notifications, n.kind = "grouped" → now < n.scheduledAt → Cancellable s tenantId n.operationId →
        commandState (cancelPending tenantId incidentId actorId now reason clock notifications s).2 tenantId n.operationId =
          some .cancelled) := by
  induction notifications generalizing s clock with
  | nil =>
    refine ⟨.refl hs, ?_⟩
    intro _ n hn
    cases hn
  | cons notification rest ih =>
    have hnext := ih (fun i => clock (i + 1)) hs
    unfold cancelPending
    split
    · -- not a grouped one, or one that is due
      rename_i hskip
      refine ⟨hnext.1, ?_⟩
      intro hok n hn hkind hlater hcancellable
      rcases List.mem_cons.1 hn with rfl | hn
      · rcases hskip with hskip | hskip
        · exact absurd hkind hskip
        · exact absurd hlater (not_lt.2 hskip)
      · exact hnext.2 hok n hn hkind hlater hcancellable
    rcases perform_read (s := s) tenantId notification.operationId with ⟨e, hget⟩ | ⟨digest, o, hlookup, hget⟩
    · rw [hget]
      refine ⟨.refl hs, ?_⟩
      intro hok
      cases hok
    rw [hget]
    dsimp only
    have hstate : commandState s tenantId notification.operationId = some o.state := commandState_some.2 ⟨digest, o, hlookup, rfl⟩
    split
    · -- a worker has taken the command up, or it is cancelled
      rename_i hskip
      refine ⟨hnext.1, ?_⟩
      intro hok n hn hkind hlater hcancellable
      rcases List.mem_cons.1 hn with rfl | hn
      · rcases hcancellable with (h | h) | h
        · exact absurd (Option.some.inj (hstate.symm.trans h)) hskip.1
        · exact absurd (Option.some.inj (hstate.symm.trans h)) hskip.2
        · exact extends_cancelled hnext.1.kept h
      · exact hnext.2 hok n hn hkind hlater hcancellable
    rename_i hwaiting
    have hwaits : Waiting s tenantId notification.operationId := by
      by_cases hpersisted : o.state = .persisted
      · exact .inl (by rw [hstate, hpersisted])
      · have hqueued : o.state = .queued := by
          by_contra hqueued
          exact hwaiting ⟨hpersisted, hqueued⟩
        exact .inr (by rw [hstate, hqueued])
    rcases cancel_waiting hs
      { tenantId := tenantId
        commandId := notification.operationId
        action := .cancel
        actorId := actorId
        idempotencyKey := s!"incident-group-wait-cancel-v1:{incidentId}:{notification.operationId}"
        expectedVersion := o.resourceVersion
        reason := reason } (clock 0) rfl hwaits with ⟨e, hcancel⟩ | ⟨o', s', hcancel, hcarries, hcancelled, hothers⟩
    · rw [hcancel]
      refine ⟨.refl hs, ?_⟩
      intro hok
      cases hok
    rw [hcancel]
    obtain ⟨hrest, hcancels⟩ := ih (fun i => clock (i + 1)) hcarries.settles
    refine ⟨hcarries.trans hrest, ?_⟩
    intro hok n hn hkind hlater hcancellable
    by_cases hsame : n.operationId = notification.operationId
    · rw [hsame]
      exact extends_cancelled hrest.kept hcancelled
    · rcases List.mem_cons.1 hn with rfl | hn
      · exact absurd rfl hsame
      · refine hcancels hok n hn hkind hlater ?_
        -- another command is as it was
        have hother : commandState s' tenantId n.operationId = commandState s tenantId n.operationId := by
          unfold commandState
          rw [hothers]
          intro hkey
          exact hsame (Prod.mk.inj hkey).2
        unfold Cancellable Waiting at hcancellable ⊢
        rw [hother]
        exact hcancellable

end Commands

/-! ## The ledger under the calls -/

variable {s : MemoryCommandStore}

section Ledgers

variable {lib : Library} {w : World}

theorem announce_carries (lib : Library) (a : Ingest) (previous : Option IncidentRecord) (reading : Nat) (hs : Settles s) :
    Carries s (a.announce lib previous reading s).2 := by
  unfold Ingest.announce
  split
  · exact .refl hs
  split
  · exact .refl hs
  · rename_i command _
    have hsubmit := submit_carries hs { command, authenticatedClientId := a.authenticatedClientId } (a.clock reading)
    unfold Ingest.submit
    split
    · rename_i h
      rw [h] at hsubmit
      exact hsubmit
    · rename_i h
      rw [h] at hsubmit
      exact hsubmit

variable (a : Ingest) (current : IncidentRecord)

theorem activate_carries (hs : Settles w.ledger) :
    Carries w.ledger (a.activate lib current w).2.ledger := by
  unfold Ingest.activate
  split
  · exact .refl hs
  · rename_i command _
    have hsubmit := submit_carries hs { command, authenticatedClientId := a.authenticatedClientId } (a.clock 0)
    unfold Ingest.submit
    split
    · rename_i h
      rw [h] at hsubmit
      exact hsubmit
    · rename_i h
      rw [h] at hsubmit
      exact hsubmit

theorem notifyAgain_carries (hs : Settles w.ledger) :
    Carries w.ledger (a.notifyAgain lib current w).2.ledger := by
  unfold Ingest.notifyAgain
  split
  · exact .refl hs
  split
  · exact .refl hs
  · rename_i command _
    have hsubmit := submit_carries hs { command, authenticatedClientId := a.authenticatedClientId } (a.clock 0)
    unfold Ingest.submit
    split
    · rename_i h
      rw [h] at hsubmit
      exact hsubmit
    · rename_i h
      rw [h] at hsubmit
      exact hsubmit

theorem known_carries (value : IncidentIngestionResult) (hs : Settles w.ledger) :
    Carries w.ledger (a.known lib value w).2.ledger := by
  unfold Ingest.known
  split
  · exact .refl hs
  rename_i current _
  dsimp only
  split
  · exact activate_carries a current hs
  split
  · exact notifyAgain_carries a current hs
  split
  · exact .refl hs
  · exact .refl hs

theorem transition_notifies (hs : Settles w.ledger) : Carries w.ledger (a.transition lib w).2.ledger := by
  unfold Ingest.transition
  dsimp only
  have hcancel := (cancelPending_spec a.policy.tenantId (a.incidentId lib) a.actorId a.now "warning resolved before group wait elapsed"
    a.clock (a.pending lib (w.store.incidents.get (a.key lib)) w.store) hs).1
  split
  · rename_i h
    rw [h] at hcancel
    exact hcancel
  rename_i ledger h
  rw [h] at hcancel
  have hannounce := announce_carries lib a (w.store.incidents.get (a.key lib))
    (a.pending lib (w.store.incidents.get (a.key lib)) w.store).length hcancel.settles
  split
  · rename_i h'
    rw [h'] at hannounce
    exact hcancel.trans hannounce
  · rename_i h'
    rw [h'] at hannounce
    exact hcancel.trans hannounce

theorem ingest_carries (hs : Settles w.ledger) : Carries w.ledger (ingest lib a w).2.ledger := by
  unfold ingest
  dsimp only
  split
  · exact .refl hs
  split
  · exact .refl hs
  · split <;> exact .refl hs
  split
  · exact .refl hs
  · split
    · exact .refl hs
    · exact known_carries a _ hs
  · exact transition_notifies a hs

theorem ingestStatus_carries (a : IngestStatus) (hs : Settles w.ledger) : Carries w.ledger (ingestStatus lib a w).2.ledger := by
  unfold ingestStatus
  dsimp only
  split
  · exact .refl hs
  split
  · exact .refl hs
  · split <;> exact .refl hs
  split
  · exact .refl hs
  split
  · exact .refl hs
  split
  · exact .refl hs
  split
  · exact .refl hs
  unfold IngestStatus.observe
  have hcancel := (cancelPending_spec a.policy.tenantId (a.incidentId lib) a.actorId a.now
    "warning left firing state before group wait elapsed" a.clock (a.pending lib w.store) hs).1
  split
  · rename_i h
    rw [h] at hcancel
    exact hcancel
  · rename_i h
    rw [h] at hcancel
    exact hcancel

theorem mutate_carries (a : Mutate) (hs : Settles w.ledger) : Carries w.ledger (mutate a w).2.ledger := by
  unfold mutate
  dsimp only
  split
  · split <;> exact .refl hs
  split
  · exact .refl hs
  split
  · exact .refl hs
  split
  · exact .refl hs
  have hcancel := (cancelPending_spec a.tenantId a.incidentId a.actorId a.now "warning was resolved before group wait elapsed" a.clock
    (a.pending w.store) hs).1
  split
  · rename_i h
    rw [h] at hcancel
    exact hcancel
  · rename_i h
    rw [h] at hcancel
    exact hcancel

theorem carries_call (c : Call) (hs : Settles w.ledger) : Carries w.ledger (call lib c w).ledger := by
  cases c with
  | ingest a => exact ingest_carries a hs
  | ingestStatus a => exact ingestStatus_carries a hs
  | mutate a => exact mutate_carries a hs
  | dispatch t now => exact transition_carries hs t now

theorem settles_after (lib : Library) (calls : List Call) : Settles (after lib calls).ledger := by
  refine runFrom_invariant (I := fun w : World => Settles w.ledger) settles_empty ?_
  intro w c h
  exact (carries_call c h).settles

end Ledgers

/-! ## Leaving the firing state -/

def stateOf (w : World) (key : Key) : Option IncidentState := (w.store.incidents.get key).map (·.state)

def announcedState (s : MemoryCommandStore) (tenantId : String) (commandId : Uuid) : Option String :=
  match (s.payloads.lookup (tenantId, commandId)).bind fun command => command.1.payload.lookup "alert" with
  | some (.obj alert) =>
    match alert.lookup "state" with
    | some (.str state) => some state
    | _ => none
  | _ => none

/-- A grouped notification of the firing that is still to come, and whose command no worker has taken up. -/
structure Pending (w : World) (now : Time) (key : Key) (n : Notification) : Prop where
  listed : n ∈ w.store.notificationsOf key
  kind : n.kind = "grouped"
  announces : announcedState w.ledger key.1 n.operationId = some "firing"
  later : now < n.scheduledAt
  waiting : Waiting w.ledger key.1 n.operationId

def Call.now : Call → Time
  | .ingest a => a.now
  | .ingestStatus a => a.now
  | .mutate a => a.now
  | .dispatch _ now => now

/-- If the call takes an incident from firing to resolved, silenced or inhibited, it cancels the pending notifications. -/
def Cancels (lib : Library) (w : World) (c : Call) : Prop :=
  ∀ key, stateOf w key = some .firing →
    stateOf (call lib c w) key ∈ [some IncidentState.resolved, some IncidentState.silenced, some IncidentState.inhibited] →
      ∀ n, Pending w c.now key n → commandState (call lib c w).ledger key.1 n.operationId = some .cancelled

/-- A new transition that resolves a firing incident, not as a grouped alert, while a notification of the firing is pending. -/
structure Ingest.Leaves (lib : Library) (a : Ingest) (w : World) : Prop where
  resolved : a.alert.status = .resolved
  kind : a.notificationKind ≠ "grouped"
  new : a.New lib w.store
  /-- The ledger takes the command, if there is one. -/
  accepted : ∃ operation ledger, a.announce lib (w.store.incidents.get (a.key lib)) 0 w.ledger = (.ok operation, ledger)
  firing : stateOf w (a.key lib) = some .firing
  pending : ∃ n, Pending w a.now (a.key lib) n

def Leaves (lib : Library) (w : World) : Call → Prop
  | .ingest a => a.Leaves lib w
  | _ => False

section Leaving

variable {lib : Library} {w : World} {previous : Option IncidentState}

theorem written_state {s s' : Store} {key : Key} {incident : IncidentRecord}
    {added : List Notification} (h : Written s s' key incident previous added) (k : Key) :
    (s'.incidents.get k).map (·.state) = if k = key then some incident.state else (s.incidents.get k).map (·.state) := by
  rw [h.incidents, OrderedDict.get_set]
  split <;> rfl

variable {a : Ingest}

theorem ingest_new (hnew : a.New lib w.store) : ingest lib a w = a.transition lib w := by
  have hcurrent := hnew.current
  unfold ingest
  dsimp only
  rw [hcurrent, hnew.request, hnew.transition]
  rfl

variable {ledger : MemoryCommandStore}

/-- A new transition that is not grouped cancels nothing: with the command's answer the incident is written. -/
theorem transition_accepted (hkind : a.notificationKind ≠ "grouped") {operation : Option CommandOperation}
    (h : a.announce lib (w.store.incidents.get (a.key lib)) 0 w.ledger = (.ok operation, ledger)) :
    (a.transition lib w).2.ledger = ledger ∧
      (a.transition lib w).2.store.incidents =
        w.store.incidents.set (a.key lib) (a.incident lib (w.store.incidents.get (a.key lib))) := by
  have hpending : a.pending lib (w.store.incidents.get (a.key lib)) w.store = [] := by
    unfold Ingest.pending
    rw [if_neg]
    rintro ⟨-, hgrouped, -⟩
    exact hkind hgrouped
  unfold Ingest.transition
  dsimp only
  rw [hpending]
  unfold cancelPending
  dsimp only
  rw [List.length_nil, h]
  rcases operation with _ | operation
  · exact ⟨rfl, rfl⟩
  · exact ⟨rfl, rfl⟩

theorem announce_lookup (lib : Library) (a : Ingest) (previous : Option IncidentRecord) (reading : Nat)
    {k : Ledger.Key} (h : s.commands.lookup k = some entry) :
    (a.announce lib previous reading s).2.commands.lookup k = some entry := by
  unfold Ingest.announce
  split
  · exact h
  split
  · exact h
  · rename_i command _
    have hsubmit := submit_lookup { command, authenticatedClientId := a.authenticatedClientId } (a.clock reading) h
    unfold Ingest.submit
    split
    · rename_i hrun
      rw [hrun] at hsubmit
      exact hsubmit
    · rename_i hrun
      rw [hrun] at hsubmit
      exact hsubmit

theorem leaves_not_cancels (h : a.Leaves lib w) : ¬ Cancels lib w (.ingest a) := by
  intro hcancels
  obtain ⟨operation, ledger, hannounce⟩ := h.accepted
  obtain ⟨n, hn⟩ := h.pending
  obtain ⟨hledger, hincidents⟩ := transition_accepted h.kind hannounce
  have hcall : call lib (.ingest a) w = (a.transition lib w).2 := by
    show (ingest lib a w).2 = _
    rw [ingest_new h.new]
  have hstate : stateOf (call lib (.ingest a) w) (a.key lib) = some .resolved := by
    unfold stateOf
    rw [hcall, hincidents, OrderedDict.get_set_self]
    unfold Ingest.incident
    rw [h.resolved]
    rfl
  have hcancelled := hcancels _ h.firing (by rw [hstate]; simp) n hn
  rw [hcall, hledger] at hcancelled
  -- the command is still as it was
  have hwaits : ∀ state, commandState w.ledger (a.key lib).1 n.operationId = some state →
      commandState ledger (a.key lib).1 n.operationId = some state := by
    intro state hbefore
    obtain ⟨digest, o, hlookup, ho⟩ := commandState_some.1 hbefore
    have hkept := announce_lookup lib a (w.store.incidents.get (a.key lib)) 0 hlookup
    rw [hannounce] at hkept
    exact commandState_some.2 ⟨digest, o, hkept, ho⟩
  rcases hn.waiting with hstate | hstate <;> (rw [hwaits _ hstate] at hcancelled; cases hcancelled)

/-- What is pending is cancelled, if the notifications of the incident are gone through. -/
theorem pending_cancelled {key : Key} {actorId reason : String} {now : Time} {clock : Nat → Time}
    (hs : Settles w.ledger)
    (h : cancelPending key.1 key.2 actorId now reason clock (w.store.notificationsOf key) w.ledger = (.ok (), ledger))
    {n : Notification} (hn : Pending w now key n) : commandState ledger key.1 n.operationId = some .cancelled := by
  have hspec := (cancelPending_spec key.1 key.2 actorId now reason clock (w.store.notificationsOf key) hs).2
  rw [h] at hspec
  exact hspec rfl n hn.listed hn.kind hn.later (.inl hn.waiting)

theorem next_firing (h : previous = some .firing) (incoming : StatusState) :
    some (nextIncidentState previous incoming).1 ∈ [some IncidentState.resolved, some .silenced, some .inhibited] ↔
      incoming ≠ .firing := by
  subst h
  cases incoming <;> simp [nextIncidentState]

/-- A call that does not leave a notification pending cancels them when it takes an incident out of its firing state. -/
theorem cancels_of_not_leaves (hkeyed : w.store.Keyed) (hs : Settles w.ledger) (c : Call) (hc : ¬ Leaves lib w c) :
    Cancels lib w c := by
  intro key hfiring hleft n hn
  have heffect := perform_effect lib c hkeyed
  have hsame : ∀ s : Store, s.incidents = w.store.incidents → ∀ ledger,
      stateOf ⟨s, ledger⟩ key ∉ [some IncidentState.resolved, some .silenced, some .inhibited] := by
    intro s hs' ledger
    unfold stateOf at hfiring ⊢
    rw [hs', hfiring]
    simp
  unfold call at hleft ⊢
  generalize perform lib c w = x at heffect hleft ⊢
  cases heffect with
  | refused _ e ledger => exact absurd hleft (hsame _ rfl _)
  | dispatched t now ledger => exact absurd hleft (hsame _ rfl _)
  | repeated => exact absurd hleft (hsame _ rfl _)
  | suppressed a current value s duplicate found incidents => exact absurd hleft (hsame _ incidents _)
  | renewed a current value operation added scheduledAt s ledger passes unknown found firing burning spaced notifies written =>
    unfold stateOf at hfiring hleft
    rw [written_state written, renewed_state a firing burning, hfiring, ite_self] at hleft
    simp at hleft
  | arrived a value operation added s settled ledger new cancelled announced notifies written =>
    unfold stateOf at hfiring hleft
    rw [written_state written] at hleft
    split at hleft
    · rename_i hkey
      subst hkey
      have hresolved : a.alert.status = .resolved := by
        have hnot := (next_firing hfiring _).1 hleft
        cases hstatus : a.alert.status with
        | firing =>
          rw [hstatus] at hnot
          exact absurd rfl hnot
        | resolved => rfl
      by_cases hkind : a.notificationKind = "grouped"
      · have hall : a.pending lib (w.store.incidents.get (a.key lib)) w.store = w.store.notificationsOf (a.key lib) := by
          unfold Ingest.pending
          rw [if_pos]
          · rfl
          · refine ⟨hresolved, hkind, ?_⟩
            rw [← Option.isSome_map (f := (·.state)), hfiring]
            rfl
        rw [hall] at cancelled
        have hsettled := (cancelPending_spec a.policy.tenantId (a.incidentId lib) a.actorId a.now
          "warning resolved before group wait elapsed" a.clock (w.store.notificationsOf (a.key lib)) hs).1
        rw [cancelled] at hsettled
        have hannounced := announce_carries lib a (w.store.incidents.get (a.key lib))
          (a.pending lib (w.store.incidents.get (a.key lib)) w.store).length hsettled.settles
        rw [announced] at hannounced
        exact extends_cancelled hannounced.kept (pending_cancelled hs cancelled hn)
      · have hnone : a.pending lib (w.store.incidents.get (a.key lib)) w.store = [] := by
          unfold Ingest.pending
          rw [if_neg]
          rintro ⟨-, hgrouped, -⟩
          exact hkind hgrouped
        rw [hnone] at cancelled announced
        cases cancelled
        exact absurd ⟨hresolved, hkind, new, ⟨operation, ledger, announced⟩, hfiring, n, hn⟩ hc
    · rw [hfiring] at hleft
      simp at hleft
  | observed a previous s ledger taken written =>
    unfold stateOf at hfiring hleft
    rw [written_state written] at hleft
    split at hleft
    · rename_i hkey
      subst hkey
      rw [taken.found] at hfiring
      have hnot : a.item.state ≠ .firing := (next_firing hfiring _).1 hleft
      have hall : a.pending lib w.store = w.store.notificationsOf (a.key lib) := by
        unfold IngestStatus.pending
        rw [if_neg hnot]
        rfl
      have hcancelled := taken.cancelled
      rw [hall] at hcancelled
      exact pending_cancelled hs hcancelled hn
    · rw [hfiring] at hleft
      simp at hleft
  | mutated a previous s ledger found allowed cancelled written =>
    unfold stateOf at hfiring hleft
    rw [written_state written] at hleft
    split at hleft
    · rename_i hkey
      subst hkey
      have hresolve : a.action = .resolve := by
        unfold Mutate.incident at hleft
        cases haction : a.action with
        | resolve => rfl
        | acknowledge =>
          rw [haction] at hleft
          simp [Mutate.target] at hleft
        | reopen =>
          rw [haction] at hleft
          simp [Mutate.target] at hleft
      have hall : a.pending w.store = w.store.notificationsOf (a.tenantId, a.incidentId) := by
        unfold Mutate.pending
        rw [if_pos hresolve]
        rfl
      rw [hall] at cancelled
      exact pending_cancelled hs cancelled hn
    · rw [hfiring] at hleft
      simp at hleft

/-- A call cancels what is pending for an incident that leaves its firing state exactly if it is no resolution of another kind. -/
theorem cancels_iff (hkeyed : w.store.Keyed) (hs : Settles w.ledger) (c : Call) : Cancels lib w c ↔ ¬ Leaves lib w c := by
  constructor
  · intro hcancels hleaves
    cases c with
    | ingest a => exact leaves_not_cancels hleaves hcancels
    | ingestStatus a => exact hleaves
    | mutate a => exact hleaves
    | dispatch t now => exact hleaves
  · exact cancels_of_not_leaves hkeyed hs c

end Leaving

end Middleware.Incidents

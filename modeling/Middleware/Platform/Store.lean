/-
Runs of the in-memory store: the calls of `MemoryCommandStore` and the row updates that the execution bus and the
reconciliation source make in its outbox, in any order and from any callers. No method of the store awaits, so each is
one step.

`Stored` lists what a step can leave behind, every field of the store included; the invariants of runs are proven from
it.
-/
import Middleware.Ledger.History
import Middleware.Platform.Memory

namespace Middleware.Platform.Store

open Ledger MemoryCommandStore

inductive StoreCall where
  | ledger (c : LedgerCall)
  | busClaim (b : MemoryExecutionBus)
  | busSettle (b : MemoryExecutionBus) (id : Nat) (outcome : Settlement)
  | sourceClaim (reconcilerId : String) (leaseSeconds : Time)
  | sourceResolve (claim : ReconciliationClaim) (reconcilerId : String) (action : Resolution) (reason : String)
  | sourceRelease (claim : ReconciliationClaim) (reconcilerId : String) (reason : String)

/-- A call, at its reading of the clock. -/
structure StoreStep where
  call : StoreCall
  now : Time

def StoreStep.exec (x : StoreStep) (s : MemoryCommandStore) : MemoryCommandStore :=
  match x.call with
  | .ledger c => (perform (c.action x.now) s).2
  | .busClaim b => (b.claim x.now s).2
  | .busSettle b id outcome => updateRow id (b.settleRow x.now outcome) s
  | .sourceClaim r lease => (MemoryReconciliationSource.claim r lease x.now s).2
  | .sourceResolve claim r action reason => (MemoryReconciliationSource.resolve claim r action reason x.now s).2
  | .sourceRelease claim r reason => (MemoryReconciliationSource.release claim r reason s).2

def store (steps : List StoreStep) : MemoryCommandStore := steps.foldl (fun s x => x.exec s) {}

variable (steps : List StoreStep)

theorem store_concat (x : StoreStep) : store (steps ++ [x]) = x.exec (store steps) := by
  simp [store, List.foldl_append]

abbrev rowKey (i : MemoryOutboxIntent) : Key := (i.tenantId, i.commandId)

/-- What stays of an intent when a row is updated: what was submitted. Nobody is left with half a lease. -/
structure SameIntent (i j : MemoryOutboxIntent) : Prop where
  id : j.id = i.id
  key : rowKey j = rowKey i
  destination : j.destination = i.destination
  idempotencyKey : j.idempotencyKey = i.idempotencyKey
  payload : j.payload = i.payload
  lease : (i.leaseOwner = none → i.leaseUntil = none) → j.leaseOwner = none → j.leaseUntil = none

theorem SameIntent.refl (i : MemoryOutboxIntent) : SameIntent i i := ⟨rfl, rfl, rfl, rfl, rfl, fun h => h⟩

/-! ## What a step writes -/

inductive Stored (s : MemoryCommandStore) (x : StoreStep) : MemoryCommandStore → Prop
  | same : Stored s x s
  | submitted (r : Submission) (call : x.call = .ledger (.submit r)) (newId : s.commands.lookup r.key = none)
      (newKey : s.idempotency.lookup (r.command.tenantId, r.command.idempotencyKey) = none) :
      Stored s x (r.admitted s x.now)
  | transitioned (t : Transition) (call : x.call = .ledger (.transition t)) (digest : String) (o : CommandOperation)
      (command : s.commands.lookup t.key = some (digest, o)) (events : Dict Key (List OperationEvent))
      (attempts : Dict Key (List OperationAttempt)) :
      Stored s x { s with
        commands := s.commands.insert t.key (digest, t.updated o x.now)
        idempotency := s.idempotency.insert (t.tenantId, o.idempotencyKey) (digest, t.updated o x.now)
        events := events, attempts := attempts }
  | reconciled (r : Reconciliation) (call : x.call = .ledger (.reconcile r)) (digest : String) (o : CommandOperation)
      (command : s.commands.lookup r.key = some (digest, o)) (events : Dict Key (List OperationEvent))
      (attempts : Dict Key (List OperationAttempt)) :
      Stored s x { s with
        commands := s.commands.insert r.key (digest, r.updated o x.now)
        idempotency := s.idempotency.insert (r.tenantId, o.idempotencyKey) (digest, r.updated o x.now)
        events := events, attempts := attempts }
  | mutated (m : Mutation) (call : x.call = .ledger (.mutateOperation m)) (new : s.mutations.lookup m.mutationKey = none)
      (digest : String) (o changed : CommandOperation) (outbox : List MemoryOutboxIntent)
      (command : s.commands.lookup m.key = some (digest, o)) (mutated : Mutated s m o x.now changed outbox)
      (events : Dict Key (List OperationEvent)) :
      Stored s x { s with
        commands := s.commands.insert m.key (digest, Mutation.updated o changed x.now)
        events := events
        mutations := s.mutations.insert m.mutationKey
          (mutationDigest m.expectedVersion m.reason, Mutation.updated o changed x.now)
        outbox := outbox }
  | deadLettered (d : DeadLetter) (call : x.call = .ledger (.recordDeadLetter d)) (record : DeadLetterRecord) :
      Stored s x { s with deadLetters := s.deadLetters.insert (d.tenantId, d.commandId) record }
  | requested (r : ReplayRequest) (call : x.call = .ledger (.createReplay r)) (record : ReplayRecord)
      (fields : record.replayId = r.replayId ∧ record.originalCommandId = r.commandId ∧
        record.idempotencyKey = r.idempotencyKey ∧ record.replayCommandId = none) :
      Stored s x { s with
        replays := s.replays.insert (r.tenantId, r.replayId) record
        replayKeys := s.replayKeys.insert (r.tenantId, r.commandId, r.idempotencyKey) r.replayId }
  | completed (tenantId : String) (replayId replayCommandId : Uuid)
      (call : x.call = .ledger (.completeReplay tenantId replayId replayCommandId)) (row : ReplayRecord)
      (found : s.replays.lookup (tenantId, replayId) = some row) :
      Stored s x { s with
        replays := s.replays.insert (tenantId, replayId)
          { row with state := .submitted, replayCommandId := some replayCommandId } }
  | withdrawn (tenantId : String) (replayId : Uuid) (call : x.call = .ledger (.cancelReplay tenantId replayId))
      (row : ReplayRecord) (found : s.replays.lookup (tenantId, replayId) = some row) :
      Stored s x { s with
        replays := s.replays.insert (tenantId, replayId) { row with state := .cancelled, cancelledAt := some x.now } }
  /-- Leases and settlements, row by row. -/
  | rows (f : MemoryOutboxIntent → MemoryOutboxIntent) (same : ∀ i, SameIntent i (f i)) :
      Stored s x { s with outbox := s.outbox.map f }

section Step

variable {s s' : MemoryCommandStore} {x : StoreStep} {k : Key} {digest : String} {o o' : CommandOperation}

theorem Stored.of_result {α : Type} {r : Except Exc α} {s' : MemoryCommandStore} {y : Except Exc α × MemoryCommandStore}
    (h : y = (r, s')) (hw : Stored s x s') : Stored s x y.2 := by
  rw [h]
  exact hw

theorem recordDeadLetter_stored (d : DeadLetter) (hx : x.call = .ledger (.recordDeadLetter d)) :
    Stored s x (perform (recordDeadLetter d x.now) s).2 := by
  unfold recordDeadLetter latestAttempt MemoryCommandStore.get
  simp only [perform_bind, perform_get]
  cases hc : s.commands.lookup (d.tenantId, d.commandId) with
  | none => exact .same
  | some entry =>
    simp only [perform_pure]
    cases hl : s.deadLetters.lookup (d.tenantId, d.commandId) with
    | some existing => exact .same
    | none =>
      simp only [perform_bind, perform_get, hc, perform_pure, perform_modify]
      exact .deadLettered d hx _

/-- A replay request is stored under its key, or answered from the store; or it raises and changes nothing. -/
theorem createReplay_store (r : ReplayRequest) (now : Time) :
    (∃ e, perform (createReplay r now) s = (.error e, s)) ∨
    (∃ replayId record, s.replayKeys.lookup (r.tenantId, r.commandId, r.idempotencyKey) = some replayId ∧
      s.replays.lookup (r.tenantId, replayId) = some record ∧ perform (createReplay r now) s = (.ok record, s)) ∨
    ∃ record : ReplayRecord, (record.replayId = r.replayId ∧ record.originalCommandId = r.commandId ∧
        record.idempotencyKey = r.idempotencyKey ∧ record.replayCommandId = none) ∧
      perform (createReplay r now) s = (.ok record,
        { s with
          replays := s.replays.insert (r.tenantId, r.replayId) record
          replayKeys := s.replayKeys.insert (r.tenantId, r.commandId, r.idempotencyKey) r.replayId }) := by
  unfold createReplay getDeadLetter
  simp only [perform_bind, perform_get]
  cases hc : s.deadLetters.lookup (r.tenantId, r.commandId) with
  | none => exact .inl ⟨_, rfl⟩
  | some row =>
    simp only [perform_pure]
    cases hk : s.replayKeys.lookup (r.tenantId, r.commandId, r.idempotencyKey) with
    | some existingId =>
      simp only [perform_bind, perform_get]
      cases hr : s.replays.lookup (r.tenantId, existingId) with
      | none =>
        simp only [item, hr, perform_throw]
        exact .inl ⟨_, rfl⟩
      | some existing =>
        simp only [perform_item hr, perform_bind, perform_ite, perform_throw, perform_pure]
        split
        · exact .inl ⟨_, rfl⟩
        · exact .inr (.inl ⟨existingId, existing, rfl, hr, rfl⟩)
    | none =>
      exact .inr (.inr ⟨_, ⟨rfl, rfl, rfl, rfl⟩, rfl⟩)

theorem createReplay_stored (r : ReplayRequest) (hx : x.call = .ledger (.createReplay r)) :
    Stored s x (perform (createReplay r x.now) s).2 := by
  rcases createReplay_store (s := s) r x.now with ⟨_, h⟩ | ⟨_, _, -, -, h⟩ | ⟨record, hfields, h⟩
  · exact .of_result h .same
  · exact .of_result h .same
  · exact .of_result h (.requested r hx record hfields)

theorem completeReplay_stored (tenantId : String) (replayId replayCommandId : Uuid)
    (hx : x.call = .ledger (.completeReplay tenantId replayId replayCommandId)) :
    Stored s x (perform (completeReplay tenantId replayId replayCommandId) s).2 := by
  unfold completeReplay
  simp only [perform_bind, perform_get]
  cases hc : s.replays.lookup (tenantId, replayId) with
  | none => exact .same
  | some row =>
    simp only [perform_bind, perform_ite, perform_throw, perform_modify, perform_pure]
    split
    · exact .same
    · exact .completed tenantId replayId replayCommandId hx row hc

theorem cancelReplay_stored (tenantId : String) (replayId : Uuid) (hx : x.call = .ledger (.cancelReplay tenantId replayId)) :
    Stored s x (perform (cancelReplay tenantId replayId x.now) s).2 := by
  unfold cancelReplay
  simp only [perform_bind, perform_get]
  cases hc : s.replays.lookup (tenantId, replayId) with
  | none => exact .same
  | some row =>
    simp only [perform_bind, perform_ite, perform_throw, perform_modify, perform_pure]
    split
    · exact .same
    · exact .withdrawn tenantId replayId hx row hc

theorem ledger_stored (hs : s.Synced) (c : LedgerCall) (hc : x.call = .ledger c) :
    Stored s x (perform (c.action x.now) s).2 := by
  have hdiscard : ∀ {α : Type} {p : LedgerM α}, Stored s x (perform p s).2 → Stored s x (perform (discard p) s).2 := by
    intro α p h
    rw [perform_discard]
    exact h
  cases c with
  | submit r =>
    refine hdiscard ?_
    rcases submit_store (s := s) r x.now with ⟨hid, hkey, -, h⟩ | ⟨_, _, -, -, h⟩ | ⟨_, h⟩
    · exact .of_result h (.submitted r hc hid hkey)
    · exact .of_result h .same
    · exact .of_result h .same
  | transition t =>
    refine hdiscard ?_
    rcases transition_store hs t x.now with ⟨_, h⟩ | ⟨digest, o, _, _, _, ho, -, -, -, -, -, -, h⟩
    · exact .of_result h .same
    · exact .of_result h (.transitioned t hc digest o ho _ _)
  | mutateOperation m =>
    refine hdiscard ?_
    cases hm : s.mutations.lookup m.mutationKey with
    | some replay =>
      rcases mutateOperation_cases hs m x.now with ⟨_, h⟩ | ⟨_, _, _, _, _, _, _, ho, -, -, -, -, h, -⟩
      · exact .of_result h .same
      · exact .of_result (mutateOperation_known m x.now ho hm) .same
    | none =>
      rcases mutateOperation_store hs m x.now hm with
        ⟨_, h⟩ | ⟨digest, o, changed, outbox, _, _, ho, -, -, -, hmut, h⟩
      · exact .of_result h .same
      · exact .of_result h (.mutated m hc hm digest o changed outbox ho hmut _)
  | reconcile r =>
    refine hdiscard ?_
    rcases reconcile_store hs r x.now with ⟨_, h⟩ | ⟨digest, o, _, _, _, ho, -, -, -, -, -, h⟩
    · exact .of_result h .same
    · exact .of_result h (.reconciled r hc digest o ho _ _)
  | recordDeadLetter d => exact hdiscard (recordDeadLetter_stored d hc)
  | createReplay r => exact hdiscard (createReplay_stored r hc)
  | completeReplay t i c => exact hdiscard (completeReplay_stored t i c hc)
  | cancelReplay t i => exact hdiscard (cancelReplay_stored t i hc)

/-- The bus and the reconciliation source update rows in place. -/
theorem queue_rows (hq : ∀ c, x.call ≠ .ledger c) : ∃ f : MemoryOutboxIntent → MemoryOutboxIntent,
    (∀ i, SameIntent i (f i)) ∧ x.exec s = { s with outbox := s.outbox.map f } := by
  have hsame : ∃ f : MemoryOutboxIntent → MemoryOutboxIntent, (∀ i, SameIntent i (f i)) ∧
      s = { s with outbox := s.outbox.map f } := ⟨fun i => i, .refl, by simp⟩
  have hrow : ∀ (id : Nat) (g : MemoryOutboxIntent → MemoryOutboxIntent), (∀ i, SameIntent i (g i)) →
      ∃ f : MemoryOutboxIntent → MemoryOutboxIntent, (∀ i, SameIntent i (f i)) ∧
        updateRow id g s = { s with outbox := s.outbox.map f } := by
    intro id g hg
    refine ⟨fun i => if i.id = id then g i else i, fun i => ?_, rfl⟩
    dsimp only
    split
    · exact hg i
    · exact .refl i
  obtain ⟨call, now⟩ := x
  cases call with
  | ledger c => exact absurd rfl (hq c)
  | busClaim b =>
    simp only [StoreStep.exec, MemoryExecutionBus.claim]
    split
    · exact hsame
    · exact hrow _ _ fun i => ⟨rfl, rfl, rfl, rfl, rfl, fun _ h => by cases h⟩
  | busSettle b id outcome =>
    refine hrow id _ fun i => ?_
    unfold MemoryExecutionBus.settleRow
    split
    · exact ⟨rfl, rfl, rfl, rfl, rfl, fun _ _ => rfl⟩
    · dsimp only
      split <;> exact ⟨rfl, rfl, rfl, rfl, rfl, fun _ _ => rfl⟩
    · exact ⟨rfl, rfl, rfl, rfl, rfl, fun h => h⟩
  | sourceClaim r lease =>
    simp only [StoreStep.exec, MemoryReconciliationSource.claim]
    split
    · exact hsame
    · exact hrow _ _ fun i => ⟨rfl, rfl, rfl, rfl, rfl, fun _ h => by cases h⟩
  | sourceResolve claim r action reason =>
    simp only [StoreStep.exec, MemoryReconciliationSource.resolve]
    split
    · exact hsame
    · refine hrow _ _ fun i => ?_
      cases action <;> exact ⟨rfl, rfl, rfl, rfl, rfl, fun _ _ => rfl⟩
  | sourceRelease claim r reason =>
    simp only [StoreStep.exec, MemoryReconciliationSource.release]
    split
    · exact hsame
    · exact hrow _ _ fun i => ⟨rfl, rfl, rfl, rfl, rfl, fun _ _ => rfl⟩

theorem exec_stored (hs : s.Synced) (x : StoreStep) : Stored s x (x.exec s) := by
  by_cases hq : ∃ c, x.call = .ledger c
  · obtain ⟨c, hc⟩ := hq
    have hexec : x.exec s = (perform (c.action x.now) s).2 := by
      unfold StoreStep.exec
      rw [hc]
    rw [hexec]
    exact ledger_stored hs c hc
  · obtain ⟨f, hf, hexec⟩ := queue_rows (s := s) (x := x) fun c hc => hq ⟨c, hc⟩
    rw [hexec]
    exact .rows f hf

/-- An operation may change under its identity; its version does not fall. -/
structure Later (o o' : CommandOperation) : Prop where
  identity : o'.identity = o.identity
  version : o.resourceVersion ≤ o'.resourceVersion
  duplicate : o'.duplicate = o.duplicate

theorem Later.refl (o : CommandOperation) : Later o o := ⟨rfl, le_rfl, rfl⟩

theorem Later.trans {a b c : CommandOperation} (h : Later a b) (h' : Later b c) : Later a c :=
  ⟨h'.identity.trans h.identity, h.version.trans h'.version, h'.duplicate.trans h.duplicate⟩

theorem transition_later (t : Transition) (o : CommandOperation) (now : Time) : Later o (t.updated o now) :=
  ⟨rfl, le_rfl, rfl⟩

theorem reconciliation_later (r : Reconciliation) (o : CommandOperation) (now : Time) : Later o (r.updated o now) :=
  ⟨rfl, Nat.le_succ _, rfl⟩

theorem mutation_later {m : Mutation} {o changed : CommandOperation} {now : Time} {outbox : List MemoryOutboxIntent}
    (h : Mutated s m o now changed outbox) : Later o (Mutation.updated o changed now) := by
  cases h <;> exact ⟨rfl, Nat.le_succ _, rfl⟩

theorem Stored.kept (h : Stored s x s') (hl : s.commands.lookup k = some (digest, o)) :
    ∃ o', s'.commands.lookup k = some (digest, o') ∧ Later o o' := by
  have hupdate : ∀ {k' : Key} {d : String} {p p' : CommandOperation}, s.commands.lookup k' = some (d, p) →
      Later p p' → ∃ o', (s.commands.insert k' (d, p')).lookup k = some (digest, o') ∧ Later o o' := by
    intro k' d p p' hp hid
    rw [lookup_insert_ite]
    by_cases hk : k = k'
    · subst hk
      rw [hl] at hp
      cases hp
      exact ⟨p', if_pos rfl, hid⟩
    · exact ⟨o, by rw [if_neg hk, hl], .refl o⟩
  cases h with
  | same => exact ⟨o, hl, .refl o⟩
  | submitted r call newId newKey =>
    have hk : k ≠ r.key := by
      rintro rfl
      rw [newId] at hl
      cases hl
    exact ⟨o, by rw [Submission.admitted, lookup_insert_ite, if_neg hk, hl], .refl o⟩
  | transitioned t call digest o command => exact hupdate command (transition_later t o _)
  | reconciled r call digest o command => exact hupdate command (reconciliation_later r o _)
  | mutated m call new digest o changed outbox command mutated => exact hupdate command (mutation_later mutated)
  | deadLettered | requested | completed | withdrawn | rows => exact ⟨o, hl, .refl o⟩

theorem Stored.source (h : Stored s x s') (hl : s'.commands.lookup k = some (digest, o')) :
    (∃ o, s.commands.lookup k = some (digest, o) ∧ Later o o') ∨
    ∃ r, x.call = .ledger (.submit r) ∧ r.key = k ∧
      digest = authenticatedCommandDigest r.command r.authenticatedClientId ∧
      o' = r.operation x.now ∧ s.commands.lookup r.key = none ∧
      s.idempotency.lookup (r.command.tenantId, r.command.idempotencyKey) = none := by
  have hupdate : ∀ {k' : Key} {d : String} {p p' : CommandOperation}, s.commands.lookup k' = some (d, p) →
      Later p p' → (s.commands.insert k' (d, p')).lookup k = some (digest, o') →
      ∃ o, s.commands.lookup k = some (digest, o) ∧ Later o o' := by
    intro k' d p p' hp hid hl
    rw [lookup_insert_ite] at hl
    split at hl
    · rename_i hk
      cases hl
      exact ⟨p, by rw [hk, hp], hid⟩
    · exact ⟨o', hl, .refl o'⟩
  cases h with
  | same => exact .inl ⟨o', hl, .refl o'⟩
  | submitted r call newId newKey =>
    rw [Submission.admitted, lookup_insert_ite] at hl
    split at hl
    · rename_i hk
      cases hl
      exact .inr ⟨r, call, hk.symm, rfl, rfl, newId, newKey⟩
    · exact .inl ⟨o', hl, .refl o'⟩
  | transitioned t call d p command => exact .inl (hupdate command (transition_later t p _) hl)
  | reconciled r call d p command => exact .inl (hupdate command (reconciliation_later r p _) hl)
  | mutated m call new d p changed outbox command mutated => exact .inl (hupdate command (mutation_later mutated) hl)
  | deadLettered | requested | completed | withdrawn | rows => exact .inl ⟨o', hl, .refl o'⟩

end Step

theorem exec_wf {s : MemoryCommandStore} (hw : WF s) (x : StoreStep) : WF (x.exec s) := by
  by_cases hq : ∃ c, x.call = .ledger c
  · obtain ⟨c, hc⟩ := hq
    have h := (action_step hw.synced c x.now).1.wf hw
    unfold StoreStep.exec
    rw [hc]
    exact h
  · obtain ⟨f, -, hexec⟩ := queue_rows (s := s) (x := x) fun c hc => hq ⟨c, hc⟩
    rw [hexec]
    exact Ledger.Step.wf hw (.same rfl rfl rfl rfl)

theorem store_wf : WF (store steps) := by
  induction steps using List.reverseRecOn with
  | nil => exact WF.empty
  | append_singleton steps x ih =>
    rw [store_concat]
    exact exec_wf ih x

theorem store_stored (x : StoreStep) : Stored (store steps) x (store (steps ++ [x])) := by
  rw [store_concat]
  exact exec_stored (store_wf steps).synced x

theorem store_kept {k : Key} {digest : String} {o : CommandOperation}
    (h : (store steps).commands.lookup k = some (digest, o)) :
    ∀ more : List StoreStep, ∃ o', (store (steps ++ more)).commands.lookup k = some (digest, o') ∧
      Later o o' := by
  intro more
  induction more using List.reverseRecOn with
  | nil => exact ⟨o, by rw [List.append_nil, h], .refl o⟩
  | append_singleton more x ih =>
    obtain ⟨o₁, h₁, hid₁⟩ := ih
    obtain ⟨o₂, h₂, hid₂⟩ := (store_stored (steps ++ more) x).kept h₁
    exact ⟨o₂, by rw [← List.append_assoc, h₂], hid₁.trans hid₂⟩

end Middleware.Platform.Store

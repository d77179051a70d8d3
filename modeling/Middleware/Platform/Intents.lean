/-
What every run of the in-memory store says about the intents of a command: they are copies of what was submitted, the
first of them stands under the command's own idempotency key, nobody holds half a lease, and a cancellation date
belongs to a cancelled operation.
-/
import Middleware.Platform.Store

namespace Middleware.Platform.Store

open Ledger MemoryCommandStore

/-- The intents of a command are those of its submission. -/
structure Submitted (s : MemoryCommandStore) (k : Key) (o : CommandOperation) (command : CommandEnvelope)
    (clientId destination : String) : Prop where
  payload : s.payloads.lookup k = some (command, clientId)
  key : command.idempotencyKey = o.idempotencyKey
  first : ∃ i ∈ s.outbox, rowKey i = k ∧ i.idempotencyKey = command.idempotencyKey
  copies : ∀ i ∈ s.outbox, rowKey i = k → i.destination = destination ∧ i.payload.envelope = some (command, clientId)

structure Filed (s : MemoryCommandStore) : Prop where
  submitted : ∀ {k digest o}, s.commands.lookup k = some (digest, o) →
    ∃ command clientId destination, Submitted s k o command clientId destination
  known : ∀ i ∈ s.outbox, rowKey i ∈ s.commands
  leases : ∀ i ∈ s.outbox, i.leaseOwner = none → i.leaseUntil = none
  dated : ∀ {k digest o}, s.commands.lookup k = some (digest, o) → o.state ≠ .cancelled → o.cancelledAt = none

theorem Filed.empty : Filed {} :=
  ⟨fun h => by simp at h, fun i h => by simp at h, fun i h => by simp at h, fun h => by simp at h⟩

section Step

variable {s s' : MemoryCommandStore} {x : StoreStep} {k : Key} {digest : String} {o o' : CommandOperation}

/-- An operation that is replaced under its identity keeps what it was submitted with, when its intents do. -/
theorem Submitted.kept {command : CommandEnvelope} {clientId destination : String}
    (h : Submitted s k o command clientId destination) (hid : o'.idempotencyKey = o.idempotencyKey)
    (hp : s'.payloads = s.payloads)
    (hold : ∀ i ∈ s.outbox, ∃ j ∈ s'.outbox, SameIntent i j)
    (hnew : ∀ j ∈ s'.outbox, rowKey j = k → ∃ i ∈ s.outbox, rowKey i = k ∧
      j.destination = i.destination ∧ j.payload.envelope = i.payload.envelope) :
    Submitted s' k o' command clientId destination := by
  refine ⟨by rw [hp]; exact h.payload, h.key.trans hid.symm, ?_, fun j hj hk => ?_⟩
  · obtain ⟨i, hi, hik, hkey⟩ := h.first
    obtain ⟨j, hj, hs⟩ := hold i hi
    exact ⟨j, hj, hs.key.trans hik, hs.idempotencyKey.trans hkey⟩
  · obtain ⟨i, hi, hik, hdest, henv⟩ := hnew j hj hk
    obtain ⟨hd, he⟩ := h.copies i hi hik
    exact ⟨hdest.trans hd, henv.trans he⟩

/-- The intents after a step are the earlier ones, updated in place, and copies of earlier ones of the same command. -/
structure Copied (s s' : MemoryCommandStore) : Prop where
  old : ∀ i ∈ s.outbox, ∃ j ∈ s'.outbox, SameIntent i j
  new : ∀ j ∈ s'.outbox, ∃ i ∈ s.outbox, rowKey i = rowKey j ∧
    j.destination = i.destination ∧ j.payload.envelope = i.payload.envelope
  leases : (∀ i ∈ s.outbox, i.leaseOwner = none → i.leaseUntil = none) →
    ∀ j ∈ s'.outbox, j.leaseOwner = none → j.leaseUntil = none

variable {f : MemoryOutboxIntent → MemoryOutboxIntent}

theorem Copied.map (hf : ∀ i, SameIntent i (f i))
    (hs : s'.outbox = s.outbox.map f) : Copied s s' := by
  refine ⟨fun i hi => ⟨f i, by rw [hs]; exact List.mem_map_of_mem hi, hf i⟩, fun j hj => ?_, fun hl j hj => ?_⟩
  · rw [hs] at hj
    obtain ⟨i, hi, rfl⟩ := List.mem_map.1 hj
    exact ⟨i, hi, (hf i).key.symm, (hf i).destination, by rw [(hf i).payload]⟩
  · rw [hs] at hj
    obtain ⟨i, hi, rfl⟩ := List.mem_map.1 hj
    exact (hf i).lease (hl i hi)

theorem Copied.same (hs : s'.outbox = s.outbox) : Copied s s' :=
  .map .refl (by rw [hs, List.map_id'])

theorem Copied.mapIntents {tenantId : String} {commandId : Uuid}
    (hf : ∀ i, SameIntent i (f i)) (hs : s'.outbox = mapIntents tenantId commandId f s.outbox) : Copied s s' := by
  refine .map (f := fun i => if i.tenantId = tenantId ∧ i.commandId = commandId then f i else i) (fun i => ?_) hs
  split
  · exact hf i
  · exact .refl i

variable (i : MemoryOutboxIntent)

theorem cancelIntent_same : SameIntent i (cancelIntent i) := by
  unfold cancelIntent
  split
  · exact ⟨rfl, rfl, rfl, rfl, rfl, fun h => h⟩
  · exact .refl i

theorem parkIntent_same : SameIntent i (parkIntent i) := by
  unfold parkIntent
  split
  · exact ⟨rfl, rfl, rfl, rfl, rfl, fun _ _ => rfl⟩
  · exact .refl i

variable {entry : String × CommandOperation}

theorem last_intent (hf : Filed s) {tenantId : String} {commandId : Uuid}
    (h : s.commands.lookup (tenantId, commandId) = some entry) :
    ∃ i ∈ s.outbox, rowKey i = (tenantId, commandId) ∧ (s.adapterIntents tenantId commandId).getLast? = some i := by
  obtain ⟨command, clientId, destination, hs⟩ := hf.submitted h
  obtain ⟨i, hi, hik, -⟩ := hs.first
  have hmem : ∀ j, j ∈ s.adapterIntents tenantId commandId ↔ j ∈ s.outbox ∧ rowKey j = (tenantId, commandId) := by
    intro j
    simp [adapterIntents]
  cases hl : (s.adapterIntents tenantId commandId).getLast? with
  | none =>
    rw [List.getLast?_eq_none_iff] at hl
    have := (hmem i).2 ⟨hi, hik⟩
    rw [hl] at this
    cases this
  | some last =>
    obtain ⟨hlast, hk⟩ := (hmem last).1 (List.mem_of_getLast? hl)
    exact ⟨last, hlast, hk, rfl⟩

/-- A retry appends a copy of the command's last intent, which nobody holds. -/
theorem Copied.retried (hf : Filed s) (m : Mutation)
    (h : s.commands.lookup m.key = some entry) (hs : s'.outbox = s.outbox ++ [retryIntent s m o]) : Copied s s' := by
  obtain ⟨last, hlast, hlk, hl⟩ := last_intent hf h
  refine ⟨fun i hi => ⟨i, by rw [hs]; exact List.mem_append_left _ hi, .refl i⟩, fun j hj => ?_, fun hle j hj => ?_⟩
  · rw [hs, List.mem_append, List.mem_singleton] at hj
    rcases hj with hj | rfl
    · exact ⟨j, hj, rfl, rfl, rfl⟩
    · refine ⟨last, hlast, hlk, ?_, ?_⟩ <;> simp only [retryIntent, hl]
  · rw [hs, List.mem_append, List.mem_singleton] at hj
    rcases hj with hj | rfl
    · exact hle j hj
    · exact fun _ => rfl

theorem Copied.mutated (hf : Filed s) {m : Mutation} {changed : CommandOperation}
    {now : Time} {outbox : List MemoryOutboxIntent} (h : s.commands.lookup m.key = some entry)
    (hm : Mutated s m o now changed outbox) (hs : s'.outbox = outbox) : Copied s s' := by
  cases hm with
  | cancelled => exact .mapIntents cancelIntent_same hs
  | parked => exact .same hs
  | reconciled => exact .mapIntents parkIntent_same hs
  | retried => exact .retried hf m h hs

theorem Filed.update (hf : Filed s) (hl : s.commands.lookup k = some (digest, o)) (hid : o'.identity = o.identity)
    (hc : s'.commands = s.commands.insert k (digest, o')) (hp : s'.payloads = s.payloads) (hi : Copied s s')
    (hd : o'.state ≠ .cancelled → o'.cancelledAt = none) : Filed s' := by
  simp only [CommandOperation.identity, Prod.mk.injEq] at hid
  have hnew : ∀ k', ∀ j ∈ s'.outbox, rowKey j = k' → ∃ i ∈ s.outbox, rowKey i = k' ∧
      j.destination = i.destination ∧ j.payload.envelope = i.payload.envelope := by
    rintro _ j hj rfl
    exact hi.new j hj
  refine ⟨fun {k' d p} h => ?_, fun j hj => ?_, hi.leases hf.leases, fun {k' d p} h => ?_⟩
  · rw [hc, lookup_insert_ite] at h
    split at h
    · rename_i hk
      cases h
      obtain ⟨command, clientId, destination, hs⟩ := hf.submitted hl
      rw [hk]
      exact ⟨command, clientId, destination, hs.kept hid.2.2.2.2.1 hp hi.old (hnew k)⟩
    · obtain ⟨command, clientId, destination, hs⟩ := hf.submitted h
      exact ⟨command, clientId, destination, hs.kept rfl hp hi.old (hnew k')⟩
  · obtain ⟨i, hi', hk, -⟩ := hi.new j hj
    rw [hc, AList.mem_insert, ← hk]
    exact .inr (hf.known i hi')
  · rw [hc, lookup_insert_ite] at h
    split at h
    · cases h
      exact hd
    · exact hf.dated h

theorem Filed.rows (hf : Filed s) (hc : s'.commands = s.commands) (hp : s'.payloads = s.payloads) (hi : Copied s s') :
    Filed s' := by
  refine ⟨fun {k' d p} h => ?_, fun j hj => ?_, hi.leases hf.leases, fun {k' d p} h => ?_⟩
  · rw [hc] at h
    obtain ⟨command, clientId, destination, hs⟩ := hf.submitted h
    refine ⟨command, clientId, destination, hs.kept rfl hp hi.old ?_⟩
    rintro j hj rfl
    exact hi.new j hj
  · obtain ⟨i, hi', hk, -⟩ := hi.new j hj
    rw [hc, ← hk]
    exact hf.known i hi'
  · rw [hc] at h
    exact hf.dated h

theorem Filed.admitted (hf : Filed s) (r : Submission) (now : Time) (hid : s.commands.lookup r.key = none) :
    Filed (r.admitted s now) := by
  have hnone : ∀ i ∈ s.outbox, rowKey i ≠ r.key := by
    intro i hi hk
    have := hf.known i hi
    rw [hk, ← AList.lookup_isSome, hid] at this
    cases this
  have hmem : ∀ j, j ∈ (r.admitted s now).outbox ↔ j ∈ s.outbox ∨ j = r.intent (s.outbox.length + 1) := by
    intro j
    simp [Submission.admitted]
  refine ⟨fun {k d p} h => ?_, fun j hj => ?_, fun j hj => ?_, fun {k d p} h => ?_⟩
  · simp only [Submission.admitted, lookup_insert_ite] at h
    split at h
    · rename_i hk
      cases h
      rw [hk]
      refine ⟨r.command, r.authenticatedClientId, r.destination, ?_, rfl, ?_, fun j hj hjk => ?_⟩
      · simp [Submission.admitted]
      · exact ⟨_, (hmem _).2 (.inr rfl), rfl, rfl⟩
      · rcases (hmem j).1 hj with hj | rfl
        · exact absurd hjk (hnone j hj)
        · exact ⟨rfl, rfl⟩
    · rename_i hk
      obtain ⟨command, clientId, destination, hs⟩ := hf.submitted h
      refine ⟨command, clientId, destination, ?_, hs.key, ?_, fun j hj hjk => ?_⟩
      · simp only [Submission.admitted, lookup_insert_ite, if_neg hk]
        exact hs.payload
      · obtain ⟨i, hi, hik, hkey⟩ := hs.first
        exact ⟨i, (hmem i).2 (.inl hi), hik, hkey⟩
      · rcases (hmem j).1 hj with hj | rfl
        · exact hs.copies j hj hjk
        · exact absurd hjk.symm hk
  · rw [Submission.admitted, AList.mem_insert]
    rcases (hmem j).1 hj with hj | rfl
    · exact .inr (hf.known j hj)
    · exact .inl rfl
  · rcases (hmem j).1 hj with hj | rfl
    · exact hf.leases j hj
    · exact fun _ => rfl
  · simp only [Submission.admitted, lookup_insert_ite] at h
    split at h
    · cases h
      exact fun _ => rfl
    · exact hf.dated h

theorem Filed.dated_update (hf : Filed s) (hl : s.commands.lookup k = some (digest, o))
    (hadv : ∃ o₁, s'.commands.lookup k = some (digest, o₁) ∧ Advances o o₁)
    (hc : s'.commands = s.commands.insert k (digest, o'))
    (hd : o.cancelledAt = none → o'.state ≠ .cancelled → o'.cancelledAt = none) :
    o'.state ≠ .cancelled → o'.cancelledAt = none := by
  intro hst
  refine hd (hf.dated hl fun hcan => hst ?_) hst
  obtain ⟨o₁, h₁, hadv⟩ := hadv
  rw [hc, AList.lookup_insert] at h₁
  cases h₁
  rw [hadv.final (by rw [hcan]; rfl), hcan]

theorem Stored.filed (h : Stored s x s') (hext : Ledger.Extends s s') (hf : Filed s) : Filed s' := by
  cases h with
  | same => exact hf
  | submitted r call newId newKey => exact hf.admitted r _ newId
  | transitioned t call digest o command events attempts =>
    exact hf.update command (transition_later t o x.now).identity rfl rfl (.same rfl)
      (hf.dated_update command (hext command) rfl fun h _ => h)
  | reconciled r call digest o command events attempts =>
    exact hf.update command (reconciliation_later r o x.now).identity rfl rfl (.same rfl)
      (hf.dated_update command (hext command) rfl fun h _ => h)
  | mutated m call new digest o changed outbox command mutated events =>
    refine hf.update command (mutation_later mutated).identity rfl rfl (.mutated hf command mutated rfl)
      (hf.dated_update command (hext command) rfl fun h hst => ?_)
    cases mutated with
    | cancelled => exact absurd rfl hst
    | parked => rfl
    | reconciled => exact h
    | retried => exact h
  | deadLettered | requested | completed | withdrawn => exact hf.rows rfl rfl (.same rfl)
  | rows f same => exact hf.rows rfl rfl (.map same rfl)

end Step

theorem exec_extends {s : MemoryCommandStore} (hs : s.Synced) (x : StoreStep) : Ledger.Extends s (x.exec s) := by
  intro k digest o h
  by_cases hq : ∃ c, x.call = .ledger c
  · obtain ⟨c, hc⟩ := hq
    unfold StoreStep.exec
    rw [hc]
    exact (action_step hs c x.now).1.extends h
  · obtain ⟨f, -, hexec⟩ := queue_rows (s := s) (x := x) fun c hc => hq ⟨c, hc⟩
    rw [hexec]
    exact ⟨o, h, .refl o⟩

theorem store_filed (steps : List StoreStep) : Filed (store steps) := by
  induction steps using List.reverseRecOn with
  | nil => exact Filed.empty
  | append_singleton steps x ih =>
    rw [store_concat]
    have hs := (store_wf steps).synced
    exact (exec_stored hs x).filed (exec_extends hs x) ih

end Middleware.Platform.Store

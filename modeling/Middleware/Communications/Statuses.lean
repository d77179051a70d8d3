/-
The status of a message over whole runs. What the service itself does to a message that is done leaves it done; a provider's
event does not, unless the message was delivered. A command that was cancelled behind the service's back leaves a message
without the date of its end.
-/
import Middleware.Communications.Suppression

namespace Middleware.Communications

open Ledger Lib

/-- A message that is done stays done, and the date of its end says when. -/
structure Settled (svc : Service) (setup : Setup) (calls : List (Call svc)) : Prop where
  absorbing : ∀ before call rest key m, calls = before ++ call :: rest →
    (after svc setup before).store.messages.get key = some m → m.status.terminal = true → ∃ m', (after svc setup (before ++ [call])).store.messages.get key = some m' ∧
      m'.status.terminal = true
  completed : ∀ before, before <+: calls → ∀ key m, (after svc setup before).store.messages.get key = some m →
    m.completedAt.isSome = m.status.terminal

/-- The identifier that `uuid4` draws is new. -/
def Drawn (svc : Service) (w : World) : Call svc → Prop
  | .submit c => w.store.messages.get (c.tenantId, c.messageId) = none
  | .refresh _ | .cancel _ | .event _ | .ledger _ => True

/-- An event that reaches a message which is done says that it is done, unless it comes too late for a delivered one; and what
a refresh reads is not the cancellation of a message that is not done. -/
def Guarded (svc : Service) (w : World) : Call svc → Prop
  | .event c => ∀ m, Applies svc w.store c.envelope m → m.status.terminal = true →
      (m.status = .delivered ∧ Service.isEmailUnsubscribe c.envelope = false) ∨
        (providerStatusToCanonical (svc.rawStatus c.envelope)).terminal = true
  | .refresh c => ∀ m operationId operation, w.store.messages.get (c.tenantId, c.messageId) = some m →
      m.operationId = some operationId → (perform (MemoryCommandStore.get c.tenantId operationId) w.ledger).1 = .ok operation →
      operation.state = .cancelled → m.status.terminal = true
  | .submit _ | .cancel _ | .ledger _ => True

variable {svc : Service}

/-! ## The key of a message -/

/-- Every message stands once, under its own identifiers. -/
structure Keyed (s : Store) : Prop where
  nodup : s.messages.keys.Nodup
  own : ∀ key m, s.messages.get key = some m → key = (m.tenantId, m.messageId)

section Keys

variable {s : Store} {w : World} {call : Call svc} {key : String × Uuid} {m m' : CommunicationMessage}

theorem refreshed_fields {operation : CommandOperation} {now : Time} (h : m.refreshed operation now = some m') :
    m'.tenantId = m.tenantId ∧ m'.messageId = m.messageId ∧ m'.status = commandStateToCanonical operation.state ∧
      m.status.terminal = false ∧
      m'.completedAt = if commandStateToCanonical operation.state = .failed then some now else m.completedAt := by
  unfold CommunicationMessage.refreshed at h
  dsimp only at h
  split at h
  · cases h
  · split at h
    · cases h
    · rename_i hopen
      have hopen' : m.status.terminal = false := by simpa using hopen
      cases hstate : operation.state <;> rw [hstate] at h <;> simp only [commandStateToCanonical] at h <;> cases h <;>
        exact ⟨rfl, rfl, rfl, hopen', rfl⟩

theorem providerMessage_stored (hkeyed : Keyed s) {e : EventEnvelope} (h : svc.providerMessage e s = some m) :
    s.messages.get (e.tenantId, m.messageId) = some m ∧ m.tenantId = e.tenantId := by
  unfold Service.providerMessage at h
  dsimp only at h
  split at h
  · cases h
  · split at h
    · rename_i message hmessage
      cases h
      obtain ⟨id, -, hget⟩ := Option.bind_eq_some_iff.1 hmessage
      obtain ⟨htenant, hid⟩ := Prod.mk.inj (hkeyed.own _ _ hget)
      exact ⟨by rw [← hid]; exact hget, htenant.symm⟩
    · obtain ⟨id, -, hfind⟩ := Option.bind_eq_some_iff.1 h
      obtain ⟨⟨key, message⟩, hentry, rfl⟩ := Option.map_eq_some_iff.1 hfind
      have hmem := List.mem_of_find?_eq_some hentry
      have htenant : key.1 = e.tenantId := by
        have hpred := List.find?_some hentry
        simp only [Bool.and_eq_true, beq_iff_eq] at hpred
        exact hpred.1
      have hget := OrderedDict.get_of_mem hkeyed.nodup hmem
      have hown := hkeyed.own _ _ hget
      rw [hown] at hget htenant
      rw [← htenant]
      exact ⟨hget, rfl⟩

theorem Writes.own (h : Writes svc w call key m) (hkeyed : Keyed w.store) : key = (m.tenantId, m.messageId) := by
  cases h with
  | suppressed => rfl
  | accepted => rfl
  | queued => rfl
  | refreshed c m₀ m operationId operation stored owned found changed =>
    obtain ⟨htenant, hid, -⟩ := refreshed_fields changed
    rw [htenant, hid]
    exact hkeyed.own _ _ stored
  | cancelled c m₀ stored =>
    have hown := hkeyed.own _ _ stored
    exact hown
  | received => rfl
  | updated c m₀ applies =>
    show (c.envelope.tenantId, m₀.messageId) = (m₀.tenantId, m₀.messageId)
    rw [(providerMessage_stored hkeyed applies.found).2]

theorem step_keyed (hkeyed : Keyed w.store) (call : Call svc) : Keyed (step svc call w).store := by
  rcases step_writes call w with hsame | ⟨key, m, hwrites, hset⟩
  · exact ⟨by rw [hsame]; exact hkeyed.nodup, by rw [hsame]; exact hkeyed.own⟩
  · refine ⟨by rw [hset]; exact OrderedDict.nodup_keys_set hkeyed.nodup, fun k m' hget => ?_⟩
    rw [hset, OrderedDict.get_set] at hget
    split at hget
    · rename_i hk
      cases hget
      rw [hk]
      exact hwrites.own hkeyed
    · exact hkeyed.own k m' hget

theorem after_keyed (svc : Service) (setup : Setup) (calls : List (Call svc)) : Keyed (after svc setup calls).store := by
  refine runFrom_invariant (I := fun w => Keyed w.store) ?_ fun (w : World) call h => step_keyed h call
  exact ⟨List.nodup_nil, fun key m h => by cases h⟩

end Keys

/-! ## One step -/

section Steps

variable {s : Store} {w : World} {call : Call svc} {key : String × Uuid} {m m' : CommunicationMessage}

/-- The date of the end and the status agree. -/
def Dated (s : Store) : Prop := ∀ key m, s.messages.get key = some m → m.completedAt.isSome = m.status.terminal

theorem canonical_terminal (state : CommandState) : (commandStateToCanonical state).terminal = true ↔
    commandStateToCanonical state = .failed ∨ state = .cancelled := by
  cases state <;> decide

theorem event_applies {c : RecordEvent} (h : Applies svc w.store c.envelope m) :
    (step svc (.event c) w).store.messages = w.store.messages.set (c.envelope.tenantId, m.messageId) (svc.providerUpdate c m) := by
  unfold step Service.recordProviderEvent
  dsimp only
  rw [h.first]
  rw [if_neg h.type, h.found]
  dsimp only
  rw [if_neg (not_not.2 h.channel), if_neg, persist_world]
  · split <;> rfl
  · intro hnone
    rw [Bool.and_eq_true] at hnone
    have hsome := h.recipient hnone.1
    rw [Option.isNone_iff_eq_none.1 hnone.2] at hsome
    cases hsome

theorem refresh_applies {c : Refresh} {operationId : Uuid} {operation : CommandOperation}
    (stored : w.store.messages.get (c.tenantId, c.messageId) = some m) (owned : m.operationId = some operationId)
    (found : (perform (MemoryCommandStore.get c.tenantId operationId) w.ledger).1 = .ok operation)
    (changed : m.refreshed operation c.now = some m') :
    (step svc (.refresh c) w).store.messages = w.store.messages.set (c.tenantId, c.messageId) m' := by
  unfold step Service.refreshCommandStatus
  dsimp only
  rw [stored]
  dsimp only
  rw [owned]
  dsimp only
  rw [found]
  dsimp only
  rw [changed]
  rw [persist_world]
  rfl

theorem effectiveStatus_terminal (e : EventEnvelope) (hguard : (m.status = .delivered ∧ Service.isEmailUnsubscribe e = false) ∨
    (providerStatusToCanonical (svc.rawStatus e)).terminal = true) : (svc.effectiveStatus e m).terminal = true := by
  unfold Service.effectiveStatus
  split
  · rename_i hignored
    unfold Service.ignoredTransition at hignored
    simp only [Bool.and_eq_true, beq_iff_eq] at hignored
    rw [hignored.1.1]
    rfl
  · rename_i hignored
    rcases hguard with ⟨hdelivered, hsubscribed⟩ | hterminal
    · by_cases hstatus : providerStatusToCanonical (svc.rawStatus e) = .delivered
      · rw [hstatus]
        rfl
      · exact absurd (by simp [Service.ignoredTransition, hdelivered, hsubscribed, hstatus]) hignored
    · exact hterminal

theorem effectiveStatus_open (e : EventEnvelope) (hguard : ¬ ((m.status = .delivered ∧ Service.isEmailUnsubscribe e = false) ∨
    (providerStatusToCanonical (svc.rawStatus e)).terminal = true)) : (svc.effectiveStatus e m).terminal = false := by
  rw [not_or] at hguard
  unfold Service.effectiveStatus
  split
  · rename_i hignored
    unfold Service.ignoredTransition at hignored
    simp only [Bool.and_eq_true, beq_iff_eq, Bool.not_eq_true'] at hignored
    exact absurd ⟨hignored.1.1, hignored.2⟩ hguard.1
  · simpa using hguard.2

theorem readInbound_done {c : RecordEvent} {inbound : Inbound} (h : svc.readInbound c = .ok inbound) :
    inbound.message.status = .delivered ∧ inbound.message.completedAt = some c.now := by
  obtain ⟨numbers, -, h⟩ := bind_ok h
  obtain ⟨sender, -, h⟩ := bind_ok h
  obtain ⟨destination, -, h⟩ := bind_ok h
  obtain ⟨counts, -, h⟩ := bind_ok h
  cases h
  exact ⟨rfl, rfl⟩

theorem Writes.absorbing (h : Writes svc w call key m') (hkeyed : Keyed w.store) (hdrawn : Drawn svc w call)
    (hguarded : Guarded svc w call) (hget : w.store.messages.get key = some m) (hdone : m.status.terminal = true) :
    m'.status.terminal = true := by
  cases h with
  | suppressed => rfl
  | accepted c =>
    rw [show w.store.messages.get (c.tenantId, c.messageId) = none from hdrawn] at hget
    cases hget
  | queued c =>
    rw [show w.store.messages.get (c.tenantId, c.messageId) = none from hdrawn] at hget
    cases hget
  | refreshed c m₀ m' operationId operation stored owned found changed =>
    rw [stored] at hget
    cases hget
    obtain ⟨-, -, -, hopen, -⟩ := refreshed_fields changed
    rw [hopen] at hdone
    cases hdone
  | cancelled => rfl
  | received c inbound first type read =>
    rw [(readInbound_done read).1]
    rfl
  | updated c m₀ applies =>
    rw [(providerMessage_stored hkeyed applies.found).1] at hget
    cases hget
    exact effectiveStatus_terminal c.envelope (hguarded _ applies hdone)

theorem Writes.dated (h : Writes svc w call key m) (hkeyed : Keyed w.store) (hdated : Dated w.store)
    (hguarded : Guarded svc w call) : m.completedAt.isSome = m.status.terminal := by
  cases h with
  | suppressed => rfl
  | accepted => rfl
  | queued => rfl
  | refreshed c m₀ m operationId operation stored owned found changed =>
    obtain ⟨-, -, hstatus, hopen, hcompleted⟩ := refreshed_fields changed
    have hbefore := hdated _ _ stored
    rw [hopen] at hbefore
    rw [hstatus, hcompleted]
    split
    · rename_i hfailed
      rw [hfailed]
      rfl
    · rename_i hfailed
      rw [hbefore]
      -- the command was not cancelled, or the message would be done
      have hcancelled : operation.state ≠ .cancelled := by
        intro hstate
        have hdone := hguarded _ _ _ stored owned found hstate
        rw [hopen] at hdone
        cases hdone
      have hterminal := (canonical_terminal operation.state).not.2 (not_or.2 ⟨hfailed, hcancelled⟩)
      simpa using hterminal
  | cancelled => rfl
  | received c inbound first type read =>
    rw [(readInbound_done read).1, (readInbound_done read).2]
    rfl
  | updated c m₀ applies =>
    have hbefore := hdated _ _ (providerMessage_stored hkeyed applies.found).1
    show (if (svc.effectiveStatus c.envelope m₀).terminal then some c.now else m₀.completedAt).isSome =
      (svc.effectiveStatus c.envelope m₀).terminal
    cases hafter : (svc.effectiveStatus c.envelope m₀).terminal with
    | true => rfl
    | false =>
      rw [if_neg (by decide), hbefore]
      cases hdone : m₀.status.terminal with
      | false => rfl
      | true =>
        rw [effectiveStatus_terminal c.envelope (hguarded _ applies hdone)] at hafter
        cases hafter

end Steps

/-! ## Runs -/

section Runs

variable {setup : Setup} {calls before rest : List (Call svc)} {call : Call svc} {key : String × Uuid} {m : CommunicationMessage}

theorem after_concat (svc : Service) (setup : Setup) (calls : List (Call svc)) (call : Call svc) :
    after svc setup (calls ++ [call]) = step svc call (after svc setup calls) := runFrom_concat

theorem after_dated (hguarded : Always (step svc) (Guarded svc) setup.world calls) : Dated (after svc setup calls).store := by
  refine hguarded.induction (I := fun _ w => Dated w.store) (fun key m h => by cases h) ?_
  intro before call _ hdated hcall
  have hkeyed := after_keyed svc setup before
  rcases step_writes call (after svc setup before) with hsame | ⟨key, m, hwrites, hset⟩
  · intro k m' hget
    rw [hsame] at hget
    exact hdated k m' hget
  · intro k m' hget
    rw [hset, OrderedDict.get_set] at hget
    split at hget
    · cases hget
      exact hwrites.dated hkeyed hdated hcall
    · exact hdated k m' hget

theorem done_stays (hdrawn : Drawn svc (after svc setup before) call) (hguarded : Guarded svc (after svc setup before) call)
    (hget : (after svc setup before).store.messages.get key = some m) (hdone : m.status.terminal = true) :
    ∃ m', (after svc setup (before ++ [call])).store.messages.get key = some m' ∧ m'.status.terminal = true := by
  rw [after_concat]
  rcases step_writes call (after svc setup before) with hsame | ⟨k, m', hwrites, hset⟩
  · exact ⟨m, by rw [hsame]; exact hget, hdone⟩
  · rw [hset, OrderedDict.get_set]
    by_cases hk : key = k
    · subst hk
      exact ⟨m', if_pos rfl, hwrites.absorbing (after_keyed svc setup before) hdrawn hguarded hget hdone⟩
    · exact ⟨m, by rw [if_neg hk, hget], hdone⟩

theorem Settled.guarded (h : Settled svc setup (before ++ call :: rest)) : Guarded svc (after svc setup before) call := by
  cases call with
  | submit | cancel | ledger => trivial
  | event c =>
    intro m happlies hdone
    by_contra hguard
    have hget := (providerMessage_stored (after_keyed svc setup before) happlies.found).1
    obtain ⟨m', hget', hdone'⟩ := h.absorbing before (.event c) rest _ m rfl hget hdone
    rw [after_concat, event_applies happlies, OrderedDict.get_set_self] at hget'
    cases hget'
    have hopen : (svc.effectiveStatus c.envelope m).terminal = false := effectiveStatus_open c.envelope hguard
    change (svc.effectiveStatus c.envelope m).terminal = true at hdone'
    rw [hopen] at hdone'
    cases hdone'
  | refresh c =>
    intro m operationId operation stored owned found hcancelled
    by_contra hopen
    rw [Bool.not_eq_true] at hopen
    have hbefore := h.completed before (List.prefix_append _ _) _ m stored
    have hstatus : commandStateToCanonical operation.state ≠ m.status := by
      intro heq
      rw [← heq, hcancelled] at hopen
      cases hopen
    cases hchanged : m.refreshed operation c.now with
    | none =>
      unfold CommunicationMessage.refreshed at hchanged
      rw [if_neg hstatus, if_neg (by simp [hopen]), hcancelled] at hchanged
      cases hchanged
    | some m' =>
      obtain ⟨-, -, hstatus', -, hcompleted⟩ := refreshed_fields hchanged
      have hget : (after svc setup (before ++ [Call.refresh c])).store.messages.get (c.tenantId, c.messageId) = some m' := by
        rw [after_concat, refresh_applies stored owned found hchanged, OrderedDict.get_set_self]
      have hb : before ++ [Call.refresh c] <+: before ++ Call.refresh c :: rest := ⟨rest, by simp⟩
      have hafter := h.completed _ hb _ m' hget
      rw [hstatus', hcompleted, hcancelled] at hafter
      rw [hopen] at hbefore
      simp [commandStateToCanonical, MessageStatus.terminal, hbefore] at hafter

end Runs

/-- Messages that are done stay done, and bear their date, exactly in the runs whose events and refreshes are guarded. -/
theorem settled_iff (svc : Service) (setup : Setup) (calls : List (Call svc))
    (hdrawn : Always (step svc) (Drawn svc) setup.world calls) :
    Settled svc setup calls ↔ Always (step svc) (Guarded svc) setup.world calls := by
  constructor
  · intro h
    rw [always_iff]
    rintro before call rest rfl
    exact h.guarded
  · intro h
    refine ⟨?_, ?_⟩
    · rintro before call rest key m rfl hget hdone
      exact done_stays (always_iff.1 hdrawn before call rest rfl) (always_iff.1 h before call rest rfl) hget hdone
    · intro before hb key m hget
      exact after_dated (h.take hb) key m hget

/-! ## An event that comes late -/

def sampleEvent (eventId eventType status : String) (now : Time) : RecordEvent where
  envelope :=
    { eventId := eventId, eventType := eventType, occurredAt := now, receivedAt := now, source := "klyrow", tenantId := "t",
      correlationId := "correlation", causationId := "cause", idempotencyKey := eventId ++ "-key"
      payload := [("message_id", .str "00000000-0000-4000-8000-000000000001"), ("status", .str status)] }
  now := now
  eventAt := now

def failedRun : List (Call sampleService) :=
  [.submit firstSubmit, .event (sampleEvent "event-1" "codestra.email.message.failed" "failed" 2)]

/-- Then an earlier event about it arrives. -/
def lateRun : List (Call sampleService) :=
  failedRun ++ [Call.event (sampleEvent "event-2" "codestra.email.message.sent" "sent" 3)]

def sampleKey : String × Uuid := ("t", "00000000-0000-4000-8000-000000000001")

theorem sample_statuses :
    ((after sampleService sampleSetup failedRun).store.messages.get sampleKey).map (·.status) = some .failed ∧
    ((after sampleService sampleSetup lateRun).store.messages.get sampleKey).map (·.status) = some .dispatched := by
  decide +kernel

/-- The failed message is dispatched again. -/
theorem late_event_reopens : Always (step sampleService) (Drawn sampleService) sampleSetup.world lateRun ∧
    ¬ Settled sampleService sampleSetup lateRun := by
  refine ⟨⟨rfl, trivial, trivial, trivial⟩, fun h => ?_⟩
  obtain ⟨hfailed, hdispatched⟩ := sample_statuses
  obtain ⟨m, hget, hstatus⟩ := Option.map_eq_some_iff.1 hfailed
  obtain ⟨m', hget', hdone⟩ := h.absorbing failedRun _ [] sampleKey m rfl hget (by rw [hstatus]; rfl)
  obtain ⟨m'', hget'', hstatus'⟩ := Option.map_eq_some_iff.1 hdispatched
  have heq : some m' = some m'' := hget'.symm.trans hget''
  cases heq
  rw [hstatus'] at hdone
  cases hdone

theorem failed_message_settled : Settled sampleService sampleSetup failedRun := by
  refine (settled_iff sampleService sampleSetup failedRun ⟨rfl, trivial, trivial⟩).2 ⟨trivial, ?_, trivial⟩
  intro m happlies hdone
  exact .inr (by decide +kernel)

end Middleware.Communications

/-
Submissions that break off. The message and its idempotency entry are stored before the command is submitted: whatever fails,
an idempotency key has one command at most, but a submission whose command is refused by the ledger leaves its message behind,
and a repetition is answered with it.
-/
import Middleware.Communications.Statuses
import Middleware.Platform.Idempotency

namespace Middleware.Communications

open Ledger Lib
open Platform.Store (Indexed)

/-- A service that has seen nothing, over an empty ledger. -/
def Setup.fresh (setup : Setup) : World := { setup.world with ledger := {} }

abbrev afterSubmits (svc : Service) (setup : Setup) (submits : List (Submit svc.library)) : World :=
  runFrom (fun c w => (svc.submitMessage c w).2) setup.fresh submits

/-- `commands.submit` raises. -/
def Raises (svc : Service) (c : Submit svc.library) (w : World) : Prop :=
  ∃ digest message command clientId e, svc.prepare c w.store = .ok (.submitting digest message command clientId) ∧
    (svc.commandsSubmit c command clientId w.ledger).1 = .error e

/-- Submissions happen once, are backed by the ledger, and leave nothing behind when they fail. -/
structure Idempotent (svc : Service) (setup : Setup) (submits : List (Submit svc.library)) : Prop where
  once : ∀ before, before <+: submits → ∀ k k' digest digest' o o',
    (afterSubmits svc setup before).ledger.commands.lookup k = some (digest, o) →
    (afterSubmits svc setup before).ledger.commands.lookup k' = some (digest', o') → k.1 = k'.1 →
    o.idempotencyKey = o'.idempotencyKey → k = k'
  backed : ∀ before c rest message duplicate, submits = before ++ c :: rest →
    (svc.submitMessage c (afterSubmits svc setup before)).1 = .ok (message, duplicate) → message.status ≠ .suppressed →
    ∃ id, message.operationId = some id ∧
      ((afterSubmits svc setup (before ++ [c])).ledger.commands.lookup (c.tenantId, id)).isSome = true
  atomic : ∀ before c rest, submits = before ++ c :: rest → Raises svc c (afterSubmits svc setup before) →
    (afterSubmits svc setup (before ++ [c])).store.messages = (afterSubmits svc setup before).store.messages ∧
    (afterSubmits svc setup (before ++ [c])).store.events = (afterSubmits svc setup before).store.events ∧
    (afterSubmits svc setup (before ++ [c])).store.idempotency = (afterSubmits svc setup before).store.idempotency

/-- The two identifiers that a submission draws are new. -/
structure New (svc : Service) (w : World) (c : Submit svc.library) : Prop where
  message : w.store.messages.get (c.tenantId, c.messageId) = none
  command : w.ledger.commands.lookup (c.tenantId, c.commandId) = none

/-- Nothing makes `commands.submit` raise for a submission that is admitted. -/
def Smooth (svc : Service) (w : World) (c : Submit svc.library) : Prop :=
  ∀ channel caller sender recipient, Admitted svc c w.store channel caller sender recipient →
    c.submitFault.isNone = true ∧ Platform.validClientId caller.clientId = true

variable {svc : Service}

/-! ## One submission -/

section Steps

variable {c : Submit svc.library} {w : World} {command : CommandEnvelope} {clientId : String}

abbrev submission (command : CommandEnvelope) (clientId : String) : Submission :=
  { command, authenticatedClientId := clientId }

/-- The ledger stays as it is, or has a command more whose identities were new. -/
theorem commandsSubmit_ledger (svc : Service) (c : Submit svc.library) (w : World) (command : CommandEnvelope) (clientId : String) :
    (svc.commandsSubmit c command clientId w.ledger).2 = w.ledger ∨
    (w.ledger.commands.lookup (command.tenantId, command.commandId) = none ∧
      w.ledger.idempotency.lookup (command.tenantId, command.idempotencyKey) = none ∧
      (svc.commandsSubmit c command clientId w.ledger).2 = (submission command clientId).admitted w.ledger c.ledgerAt) := by
  have hstore := MemoryCommandStore.submit_store (s := w.ledger) (submission command clientId) c.ledgerAt
  unfold Service.commandsSubmit
  split
  · exact .inl rfl
  · split
    · exact .inl rfl
    · rcases hstore with ⟨hid, hkey, -, hsubmit⟩ | ⟨digest, operation, -, -, hsubmit⟩ | ⟨message, hsubmit⟩
      · refine .inr ⟨hid, hkey, ?_⟩
        rw [hsubmit]
        split <;> rfl
      · left
        rw [hsubmit]
        split <;> rfl
      · left
        rw [hsubmit]
        split <;> rfl

theorem submit_new {s : MemoryCommandStore} {r : Submission} {now : Time} (hid : s.commands.lookup r.key = none)
    (hkey : s.idempotency.lookup (r.command.tenantId, r.command.idempotencyKey) = none)
    (hdestination : r.destination ∈ commandDestinations) :
    perform (MemoryCommandStore.submit r now) s = (.ok (r.operation now), r.admitted s now) := by
  unfold MemoryCommandStore.submit
  simp only [perform_bind, perform_ite, perform_get, perform_throw]
  rw [if_neg (not_not.2 hdestination), hid, hkey]
  rfl

theorem commandsSubmit_ok (hfault : c.submitFault.isNone = true) (hclient : Platform.validClientId clientId = true)
    (hactor : command.requestedBy = c.actor) (hpolicy : Platform.CommandKernel.authorize svc.policies command = .ok ())
    (hid : w.ledger.commands.lookup (command.tenantId, command.commandId) = none)
    (hkey : w.ledger.idempotency.lookup (command.tenantId, command.idempotencyKey) = none) :
    svc.commandsSubmit c command clientId w.ledger = (.ok ((submission command clientId).operation c.ledgerAt),
      (submission command clientId).admitted w.ledger c.ledgerAt) := by
  have hnone : c.submitFault = none := Option.isNone_iff_eq_none.1 hfault
  have hvalid : Platform.CommandKernel.validateSubmission svc.policies command ⟨c.actor, clientId⟩ = .ok () := by
    unfold Platform.CommandKernel.validateSubmission
    rw [if_neg (not_not.2 hactor), if_neg (by simp [hclient]), hpolicy]
  unfold Service.commandsSubmit
  rw [hnone]
  rw [hvalid]
  rw [submit_new hid hkey (show temporalCommandDestination ∈ commandDestinations by decide)]

theorem accept_stored (digest : String) (message : CommunicationMessage) (s : Store) (htenant : message.tenantId = c.tenantId)
    (hid : message.messageId = c.messageId) :
    (svc.accept c digest message s).messages.get (c.tenantId, c.messageId) = some message := by
  show (s.messages.set (message.tenantId, message.messageId) message).get (c.tenantId, c.messageId) = some message
  rw [htenant, hid, OrderedDict.get_set_self]

theorem Raises.left_behind (h : Raises svc c w) :
    ((svc.submitMessage c w).2.store.messages.get (c.tenantId, c.messageId)).isSome = true := by
  obtain ⟨digest, message, command, clientId, e, hprepare, hraised⟩ := h
  have hprepares := prepare_prepares hprepare
  unfold Service.submitMessage
  rw [hprepare]
  dsimp only
  generalize svc.commandsSubmit c command clientId w.ledger = x at hraised
  obtain ⟨e' | o, ledger⟩ := x
  · cases hprepares with
    | submitting => rw [accept_stored _ _ _ rfl rfl]; rfl
  · cases hraised

theorem Admitted.raises {channel : ChannelCommand} {caller : ControlPlaneCaller} {sender recipient : String}
    (h : Admitted svc c w.store channel caller sender recipient)
    (hrough : ¬ (c.submitFault.isNone = true ∧ Platform.validClientId caller.clientId = true)) : Raises svc c w := by
  have hraised : ∀ command, ∃ e, (svc.commandsSubmit c command caller.clientId w.ledger).1 = .error e := by
    intro command
    unfold Service.commandsSubmit
    rcases hfault : c.submitFault with _ | e | e
    · -- there is no fault, so the client id is invalid
      have hclient : Platform.validClientId caller.clientId = false := by
        by_contra hvalid
        exact hrough ⟨by rw [hfault]; rfl, by simpa using hvalid⟩
      have hinvalid : ∃ e,
          Platform.CommandKernel.validateSubmission svc.policies command ⟨c.actor, caller.clientId⟩ = .error e := by
        unfold Platform.CommandKernel.validateSubmission
        split
        · exact ⟨_, rfl⟩
        · rw [if_pos (by simp [hclient])]
          exact ⟨_, rfl⟩
      obtain ⟨e, he⟩ := hinvalid
      exact ⟨e, by simp [he]⟩
    · exact ⟨e, rfl⟩
    · dsimp only
      split
      · exact ⟨_, rfl⟩
      · exact ⟨e, rfl⟩
  obtain ⟨e, he⟩ := hraised _
  exact ⟨_, _, _, _, e, h.prepare, he⟩

/-- What a submission leaves: nothing, a message that went no further, or one whose command was handed over. -/
inductive Took (svc : Service) (c : Submit svc.library) (w : World) : World → Prop
  | nothing : Took svc c w w
  | suppressed (message : CommunicationMessage) (w' : World)
      (first : w.store.idempotency.get (c.tenantId, route, c.idempotencyKey) = none)
      (idempotency : w'.store.idempotency =
        w.store.idempotency.set (c.tenantId, route, c.idempotencyKey) (svc.requestDigest c, c.messageId))
      (messages : w'.store.messages = w.store.messages.set (c.tenantId, c.messageId) message)
      (status : message.status = .suppressed) (ledger : w'.ledger = w.ledger) : Took svc c w w'
  | submitted (channel : ChannelCommand) (caller : ControlPlaneCaller) (sender recipient : String) (message : CommunicationMessage)
      (w' : World) (admitted : Admitted svc c w.store channel caller sender recipient)
      (idempotency : w'.store.idempotency =
        w.store.idempotency.set (c.tenantId, route, c.idempotencyKey) (svc.requestDigest c, c.messageId))
      (messages : w'.store.messages = w.store.messages.set (c.tenantId, c.messageId) message)
      (operation : message.operationId = some c.commandId)
      (ledger : w'.ledger = (svc.commandsSubmit c (svc.outboundCommand c channel
        (svc.commandPayload c sender recipient (svc.category c.request.request.metadata)).1) caller.clientId w.ledger).2) :
      Took svc c w w'

theorem submit_took (c : Submit svc.library) (w : World) : Took svc c w (svc.submitMessage c w).2 := by
  unfold Service.submitMessage
  cases hprepare : svc.prepare c w.store with
  | error e => exact .nothing
  | ok p =>
    have hprepares := prepare_prepares hprepare
    cases hprepares with
    | replayed => exact .nothing
    | suppressed channel counts failureCode failureMessage first =>
      refine .suppressed (svc.suppressedMessage c channel counts failureCode failureMessage) _ first ?_ ?_ rfl ?_
      · rw [persist_world]
        rfl
      · rw [persist_world]
        rfl
      · rw [persist_world]
    | submitting channel caller sender recipient admitted =>
      dsimp only
      generalize hx : svc.commandsSubmit c _ caller.clientId w.ledger = x
      obtain ⟨e | o, ledger⟩ := x
      · exact .submitted channel caller sender recipient _ _ admitted rfl rfl rfl (by rw [hx])
      · refine .submitted channel caller sender recipient ((svc.outboundMessage c channel
          (svc.commandPayload c sender recipient (svc.category c.request.request.metadata)).2).queued c.queuedAt) _ admitted
          ?_ ?_ rfl ?_
        · rw [persist_world]
          rfl
        · rw [persist_world]
          exact OrderedDict.set_set
        · rw [persist_world, hx]

/-- An idempotency key of the ledger is one of the service. -/
structure Ordered (w : World) : Prop where
  indexed : Indexed w.ledger
  listed : ∀ tenantId key, w.store.idempotency.get (tenantId, route, key) = none →
    w.ledger.idempotency.lookup (tenantId, key) = none

theorem Took.ordered {w' : World} (htook : Took svc c w w') (h : Ordered w) : Ordered w' := by
  cases htook with
  | nothing => exact h
  | suppressed message _ first idempotency messages status ledger =>
    refine ⟨by rw [ledger]; exact h.indexed, fun tenantId key hnone => ?_⟩
    rw [idempotency, OrderedDict.get_set] at hnone
    split at hnone
    · cases hnone
    · rw [ledger]
      exact h.listed tenantId key hnone
  | submitted channel caller sender recipient message _ admitted idempotency messages operation ledger =>
    rcases commandsSubmit_ledger svc c w (svc.outboundCommand c channel
        (svc.commandPayload c sender recipient (svc.category c.request.request.metadata)).1) caller.clientId
      with hsame | ⟨hid, hkey, hadmitted⟩
    · rw [hsame] at ledger
      refine ⟨by rw [ledger]; exact h.indexed, fun tenantId key hnone => ?_⟩
      rw [idempotency, OrderedDict.get_set] at hnone
      split at hnone
      · cases hnone
      · rw [ledger]
        exact h.listed tenantId key hnone
    · rw [hadmitted] at ledger
      refine ⟨by rw [ledger]; exact h.indexed.admitted hid hkey, fun tenantId key hnone => ?_⟩
      rw [idempotency, OrderedDict.get_set] at hnone
      split at hnone
      · cases hnone
      · rename_i hne
        rw [ledger]
        simp only [Submission.admitted, MemoryCommandStore.lookup_insert_ite]
        rw [if_neg]
        · exact h.listed tenantId key hnone
        · intro heq
          obtain ⟨htenant, hkey'⟩ := Prod.mk.inj heq
          exact hne (by rw [htenant, hkey']; rfl)

/-- What an idempotency entry names is suppressed, or has its command in the ledger. -/
def Backed (w : World) : Prop := ∀ tenantId key digest id, w.store.idempotency.get (tenantId, route, key) = some (digest, id) →
  ∃ m, w.store.messages.get (tenantId, id) = some m ∧ (m.status = .suppressed ∨
    ∃ operationId, m.operationId = some operationId ∧ (w.ledger.commands.lookup (tenantId, operationId)).isSome = true)

theorem Smooth.lands {channel : ChannelCommand} {caller : ControlPlaneCaller} {sender recipient : String}
    (hsmooth : Smooth svc w c) (hnew : New svc w c) (hordered : Ordered w)
    (h : Admitted svc c w.store channel caller sender recipient) :
    ∃ o s', svc.commandsSubmit c (svc.outboundCommand c channel
      (svc.commandPayload c sender recipient (svc.category c.request.request.metadata)).1) caller.clientId w.ledger = (.ok o, s') ∧
      (s'.commands.lookup (c.tenantId, c.commandId)).isSome = true ∧
      ∀ k, (w.ledger.commands.lookup k).isSome = true → (s'.commands.lookup k).isSome = true := by
  obtain ⟨hfault, hclient⟩ := hsmooth channel caller sender recipient h
  refine ⟨_, _, commandsSubmit_ok hfault hclient rfl h.policy hnew.command (hordered.listed _ _ h.first), ?_, ?_⟩
  · simp only [Submission.admitted, MemoryCommandStore.lookup_insert_ite]
    split
    · rfl
    · rename_i hne
      exact absurd rfl hne
  · intro k hk
    simp only [Submission.admitted, MemoryCommandStore.lookup_insert_ite]
    split
    · rfl
    · exact hk

theorem Took.backed {w' : World} (htook : Took svc c w w') (hordered : Ordered w) (hnew : New svc w c) (hsmooth : Smooth svc w c)
    (h : Backed w) : Backed w' := by
  -- the entries that were there keep their message
  have hkept : ∀ {message : CommunicationMessage} {ledger : MemoryCommandStore} {tenantId key digest id},
      (∀ k, (w.ledger.commands.lookup k).isSome = true → (ledger.commands.lookup k).isSome = true) →
      w.store.idempotency.get (tenantId, route, key) = some (digest, id) →
      ∃ m, (w.store.messages.set (c.tenantId, c.messageId) message).get (tenantId, id) = some m ∧ (m.status = .suppressed ∨
        ∃ operationId, m.operationId = some operationId ∧ (ledger.commands.lookup (tenantId, operationId)).isSome = true) := by
    intro message ledger tenantId key digest id hgrows hentry
    obtain ⟨m, hget, hbacked⟩ := h tenantId key digest id hentry
    refine ⟨m, ?_, hbacked.imp_right fun ⟨operationId, howned, hlookup⟩ => ⟨operationId, howned, hgrows _ hlookup⟩⟩
    rw [OrderedDict.get_set_ne, hget]
    intro heq
    rw [heq, hnew.message] at hget
    cases hget
  cases htook with
  | nothing => exact h
  | suppressed message _ first idempotency messages status ledger =>
    intro tenantId key digest id hentry
    rw [idempotency, OrderedDict.get_set] at hentry
    rw [messages, ledger]
    split at hentry
    · rename_i hk
      cases hk
      cases hentry
      exact ⟨message, OrderedDict.get_set_self, .inl status⟩
    · exact hkept (fun _ hk => hk) hentry
  | submitted channel caller sender recipient message _ admitted idempotency messages operation ledger =>
    obtain ⟨o, s', hlands, hhas, hgrows⟩ := hsmooth.lands hnew hordered admitted
    rw [hlands] at ledger
    intro tenantId key digest id hentry
    rw [idempotency, OrderedDict.get_set] at hentry
    rw [messages, ledger]
    split at hentry
    · rename_i hk
      cases hk
      cases hentry
      exact ⟨message, OrderedDict.get_set_self, .inr ⟨c.commandId, operation, hhas⟩⟩
    · exact hkept hgrows hentry

end Steps

/-! ## Runs -/

section Runs

variable {setup : Setup} {before rest submits : List (Submit svc.library)} {c : Submit svc.library}

theorem afterSubmits_concat (svc : Service) (setup : Setup) (submits : List (Submit svc.library)) (c : Submit svc.library) :
    afterSubmits svc setup (submits ++ [c]) = (svc.submitMessage c (afterSubmits svc setup submits)).2 := runFrom_concat

theorem afterSubmits_ordered (svc : Service) (setup : Setup) (submits : List (Submit svc.library)) :
    Ordered (afterSubmits svc setup submits) := by
  refine runFrom_invariant (I := Ordered) ⟨Indexed.empty, fun _ _ _ => rfl⟩ fun w c h => ?_
  exact (submit_took c w).ordered h

theorem afterSubmits_backed (hnew : Always (fun c w => (svc.submitMessage c w).2) (New svc) setup.fresh submits)
    (hsmooth : Always (fun c w => (svc.submitMessage c w).2) (Smooth svc) setup.fresh submits) :
    Backed (afterSubmits svc setup submits) := by
  induction submits using List.reverseRecOn with
  | nil =>
    intro tenantId key digest id h
    cases h
  | append_singleton submits c ih =>
    obtain ⟨hnewBefore, hnewLast⟩ := always_concat.1 hnew
    obtain ⟨hsmoothBefore, hsmoothLast⟩ := always_concat.1 hsmooth
    rw [afterSubmits_concat]
    exact (submit_took c _).backed (afterSubmits_ordered svc setup submits) hnewLast hsmoothLast (ih hnewBefore hsmoothBefore)

theorem reply_backed {w : World} {message : CommunicationMessage} {duplicate : Bool} (hbacked : Backed w) (hordered : Ordered w)
    (hnew : New svc w c) (hsmooth : Smooth svc w c) (h : (svc.submitMessage c w).1 = .ok (message, duplicate))
    (hopen : message.status ≠ .suppressed) : ∃ id, message.operationId = some id ∧
      ((svc.submitMessage c w).2.ledger.commands.lookup (c.tenantId, id)).isSome = true := by
  have hpersist : ∀ {α : Type} {fault : Option Exc} {reply a : α} {w : World}, (Service.persist fault reply w).1 = .ok a →
      reply = a := by
    intro α fault reply a w hok
    cases fault with
    | some e => cases hok
    | none => exact Except.ok.inj hok
  unfold Service.submitMessage at h ⊢
  cases hprepare : svc.prepare c w.store with
  | error e =>
    rw [hprepare] at h
    cases h
  | ok p =>
    have hprepares := prepare_prepares hprepare
    rw [hprepare] at h
    cases hprepares with
    | replayed messageId stored entry found =>
      cases h
      obtain ⟨m, hget, hm⟩ := hbacked _ _ _ _ entry
      rw [found] at hget
      cases hget
      exact hm.resolve_left hopen
    | suppressed channel counts failureCode failureMessage first =>
      obtain ⟨rfl, -⟩ := Prod.mk.inj (hpersist h)
      exact absurd rfl hopen
    | submitting channel caller sender recipient admitted =>
      obtain ⟨o, s', hlands, hhas, -⟩ := hsmooth.lands hnew hordered admitted
      dsimp only at h ⊢
      rw [hlands] at h ⊢
      obtain ⟨rfl, -⟩ := Prod.mk.inj (hpersist h)
      rw [persist_world]
      exact ⟨c.commandId, rfl, hhas⟩

end Runs

/-- Submissions are idempotent and atomic exactly in the runs in which the ledger refuses none that is admitted. -/
theorem idempotent_iff (svc : Service) (setup : Setup) (submits : List (Submit svc.library))
    (hnew : Always (fun c w => (svc.submitMessage c w).2) (New svc) setup.fresh submits) :
    Idempotent svc setup submits ↔ Always (fun c w => (svc.submitMessage c w).2) (Smooth svc) setup.fresh submits := by
  constructor
  · intro h
    rw [always_iff]
    rintro before c rest rfl channel caller sender recipient hadmitted
    by_contra hrough
    have hraises := hadmitted.raises hrough
    have hleft := hraises.left_behind
    rw [← afterSubmits_concat, (h.atomic before c rest rfl hraises).1,
      (always_iff.1 hnew before c rest rfl).message] at hleft
    cases hleft
  · intro h
    refine ⟨?_, ?_, ?_⟩
    · intro before hb k k' digest digest' o o' hk hk' htenant hkey
      exact (afterSubmits_ordered svc setup before).indexed.unique hk hk' htenant hkey
    · rintro before c rest message duplicate rfl hreply hopen
      have hnewBefore : Always _ (New svc) setup.fresh before := hnew.take (List.prefix_append _ _)
      have hsmoothBefore : Always _ (Smooth svc) setup.fresh before := h.take (List.prefix_append _ _)
      rw [afterSubmits_concat]
      exact reply_backed (afterSubmits_backed hnewBefore hsmoothBefore) (afterSubmits_ordered svc setup before)
        (always_iff.1 hnew before c rest rfl) (always_iff.1 h before c rest rfl) hreply hopen
    · rintro before c rest rfl ⟨digest, message, command, clientId, e, hprepare, hraised⟩
      have hprepares := prepare_prepares hprepare
      cases hprepares with
      | submitting channel caller sender recipient admitted =>
        obtain ⟨o, s', hlands, -, -⟩ := (always_iff.1 h before c rest rfl).lands (always_iff.1 hnew before c rest rfl)
          (afterSubmits_ordered svc setup before) admitted
        rw [hlands] at hraised
        cases hraised

/-! ## A ledger that is down -/

/-- The submission, while the ledger cannot be reached. -/
def brokenSubmit : Submit sampleLibrary := { firstSubmit with submitFault := some (.before (.runtimeError "connection refused")) }

theorem broken_admitted : Admitted sampleService brokenSubmit sampleSetup.fresh.store
    ⟨"email.message.send.v1", "klyrow-email", "EMAIL_DELIVERY", "klyrow"⟩ ⟨"desk", ["email."], ["klyrow-email"], true⟩
    "desk@x.co" "b@y.co" := by
  refine ⟨rfl, rfl, ?_, ?_, rfl, ?_, ?_, ?_, rfl, ?_⟩
  · decide +kernel
  · decide +kernel
  · decide +kernel
  · decide +kernel
  · decide +kernel
  · rfl

/-- It fails, and its message stays. -/
theorem broken_submission_stays :
    Always (fun c w => (sampleService.submitMessage c w).2) (New sampleService) sampleSetup.fresh [brokenSubmit] ∧
      ¬ Idempotent sampleService sampleSetup [brokenSubmit] := by
  have hraises : Raises sampleService brokenSubmit sampleSetup.fresh := broken_admitted.raises fun h => by cases h.1
  refine ⟨⟨⟨rfl, rfl⟩, trivial⟩, fun h => ?_⟩
  have hleft := hraises.left_behind
  have hsame : (sampleService.submitMessage brokenSubmit sampleSetup.fresh).2.store.messages = sampleSetup.fresh.store.messages :=
    (h.atomic [] brokenSubmit [] rfl hraises).1
  rw [hsame] at hleft
  cases hleft

theorem plain_submission_idempotent : Idempotent sampleService sampleSetup [firstSubmit] := by
  refine (idempotent_iff sampleService sampleSetup [firstSubmit] ⟨⟨rfl, rfl⟩, trivial⟩).2 ⟨?_, trivial⟩
  intro channel caller sender recipient h
  cases h.known
  have hauthorized := h.authorized
  cases hauthorized
  exact ⟨rfl, by decide⟩

end Middleware.Communications

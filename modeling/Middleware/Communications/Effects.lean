/-
What each call of the communications service does: what a submission has passed when its command is handed over, and what
a call leaves of the suppressions and of the messages.
-/
import Middleware.Communications.Service
import Middleware.Lib.Calls

namespace Middleware.Communications

open Ledger Lib

variable {svc : Service}

/-! ## Submissions -/

/-- What a submission has passed when its command is handed to the ledger. -/
structure Admitted (svc : Service) (c : Submit svc.library) (s : Store) (channel : ChannelCommand) (caller : ControlPlaneCaller)
    (sender recipient : String) : Prop where
  known : channelCommand c.request.request.channel = some channel
  authorized : svc.authorizeSubmit c channel = .ok caller
  first : s.idempotency.get (c.tenantId, route, c.idempotencyKey) = none
  verified : svc.resolveSender s c.tenantId c.request.request = .ok sender
  addressed : c.request.request.recipients.head? = some recipient
  domain : ¬ (c.request.request.channel = .email ∧ (c.tenantId, Service.senderDomain sender) ∉ s.verifiedDomains)
  category : ¬ (c.request.request.channel = .sms ∧
    svc.category c.request.request.metadata ∉ ["transactional", "service", "marketing"])
  unsuppressed : Service.suppression s c.tenantId c.request.request recipient (svc.category c.request.request.metadata) = none
  contract : svc.library.refuses (svc.outboundCommand c channel
    (svc.commandPayload c sender recipient (svc.category c.request.request.metadata)).1) = none
  policy : Platform.CommandKernel.authorize svc.policies (svc.outboundCommand c channel
    (svc.commandPayload c sender recipient (svc.category c.request.request.metadata)).1) = .ok ()

inductive Prepares (svc : Service) (c : Submit svc.library) (s : Store) : Prepared → Prop
  | replayed (messageId : Uuid) (message : CommunicationMessage)
      (entry : s.idempotency.get (c.tenantId, route, c.idempotencyKey) = some (svc.requestDigest c, messageId))
      (stored : s.messages.get (c.tenantId, messageId) = some message) : Prepares svc c s (.replayed message)
  | suppressed (channel : ChannelCommand) (counts : Obj) (failureCode failureMessage : String)
      (first : s.idempotency.get (c.tenantId, route, c.idempotencyKey) = none) :
      Prepares svc c s (.suppressed (svc.requestDigest c) (svc.suppressedMessage c channel counts failureCode failureMessage)
        failureCode)
  | submitting (channel : ChannelCommand) (caller : ControlPlaneCaller) (sender recipient : String)
      (admitted : Admitted svc c s channel caller sender recipient) :
      Prepares svc c s (.submitting (svc.requestDigest c)
        (svc.outboundMessage c channel (svc.commandPayload c sender recipient (svc.category c.request.request.metadata)).2)
        (svc.outboundCommand c channel (svc.commandPayload c sender recipient (svc.category c.request.request.metadata)).1)
        caller.clientId)

section Submissions

variable {c : Submit svc.library} {s : Store} {p : Prepared}

theorem prepare_prepares (h : svc.prepare c s = .ok p) : Prepares svc c s p := by
  unfold Service.prepare at h
  dsimp only at h
  split at h
  · cases h
  · rename_i channel hchannel
    obtain ⟨caller, hcaller, h⟩ := bind_ok h
    split at h
    · rename_i existingDigest existingMessageId hentry
      split at h
      · cases h
      · rename_i hdigest
        rw [not_not] at hdigest
        subst hdigest
        split at h
        · cases h
        · rename_i message hmessage
          cases h
          exact .replayed existingMessageId message hentry hmessage
    · rename_i hfirst
      obtain ⟨sender, hsender, h⟩ := bind_ok h
      split at h
      · cases h
      · rename_i recipient hrecipient
        split at h
        · cases h
        · rename_i hdomain
          split at h
          · cases h
          · rename_i hcategory
            split at h
            · rename_i failureCode failureMessage hsuppression
              cases h
              exact .suppressed channel _ failureCode failureMessage hfirst
            · rename_i hunsuppressed
              split at h
              · cases h
              · rename_i hcontract
                obtain ⟨⟨⟩, hpolicy, h⟩ := bind_ok h
                cases h
                exact .submitting channel caller sender recipient ⟨hchannel, hcaller, hfirst, hsender, hrecipient, hdomain,
                  hcategory, hunsuppressed, hcontract, hpolicy⟩

theorem Admitted.prepare {channel : ChannelCommand} {caller : ControlPlaneCaller} {sender recipient : String}
    (h : Admitted svc c s channel caller sender recipient) : svc.prepare c s =
      .ok (.submitting (svc.requestDigest c)
        (svc.outboundMessage c channel (svc.commandPayload c sender recipient (svc.category c.request.request.metadata)).2)
        (svc.outboundCommand c channel (svc.commandPayload c sender recipient (svc.category c.request.request.metadata)).1)
        caller.clientId) := by
  unfold Service.prepare
  dsimp only
  rw [h.known]
  dsimp only
  rw [h.authorized, ok_bind, h.first]
  rw [h.verified, ok_bind, h.addressed]
  dsimp only
  rw [if_neg h.domain, if_neg h.category, h.unsuppressed]
  rw [h.contract]
  rw [h.policy, ok_bind]
  rfl

theorem ValidRequest.single {lib : Library} (r : ValidRequest lib) (h : r.request.channel = .sms) :
    ∃ recipient, r.request.recipients = [recipient] := by
  have hvalid := r.validated
  unfold CreateMessageRequest.validateChannelContract at hvalid
  split at hvalid
  · cases hvalid
  · split at hvalid
    · cases hvalid
    · split at hvalid
      · cases hvalid
      · rename_i hemail
        split at hvalid
        · have heq := Except.ok.inj hvalid
          rw [← heq] at h
          exact absurd (hemail.symm.trans h) (by decide)
        · cases hvalid
      · split at hvalid
        · split at hvalid
          · cases hvalid
          · split at hvalid
            · cases hvalid
            · split at hvalid
              · cases hvalid
              · obtain ⟨sender, -, hvalid⟩ := bind_ok hvalid
                obtain ⟨recipient, -, hvalid⟩ := bind_ok hvalid
                obtain ⟨info, -, hvalid⟩ := bind_ok hvalid
                exact ⟨recipient, by rw [← Except.ok.inj hvalid]⟩
        · cases hvalid

end Submissions

/-! ## Messages -/

structure Applies (svc : Service) (s : Store) (e : EventEnvelope) (m : CommunicationMessage) : Prop where
  first : s.providerEventDigests.get (e.tenantId, e.eventId) = none
  type : e.eventType ∉ inboundTypes
  found : svc.providerMessage e s = some m
  channel : m.channel = Service.eventChannel e
  recipient : Service.isEmailUnsubscribe e = true → (svc.unsubscribed e).isSome = true

theorem persist_world {α : Type} (fault : Option Exc) (reply : α) (w : World) : (Service.persist fault reply w).2 = w := by
  cases fault <;> rfl

theorem cancellable_stored {c : Cancel} {s : Store} {m : CommunicationMessage} (h : Service.cancellable c s = .ok m) :
    s.messages.get (c.tenantId, c.messageId) = some m := by
  obtain ⟨caller, -, h⟩ := bind_ok h
  obtain ⟨claims, -, h⟩ := bind_ok h
  obtain ⟨⟨⟩, -, h⟩ := bind_ok h
  split at h
  · cases h
  · split at h
    · cases h
    · rename_i message hmessage
      split at h
      · cases h
      · split at h
        · cases h
        · cases h
          exact hmessage

theorem recordInboundSms_messages {e : EventEnvelope} {inbound : Inbound} {s : Store} :
    (svc.recordInboundSms e inbound s).messages =
      s.messages.set (inbound.message.tenantId, inbound.message.messageId) inbound.message := by
  unfold Service.recordInboundSms
  split <;> rfl

inductive Writes (svc : Service) (w : World) : Call svc → String × Uuid → CommunicationMessage → Prop
  | suppressed (c : Submit svc.library) (channel : ChannelCommand) (counts : Obj) (failureCode failureMessage : String)
      (first : w.store.idempotency.get (c.tenantId, route, c.idempotencyKey) = none) :
      Writes svc w (.submit c) (c.tenantId, c.messageId) (svc.suppressedMessage c channel counts failureCode failureMessage)
  | accepted (c : Submit svc.library) (channel : ChannelCommand) (counts : Obj)
      (first : w.store.idempotency.get (c.tenantId, route, c.idempotencyKey) = none) :
      Writes svc w (.submit c) (c.tenantId, c.messageId) (svc.outboundMessage c channel counts)
  | queued (c : Submit svc.library) (channel : ChannelCommand) (counts : Obj)
      (first : w.store.idempotency.get (c.tenantId, route, c.idempotencyKey) = none) :
      Writes svc w (.submit c) (c.tenantId, c.messageId) ((svc.outboundMessage c channel counts).queued c.queuedAt)
  | refreshed (c : Refresh) (m updated : CommunicationMessage) (operationId : Uuid) (operation : CommandOperation)
      (stored : w.store.messages.get (c.tenantId, c.messageId) = some m) (owned : m.operationId = some operationId)
      (found : (perform (MemoryCommandStore.get c.tenantId operationId) w.ledger).1 = .ok operation)
      (changed : m.refreshed operation c.now = some updated) : Writes svc w (.refresh c) (c.tenantId, c.messageId) updated
  | cancelled (c : Cancel) (m : CommunicationMessage) (stored : w.store.messages.get (c.tenantId, c.messageId) = some m)
      (open' : m.status ∈ [MessageStatus.accepted, .queued]) :
      Writes svc w (.cancel c) (c.tenantId, c.messageId) (m.cancelled c.completedAt c.updatedAt)
  | received (c : RecordEvent) (inbound : Inbound) (first : w.store.providerEventDigests.get (c.envelope.tenantId,
      c.envelope.eventId) = none) (type : c.envelope.eventType ∈ inboundTypes) (read : svc.readInbound c = .ok inbound) :
      Writes svc w (.event c) (inbound.message.tenantId, inbound.message.messageId) inbound.message
  | updated (c : RecordEvent) (m : CommunicationMessage) (applies : Applies svc w.store c.envelope m) :
      Writes svc w (.event c) (c.envelope.tenantId, m.messageId) (svc.providerUpdate c m)

section Messages

variable {w : World}

/-- What a call leaves of the messages: they are as before, or one is written. -/
def Wrote (svc : Service) (w : World) (call : Call svc) (w' : World) : Prop :=
  w'.store.messages = w.store.messages ∨
    ∃ key m, Writes svc w call key m ∧ w'.store.messages = w.store.messages.set key m

theorem submit_writes (c : Submit svc.library) : Wrote svc w (.submit c) (svc.submitMessage c w).2 := by
  unfold Service.submitMessage
  cases hprepare : svc.prepare c w.store with
  | error e => exact .inl rfl
  | ok p =>
    have hprepares := prepare_prepares hprepare
    cases hprepares with
    | replayed => exact .inl rfl
    | suppressed channel counts failureCode failureMessage first =>
      refine .inr ⟨_, _, .suppressed c channel counts failureCode failureMessage first, ?_⟩
      rw [persist_world]
      rfl
    | submitting channel caller sender recipient admitted =>
      refine .inr ?_
      dsimp only
      generalize svc.commandPayload c sender recipient (svc.category c.request.request.metadata) = x
      obtain ⟨payload, counts⟩ := x
      generalize svc.commandsSubmit c _ caller.clientId w.ledger = x
      obtain ⟨e | o, ledger⟩ := x
      · exact ⟨_, _, .accepted c channel counts admitted.first, rfl⟩
      · refine ⟨_, _, .queued c channel counts admitted.first, ?_⟩
        rw [persist_world]
        exact OrderedDict.set_set

theorem refresh_writes (c : Refresh) : Wrote svc w (.refresh c) (svc.refreshCommandStatus c w).2 := by
  unfold Service.refreshCommandStatus
  split
  · exact .inl rfl
  · rename_i m hstored
    split
    · exact .inl rfl
    · rename_i operationId howned
      split
      · exact .inl rfl
      · rename_i operation hfound
        split
        · exact .inl rfl
        · rename_i updated hchanged
          refine .inr ⟨_, _, .refreshed c m updated operationId operation hstored howned hfound hchanged, ?_⟩
          rw [persist_world]
          rfl

theorem cancel_writes (c : Cancel) : Wrote svc w (.cancel c) (Service.cancel c w).2 := by
  unfold Service.cancel
  split
  · exact .inl rfl
  · rename_i m hcancellable
    split
    · exact .inl rfl
    · split
      · exact .inl rfl
      · rename_i hopen
        rw [not_not] at hopen
        split
        · exact .inl rfl
        · split
          · exact .inl rfl
          · split
            · exact .inl rfl
            · split
              · exact .inl rfl
              · split
                · exact .inl rfl
                · refine .inr ⟨_, _, .cancelled c m (cancellable_stored hcancellable) hopen, ?_⟩
                  rw [persist_world]
                  rfl

theorem event_writes (c : RecordEvent) : Wrote svc w (.event c) (svc.recordProviderEvent c w).2 := by
  unfold Service.recordProviderEvent
  dsimp only
  split
  · split
    · exact .inl rfl
    · exact .inl rfl
  · rename_i hfirst
    split
    · rename_i htype
      split
      · exact .inl rfl
      · rename_i inbound hread
        refine .inr ⟨_, _, .received c inbound hfirst htype hread, ?_⟩
        rw [persist_world]
        exact recordInboundSms_messages
    · rename_i htype
      split
      · exact .inl rfl
      · rename_i m hfound
        split
        · exact .inl rfl
        · rename_i hchannel
          rw [not_not] at hchannel
          split
          · exact .inl rfl
          · rename_i hrecipient
            refine .inr ⟨_, _, .updated c m ⟨hfirst, htype, hfound, hchannel, fun h => ?_⟩, ?_⟩
            · exact Option.isSome_iff_ne_none.2 (by simpa [h] using hrecipient)
            · rw [persist_world]
              split <;> rfl

theorem step_writes (call : Call svc) (w : World) : Wrote svc w call (step svc call w) := by
  cases call with
  | submit c => exact submit_writes c
  | refresh c => exact refresh_writes c
  | cancel c => exact cancel_writes c
  | event c => exact event_writes c
  | ledger ledger => exact .inl rfl

end Messages

end Middleware.Communications

/-
Suppressions over whole runs of the service. They are never taken back, and a submission is measured against them by its first
recipient; so a command names nobody who is suppressed as long as no later recipient of an e-mail is suppressed where the
first one is not.
-/
import Middleware.Communications.Effects

namespace Middleware.Communications

open Ledger Lib

structure Setup where
  suppressions : List Suppression
  deniedConsent : List (String × String)
  verifiedSenders : List (String × String)
  verifiedDomains : List (String × String)
  senderIdentities : OrderedDict (String × Uuid) String
  ledger : MemoryCommandStore

def Setup.world (setup : Setup) : World where
  store :=
    { suppressions := setup.suppressions, deniedConsent := setup.deniedConsent, verifiedSenders := setup.verifiedSenders,
      verifiedDomains := setup.verifiedDomains, senderIdentities := setup.senderIdentities }
  ledger := setup.ledger

/-- The state after the calls of a run. -/
abbrev after (svc : Service) (setup : Setup) (calls : List (Call svc)) : World := runFrom (step svc) setup.world calls

def HandsOver (svc : Service) (c : Submit svc.library) (s : Store) (command : CommandEnvelope) : Prop :=
  ∃ digest message clientId, svc.prepare c s = .ok (.submitting digest message command clientId)

def Names (payload : Obj) (recipient : String) : Prop :=
  payload.lookup "destination" = some (.str recipient) ∨
    ∃ items, payload.lookup "to" = some (.arr items) ∧ .str recipient ∈ items

/-- The event, recorded, opts the address out of a channel of its tenant. -/
def OptsOut (svc : Service) (c : RecordEvent) (w : World) (channel : CommunicationChannel) (address : String) : Prop :=
  (svc.recordProviderEvent c w).1 = .ok true ∧
    ((channel = .sms ∧ c.envelope.eventType ∈ inboundTypes ∧
        ∃ inbound, svc.readInbound c = .ok inbound ∧ inbound.action = some .stop ∧ inbound.sender = address) ∨
      (channel = .email ∧ c.envelope.eventType ∉ inboundTypes ∧ Service.isEmailUnsubscribe c.envelope = true ∧
        svc.unsubscribed c.envelope = some address))

/-- No command names a recipient that is suppressed, or one that has opted out. -/
structure Covered (svc : Service) (setup : Setup) (calls : List (Call svc)) : Prop where
  payload : ∀ (before : List (Call svc)) c (rest : List (Call svc)) command recipient, calls = before ++ Call.submit c :: rest →
    HandsOver svc c (after svc setup before).store command → Names command.payload recipient →
    (after svc setup before).store.blocks c.tenantId c.request.request.channel recipient = false
  optedOut : ∀ (before : List (Call svc)) e (mid : List (Call svc)) c (rest : List (Call svc)) address command,
    calls = before ++ Call.event e :: mid ++ Call.submit c :: rest →
    OptsOut svc e (after svc setup before) c.request.request.channel address → c.tenantId = e.envelope.tenantId →
    HandsOver svc c (after svc setup (before ++ Call.event e :: mid)).store command → ¬ Names command.payload address

/-- Of a submission that is admitted, no later recipient is suppressed. -/
def Spared (svc : Service) (w : World) : Call svc → Prop
  | .submit c => (∃ channel caller sender recipient, Admitted svc c w.store channel caller sender recipient) →
      ∀ recipient ∈ c.request.request.recipients.tail,
        w.store.blocks c.tenantId c.request.request.channel recipient = false
  | .refresh _ | .cancel _ | .event _ | .ledger _ => True

variable {svc : Service}

/-! ## The recipients of a command -/

variable {recipient : String}

section Recipients

variable {c : Submit svc.library} {s : Store} {command : CommandEnvelope}

theorem handsOver_iff : HandsOver svc c s command ↔ ∃ channel caller sender recipient,
    Admitted svc c s channel caller sender recipient ∧ command = svc.outboundCommand c channel
      (svc.commandPayload c sender recipient (svc.category c.request.request.metadata)).1 := by
  constructor
  · rintro ⟨digest, message, clientId, h⟩
    have hprepares := prepare_prepares h
    cases hprepares with
    | submitting channel caller sender recipient admitted => exact ⟨channel, caller, sender, recipient, admitted, rfl⟩
  · rintro ⟨channel, caller, sender, recipient, admitted, rfl⟩
    exact ⟨_, _, _, admitted.prepare⟩

theorem names_iff {sender category name : String} : Names (svc.commandPayload c sender recipient category).1 name ↔
    if c.request.request.channel = .sms then name = recipient else name ∈ c.request.request.recipients := by
  unfold Names Service.commandPayload
  dsimp only
  cases hchannel : c.request.request.channel with
  | sms => simp [List.lookup_cons, eq_comm]
  | email => simp [List.lookup_cons]
  | voice => simp [List.lookup_cons]

theorem suppression_none {tenantId category : String} {r : CreateMessageRequest}
    (h : Service.suppression s tenantId r recipient category = none) : s.blocks tenantId r.channel recipient = false := by
  unfold Service.suppression at h
  split at h
  · cases h
  · rename_i hsuppressed
    split at h
    · cases h
    · rename_i hconsent
      unfold Store.blocks
      simp only [Bool.or_eq_true, not_or, Bool.not_eq_true] at hsuppressed hconsent
      rw [hsuppressed.1, hsuppressed.2, hconsent.1.1]
      rfl

theorem Admitted.names {channel : ChannelCommand} {caller : ControlPlaneCaller} {sender name : String}
    (h : Admitted svc c s channel caller sender recipient) :
    Names (svc.commandPayload c sender recipient (svc.category c.request.request.metadata)).1 name ↔
      name = recipient ∨ name ∈ c.request.request.recipients.tail := by
  obtain ⟨rest, hrecipients⟩ := List.head?_eq_some_iff.1 h.addressed
  rw [names_iff]
  by_cases hsms : c.request.request.channel = .sms
  · obtain ⟨single, hsingle⟩ := c.request.single hsms
    rw [if_pos hsms, hsingle]
    simp
  · rw [if_neg hsms, hrecipients]
    simp

end Recipients

/-! ## The suppressions of a run -/

variable {channel : CommunicationChannel}

section Growth

variable {w : World} {setup : Setup} {calls : List (Call svc)}

theorem suppress_grows (s : Store) (entry : Suppression) : s.suppressions ⊆ (s.suppress entry).suppressions :=
  fun _ h => List.mem_insert_of_mem h

theorem recordInboundSms_grows (e : EventEnvelope) (inbound : Inbound) (s : Store) :
    s.suppressions ⊆ (svc.recordInboundSms e inbound s).suppressions := by
  unfold Service.recordInboundSms
  split
  · exact suppress_grows _ _
  · exact fun _ h => h
  · exact fun _ h => h

theorem submit_suppressions (c : Submit svc.library) : (svc.submitMessage c w).2.store.suppressions = w.store.suppressions := by
  unfold Service.submitMessage
  split
  · rfl
  · rfl
  · rw [persist_world]
    rfl
  · split
    · rfl
    · rw [persist_world]
      rfl

theorem refresh_suppressions (c : Refresh) : (svc.refreshCommandStatus c w).2.store.suppressions = w.store.suppressions := by
  unfold Service.refreshCommandStatus
  repeat' split
  all_goals first
    | rfl
    | (rw [persist_world]; rfl)

theorem cancel_suppressions (c : Cancel) : (Service.cancel c w).2.store.suppressions = w.store.suppressions := by
  unfold Service.cancel
  repeat' split
  all_goals first
    | rfl
    | (dsimp only; rw [persist_world]; rfl)

theorem event_grows (c : RecordEvent) : w.store.suppressions ⊆ (svc.recordProviderEvent c w).2.store.suppressions := by
  unfold Service.recordProviderEvent
  dsimp only
  split
  · split
    · exact fun _ h => h
    · exact fun _ h => h
  · split
    · split
      · exact fun _ h => h
      · rw [persist_world]
        exact recordInboundSms_grows c.envelope _ w.store
    · split
      · exact fun _ h => h
      · split
        · exact fun _ h => h
        · split
          · exact fun _ h => h
          · rw [persist_world]
            split
            · exact suppress_grows _ _
            · exact fun _ h => h

theorem step_grows (call : Call svc) (w : World) : w.store.suppressions ⊆ (step svc call w).store.suppressions := by
  cases call with
  | submit c => exact fun _ h => (submit_suppressions c).symm ▸ h
  | refresh c => exact fun _ h => (refresh_suppressions c).symm ▸ h
  | cancel c => exact fun _ h => (cancel_suppressions c).symm ▸ h
  | event c => exact event_grows c
  | ledger ledger => exact fun _ h => h

theorem run_grows (calls : List (Call svc)) (w : World) :
    w.store.suppressions ⊆ (runFrom (step svc) w calls).store.suppressions := by
  induction calls generalizing w with
  | nil => exact fun _ h => h
  | cons call calls ih => exact fun _ h => ih _ (step_grows call w h)

theorem OptsOut.suppressed {c : RecordEvent} {address : String}
    (h : OptsOut svc c w channel address) :
    Suppression.onChannel c.envelope.tenantId channel.value address ∈ (svc.recordProviderEvent c w).2.store.suppressions := by
  obtain ⟨hreply, hways⟩ := h
  unfold Service.recordProviderEvent at hreply ⊢
  dsimp only at hreply ⊢
  split at hreply
  · split at hreply <;> cases hreply
  · rcases hways with ⟨rfl, htype, inbound, hread, hstop, rfl⟩ | ⟨rfl, htype, hunsubscribe, hrecipient⟩
    · rw [if_pos htype, hread]
      rw [persist_world]
      unfold Service.recordInboundSms
      rw [hstop]
      exact List.mem_insert_self
    · rw [if_neg htype] at hreply ⊢
      split at hreply
      · cases hreply
      · split at hreply
        · cases hreply
        · rename_i hchannel
          split at hreply
          · cases hreply
          · rename_i hvalid
            rw [if_neg hchannel, if_neg hvalid, persist_world]
            rw [hunsubscribe, hrecipient]
            exact List.mem_insert_self

end Growth

/-! ## Runs -/

section Runs

variable {setup : Setup} {calls : List (Call svc)}

theorem blocks_of_mem {s : Store} {tenantId : String}
    (h : Suppression.onChannel tenantId channel.value recipient ∈ s.suppressions) : s.blocks tenantId channel recipient = true := by
  unfold Store.blocks
  have hcontains : s.suppressions.contains (.onChannel tenantId channel.value recipient) = true := List.contains_iff_mem.2 h
  rw [hcontains, Bool.or_true, Bool.true_or]

theorem spared_names {c : Submit svc.library} {w : World} {command : CommandEnvelope}
    (hspared : Spared svc w (.submit c)) (hands : HandsOver svc c w.store command) (hnames : Names command.payload recipient) :
    w.store.blocks c.tenantId c.request.request.channel recipient = false := by
  obtain ⟨channel, caller, sender, first, hadmitted, rfl⟩ := handsOver_iff.1 hands
  rcases hadmitted.names.1 hnames with rfl | hlater
  · exact suppression_none hadmitted.unsuppressed
  · exact hspared ⟨channel, caller, sender, first, hadmitted⟩ recipient hlater

end Runs

/-- The suppressions cover every recipient exactly in the runs that admit no submission with a suppressed later recipient. -/
theorem covered_iff (svc : Service) (setup : Setup) (calls : List (Call svc)) :
    Covered svc setup calls ↔ Always (step svc) (Spared svc) setup.world calls := by
  constructor
  · intro h
    rw [always_iff]
    rintro before call rest rfl
    cases call with
    | submit c =>
      rintro ⟨channel, caller, sender, first, hadmitted⟩ recipient hlater
      exact h.payload before c rest _ recipient rfl (handsOver_iff.2 ⟨channel, caller, sender, first, hadmitted, rfl⟩)
        (hadmitted.names.2 (.inr hlater))
    | refresh | cancel | event | ledger => trivial
  · intro h
    rw [always_iff] at h
    refine ⟨?_, ?_⟩
    · rintro before c rest command recipient rfl hands hnames
      exact spared_names (h before (.submit c) rest rfl) hands hnames
    · rintro before e mid c rest address command rfl hopts htenant hands hnames
      have hspared := h (before ++ Call.event e :: mid) (.submit c) rest (by simp)
      have hfree := spared_names hspared hands hnames
      -- what the event suppressed is still there
      have hmem : Suppression.onChannel c.tenantId c.request.request.channel.value address ∈
          (after svc setup (before ++ Call.event e :: mid)).store.suppressions := by
        rw [htenant]
        unfold after
        rw [runFrom_append, runFrom_cons]
        exact run_grows mid _ hopts.suppressed
      rw [blocks_of_mem hmem] at hfree
      cases hfree

/-! ## A second recipient -/

def sampleLibrary : Library where
  emailAddress
    | .str address => some (String.ofList (lower address))
    | _ => none
  uuid text := if text.length = 36 then some text else none
  uuid5 text := text
  isoformat _ := "2030-01-01T00:00:00+00:00"
  jsonTime _ := "2030-01-01T00:00:00Z"
  text _ := "None"
  refuses _ := none

def sampleService : Service where
  library := sampleLibrary
  policies :=
    { policies := [⟨"email.", "klyrow-email", "EMAIL_DELIVERY", true⟩, ⟨"sms.", "telnexa-sms", "SMS_DELIVERY", true⟩]
      capabilities := (∅ : Ledger.Dict String Bool).insert "EMAIL_DELIVERY" true |>.insert "SMS_DELIVERY" true }
  umbrellaControls := []

def sampleSetup : Setup where
  suppressions := []
  deniedConsent := []
  verifiedSenders := [("t", "desk@x.co")]
  verifiedDomains := [("t", "x.co")]
  senderIdentities := []
  ledger := {}

def sampleToken : Token where
  caller := .ok ⟨"desk", ["email."], ["klyrow-email"], true⟩
  claims := .ok [("sub", .str "desk"), ("tenant_id", .str "t")]

def sampleContent : MessageContent := { text := some "hello" }

def sampleRequest (recipients : List String) : CreateMessageRequest where
  channel := .email
  sender := some "desk@x.co"
  recipients := recipients
  content := sampleContent

def firstRequest : ValidRequest sampleLibrary where
  raw := sampleRequest ["b@y.co"]
  request := sampleRequest ["b@y.co"]
  bounded := ⟨by decide, by decide, by decide, by decide, by decide, by decide, by decide, by decide⟩
  validated := rfl

def secondRequest : ValidRequest sampleLibrary where
  raw := sampleRequest ["c@y.co", "b@y.co"]
  request := sampleRequest ["c@y.co", "b@y.co"]
  bounded := ⟨by decide, by decide, by decide, by decide, by decide, by decide, by decide, by decide⟩
  validated := rfl

def sampleSubmit (request : ValidRequest sampleLibrary) (key messageId commandId : String) : Submit sampleLibrary where
  request := request
  tenantId := "t"
  correlationId := "correlation"
  idempotencyKey := key
  actor := "desk"
  token := sampleToken
  messageId := messageId
  commandId := commandId
  acceptedEventId := messageId ++ "a"
  nextEventId := messageId ++ "q"
  now := 1
  acceptedAt := 1
  nextAt := 1
  queuedAt := 1
  ledgerAt := 1

def sampleUnsubscribe : RecordEvent where
  envelope :=
    { eventId := "event-1", eventType := "codestra.email.message.unsubscribed", occurredAt := 2, receivedAt := 2,
      source := "klyrow", tenantId := "t", correlationId := "correlation", causationId := "cause",
      idempotencyKey := "event-1-key", payload :=
        [("message_id", .str "00000000-0000-4000-8000-000000000001"), ("recipient", .str "B@y.co")] }
  now := 2
  eventAt := 2

def firstSubmit : Submit sampleLibrary :=
  sampleSubmit firstRequest "key-0001" "00000000-0000-4000-8000-000000000001" "00000000-0000-4000-8000-000000000002"

def secondSubmit : Submit sampleLibrary :=
  sampleSubmit secondRequest "key-0002" "00000000-0000-4000-8000-000000000003" "00000000-0000-4000-8000-000000000004"

/-- An address unsubscribes, and an e-mail names it behind another one. -/
def sampleRun : List (Call sampleService) := [.submit firstSubmit, .event sampleUnsubscribe, .submit secondSubmit]

theorem sample_hands : HandsOver sampleService secondSubmit (after sampleService sampleSetup (sampleRun.take 2)).store
    (sampleService.outboundCommand secondSubmit ⟨"email.message.send.v1", "klyrow-email", "EMAIL_DELIVERY", "klyrow"⟩
      (sampleService.commandPayload secondSubmit "desk@x.co" "c@y.co" "transactional").1) := by
  refine handsOver_iff.2 ⟨⟨"email.message.send.v1", "klyrow-email", "EMAIL_DELIVERY", "klyrow"⟩,
    ⟨"desk", ["email."], ["klyrow-email"], true⟩, "desk@x.co", "c@y.co", ⟨rfl, rfl, ?_, ?_, rfl, ?_, ?_, ?_, rfl, ?_⟩, ?_⟩
  · decide +kernel
  · decide +kernel
  · decide +kernel
  · decide +kernel
  · decide +kernel
  · rfl
  · rfl

/-- The address is suppressed, and the command names it. -/
theorem later_recipient_named : ¬ Covered sampleService sampleSetup sampleRun := by
  intro h
  have hnames : Names (sampleService.commandPayload secondSubmit "desk@x.co" "c@y.co" "transactional").1 "b@y.co" :=
    names_iff.2 (by decide)
  have hfree := h.payload (sampleRun.take 2) secondSubmit [] _ "b@y.co" rfl sample_hands hnames
  cases hfree

end Middleware.Communications

/-
`CommunicationsService` over `MemoryCommunicationsStore` (`app/communications.py`): messages that are submitted to the command
ledger, refreshed from it, cancelled, and changed by the events of the providers.

The ledger is the in-memory one. What a caller's token says, the clock and the identifiers that are drawn are arguments of a
call, and so is the place where `commands.submit` or `persist` breaks off. An address is what `EMAIL_ADDRESS` makes of it, in
lower case.
-/
import Middleware.Communications.Sms
import Middleware.Lib.OrderedDict
import Middleware.Lib.Runs
import Middleware.Platform.Kernel
import Middleware.Telephony.Journal

namespace Middleware.Communications

open Ledger Lib
open Platform (strip)
open Telephony (truthy)

structure Library where
  /-- `str(EMAIL_ADDRESS.validate_python(value)).lower()`. -/
  emailAddress : Json → Option String
  /-- `uuid.UUID(text)`. -/
  uuid : String → Option Uuid
  /-- `uuid.uuid5(uuid.NAMESPACE_URL, text)`. -/
  uuid5 : String → Uuid
  isoformat : Time → String
  jsonTime : Time → String
  /-- `str(value)` of a value that is no string. -/
  text : Json → String
  /-- What `CommandEnvelope(...)` and the contract of SMS commands raise for a command. -/
  refuses : CommandEnvelope → Option Exc

def Library.str (lib : Library) : Json → String
  | .str s => s
  | value => lib.text value

/-! ## Exceptions -/

def conflict (message : String) : Exc := .other "CommunicationsConflict" message

def notFound : Exc := .other "CommunicationsNotFound" "message was not found"

def invalid (message : String) : Exc := .other "RequestValidationError" message

def unauthorized (message : String) : Exc := .other "AuthorizationError" message

/-! ## Records -/

inductive CommunicationChannel where
  | email
  | sms
  | voice
  deriving DecidableEq

def CommunicationChannel.value : CommunicationChannel → String
  | email => "email"
  | sms => "sms"
  | voice => "voice"

structure ChannelCommand where
  commandType : String
  target : String
  capability : String
  provider : String

/-- `CHANNEL_COMMAND`. -/
def channelCommand : CommunicationChannel → Option ChannelCommand
  | .email => some ⟨"email.message.send.v1", "klyrow-email", "EMAIL_DELIVERY", "klyrow"⟩
  | .sms => some ⟨"sms.message.submit.v1", "telnexa-sms", "SMS_DELIVERY", "telnexa"⟩
  | .voice => none

/-- `command_type.rsplit(".", 2)[0] + ".cancel.v1"`. -/
def cancelCommandType : CommunicationChannel → String
  | .email => "email.message.cancel.v1"
  | .sms => "sms.message.cancel.v1"
  | .voice => ""

inductive MessageStatus where
  | accepted
  | queued
  | dispatched
  | delivered
  | failed
  | cancelled
  | suppressed
  | expired
  | indeterminate
  deriving DecidableEq

def MessageStatus.terminal : MessageStatus → Bool
  | delivered | failed | cancelled | suppressed | expired => true
  | accepted | queued | dispatched | indeterminate => false

inductive Direction where
  | outbound
  | inbound

structure CommunicationMessage where
  messageId : Uuid
  tenantId : String
  channel : CommunicationChannel
  direction : Direction
  status : MessageStatus
  correlationId : String
  idempotencyKey : String
  operationId : Option Uuid := none
  provider : Option String := none
  providerReference : Option String := none
  failureCode : Json := .null
  failureMessage : Json := .null
  createdAt : Time
  acceptedAt : Option Time := none
  dispatchedAt : Option Time := none
  completedAt : Option Time := none
  updatedAt : Time
  metadata : Obj := []

/-- The message once its command is in the ledger. -/
def CommunicationMessage.queued (m : CommunicationMessage) (updatedAt : Time) : CommunicationMessage :=
  { m with status := .queued, updatedAt := updatedAt }

structure MessageEvent where
  eventId : Uuid
  messageId : Uuid
  type : String
  status : MessageStatus
  occurredAt : Time
  provider : Option String := none
  providerReference : Option String := none
  metadata : Obj := []

/-- `_canonical_digest`. -/
def canonicalDigest (value : Json) : String := Sha256.hexdigest (dumps true value)

/-- `_provider_status_to_canonical`. -/
def providerStatusToCanonical (status : String) : MessageStatus :=
  let normalized := String.ofList (lower status)
  if normalized ∈ ["delivered", "delivrd"] then .delivered
  else if normalized ∈ ["queued", "created"] then .queued
  else if normalized ∈ ["processing", "submitted", "provider_accepted", "sent", "acceptd", "enroute"] then .dispatched
  else if normalized ∈ ["suppressed", "unsubscribed"] then .suppressed
  else if normalized ∈ ["cancelled", "canceled"] then .cancelled
  else if normalized = "expired" then .expired
  else if normalized ∈ ["deferred", "unknown", "indeterminate"] then .indeterminate
  else .failed

/-- `_command_state_to_canonical`. -/
def commandStateToCanonical : CommandState → MessageStatus
  | .persisted | .queued => .queued
  | .dispatching | .accepted | .readbackPending | .completed => .dispatched
  | .reconciliationRequired => .indeterminate
  | .failed | .deadLettered => .failed
  | .cancelled => .cancelled

/-! ## Requests -/

structure MessageContent where
  subject : Option String := none
  text : Option String := none
  html : Option String := none
  templateId : Option Uuid := none
  templateVersion : Option Int := none
  templateVariables : Option Obj := none
  mediaUrls : Option (List String) := none

structure CreateMessageRequest where
  channel : CommunicationChannel
  sender : Option String := none
  recipients : List String
  senderIdentityId : Option Uuid := none
  domainId : Option Uuid := none
  content : MessageContent
  scheduledAt : Option Time := none
  metadata : Obj := []

def given (text : Option String) : Bool := text.any (· ≠ "")

/-- The bounds of the fields, and `require_content`. -/
structure CreateMessageRequest.Bounded (r : CreateMessageRequest) : Prop where
  recipients : 1 ≤ r.recipients.length ∧ r.recipients.length ≤ 1000
  sender : ∀ s ∈ r.sender, 1 ≤ s.length ∧ s.length ≤ 300
  subject : ∀ s ∈ r.content.subject, s.length ≤ 998
  text : ∀ s ∈ r.content.text, s.length ≤ 200000
  html : ∀ s ∈ r.content.html, s.length ≤ 200000
  version : ∀ n ∈ r.content.templateVersion, 1 ≤ n
  media : ∀ urls ∈ r.content.mediaUrls, urls.length ≤ 20
  content : (given r.content.text || given r.content.html || r.content.templateId.isSome) = true

/-- Something that an SMS does not carry. -/
def MessageContent.beyondText (c : MessageContent) : Bool :=
  given c.subject || given c.html || c.templateId.isSome || c.templateVersion.any (· ≠ 0) ||
    c.templateVariables.any (fun v => !v.isEmpty) || c.mediaUrls.any (fun urls => !urls.isEmpty)

/-- The recipients of an e-mail, each one validated. -/
def Library.emailAddresses (lib : Library) (recipients : List String) : Option (List String) :=
  recipients.mapM fun value => lib.emailAddress (.str value)

/-- `validate_channel_contract`: the request with its sender and recipients normalized. -/
def CreateMessageRequest.validateChannelContract (lib : Library) (r : CreateMessageRequest) :
    Except String CreateMessageRequest :=
  if r.channel = .voice then .error "implemented channels are email and sms"
  else if r.sender.isNone && r.senderIdentityId.isNone then .error "message requires from or senderIdentityId"
  else
    match r.channel with
    | .voice => .error "implemented channels are email and sms"
    | .email =>
      match r.sender.mapM fun s => lib.emailAddress (.str s), lib.emailAddresses r.recipients with
      | some sender, some recipients => .ok { r with sender, recipients }
      | _, _ => .error "email sender and recipients must be valid addresses"
    | .sms =>
      match r.recipients with
      | [recipient] =>
        if r.domainId.isSome then .error "SMS does not accept domainId"
        else
          match r.content.text with
          | none => .error "SMS content.text is required"
          | some text =>
            if r.content.beyondText then .error "SMS API currently accepts text content only"
            else do
              let sender ← r.sender.mapM normalizeSmsSender
              let recipient ← normalizeE164 recipient
              let _ ← smsSegments text
              .ok { r with sender, recipients := [recipient] }
      | _ => .error "SMS submission requires exactly one recipient"

structure ValidRequest (lib : Library) where
  raw : CreateMessageRequest
  request : CreateMessageRequest
  bounded : raw.Bounded
  validated : raw.validateChannelContract lib = .ok request

def optional (value : Option String) : Json := (value.map Json.str).getD .null

def MessageContent.modelDump (c : MessageContent) : Obj :=
  [("subject", optional c.subject), ("text", optional c.text), ("html", optional c.html),
    ("templateId", optional c.templateId), ("templateVersion", (c.templateVersion.map Json.int).getD .null),
    ("variables", (c.templateVariables.map Json.obj).getD .null),
    ("mediaUrls", (c.mediaUrls.map fun urls => Json.arr (urls.map .str)).getD .null)]

/-- `exclude_none=True`. -/
def excludeNone (d : Obj) : Obj := d.filter fun m => match m.2 with
  | .null => false
  | _ => true

def CreateMessageRequest.modelDump (lib : Library) (r : CreateMessageRequest) : Json :=
  .obj [("channel", .str r.channel.value), ("from", optional r.sender), ("to", .arr (r.recipients.map .str)),
    ("senderIdentityId", optional r.senderIdentityId), ("domainId", optional r.domainId), ("content", .obj r.content.modelDump),
    ("scheduledAt", optional (r.scheduledAt.map lib.jsonTime)), ("metadata", .obj r.metadata)]

/-! ## The store -/

/-- An entry of `suppressions`: a subject of a tenant, on every channel or on one. -/
inductive Suppression where
  | subject (tenantId subject : String)
  | onChannel (tenantId channel subject : String)
  deriving DecidableEq

structure Store where
  messages : OrderedDict (String × Uuid) CommunicationMessage := []
  events : OrderedDict (String × Uuid) (List MessageEvent) := []
  idempotency : OrderedDict (String × String × String) (String × Uuid) := []
  providerEventDigests : OrderedDict (String × String) String := []
  suppressions : List Suppression := []
  deniedConsent : List (String × String) := []
  verifiedSenders : List (String × String) := []
  verifiedDomains : List (String × String) := []
  senderIdentities : OrderedDict (String × Uuid) String := []
  cancellations : List (String × Uuid × String) := []

def route : String := "POST /v1/communications/messages"

namespace Store

/-- `add_event`: an event that is on the timeline already is not added again. -/
def addEvent (s : Store) (tenantId : String) (event : MessageEvent) : Store :=
  let timeline := (s.events.get (tenantId, event.messageId)).getD []
  let timeline := if timeline.any (·.eventId == event.eventId) then timeline else timeline ++ [event]
  { s with events := s.events.set (tenantId, event.messageId) timeline }

def putMessage (s : Store) (message : CommunicationMessage) : Store :=
  { s with messages := s.messages.set (message.tenantId, message.messageId) message }

def suppress (s : Store) (entry : Suppression) : Store := { s with suppressions := s.suppressions.insert entry }

/-- `message_by_operation`. -/
def messageByOperation (s : Store) (tenantId : String) (operationId : Uuid) : Option CommunicationMessage :=
  (s.messages.find? fun m => m.1.1 == tenantId && m.2.operationId == some operationId).map (·.2)

/-- The recipient is suppressed, or its consent is denied. -/
def blocks (s : Store) (tenantId : String) (channel : CommunicationChannel) (recipient : String) : Bool :=
  s.suppressions.contains (.subject tenantId recipient) || s.suppressions.contains (.onChannel tenantId channel.value recipient) ||
    s.deniedConsent.contains (tenantId, recipient)

end Store

/-! ## Callers -/

structure ControlPlaneCaller where
  clientId : String
  allowedCommandPrefixes : List String
  allowedTargets : List String
  connectorCommandsAllowed : Bool

/-- What `caller_for_authorization` and the token verifier make of an authorization. -/
structure Token where
  caller : Except Exc ControlPlaneCaller
  claims : Except Exc Obj

/-- `authorize_command`. -/
def authorizeCommand (caller : ControlPlaneCaller) (commandType target : String) : Except Exc Unit :=
  if !caller.connectorCommandsAllowed then .error (unauthorized "caller has no connector command authority")
  else if target ∉ caller.allowedTargets then .error (unauthorized "command target is not authorized for caller")
  else if !caller.allowedCommandPrefixes.any fun start => start.toList.isPrefixOf commandType.toList then
    .error (unauthorized "command namespace is not authorized for caller")
  else .ok ()

def texts : List Json → Option (List String)
  | [] => some []
  | .str text :: items => (texts items).map (text :: ·)
  | _ :: _ => none

def authorizedTenants (claims : Obj) : List String :=
  let single := match claims.lookup "tenant_id" with
    | some (.str t) => [strip t]
    | _ => []
  let multiple := match claims.lookup "tenant_ids" with
    | some (.arr items) => ((texts items).getD []).map strip
    | _ => []
  (single ++ multiple).filter (· ≠ "")

/-- `authorize_tenant`. -/
def authorizeTenant (claims : Obj) (tenantId : String) : Except Exc Unit :=
  let authorized := authorizedTenants claims
  if "*" ∈ authorized then .error (unauthorized "wildcard tenant authorization is prohibited")
  else if authorized.isEmpty then .error (unauthorized "token has no authoritative tenant claim")
  else if tenantId ∉ authorized then .error (unauthorized "token is not authorized for the requested tenant")
  else .ok ()

/-- `claims.get("sub") == actor`. -/
def isSubject (claims : Obj) (actor : String) : Bool :=
  match claims.lookup "sub" with
  | some (.str subject) => subject == actor
  | _ => false

/-! ## The service -/

structure Service where
  library : Library
  policies : Platform.CommandPolicyRegistry
  /-- `umbrella_controls`. -/
  umbrellaControls : List (String × Bool)

/-- The store of the service and the ledger. -/
structure World where
  store : Store := {}
  ledger : MemoryCommandStore := {}

/-- Where `commands.submit` breaks off, besides the exceptions of its own. -/
inductive SubmitFault where
  | before (e : Exc)
  | after (e : Exc)

structure Submit (lib : Library) where
  request : ValidRequest lib
  tenantId : String
  correlationId : String
  idempotencyKey : String
  actor : String
  token : Token
  governedMetadata : Obj := []
  /-- The draws of `uuid4`. -/
  messageId : Uuid
  commandId : Uuid
  acceptedEventId : Uuid
  nextEventId : Uuid
  /-- The readings of the clock: of `now`, of the two events, of the status, and of the ledger. -/
  now : Time
  acceptedAt : Time
  nextAt : Time
  queuedAt : Time
  ledgerAt : Time
  submitFault : Option SubmitFault := none
  persistFault : Option Exc := none

/-- What `submit_message` has come to before it writes anything. -/
inductive Prepared where
  | replayed (message : CommunicationMessage)
  | suppressed (digest : String) (message : CommunicationMessage) (failureCode : String)
  | submitting (digest : String) (message : CommunicationMessage) (command : CommandEnvelope) (clientId : String)

namespace Service

variable (svc : Service)

/-- The checks of the token, for the command of a channel. -/
def authorizeSubmit (c : Submit svc.library) (channel : ChannelCommand) : Except Exc ControlPlaneCaller := do
  let caller ← c.token.caller
  let claims ← c.token.claims
  authorizeCommand caller channel.commandType channel.target
  authorizeTenant claims c.tenantId
  if !isSubject claims c.actor then throw (unauthorized "requested actor must equal token subject")
  else if caller.clientId = "n8n-automation" ∧ svc.umbrellaControls.lookup "N8N_EXTERNAL_PROVIDER_WRITES" ≠ some true then
    throw (Platform.CommandKernel.disabled "N8N_EXTERNAL_PROVIDER_WRITES is disabled")
  else return caller

def namedSender (s : Store) (tenantId : String) (r : CreateMessageRequest) : Except Exc String :=
  match r.sender, r.senderIdentityId with
  | some sender, _ => .ok sender
  | none, some identity =>
    match s.senderIdentities.get (tenantId, identity) with
    | some sender => .ok sender
    | none => .error (invalid "sender identity is not active for tenant")
  | none, none => .error (invalid "sender identity is required")

def normalizeSender (channel : CommunicationChannel) (sender : String) : Except Exc String :=
  if channel = .email then
    match svc.library.emailAddress (.str sender) with
    | some address => .ok address
    | none => .error (invalid "sender identity is not a valid email")
  else
    match normalizeSmsSender sender with
    | .ok sender => .ok sender
    | .error message => .error (invalid message)

def resolveSender (s : Store) (tenantId : String) (r : CreateMessageRequest) : Except Exc String := do
  let sender ← namedSender s tenantId r
  let sender ← svc.normalizeSender r.channel sender
  if (tenantId, sender) ∉ s.verifiedSenders then throw (invalid "sender identity is not verified for tenant")
  else return sender

/-- `sender.rsplit("@", 1)[1] if "@" in sender else ""`. -/
def senderDomain (sender : String) : String :=
  if '@' ∈ sender.toList then String.ofList (sender.toList.rtakeWhile (· ≠ '@')) else ""

/-- `str(metadata.get("category") or "transactional").lower()`. -/
def category (metadata : Obj) : String :=
  let value := (metadata.lookup "category").getD .null
  String.ofList (lower (svc.library.str (if truthy value then value else .str "transactional")))

def holds (metadata : Obj) (key value : String) : Bool :=
  match metadata.lookup key with
  | some (.str text) => text == value
  | _ => false

/-- Why a message is not submitted: its failure code and message. -/
def suppression (s : Store) (tenantId : String) (r : CreateMessageRequest) (recipient category : String) :
    Option (String × String) :=
  if s.suppressions.contains (.subject tenantId recipient) ||
      s.suppressions.contains (.onChannel tenantId r.channel.value recipient) then
    some ("recipient_suppressed", "recipient is suppressed before provider submission")
  else if s.deniedConsent.contains (tenantId, recipient) || holds r.metadata "consent" "denied" ||
      (category == "marketing" && !holds r.metadata "consent" "granted") then
    some ("consent_required", "recipient does not have required consent")
  else none

/-- The payload of the command, and what an SMS adds to the metadata of the message. -/
def commandPayload (c : Submit svc.library) (sender recipient category : String) : Obj × Obj :=
  let r := c.request.request
  let scheduledAt := optional (r.scheduledAt.map svc.library.isoformat)
  match r.channel with
  | .sms =>
    let text := r.content.text.getD ""
    let info := match smsSegments text with
      | .ok info => info
      | .error _ => ⟨"", 0, 0, 0⟩
    let counts : Obj := [("encoding", .str info.encoding), ("characters", .int info.characters), ("segments", .int info.segments)]
    ([("message_id", .str c.messageId), ("channel", .str "sms"), ("destination", .str recipient), ("sender", .str sender),
        ("content", .str text)] ++ counts ++
      [("category", .str category), ("client_reference", .str c.messageId), ("scheduled_at", scheduledAt),
        ("billing_account_id", (r.metadata.lookup "billingAccountId").getD .null),
        ("campaign_id", (r.metadata.lookup "campaignId").getD .null)], counts)
  | _ =>
    ([("message_id", .str c.messageId), ("channel", .str "email"), ("from", .str sender), ("to", .arr (r.recipients.map .str)),
      ("content", .obj (excludeNone r.content.modelDump)), ("scheduled_at", scheduledAt),
      ("metadata", .obj (Obj.merge r.metadata c.governedMetadata))], [])

def outboundMessage (c : Submit svc.library) (channel : ChannelCommand) (counts : Obj) : CommunicationMessage :=
  let r := c.request.request
  { messageId := c.messageId, tenantId := c.tenantId, channel := r.channel, direction := .outbound, status := .accepted,
    correlationId := c.correlationId, idempotencyKey := c.idempotencyKey, operationId := some c.commandId,
    provider := some channel.provider, createdAt := c.now, acceptedAt := some c.now, updatedAt := c.now,
    metadata := Obj.merge
      (Obj.merge (Obj.merge r.metadata c.governedMetadata) [("recipientCount", .int r.recipients.length)]) counts }

/-- The message of a submission that goes no further. -/
def suppressedMessage (c : Submit svc.library) (channel : ChannelCommand) (counts : Obj) (failureCode failureMessage : String) :
    CommunicationMessage :=
  { svc.outboundMessage c channel counts with
    status := .suppressed, operationId := none, failureCode := .str failureCode, failureMessage := .str failureMessage,
    completedAt := some c.now }

def outboundCommand (c : Submit svc.library) (channel : ChannelCommand) (payload : Obj) : CommandEnvelope where
  commandId := c.commandId
  commandType := channel.commandType
  commandVersion := "1.0"
  target := channel.target
  tenantId := c.tenantId
  requestedBy := c.actor
  correlationId := c.correlationId
  idempotencyKey := c.idempotencyKey
  capability := channel.capability
  payload := payload

def requestDigest (c : Submit svc.library) : String := canonicalDigest (c.request.request.modelDump svc.library)

/-- `submit_message` up to its first write. -/
def prepare (c : Submit svc.library) (s : Store) : Except Exc Prepared := do
  let r := c.request.request
  match channelCommand r.channel with
  | none => throw .keyError
  | some channel =>
    let caller ← svc.authorizeSubmit c channel
    match s.idempotency.get (c.tenantId, route, c.idempotencyKey) with
    | some (existingDigest, existingMessageId) =>
      if existingDigest ≠ svc.requestDigest c then throw (conflict "Idempotency-Key was reused with different content")
      else
        match s.messages.get (c.tenantId, existingMessageId) with
        | none => throw .keyError
        | some message => return .replayed message
    | none =>
      let sender ← svc.resolveSender s c.tenantId r
      match r.recipients.head? with
      | none => throw (.other "IndexError" "list index out of range")
      | some recipient =>
        let category := svc.category r.metadata
        if r.channel = .email ∧ (c.tenantId, senderDomain sender) ∉ s.verifiedDomains then
          throw (invalid "sender domain is not verified for tenant")
        else if r.channel = .sms ∧ category ∉ ["transactional", "service", "marketing"] then
          throw (invalid "SMS category is not supported")
        else
          let (payload, counts) := svc.commandPayload c sender recipient category
          match suppression s c.tenantId r recipient category with
          | some (failureCode, failureMessage) =>
            return .suppressed (svc.requestDigest c) (svc.suppressedMessage c channel counts failureCode failureMessage) failureCode
          | none =>
            let command := svc.outboundCommand c channel payload
            match svc.library.refuses command with
            | some e => throw e
            | none =>
              Platform.CommandKernel.authorize svc.policies command
              return .submitting (svc.requestDigest c) (svc.outboundMessage c channel counts) command caller.clientId

/-- `commands.submit`. -/
def commandsSubmit (c : Submit svc.library) (command : CommandEnvelope) (clientId : String) (ledger : MemoryCommandStore) :
    Except Exc CommandOperation × MemoryCommandStore :=
  match c.submitFault with
  | some (.before e) => (.error e, ledger)
  | fault =>
    match Platform.CommandKernel.validateSubmission svc.policies command ⟨c.actor, clientId⟩ with
    | .error e => (.error e, ledger)
    | .ok _ =>
      let submitted := perform (MemoryCommandStore.submit { command, authenticatedClientId := clientId } c.ledgerAt) ledger
      match fault with
      | some (.after e) => (.error e, submitted.2)
      | _ => submitted

/-- `persist` of the store in memory, which may break off. -/
def persist {α : Type} (fault : Option Exc) (reply : α) (w : World) : Except Exc α × World :=
  match fault with
  | some e => (.error e, w)
  | none => (.ok reply, w)

/-- The store with the message, its idempotency entry and its first event. -/
def accept (c : Submit svc.library) (digest : String) (message : CommunicationMessage) (s : Store) : Store :=
  let s := s.putMessage message
  let s := { s with idempotency := s.idempotency.set (c.tenantId, route, c.idempotencyKey) (digest, c.messageId) }
  s.addEvent c.tenantId
    { eventId := c.acceptedEventId, messageId := c.messageId, type := "accepted", status := .accepted,
      occurredAt := c.acceptedAt, provider := message.provider }

/-- `submit_message`. -/
def submitMessage (c : Submit svc.library) (w : World) : Except Exc (CommunicationMessage × Bool) × World :=
  match svc.prepare c w.store with
  | .error e => (.error e, w)
  | .ok (.replayed message) => (.ok (message, true), w)
  | .ok (.suppressed digest message failureCode) =>
    let s := svc.accept c digest message w.store
    let s := s.addEvent c.tenantId
      { eventId := c.nextEventId, messageId := c.messageId, type := failureCode, status := .suppressed, occurredAt := c.nextAt,
        provider := message.provider }
    persist c.persistFault (message, false) { w with store := s }
  | .ok (.submitting digest message command clientId) =>
    let s := svc.accept c digest message w.store
    match svc.commandsSubmit c command clientId w.ledger with
    | (.error e, ledger) => (.error e, { store := s, ledger })
    | (.ok _, ledger) =>
      let message := message.queued c.queuedAt
      let s := s.putMessage message
      let s := s.addEvent c.tenantId
        { eventId := c.nextEventId, messageId := c.messageId, type := "queued", status := .queued, occurredAt := c.nextAt,
          provider := message.provider }
      persist c.persistFault (message, false) { store := s, ledger }

end Service

/-! ## Refreshes -/

structure Refresh where
  tenantId : String
  messageId : Uuid
  now : Time
  eventAt : Time
  persistFault : Option Exc := none

/-- `a or b` of a text and a value. -/
def orText (a : Option String) (b : Json) : Json :=
  match a with
  | some text => if text = "" then b else .str text
  | none => b

/-- The message with the status of its command, where it takes it. -/
def CommunicationMessage.refreshed (m : CommunicationMessage) (operation : CommandOperation) (now : Time) :
    Option CommunicationMessage :=
  let target := commandStateToCanonical operation.state
  if target = m.status then none
  else if m.status.terminal then none
  else
    let m := { m with
      status := target, providerReference := orElse operation.providerOperationId m.providerReference, updatedAt := now }
    match target with
    | .indeterminate => some { m with
        failureCode := .str "provider_outcome_unknown",
        failureMessage := orText operation.lastError (.str "provider outcome requires authoritative read-back") }
    | .failed => some { m with
        failureCode := .str "provider_command_failed", failureMessage := optional operation.lastError, completedAt := some now }
    | _ => some m

namespace Service

variable (svc : Service)

/-- `refresh_command_status`. -/
def refreshCommandStatus (c : Refresh) (w : World) : Except Exc CommunicationMessage × World :=
  match w.store.messages.get (c.tenantId, c.messageId) with
  | none => (.error notFound, w)
  | some message =>
    match message.operationId with
    | none => (.ok message, w)
    | some operationId =>
      match (perform (MemoryCommandStore.get c.tenantId operationId) w.ledger).1 with
      | .error e => (.error e, w)
      | .ok operation =>
        match message.refreshed operation c.now with
        | none => (.ok message, w)
        | some updated =>
          let s := { w.store with messages := w.store.messages.set (c.tenantId, c.messageId) updated }
          let s := s.addEvent c.tenantId
            { eventId := svc.library.uuid5 ("codestra:communications:" ++ c.tenantId ++ ":" ++ operation.commandId ++ ":" ++
                operation.state.value)
              messageId := c.messageId, type := "command." ++ operation.state.value, status := updated.status,
              occurredAt := c.eventAt, provider := message.provider, providerReference := updated.providerReference,
              metadata := [("commandState", .str operation.state.value)] }
          persist c.persistFault updated { w with store := s }

end Service

/-! ## Cancellations -/

structure Cancel where
  tenantId : String
  messageId : Uuid
  idempotencyKey : String
  actor : String
  token : Token
  /-- The draw of `uuid4`, and the readings of the clock: of the ledger, of the two dates, and of the event. -/
  eventId : Uuid
  ledgerAt : Time
  completedAt : Time
  updatedAt : Time
  eventAt : Time
  persistFault : Option Exc := none

def CommunicationMessage.cancelled (m : CommunicationMessage) (completedAt updatedAt : Time) : CommunicationMessage :=
  { m with status := .cancelled, completedAt := some completedAt, updatedAt := updatedAt }

namespace Service

/-- The token's checks, then `get_cancellable_message_for_caller`. -/
def cancellable (c : Cancel) (s : Store) : Except Exc CommunicationMessage := do
  let caller ← c.token.caller
  let claims ← c.token.claims
  authorizeTenant claims c.tenantId
  if !isSubject claims c.actor then throw (unauthorized "requested actor must equal token subject")
  else
    match s.messages.get (c.tenantId, c.messageId) with
    | none => throw notFound
    | some message =>
      match channelCommand message.channel with
      | none => throw .keyError
      | some channel =>
        match authorizeCommand caller (cancelCommandType message.channel) channel.target with
        | .error _ => throw notFound
        | .ok _ => return message

/-- `cancel`. -/
def cancel (c : Cancel) (w : World) : Except Exc (CommunicationMessage × Bool) × World :=
  match cancellable c w.store with
  | .error e => (.error e, w)
  | .ok message =>
    if (c.tenantId, c.messageId, c.idempotencyKey) ∈ w.store.cancellations then (.ok (message, true), w)
    else if message.status ∉ [MessageStatus.accepted, .queued] then
      (.error (conflict "message cannot be cancelled in its current state"), w)
    else
      match message.operationId with
      | none => (.error (conflict "message does not own a cancellable command"), w)
      | some operationId =>
        match (perform (MemoryCommandStore.get c.tenantId operationId) w.ledger).1 with
        | .error e => (.error e, w)
        | .ok operation =>
          if operation.state ∉ [CommandState.persisted, .queued] then
            (.error (conflict "message command is already being dispatched"), w)
          else
            match perform (MemoryCommandStore.mutateOperation
              { tenantId := c.tenantId, commandId := operationId, action := .cancel, actorId := c.actor,
                idempotencyKey := c.idempotencyKey, expectedVersion := operation.resourceVersion,
                reason := "communication cancelled before provider dispatch" } c.ledgerAt) w.ledger with
            | (.error e, ledger) => (.error e, { w with ledger })
            | (.ok cancelledOperation, ledger) =>
              if cancelledOperation.state ≠ .cancelled then
                (.error (conflict "message command cancellation requires reconciliation"), { w with ledger })
              else
                let updated := message.cancelled c.completedAt c.updatedAt
                let s := { w.store with
                  messages := w.store.messages.set (c.tenantId, c.messageId) updated
                  cancellations := w.store.cancellations.insert (c.tenantId, c.messageId, c.idempotencyKey) }
                let s := s.addEvent c.tenantId
                  { eventId := c.eventId, messageId := c.messageId, type := "cancelled", status := .cancelled,
                    occurredAt := c.eventAt, provider := message.provider }
                persist c.persistFault (updated, false) { store := s, ledger }

end Service

/-! ## Provider events -/

structure EventEnvelope where
  eventId : String
  eventType : String
  occurredAt : Time
  receivedAt : Time
  source : String
  tenantId : String
  customerId : Option String := none
  correlationId : String
  causationId : String
  idempotencyKey : String
  payload : Obj
  metadata : Obj := []

def EventEnvelope.modelDump (lib : Library) (e : EventEnvelope) : Json :=
  .obj [("event_id", .str e.eventId), ("event_type", .str e.eventType), ("event_version", .str "1.0"),
    ("occurred_at", .str (lib.jsonTime e.occurredAt)), ("received_at", .str (lib.jsonTime e.receivedAt)),
    ("source", .str e.source), ("tenant_id", .str e.tenantId), ("customer_id", optional e.customerId),
    ("correlation_id", .str e.correlationId), ("causation_id", .str e.causationId),
    ("idempotency_key", .str e.idempotencyKey), ("payload", .obj e.payload), ("metadata", .obj e.metadata)]

structure RecordEvent where
  envelope : EventEnvelope
  now : Time
  eventAt : Time
  persistFault : Option Exc := none

/-- `payload.get(k1) or payload.get(k2) or ...`. -/
def firstOf (payload : Obj) : List String → Json
  | [] => .null
  | [key] => (payload.lookup key).getD .null
  | key :: keys =>
    let value := (payload.lookup key).getD .null
    if truthy value then value else firstOf payload keys

/-- `_provider_event_uuid`. -/
def providerEventUuid (lib : Library) (tenantId eventId : String) : Uuid :=
  match lib.uuid eventId with
  | some id => id
  | none => lib.uuid5 ("codestra:communications:" ++ tenantId ++ ":" ++ eventId)

def inboundTypes : List String :=
  ["codestra.events.sms_received", "codestra.sms.inbound.received", "codestra.sms.help_requested",
    "codestra.sms.recipient.opted_out"]

/-- What `_record_inbound_sms` reads of an event. -/
structure Inbound where
  message : CommunicationMessage
  sender : String
  action : Option ComplianceAction

namespace Service

variable (svc : Service)

/-- `normalize_e164` of a number of the payload. -/
def inboundNumber (number : String) : Except Exc String :=
  match normalizeE164 number with
  | .ok number => .ok number
  | .error message => .error (invalid message)

/-- The sender and the destination that the payload names. -/
def inboundNumbers (e : EventEnvelope) : Except Exc (String × String) :=
  match firstOf e.payload ["from", "sender", "from_number"], firstOf e.payload ["to", "destination", "to_number"] with
  | .str sender, .str destination => .ok (sender, destination)
  | _, _ => .error (invalid "SMS inbound event requires sender and destination")

/-- What the metadata says of the segments of a text that is not empty. -/
def inboundCounts (content : String) : Except Exc Obj :=
  if content = "" then .ok []
  else
    match smsSegments content with
    | .ok info =>
      .ok [("encoding", .str info.encoding), ("characters", .int info.characters), ("segments", .int info.segments)]
    | .error message => .error (.valueError message)

def inboundAction (e : EventEnvelope) (content : String) : Option ComplianceAction :=
  if e.eventType = "codestra.sms.recipient.opted_out" then some .stop
  else if e.eventType = "codestra.sms.help_requested" then some .help
  else complianceKeyword content

/-- `_record_inbound_sms` up to its first write. -/
def readInbound (c : RecordEvent) : Except Exc Inbound := do
  let e := c.envelope
  let numbers ← inboundNumbers e
  let sender ← inboundNumber numbers.1
  let destination ← inboundNumber numbers.2
  let contentValue := firstOf e.payload ["content", "text", "body_preview"]
  let content := svc.library.str (if truthy contentValue then contentValue else .str "")
  let action := inboundAction e content
  let reference := firstOf e.payload ["inboundMessageId", "inbound_message_id", "telnexa_message_id", "provider_message_id"]
  let counts ← inboundCounts content
  return {
    message :=
      { messageId := providerEventUuid svc.library e.tenantId e.eventId, tenantId := e.tenantId, channel := .sms,
        direction := .inbound, status := .delivered, correlationId := e.correlationId, idempotencyKey := e.idempotencyKey,
        provider := some "telnexa"
        providerReference := some (svc.library.str (if truthy reference then reference else .str e.eventId))
        createdAt := e.occurredAt, acceptedAt := some c.now, completedAt := some c.now, updatedAt := c.now,
        metadata := [("sender", .str sender), ("destination", .str destination), ("bodyPreview", .str (clip 120 content)),
          ("complianceAction", optional (action.map ComplianceAction.value))] ++ counts }
    sender := sender
    action := action }

/-- `_record_inbound_sms`. -/
def recordInboundSms (e : EventEnvelope) (i : Inbound) (s : Store) : Store :=
  let s := s.putMessage i.message
  let action := optional (i.action.map ComplianceAction.value)
  let event : MessageEvent :=
    { eventId := i.message.messageId, messageId := i.message.messageId, type := e.eventType, status := .delivered,
      occurredAt := e.occurredAt, provider := some "telnexa", providerReference := i.message.providerReference,
      metadata := [("complianceAction", action)] }
  let s := s.addEvent e.tenantId event
  let id := fun suffix => svc.library.uuid5 ("codestra:communications:" ++ e.tenantId ++ ":" ++ e.eventId ++ suffix)
  match i.action with
  | some .stop =>
    let s := s.suppress (.onChannel e.tenantId "sms" i.sender)
    s.addEvent e.tenantId { event with
      eventId := id ":stop", type := "codestra.sms.recipient.opted_out", status := .suppressed,
      metadata := [("subject", .str i.sender), ("source", .str "inbound_sms")] }
  | some .help =>
    s.addEvent e.tenantId { event with
      eventId := id ":help", type := "codestra.sms.help_requested", metadata := [("subject", .str i.sender)] }
  | none => s

/-- `uuid.UUID(str(value))`. -/
def uuidOf (value : Json) : Option Uuid := svc.library.uuid (svc.library.str value)

def providerMessage (e : EventEnvelope) (s : Store) : Option CommunicationMessage :=
  let rawMessageId := firstOf e.payload ["messageId", "message_id", "middleware_message_id"]
  if !truthy rawMessageId then none
  else
    match (svc.uuidOf rawMessageId).bind fun id => s.messages.get (e.tenantId, id) with
    | some message => some message
    | none => (svc.uuidOf (firstOf e.payload ["operationId", "operation_id", "command_id"])).bind fun id =>
        s.messageByOperation e.tenantId id

/-- `event_channel`. -/
def eventChannel (e : EventEnvelope) : CommunicationChannel :=
  if e.source = "telnexa-gateway" ∨ ".sms.".toList <:+: e.eventType.toList then .sms else .email

/-- `raw_status`. -/
def rawStatus (e : EventEnvelope) : String :=
  let value := firstOf e.payload ["status", "canonical_status", "provider_status"]
  svc.library.str (if truthy value then value else .str (String.ofList (e.eventType.toList.rtakeWhile (· ≠ '.'))))

def isEmailUnsubscribe (e : EventEnvelope) : Bool :=
  e.eventType ∈ ["codestra.email.message.unsubscribed", "klyrow.email.unsubscribed"]

def unsubscribed (e : EventEnvelope) : Option String :=
  svc.library.emailAddress (firstOf e.payload ["recipient", "recipient_email", "destination", "email"])

/-- The event is late: the message was delivered. -/
def ignoredTransition (e : EventEnvelope) (m : CommunicationMessage) : Bool :=
  m.status == .delivered && providerStatusToCanonical (svc.rawStatus e) != .delivered && !isEmailUnsubscribe e

def effectiveStatus (e : EventEnvelope) (m : CommunicationMessage) : MessageStatus :=
  if svc.ignoredTransition e m then m.status else providerStatusToCanonical (svc.rawStatus e)

def providerUpdate (c : RecordEvent) (m : CommunicationMessage) : CommunicationMessage :=
  let e := c.envelope
  let status := svc.effectiveStatus e m
  let reference := firstOf e.payload ["providerReference", "provider_reference", "provider_message_id"]
  let code := firstOf e.payload ["failureCode", "failure_code"]
  let message := firstOf e.payload ["failureMessage", "failure_message"]
  { m with
    status := status
    providerReference := if truthy reference then some (svc.library.str reference) else m.providerReference
    failureCode := if truthy code then code else m.failureCode
    failureMessage := if truthy message then message else m.failureMessage
    dispatchedAt := if status = .dispatched then some c.now else m.dispatchedAt
    completedAt := if status.terminal then some c.now else m.completedAt
    updatedAt := c.now }

def providerEvent (c : RecordEvent) (m updated : CommunicationMessage) : MessageEvent :=
  let e := c.envelope
  { eventId := providerEventUuid svc.library e.tenantId e.eventId
    messageId := m.messageId
    type := e.eventType
    status := updated.status
    occurredAt := c.eventAt
    provider := m.provider
    providerReference := updated.providerReference
    metadata := [("providerEventType", firstOf e.payload ["providerEventType", "provider_event_type"]),
      ("providerStatus", .str (svc.rawStatus e)), ("providerOccurredAt", .str (svc.library.isoformat e.occurredAt)),
      ("ignoredTransition", .bool (svc.ignoredTransition e m)), ("suppressionApplied", .bool (isEmailUnsubscribe e))] }

def eventDigest (e : EventEnvelope) : String := canonicalDigest (e.modelDump svc.library)

/-- `record_provider_event`. -/
def recordProviderEvent (c : RecordEvent) (w : World) : Except Exc Bool × World :=
  let e := c.envelope
  let digest := svc.eventDigest e
  match w.store.providerEventDigests.get (e.tenantId, e.eventId) with
  | some existing =>
    if existing ≠ digest then (.error (conflict "provider event identity was reused with different content"), w)
    else (.ok false, w)
  | none =>
    let seen (s : Store) : Store :=
      { s with providerEventDigests := s.providerEventDigests.set (e.tenantId, e.eventId) digest }
    if e.eventType ∈ inboundTypes then
      match svc.readInbound c with
      | .error error => (.error error, w)
      | .ok inbound => persist c.persistFault true { w with store := seen (svc.recordInboundSms e inbound w.store) }
    else
      match svc.providerMessage e w.store with
      | none => (.ok false, w)
      | some message =>
        if message.channel ≠ eventChannel e then
          (.error (conflict "provider event channel does not match communication message"), w)
        else if isEmailUnsubscribe e && (svc.unsubscribed e).isNone then
          (.error (invalid "email unsubscribe event requires a valid recipient"), w)
        else
          let s := match isEmailUnsubscribe e, svc.unsubscribed e with
            | true, some recipient => w.store.suppress (.onChannel e.tenantId "email" recipient)
            | _, _ => w.store
          let updated := svc.providerUpdate c message
          let s := { s with messages := s.messages.set (e.tenantId, message.messageId) updated }
          let s := s.addEvent e.tenantId (svc.providerEvent c message updated)
          persist c.persistFault true { w with store := seen s }

end Service

/-! ## Runs -/

inductive Call (svc : Service) where
  | submit (c : Submit svc.library)
  | refresh (c : Refresh)
  | cancel (c : Cancel)
  | event (c : RecordEvent)
  /-- The ledger's own callers leave it in another state. -/
  | ledger (ledger : MemoryCommandStore)

def step (svc : Service) : Call svc → World → World
  | .submit c, w => (svc.submitMessage c w).2
  | .refresh c, w => (svc.refreshCommandStatus c w).2
  | .cancel c, w => (Service.cancel c w).2
  | .event c, w => (svc.recordProviderEvent c w).2
  | .ledger ledger, w => { w with ledger }

end Middleware.Communications

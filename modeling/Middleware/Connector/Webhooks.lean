/-
Webhook deliveries, `middleware/connector_sdk/webhooks.py`: the verification of a request, the in-memory replay store and
`WebhookProcessor.process`.

What a call finds around it is its `Environment`: the registry, the adapters, the secrets and tenants, the clock, and the
functions of Python's library that the code calls. It may differ from call to call. `process` awaits nothing, so calls on
one event loop follow one another; each is a call on the replay store.
-/
import Middleware.Connector.Registry

namespace Middleware.Connector

open Lib (CallM invoke)

/-! ## Data -/

inductive ReplayDecision where
  | new
  | exactReplay
  | semanticConflict
deriving DecidableEq, Repr

abbrev Bytes := List UInt8

structure WebhookRequest where
  headers : List (String × String)
  body : Bytes
  receivedAtEpoch : Int

structure VerifiedWebhook where
  connectorId : String
  endpointKey : String
  eventId : String
  bodySha256 : String
  timestampEpoch : Int
  replayKey : String
  signatureVersion : String
  replayDecision : ReplayDecision
  body : Bytes
  headers : List (String × String)
deriving DecidableEq, Repr

def VerifiedWebhook.decided (v : VerifiedWebhook) (decision : ReplayDecision) : VerifiedWebhook :=
  { v with replayDecision := decision }

variable (v : VerifiedWebhook) (decision : ReplayDecision)

@[simp] theorem VerifiedWebhook.decided_key :
    (v.decided decision).replayKey = v.replayKey := rfl

@[simp] theorem VerifiedWebhook.decided_digest :
    (v.decided decision).bodySha256 = v.bodySha256 := rfl

@[simp] theorem VerifiedWebhook.decided_decision :
    (v.decided decision).replayDecision = decision := rfl

structure NormalizedWebhookEvent where
  eventId : String
  eventType : String
  externalAccountReference : String
  correlationId : String
  causationId : String
  occurredAt : String
  payload : Obj
  subject : Option String := none
  traceparent : Option String := none
  tracestate : Option String := none

structure CloudEventEnvelope where
  specversion : String
  id : String
  source : String
  type : String
  time : String
  subject : Option String
  datacontenttype : String
  dataschema : Option String
  data : Obj
  extensions : Obj

structure WebhookProcessResult where
  decision : ReplayDecision
  verified : VerifiedWebhook
  cloudEvent : Option CloudEventEnvelope

/-- The exceptions of a delivery; `other` is what an adapter raises of its own. -/
inductive WebhookError where
  | connectorNotFound (message : String)
  | connectorState (message : String)
  | verification (message : String)
  | tenantResolution (message : String)
  | other (message : String)
deriving DecidableEq, Repr

/-- Functions of Python's library. -/
structure Library where
  lower : String → String
  strip : String → String
  int : String → Option Int
  fromisoformat : String → Bool
  sha256 : Bytes → String
  hmacSha256 : Bytes → Bytes → String

/-- What a call finds around it. -/
structure Environment where
  registry : ConnectorRegistry
  adapter : String → Option (VerifiedWebhook → Except WebhookError NormalizedWebhookEvent)
  secrets : String → Except WebhookError (List Bytes)
  tenants : String → String → String → Except WebhookError String
  now : Int
  library : Library

/-! ## The replay store -/

structure ReplayClaim where
  bodySha256 : String
  expiresAt : Int
  completed : Bool
deriving DecidableEq, Repr

/-- `InMemoryReplayStore._claims`. -/
abbrev ReplayStore := String → Option ReplayClaim

abbrev ReplayM := CallM WebhookError ReplayStore

namespace ReplayStore

/-- The store without its expired claims. -/
def purge (now : Int) (s : ReplayStore) : ReplayStore := fun key => (s key).filter fun c => decide (now < c.expiresAt)

def set (s : ReplayStore) (key : String) (c : ReplayClaim) : ReplayStore := fun k => if k = key then some c else s k

end ReplayStore

def claim (now : Int) (eventKey bodySha256 : String) (ttlSeconds : Int) : ReplayM ReplayDecision := do
  modify (ReplayStore.purge now)
  let claims ← get
  match claims eventKey with
  | some prior => return if prior.bodySha256 = bodySha256 then .exactReplay else .semanticConflict
  | none =>
    modify fun s => s.set eventKey { bodySha256 := bodySha256, expiresAt := now + ttlSeconds, completed := false }
    return .new

def isCompleted (eventKey bodySha256 : String) : ReplayM Bool := do
  let claims ← get
  return match claims eventKey with
    | some prior => prior.bodySha256 == bodySha256 && prior.completed
    | none => false

def complete (eventKey bodySha256 : String) : ReplayM PUnit := do
  let claims ← get
  match claims eventKey with
  | some prior =>
    if prior.bodySha256 ≠ bodySha256 then
      throw (.verification "webhook replay claim disappeared before completion")
    else modify fun s => s.set eventKey { prior with completed := true }
  | none => throw (.verification "webhook replay claim disappeared before completion")

/-! ## Standards -/

def isLowerHex (c : Char) : Bool := c.isDigit || ('a' ≤ c && c ≤ 'f')

/-- Lower-case hexadecimal digits of a length, not all of them zero. -/
def isHexId (n : Nat) (s : String) : Bool :=
  s.toList.length == n && s.toList.all isLowerHex && !s.toList.all (· == '0')

/-- `validate_traceparent`. -/
def traceparentOk : Option String → Bool
  | none => true
  | some value =>
    match split '-' value.toList with
    | [version, trace, parent, flags] =>
      version == "00" && isHexId 32 trace && isHexId 16 parent && flags.toList.length == 2 && flags.toList.all isLowerHex
    | _ => false

def isControl (c : Char) : Bool := c.toNat < 32 || c.toNat == 127

/-- `_TRACESTATE_KEY`. -/
def tracestateKeyOk (key : List Char) : Bool :=
  let part (s : List Char) (limit : Nat) : Bool :=
    match s with
    | first :: rest =>
      lowerOrDigit first && decide (rest.length ≤ limit) && rest.all fun c => lowerOrDigit c || "_*/-".toList.contains c
    | [] => false
  match partition '@' key with
  | (tenant, true, system) => part tenant 240 && part system 13
  | (whole, false, _) => part whole 255

def tracestateValueOk (value : List Char) : Bool :=
  !value.isEmpty && decide (value.length ≤ 256) && value.head? != some ' ' && value.getLast? != some ' ' &&
    !value.contains ',' && !value.contains '=' && !value.any isControl

/-- The loop of `validate_tracestate`, with the keys seen before. -/
def tracestateMembers (library : Library) (seen : List (List Char)) : List String → Except WebhookError Unit
  | [] => .ok ()
  | member :: rest =>
    match partition '=' (library.strip member).toList with
    | (_, false, _) => .error (.verification "tracestate member is missing '='")
    | (key, true, value) =>
      if !tracestateKeyOk key then .error (.verification "tracestate key is invalid")
      else if seen.contains key then .error (.verification "tracestate contains a duplicate key")
      else if !tracestateValueOk value then .error (.verification "tracestate value is invalid")
      else tracestateMembers library (key :: seen) rest

/-- `validate_tracestate`. -/
def validateTracestate (library : Library) : Option String → Except WebhookError Unit
  | none => .ok ()
  | some value =>
    if 512 < value.toList.length ∨ value.toList.any isControl then .error (.verification "tracestate is invalid")
    else
      let members := split ',' value.toList
      if 32 < members.length then .error (.verification "tracestate must contain 1 to 32 members")
      else tracestateMembers library [] members

/-- `_RFC3339_RE`. -/
def isRfc3339 (value : String) : Bool :=
  let hour (a b : Char) : Bool := (a == '0' || a == '1') && b.isDigit || a == '2' && '0' ≤ b && b ≤ '3'
  let sixty (a b : Char) : Bool := '0' ≤ a && a ≤ '5' && b.isDigit
  let offset (s : List Char) : Bool :=
    match s with
    | ['Z'] => true
    | [sign, a, b, ':', c, d] => (sign == '+' || sign == '-') && hour a b && sixty c d
    | _ => false
  match value.toList with
  | y1 :: y2 :: y3 :: y4 :: '-' :: m1 :: m2 :: '-' :: d1 :: d2 :: 'T' :: h1 :: h2 :: ':' :: n1 :: n2 :: ':' :: s1 :: s2 :: rest =>
    [y1, y2, y3, y4, m1, m2, d1, d2].all Char.isDigit && hour h1 h2 && sixty n1 n2 && sixty s1 s2 &&
      match rest with
      | '.' :: digit :: more => digit.isDigit && offset (more.dropWhile Char.isDigit)
      | _ => offset rest
  | _ => false

/-- `validate_rfc3339`. -/
def rfc3339Ok (library : Library) (value : String) : Bool :=
  isRfc3339 value &&
    library.fromisoformat
      (if value.toList.getLast? = some 'Z' then String.ofList (value.toList.dropLast ++ "+00:00".toList) else value)

def secretKeyNames : List String :=
  ["accesstoken", "apikey", "authorization", "clientsecret", "cookie", "credential", "credentials", "password", "passwd",
    "privatekey", "providertoken", "refreshtoken", "secret", "secretvalue", "session", "sessionid", "token"]

def normalizedKey (library : Library) (value : String) : String :=
  String.ofList ((library.lower value).toList.filter lowerOrDigit)

mutual

/-- `forbidden_paths(value, SECRET_KEY_NAMES, path)`. -/
def forbiddenPaths (library : Library) (path : String) : Json → List String
  | .obj members => forbiddenMembers library path members
  | .arr items => forbiddenItems library path 0 items
  | _ => []

def forbiddenMembers (library : Library) (path : String) : Obj → List String
  | [] => []
  | (key, child) :: rest =>
    (if secretKeyNames.contains (normalizedKey library key) then [path ++ "." ++ key] else []) ++
      forbiddenPaths library (path ++ "." ++ key) child ++ forbiddenMembers library path rest

def forbiddenItems (library : Library) (path : String) (index : Nat) : List Json → List String
  | [] => []
  | child :: rest =>
    forbiddenPaths library (path ++ "[" ++ toString index ++ "]") child ++ forbiddenItems library path (index + 1) rest

end

/-! ## Verification -/

/-- `_case_insensitive_headers`. -/
def caseInsensitiveHeaders (library : Library) (normalized : List (String × String)) :
    List (String × String) → Except WebhookError (List (String × String))
  | [] => .ok normalized
  | (key, value) :: rest =>
    if (normalized.lookup (library.lower key)).isSome then .error (.verification ("duplicate webhook header: " ++ key))
    else caseInsensitiveHeaders library (normalized ++ [(library.lower key, value)]) rest

/-- `bytes.fromhex` succeeds: pairs of digits, blanks between them. -/
def fromhex : List Char → Bool
  | [] => true
  | c :: rest =>
    if c.isWhitespace then fromhex rest
    else
      match rest with
      | d :: rest => [c, d].all (fun x => isLowerHex x || ('A' ≤ x && x ≤ 'F')) && fromhex rest
      | [] => false

/-- `_signature_hex`: the version and the digest. -/
def signatureHex (library : Library) (raw : String) : Except WebhookError (String × String) := do
  let value := library.strip raw
  let value ← match partition '=' value.toList with
    | (_, false, _) => .ok value
    | (version, true, candidate) =>
      if String.ofList version ≠ "v1" then .error (.verification "unsupported webhook signature version")
      else .ok (String.ofList candidate)
  if value.toList.length ≠ 64 then .error (.verification "signature must be 32-byte SHA-256 hex")
  else if !fromhex value.toList then .error (.verification "signature is not hexadecimal")
  else .ok ("v1", library.lower value)

/-- `_secret_candidates`. -/
def secretCandidates (env : Environment) (reference : String) : Except WebhookError (List Bytes) := do
  let values ← env.secrets reference
  if values.isEmpty then .error (.verification ("secret reference is empty: " ++ reference))
  else if values.any fun value => decide (value.length < 32) then
    .error (.verification ("secret reference is invalid: " ++ reference))
  else .ok values

/-- `_validate_content_type`. -/
def validateContentType (library : Library) (headers : List (String × String)) : Except WebhookError Unit :=
  match headers.lookup "content-type" with
  | none => .ok ()
  | some raw =>
    let mediaType := library.lower (library.strip (String.ofList (partition ';' raw.toList).1))
    if mediaType = "application/json" ∨ mediaType = "application/cloudevents+json" ∨
        "+json".toList <:+ mediaType.toList then .ok ()
    else .error (.verification "webhook content type is not a supported JSON media type")

/-- `headers[name]`. -/
def requiredHeader (headers : List (String × String)) (name : String) : Except WebhookError String :=
  match headers.lookup name with
  | some value => .ok value
  | none => .error (.verification ("required webhook header is missing: " ++ name))

/-- `_EVENT_ID` and `_EXTERNAL_REFERENCE`, which also allows an at sign. -/
def isReference (extra : List Char) (s : String) : Bool :=
  match s.toList with
  | first :: rest =>
    first.isAlphanum && decide (rest.length ≤ 255) && rest.all fun c => c.isAlphanum || ("._:/-".toList ++ extra).contains c
  | [] => false

structure Delivery where
  env : Environment
  connectorId : String
  endpointKey : String
  request : WebhookRequest

namespace Delivery

/-- `self._registry.get(connector_id)`. -/
def registered (d : Delivery) : Except WebhookError RegisteredConnector :=
  match d.env.registry.lookup d.connectorId with
  | some record => .ok record
  | none => .error (.connectorNotFound d.connectorId)

/-- `verify` up to the replay claim: the request as it will be verified, and how long its claim is kept. -/
def authenticate (d : Delivery) : Except WebhookError (VerifiedWebhook × Int) := do
  let library := d.env.library
  let record ← d.registered
  if record.state ≠ .active then
    .error (.connectorState ("connector " ++ d.connectorId ++ " cannot accept webhooks in " ++ record.state.value))
  else
    match record.manifest.webhookPolicies.find? fun policy => policy.endpointKey == d.endpointKey with
    | none => .error (.verification ("unknown webhook endpoint: " ++ d.connectorId ++ "/" ++ d.endpointKey))
    | some policy =>
      if policy.maximumBodyBytes < d.request.body.length then
        .error (.verification "webhook body exceeds policy limit")
      else do
        let headers ← caseInsensitiveHeaders library [] d.request.headers
        let _ ← validateContentType library headers
        let signatureRaw ← requiredHeader headers (library.lower policy.signatureHeader)
        let (signatureVersion, signature) ← signatureHex library signatureRaw
        let timestampRaw ← requiredHeader headers (library.lower policy.timestampHeader)
        let eventIdRaw ← requiredHeader headers (library.lower policy.eventIdHeader)
        let eventId := library.strip eventIdRaw
        match library.int timestampRaw with
        | none => .error (.verification "webhook timestamp must be Unix epoch seconds")
        | some timestamp =>
          if policy.maximumClockSkewSeconds < |d.request.receivedAtEpoch - timestamp| then
            .error (.verification "webhook timestamp is outside policy")
          else if !isReference [] eventId then .error (.verification "webhook event ID is invalid")
          else do
            let signed := (toString timestamp ++ ".").toList.map (fun c => UInt8.ofNat c.toNat) ++ d.request.body
            let secrets ← secretCandidates d.env policy.secretReference
            if !(secrets.map fun secret => library.hmacSha256 secret signed).contains signature then
              .error (.verification "webhook signature is invalid")
            else
              return ({ connectorId := d.connectorId, endpointKey := d.endpointKey, eventId := eventId
                        bodySha256 := library.sha256 d.request.body, timestampEpoch := timestamp
                        replayKey := d.connectorId ++ ":" ++ d.endpointKey ++ ":" ++ eventId
                        signatureVersion := signatureVersion, replayDecision := .new, body := d.request.body
                        headers := headers }, policy.replayRetentionSeconds)

/-- `verify`. -/
def verify (d : Delivery) : ReplayM VerifiedWebhook := do
  let (verified, ttl) ← d.authenticate
  let decision ← claim d.env.now verified.replayKey verified.bodySha256 ttl
  if decision = .semanticConflict then
    throw (.verification "webhook event ID was reused with a different body")
  else return verified.decided decision

/-- The record and the adapter of the connector. -/
def connector (d : Delivery) :
    Except WebhookError (RegisteredConnector × (VerifiedWebhook → Except WebhookError NormalizedWebhookEvent)) := do
  let record ← d.registered
  match d.env.adapter d.connectorId with
  | none => .error (.connectorNotFound ("no trusted adapter factory for " ++ d.connectorId))
  | some adapter => return (record, adapter)

def require (condition : Bool) (message : String) : Except WebhookError Unit :=
  if condition then .ok () else .error (.verification message)

/-- The part of `process` from `normalize_webhook` to the envelope. The URN of a registered connector is always a URI
reference. -/
def normalize (d : Delivery) (record : RegisteredConnector)
    (adapter : VerifiedWebhook → Except WebhookError NormalizedWebhookEvent) (verified : VerifiedWebhook) :
    Except WebhookError CloudEventEnvelope := do
  let library := d.env.library
  let event ← adapter verified
  let _ ← require (event.eventId == verified.eventId) "adapter changed the verified provider event ID"
  let _ ← require (record.manifest.eventPolicies.any fun policy =>
      policy.eventType == event.eventType && policy.direction == "inbound")
    ("adapter emitted an undeclared inbound event type: " ++ event.eventType)
  let _ ← require (isReference ['@'] event.externalAccountReference) "adapter external account reference is invalid"
  let _ ← require (event.correlationId != "" && decide (event.correlationId.toList.length ≤ 180))
    "normalized correlation ID is invalid"
  let _ ← require (event.causationId != "" && decide (event.causationId.toList.length ≤ 180))
    "normalized causation ID is invalid"
  let _ ← require (rfc3339Ok library event.occurredAt) "timestamp is not RFC 3339"
  let _ ← require (traceparentOk event.traceparent) "traceparent is not valid W3C version 00"
  let _ ← validateTracestate library event.tracestate
  let secretPaths := forbiddenPaths library "$" (.obj event.payload)
  let _ ← require secretPaths.isEmpty
    ("normalized event payload contains forbidden secret fields: " ++ ", ".intercalate secretPaths)
  let tenantId ← d.env.tenants d.connectorId d.endpointKey event.externalAccountReference
  return {
    specversion := "1.0"
    id := event.eventId
    source := "urn:codestra:connector:" ++ d.connectorId
    type := event.eventType
    time := event.occurredAt
    subject := some (match event.subject with
      | some subject => if subject = "" then event.externalAccountReference else subject
      | none => event.externalAccountReference)
    datacontenttype := "application/json"
    dataschema := some ("https://contracts.codestra.co/events/" ++ event.eventType ++ ".schema.json")
    data := event.payload
    extensions :=
      [("tenantid", .str tenantId), ("connectorid", .str d.connectorId), ("endpointkey", .str d.endpointKey),
        ("correlationid", .str event.correlationId), ("causationid", .str event.causationId)] ++
        (event.traceparent.map fun value => ("traceparent", .str value)).toList ++
        (event.tracestate.map fun value => ("tracestate", .str value)).toList }

/-- The end of `process`: the event, and then its completion. -/
def emit (d : Delivery) (record : RegisteredConnector)
    (adapter : VerifiedWebhook → Except WebhookError NormalizedWebhookEvent) (verified : VerifiedWebhook) :
    ReplayM WebhookProcessResult := do
  let cloudEvent ← d.normalize record adapter verified
  complete verified.replayKey verified.bodySha256
  return { decision := verified.replayDecision, verified := verified, cloudEvent := some cloudEvent }

/-- `process`. -/
def process (d : Delivery) : ReplayM WebhookProcessResult := do
  let verified ← d.verify
  let (record, adapter) ← d.connector
  let completed ←
    if verified.replayDecision = .exactReplay then isCompleted verified.replayKey verified.bodySha256 else pure false
  if completed then
    return { decision := verified.replayDecision, verified := verified, cloudEvent := none }
  else d.emit record adapter verified

end Delivery

end Middleware.Connector

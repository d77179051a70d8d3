/-
The invalid-event quarantine: its records and tables (migration 0012), the state machine and the payload functions of
`app/core/quarantine.py`, `validate_event` of `app/api/v1/publisher.py`, the reviewer endpoints of
`app/api/v1/quarantine.py` and `cleanup_expired` of `app/workers/quarantine.py`.

An endpoint locks its record and is one transaction: it answers or raises, and leaves the tables it committed. A refused
policy is committed before it raises. Counters and gauges are left out.

`Library` is what the endpoints take from libraries and settings: AES-GCM, the keyed hashes, `json.loads`, `UUID`,
`datetime.fromisoformat` and the time zone database.
-/
import Middleware.Data.Json
import Middleware.Lib.Updates
import Middleware.Policy.Engine

namespace Middleware.Quarantine

open Ledger Lib Policy

abbrev Bytes := List UInt8

/-- A business unit; `_bounded` never leaves an empty text. -/
abbrev BusinessUnit := { s : String // s ≠ "" }

/-! ## States -/

inductive Status where
  | pendingReview
  | underReview
  | correctable
  | replayApproved
  | replaying
  | replayed
  | resolvedNoReplay
  | expired
  | rejected
deriving DecidableEq, Repr

namespace Status

def value : Status → String
  | pendingReview => "PENDING_REVIEW"
  | underReview => "UNDER_REVIEW"
  | correctable => "CORRECTABLE"
  | replayApproved => "REPLAY_APPROVED"
  | replaying => "REPLAYING"
  | replayed => "REPLAYED"
  | resolvedNoReplay => "RESOLVED_NO_REPLAY"
  | expired => "EXPIRED"
  | rejected => "REJECTED"

/-- `TRANSITIONS`. -/
def transitions : Status → List Status
  | pendingReview => [underReview, expired, rejected]
  | underReview => [correctable, replayApproved, resolvedNoReplay, rejected]
  | correctable => [replayApproved, resolvedNoReplay, rejected]
  | replayApproved => [replaying, resolvedNoReplay]
  | replaying => [replayed, replayApproved, rejected]
  | replayed => []
  | resolvedNoReplay => []
  | expired => []
  | rejected => []

/-- `transition`, the target a text. -/
def transition (current : Status) (target : String) : Option Status :=
  current.transitions.find? fun s => s.value == target

end Status

/-! ## Rows -/

/-- The columns of `invalid_event_quarantine` that `_view` returns. -/
structure View where
  id : Uuid
  serverCorrelationId : String
  clientCorrelationId : Option String := none
  claimedSource : Option String := none
  claimedPublisherIdentity : Option String := none
  authenticatedPublisherId : String
  authenticationState : String := "VERIFIED"
  authenticationKeyId : Option String := none
  originalSignatureVerification : String := "VERIFIED"
  payloadFingerprint : String
  encryptionKeyVersion : Option String := none
  sanitizedPreview : Json
  reasonCode : String
  businessUnit : Option BusinessUnit := none
  status : Status := .pendingReview
  occurrenceCount : Nat := 1
  replayCount : Nat := 0
  legalHold : Bool := false
  recordVersion : Int := 1
  receivedAt : Time
  retentionDeadline : Time
  replayedEventId : Option Nat := none

/-- A row of `invalid_event_quarantine`. -/
structure Record extends View where
  encryptedPayload : Option Bytes := none
  encryptionNonce : Option Bytes := none
  reviewOwner : Option String := none
  reviewedAt : Option Time := none
  resolvedBy : Option String := none
  resolvedAt : Option Time := none
  retentionPolicyVersion : String

/-- A row of `quarantine_correction`. -/
structure Correction where
  id : Uuid
  quarantineId : Uuid
  correctionVersion : Nat
  correctionReason : String
  reviewer : String
  derivedCorrelationId : String
  payloadFingerprint : String
  encryptedPayload : Bytes
  encryptionNonce : Bytes
  encryptionKeyVersion : String
  sanitizedDiff : Obj

/-- A row of `integration_event`, as reprocessing writes it. -/
structure IntegrationEvent where
  id : Nat
  idempotencyKey : String
  eventType : Json
  schemaVersion : String
  originalEventId : String
  entityKey : String
  sourceSystem : String
  correlationId : String
  payloadJson : Obj
  payloadHash : String
  state : String

/-- A row of `integration_delivery`. -/
structure IntegrationDelivery where
  eventId : Nat
  target : String
  status : String
  maxAttempts : Nat

/-- A row of `audit_event`. -/
structure AuditEvent where
  action : String
  subject : String
  correlationId : String
  decision : String
  redactedPayload : Obj

/-- A row of `policy_decision`. -/
structure PolicyDecision where
  id : Uuid
  policy : String
  allowed : Bool
  reason : String
  correlationId : String

/-- `invalid_event_quarantine` under its primary key. -/
structure Records where
  rows : List Record
  ids : (rows.map (·.id)).Nodup

namespace Records

def row (t : Records) (id : Uuid) : Option Record := rowAt (·.id) id t.rows

def write (t : Records) (selected : Record → Bool) (f : Record → Record) (hf : ∀ r, (f r).id = r.id) : Records where
  rows := t.rows.map fun r => if selected r then f r else r
  ids := by
    have h : (t.rows.map fun r => if selected r then f r else r).map (·.id) = t.rows.map (·.id) := by
      rw [List.map_map]
      refine List.map_congr_left fun r _ => ?_
      simp only [Function.comp]
      split
      · exact hf r
      · rfl
    rw [h]
    exact t.ids

variable {t : Records} {r : Record}

theorem row_of_mem (h : r ∈ t.rows) : t.row r.id = some r := rowAt_of_mem t.ids h

theorem mem_of_row {id : Uuid} (h : t.row id = some r) : r ∈ t.rows := rowAt_mem h

theorem row_id {id : Uuid} (h : t.row id = some r) : r.id = id :=
  @key_of_rowAt Record Uuid _ (fun r => r.id) id t.rows r h

/-- `INSERT`; a taken id fails. -/
def insert (t : Records) (r : Record) : Records :=
  if h : t.row r.id = none then ⟨t.rows ++ [r], nodup_keys_append t.ids h⟩ else t

end Records

structure Db where
  records : Records := ⟨[], List.nodup_nil⟩
  corrections : List Correction := []
  events : List IntegrationEvent := []
  deliveries : List IntegrationDelivery := []
  audit : List AuditEvent := []
  decisions : List PolicyDecision := []
  nextEventId : Nat := 1

/-! ## Libraries -/

structure Library where
  -- `hmac.new(settings.quarantine_reviewer_secret, canonical, sha256).hexdigest()`
  reviewerSignature : String → String
  -- AES-GCM under the configured key: nonce, data and associated data
  encrypt : Bytes → Bytes → String → Bytes
  decrypt : Bytes → Bytes → String → Option Bytes
  fingerprint : Bytes → String
  loads : Bytes → Option Json
  isUuid : String → Bool
  fromisoformat : String → Option Datetime
  zone : ZoneInfo
  encryptionKeyVersion : String
  requestMaxBytes : Nat
  outboxMaxAttempts : Nat

structure HttpException where
  statusCode : Nat
  detail : String
deriving DecidableEq, Repr

/-! ## Authorization -/

/-- What a reviewer's request carries: the headers and their keyed signature. -/
structure Reviewer where
  scopes : String
  reviewer : String
  authorizedUnits : String
  authorizationContext : String

/-- The characters `str.split()` splits at. -/
def isSpace (c : Char) : Bool :=
  [9, 10, 11, 12, 13, 28, 29, 30, 31, 32, 133, 160, 5760, 8232, 8233, 8239, 8287, 12288].contains c.toNat ||
    decide (8192 ≤ c.toNat ∧ c.toNat ≤ 8202)

/-- The set parts of a text between separators. -/
def parts (separator : Char → Bool) (s : String) : List String :=
  ((s.toList.splitOnP separator).map String.ofList).filter (· ≠ "")

/-- `str.strip()`. -/
def strip (s : String) : String := String.ofList ((s.toList.dropWhile isSpace).rdropWhile isSpace)

def Reviewer.granted (c : Reviewer) : List String := parts isSpace c.scopes

def Reviewer.units (c : Reviewer) : List String := parts (· == ',') c.authorizedUnits

def Reviewer.canonical (c : Reviewer) : String := c.reviewer ++ "\n" ++ c.scopes ++ "\n" ++ c.authorizedUnits

/-- The checks of `_authorize` before the unit. -/
def authorizeScope (lib : Library) (required : String) (c : Reviewer) : Except HttpException Unit :=
  if lib.reviewerSignature c.canonical ≠ c.authorizationContext then
    .error ⟨403, "quarantine authorization context denied"⟩
  else if !c.granted.contains required || c.reviewer.isEmpty || decide (128 < c.reviewer.length) then
    .error ⟨403, "quarantine access denied"⟩
  else .ok ()

/-- `_authorize`; an absent or empty unit is not checked. -/
def authorize (lib : Library) (required : String) (c : Reviewer) (requestedUnit : Option String) :
    Except HttpException Unit := do
  authorizeScope lib required c
  match requestedUnit with
  | none => return ()
  | some unit => if unit ≠ "" ∧ !c.units.contains unit then throw ⟨403, "business-unit access denied"⟩ else return ()

/-! ## Payloads -/

/-- `PREVIEW_KEYS`. -/
def previewKeys : List String :=
  ["schema_version", "event_id", "event_type", "source_system", "client_instance", "business_unit", "campaign",
    "correlation_id"]

/-- `str(value)`; a list or a mapping keeps its canonical text. -/
def text : Json → String
  | .null => "None"
  | .bool b => if b then "True" else "False"
  | .int n => toString n
  | .float r => r
  | .str s => s
  | v => dumps true v

/-- `type(value).__name__`. -/
def typeName : Json → String
  | .null => "NoneType"
  | .bool _ => "bool"
  | .int _ => "int"
  | .float _ => "float"
  | .str _ => "str"
  | .arr _ => "list"
  | .obj _ => "dict"

/-- `sanitized_preview`. -/
def sanitizedPreview (lib : Library) (raw : Bytes) : Obj :=
  match lib.loads raw with
  | none => [("format", .str "invalid-json"), ("byte_length", .int raw.length)]
  | some (.obj value) =>
    [("format", .str "json"), ("byte_length", .int raw.length)] ++ previewKeys.filterMap fun key =>
      match value.lookup key with
      | none | some .null => none
      | some item => some (key, .str (String.ofList ((text item).toList.take 128)))
  | some value => [("format", .str "json"), ("type", .str (typeName value)), ("byte_length", .int raw.length)]

structure EncryptedPayload where
  ciphertext : Bytes
  nonce : Bytes
  keyVersion : String

/-- `encrypt_payload` with the nonce it drew. -/
def encryptPayload (lib : Library) (raw nonce : Bytes) (digest : String) : EncryptedPayload :=
  ⟨lib.encrypt nonce raw digest, nonce, lib.encryptionKeyVersion⟩

/-- `decrypt_payload`. -/
def decryptPayload (lib : Library) (value : EncryptedPayload) (digest : String) : Option Bytes :=
  match lib.decrypt value.nonce value.ciphertext digest with
  | none => none
  | some raw => if lib.fingerprint raw = digest then some raw else none

/-- The fields `validate_event` requires. -/
def requiredFields : List String :=
  ["schema_version", "event_id", "event_type", "source_system", "created_at", "occurred_at", "boot_session_id",
    "sequence", "call_uniqueid", "correlation_id", "business_unit", "campaign", "agent_id", "customer_reference",
    "payload", "policy_decision", "recording_reference", "delivery", "privacy", "idempotency"]

/-- `value == False`. -/
def isFalse : Json → Bool
  | .bool b => !b
  | .int n => n == 0
  | .float r => r == "0.0" || r == "-0.0"
  | _ => false

/-- `{"classification": "synthetic", "contains_customer_data": False}`. -/
def syntheticPrivacy : Json → Bool
  | .obj privacy =>
    privacy.length == 2 && (match privacy.lookup "classification" with | some (.str "synthetic") => true | _ => false) &&
      (privacy.lookup "contains_customer_data").any isFalse
  | _ => false

/-- `value["delivery"]["expires_at"]`, read as an aware instant. -/
def expiresAt (lib : Library) (value : Obj) : Option Time :=
  match value.lookup "delivery" with
  | some (.obj delivery) =>
    match delivery.lookup "expires_at" with
    | some (.str s) =>
      match lib.fromisoformat (s.replace "Z" "+00:00") with
      | some ⟨t, true⟩ => some t
      | _ => none
    | _ => none
  | _ => none

/-- `validate_event`: the event id of a value it accepts. -/
def validateEvent (lib : Library) (now : Time) (value : Obj) : Option String :=
  if !(value.all (fun m => requiredFields.contains m.1) && requiredFields.all fun k => (value.lookup k).isSome) then none
  else
    match value.lookup "schema_version", value.lookup "event_id", value.lookup "event_type", value.lookup "campaign" with
    | some (.str "2.0"), some (.str eventId), some (.str "synthetic.publisher_canary"), some (.str "TEST_SYN") =>
      if lib.isUuid eventId && (value.lookup "privacy").any syntheticPrivacy &&
          (expiresAt lib value).any (fun t => decide (now < t)) then some eventId
      else none
    | _, _, _, _ => none

/-! ## Lists and reviews -/

inductive Response where
  | items (views : List View)
  | view (v : View)
  | correction (id : Uuid) (version : Nat) (derivedCorrelationId payloadFingerprint : String) (sanitizedDiff : Obj)
  | reprocessed (eventId : Option Nat) (duplicate : Bool)

abbrev Result := Except HttpException Response × Db

/-- `ORDER BY received_at DESC`. -/
def newestFirst (a b : Record) : Prop := b.receivedAt ≤ a.receivedAt

instance (a b : Record) : Decidable (newestFirst a b) := inferInstanceAs (Decidable (_ ≤ _))

/-- The rows `list_records` selects; without a unit, those of every unit. -/
def listed (businessUnit : Option String) (db : Db) : List Record :=
  let rows := match businessUnit with
    | none | some "" => db.records.rows
    | some unit => db.records.rows.filter fun r => r.businessUnit.any fun u : BusinessUnit => u.val == unit
  (rows.insertionSort newestFirst).take 100

def listRecords (lib : Library) (c : Reviewer) (businessUnit : Option String) (db : Db) : Result :=
  match authorize lib "quarantine:read" c businessUnit with
  | .error e => (.error e, db)
  | .ok () => (.ok (.items ((listed businessUnit db).map (·.toView))), db)

/-- An endpoint on one record: found, and authorized for its unit. -/
def onRecord (lib : Library) (required : String) (c : Reviewer) (id : Uuid) (db : Db) (act : Record → Result) : Result :=
  match db.records.row id with
  | none => (.error ⟨404, "quarantine record not found"⟩, db)
  | some record =>
    match authorize lib required c (record.businessUnit.map (·.1)) with
    | .error e => (.error e, db)
    | .ok () => act record

def detail (lib : Library) (c : Reviewer) (id : Uuid) (db : Db) : Result :=
  onRecord lib "quarantine:read" c id db fun record => (.ok (.view record.toView), db)

/-- The write of `review`. -/
def Record.reviewed (record : Record) (target : Status) (reviewer : String) (now : Time) : Record :=
  let resolved := target = .resolvedNoReplay ∨ target = .rejected
  { record with
    status := target, reviewOwner := some reviewer, reviewedAt := some now, recordVersion := record.recordVersion + 1
    resolvedBy := if resolved then some reviewer else record.resolvedBy
    resolvedAt := if resolved then some now else record.resolvedAt }

def Db.writeRecord (db : Db) (id : Uuid) (f : Record → Record) (hf : ∀ r, (f r).id = r.id) : Db :=
  { db with records := db.records.write (fun r => decide (r.id = id)) f hf }

def review (lib : Library) (c : Reviewer) (id : Uuid) (targetState : String) (recordVersion : Int) (now : Time) (db : Db) :
    Result :=
  onRecord lib "quarantine:review" c id db fun record =>
    if record.recordVersion ≠ recordVersion then (.error ⟨409, "record version conflict"⟩, db)
    else
      match record.status.transition targetState with
      | none =>
        (.error ⟨409, "invalid quarantine transition: " ++ record.status.value ++ " -> " ++ targetState⟩, db)
      | some target =>
        let db := db.writeRecord id (·.reviewed target c.reviewer now) fun _ => rfl
        (.ok (.view (record.reviewed target c.reviewer now).toView),
          { db with
            audit := db.audit ++ [⟨"quarantine.review", id, record.serverCorrelationId, targetState,
              [("reviewer", .str c.reviewer), ("record_version", .int (recordVersion + 1))]⟩] })

/-! ## Corrections -/

/-- `ORDER BY correction_version DESC LIMIT 1`. -/
def latestCorrection (db : Db) (id : Uuid) : Option Correction :=
  ((db.corrections.filter fun x => x.quarantineId == id).insertionSort
    fun a b => b.correctionVersion ≤ a.correctionVersion).head?

/-- What a request draws: ids and a nonce. -/
structure Draws where
  id : Uuid
  correlationId : String
  eventCorrelationId : String := ""
  nonce : Bytes := []

def Record.corrected (record : Record) : Record := { record with recordVersion := record.recordVersion + 1 }

def createCorrection (lib : Library) (c : Reviewer) (id : Uuid) (correctedPayload : Obj) (correctionReason : String)
    (d : Draws) (db : Db) : Result :=
  onRecord lib "quarantine:review" c id db fun record =>
    if record.status ≠ .correctable then (.error ⟨409, "record is not correctable"⟩, db)
    else if (strip correctionReason).isEmpty || decide (512 < correctionReason.length) then
      (.error ⟨422, "correction reason is invalid"⟩, db)
    else
      let raw := (dumps true (.obj correctedPayload)).toUTF8.toList
      if lib.requestMaxBytes < raw.length then (.error ⟨413, "corrected payload too large"⟩, db)
      else
        let digest := lib.fingerprint raw
        let encrypted := encryptPayload lib raw d.nonce digest
        let version := ((latestCorrection db id).map (·.correctionVersion)).getD 0 + 1
        let reason := strip correctionReason
        let diff : Obj := [("before", record.sanitizedPreview), ("after", .obj (sanitizedPreview lib raw))]
        let correction : Correction :=
          { id := d.id, quarantineId := id, correctionVersion := version, correctionReason := reason,
            reviewer := c.reviewer, derivedCorrelationId := d.correlationId, payloadFingerprint := digest,
            encryptedPayload := encrypted.ciphertext, encryptionNonce := encrypted.nonce,
            encryptionKeyVersion := encrypted.keyVersion, sanitizedDiff := diff }
        let db := db.writeRecord id Record.corrected fun _ => rfl
        (.ok (.correction d.id version d.correlationId digest diff),
          { db with
            corrections := db.corrections ++ [correction]
            audit := db.audit ++ [⟨"quarantine.correction.created", id, d.correlationId, "CORRECTED",
              [("reviewer", .str c.reviewer), ("correction_version", .int version),
                ("correction_reason", .str reason), ("sanitized_diff", .obj diff)]⟩] })

/-! ## Reprocessing -/

/-- The payload that is replayed: the latest correction's, or else the record's. -/
def replayPayload (db : Db) (record : Record) : Option (EncryptedPayload × String) :=
  match latestCorrection db record.id with
  | some correction =>
    some (⟨correction.encryptedPayload, correction.encryptionNonce, correction.encryptionKeyVersion⟩,
      correction.payloadFingerprint)
  | none =>
    match record.encryptedPayload, record.encryptionNonce, record.encryptionKeyVersion with
    | some ciphertext, some nonce, some keyVersion => some (⟨ciphertext, nonce, keyVersion⟩, record.payloadFingerprint)
    | _, _, _ => none

/-- The text of a field that is one; pydantic refuses any other value. -/
def textField (value : Obj) (key : String) : Option (Option String) :=
  match value.lookup key with
  | some .null => some none
  | some (.str s) => some (some s)
  | _ => none

/-- The `PolicyRequest` of a validated event; none where pydantic refuses it. -/
def replayPolicyRequest (value : Obj) (eventId businessUnit correlationId : String) (now : Time) : Option PolicyRequest := do
  let unit ← textField value "business_unit"
  -- `allowed_agents=[value["agent_id"]]`: a missing agent is no text
  let agent ← (← textField value "agent_id")
  let request : PolicyRequest :=
    { correlationId := correlationId, action := .sync, subject := if agent = "" then "publisher" else agent,
      resource := eventId, evaluatedAt := some ⟨now, true⟩, consentAllowed := some true,
      consentObservedAt := some ⟨now, true⟩, dncSuppressed := some false, dncObservedAt := some ⟨now, true⟩,
      customerTimezone := some "America/Santo_Domingo", jurisdiction := some "DO", callingWindowStart := some 0,
      callingWindowEnd := some (hours 24 - seconds 1), attempts := some 0, maxAttempts := some 1,
      minimumSpacingSeconds := some 0, channelEligible := some true, businessUnit := unit,
      allowedBusinessUnits := some [businessUnit], campaign := some "TEST_SYN", allowedCampaigns := some ["TEST_SYN"],
      agent := some agent, allowedAgents := some [agent], callbackAllowed := some false, transferAllowed := some false,
      recordingRequired := some false, disclosurePresent := some true, emergencyKillSwitch := some false,
      shadowMode := false }
  if request.valid then some request else none

/-- What reprocessing decides on before it writes. -/
structure Replay where
  value : Obj
  eventId : String
  payloadHash : String
  policy : PolicyResult

/-- Decrypt, validate and evaluate the payload; none where any of it raises. -/
def prepareReplay (lib : Library) (db : Db) (record : Record) (businessUnit correlationId : String) (now : Time) :
    Option Replay := do
  let (encrypted, digest) ← replayPayload db record
  let raw ← decryptPayload lib encrypted digest
  match lib.loads raw with
  | some (.obj value) =>
    let eventId ← validateEvent lib now value
    let request ← replayPolicyRequest value eventId businessUnit correlationId now
    match evaluate lib.zone now request with
    | .ok policy => some ⟨value, eventId, digest, policy⟩
    | .error _ => none
  | _ => none

def policyVersion : String := "2026-07-26.1"

def Record.denied (record : Record) (reviewer : String) (now : Time) : Record :=
  { record with
    status := .rejected, resolvedBy := some reviewer, resolvedAt := some now, recordVersion := record.recordVersion + 1 }

def Record.replayedAs (record : Record) (eventId : Nat) (reviewer : String) (now : Time) : Record :=
  { record with
    status := .replayed, replayedEventId := some eventId, replayCount := record.replayCount + 1,
    recordVersion := record.recordVersion + 1, resolvedBy := some reviewer, resolvedAt := some now }

def newEvent (id : Nat) (record : Record) (replay : Replay) (correlationId : String) : IntegrationEvent :=
  { id := id, idempotencyKey := "quarantine:" ++ record.id, eventType := .str "synthetic.publisher_canary",
    schemaVersion := "2.0", originalEventId := replay.eventId, entityKey := "synthetic:publisher-canary",
    sourceSystem := "authorized-reprocessing", correlationId := correlationId, payloadJson := replay.value,
    payloadHash := replay.payloadHash, state := "accepted" }

/-- The event with the replayed id: the one that is there, or a new one with its deliveries. -/
def ensureEvent (lib : Library) (record : Record) (replay : Replay) (correlationId : String) (db : Db) :
    IntegrationEvent × Bool × Db :=
  match db.events.find? fun e => decide (e.originalEventId = replay.eventId) with
  | some existing => (existing, true, db)
  | none =>
    let incoming := newEvent db.nextEventId record replay correlationId
    (incoming, false,
      { db with
        events := db.events ++ [incoming], nextEventId := db.nextEventId + 1
        deliveries := db.deliveries ++
          ["odoo", "n8n"].map fun target => ⟨incoming.id, target, "disabled", lib.outboxMaxAttempts⟩ })

/-- The tables after a decision: it is recorded in any case. -/
def Db.decided (db : Db) (decisionId : Uuid) (policy : PolicyResult) : Db :=
  { db with
    decisions := db.decisions ++
      [⟨decisionId, policyVersion, policy.allow, String.intercalate "," policy.reasonCodes, policy.correlationId⟩] }

/-- `reprocess` of a record it is authorized for, with its unit. -/
def replayRecord (lib : Library) (c : Reviewer) (id : Uuid) (d : Draws) (now : Time) (db : Db) (record : Record)
    (unit : BusinessUnit) : Result :=
  if record.status = .replayed then (.ok (.reprocessed record.replayedEventId true), db)
  else if record.status ≠ .replayApproved ∨ record.authenticationState ≠ "VERIFIED" ∨
      record.originalSignatureVerification ≠ "VERIFIED" then
    (.error ⟨409, "record is not replay eligible"⟩, db)
  else if record.encryptedPayload.all (·.isEmpty) || record.encryptionNonce.all (·.isEmpty) ||
      record.encryptionKeyVersion.all (·.isEmpty) then
    (.error ⟨409, "immutable payload unavailable"⟩, db)
  else
    match prepareReplay lib db record unit.1 d.correlationId now with
    | none => (.error ⟨409, "authorized reprocessing failed"⟩, db)
    | some replay =>
      let db := db.decided d.id replay.policy
      if !replay.policy.allow then
        let db := db.writeRecord id (·.denied c.reviewer now) fun _ => rfl
        (.error ⟨403, "current policy denied reprocessing"⟩,
          { db with
            audit := db.audit ++ [⟨"quarantine.authorized_reprocessing", id, record.serverCorrelationId,
              "POLICY_DENIED", [("reviewer", .str c.reviewer), ("policy_decision_id", .str d.id),
                ("reason_codes", .arr (replay.policy.reasonCodes.map .str))]⟩] })
      else
        let (incoming, existing, db) := ensureEvent lib record replay d.eventCorrelationId db
        let db := db.writeRecord id (·.replayedAs incoming.id c.reviewer now) fun _ => rfl
        (.ok (.reprocessed (some incoming.id) existing),
          { db with
            audit := db.audit ++ [⟨"quarantine.authorized_reprocessing", id, record.serverCorrelationId, "REPLAYED",
              [("reviewer", .str c.reviewer), ("canonical_event_id", .int incoming.id),
                ("original_timestamp_freshness_reused", .bool false),
                ("correction_id", ((latestCorrection db id).map fun x => Json.str x.id).getD .null)]⟩] })

def reprocess (lib : Library) (c : Reviewer) (id : Uuid) (d : Draws) (now : Time) (db : Db) : Result :=
  onRecord lib "quarantine:replay" c id db fun record =>
    match record.businessUnit with
    | none => (.error ⟨409, "quarantine business unit unavailable"⟩, db)
    | some unit => replayRecord lib c id d now db record unit

/-! ## Retention -/

/-- The statuses `cleanup_expired` selects. -/
def Status.cleanable (s : Status) : Bool := [Status.pendingReview, .resolvedNoReplay, .rejected].contains s

def Record.due (record : Record) (now : Time) : Bool :=
  !record.legalHold && decide (record.retentionDeadline ≤ now) && record.status.cleanable

/-- `ORDER BY retention_deadline`. -/
def dueFirst (a b : Record) : Prop := a.retentionDeadline ≤ b.retentionDeadline

instance (a b : Record) : Decidable (dueFirst a b) := inferInstanceAs (Decidable (_ ≤ _))

/-- The rows a pass of `cleanup_expired` selects. -/
def expiring (limit : Nat) (now : Time) (t : Records) : List Record :=
  ((t.rows.filter (·.due now)).insertionSort dueFirst).take limit

def Record.cleaned (record : Record) : Record :=
  { record with
    encryptedPayload := none, encryptionNonce := none, encryptionKeyVersion := none
    status := if record.status = .pendingReview then .expired else record.status
    recordVersion := record.recordVersion + 1 }

def destroyedAudit (record : Record) : AuditEvent :=
  ⟨"quarantine.encrypted_payload_destroyed", record.id, record.serverCorrelationId, "EXPIRED",
    [("retention_policy_version", .str record.retentionPolicyVersion)]⟩

def cleanupExpired (limit : Nat) (now : Time) (db : Db) : Nat × Db :=
  let selected := expiring limit now db.records
  (selected.length,
    { db with
      records := db.records.write (fun r => (selected.map (·.id)).contains r.id) Record.cleaned fun _ => rfl
      audit := db.audit ++ selected.map destroyedAudit })

end Middleware.Quarantine

/-
`RecordingService` (`app/recording/service.py`, `app/recording/domain.py`): an upload is reserved, completed against the object store and
Odoo, or reported as failed. A completion is suspended at one place, its call of Odoo; what it has in hand there is its `Call`.
-/
import Middleware.Data.Json
import Middleware.Lib.Calls
import Middleware.Lib.OrderedDict
import Middleware.Lib.Runs

namespace Middleware.Recordings

open Lib

abbrev Time := Int

/-- Seconds, which may be infinite. -/
abbrev Duration := WithTop ℚ

inductive RecordingState where
  | reservationCreated
  | uploading
  | uploaded
  | serverVerified
  | odooLinked
  | quarantined
  | failed
deriving DecidableEq, Repr

inductive Environment where
  | staging
  | production
deriving DecidableEq, Repr

def Environment.value : Environment → String
  | staging => "staging"
  | production => "production"

inductive Format where
  | mp3
  | wav
  | gsm
deriving DecidableEq, Repr

def Format.contentType : Format → String
  | mp3 => "audio/mpeg"
  | wav => "audio/wav"
  | gsm => "audio/gsm"

inductive RetentionClass where
  | syntheticTest
  | standard
  | highCompliance
  | legalHold
deriving DecidableEq, Repr

namespace RetentionClass

def value : RetentionClass → String
  | syntheticTest => "synthetic_test"
  | standard => "standard"
  | highCompliance => "high_compliance"
  | legalHold => "legal_hold"

/-- `RETENTION_DAYS`, without which a recording is kept. -/
def days : RetentionClass → Option Int
  | syntheticTest => some 7
  | standard => some 365
  | highCompliance => some 1825
  | legalHold => none

end RetentionClass

inductive Exc where
  | recordingConflict (text : String)
  | recordingNotFound (recordingUid : String)
  | keyError
  | osError
  | valueError
  /-- Another `Exception` of a dependency. -/
  | exception (text : String)
  /-- The task is cancelled: no `Exception`. -/
  | cancelled
deriving DecidableEq

/-- A parsed `datetime`. -/
structure DateTime where
  instant : Time
  aware : Bool
deriving DecidableEq

structure Library where
  /-- `datetime.isoformat` of an instant in UTC. -/
  isoformat : Time → String
  /-- `datetime.fromisoformat(str(value).replace("Z", "+00:00"))`. -/
  fromisoformat : Json → Option DateTime

/-! ## Records -/

/-- The metadata of a recording in a reservation. -/
structure Metadata where
  vicidialRecordingId : String
  vicidialCallId : String
  asteriskUniqueid : String
  campaignKey : String
  agentKey : String
  startedAt : String
  durationSeconds : Duration
  format : Format
  codec : String
  channels : Int
  sampleRateHz : Int
  fileSizeBytes : Int
  sha256 : String
  environment : Environment
  retentionClass : RetentionClass
deriving DecidableEq

structure Reservation where
  idempotencyKey : String
  recording : Metadata

/-- The fields of a completion that the reservation binds, where they are there. -/
structure Completion where
  recordingUid : Option String
  idempotencyKey : Option String
  environment : Option Environment
  campaignKey : Option String
  sha256 : Option String
  fileSizeBytes : Option Int
  format : Option Format
  durationSeconds : Option Duration
deriving DecidableEq

structure ObjectHead where
  sizeBytes : Int
  contentType : String
  checksumSha256 : String
  versionId : String
  metadata : OrderedDict String String

structure Recording where
  recordingUid : String
  environment : Environment
  campaignKey : String
  callUid : String
  idempotencyKey : String
  sha256 : String
  fileSizeBytes : Int
  contentType : String
  opaqueObjectIdentifier : String
  retentionClass : RetentionClass
  vicidialRecordingId : String
  asteriskUniqueid : String
  agentKey : String
  startedAt : String
  durationSeconds : Duration
  format : Format
  codec : String
  channels : Int
  sampleRateHz : Int
  state : RecordingState := .reservationCreated
  objectVersionId : Option String := none
  verifiedAt : Option Time := none
  odooLinkedAt : Option Time := none
  legalHold : Bool := false
  failureCode : Option String := none

structure StateAudit where
  recordingUid : String
  sequence : Nat
  fromState : RecordingState
  toState : RecordingState
  reason : String

structure ReservationResponse where
  contractVersion : String := "1.0"
  recordingUid : String
  uploadUrl : String
  uploadUrlExpiresAt : String
  requiredChecksumHeader : String := "x-amz-checksum-sha256"
  requiredContentType : String
  opaqueObjectIdentifier : String

/-- What `_ack` answers. -/
structure Ack where
  contractVersion : String := "1.0"
  recordingUid : String
  state : RecordingState
  checksumVerified : Bool
  odooLinked : Bool
  duplicate : Bool

/-- The metadata that Odoo is called with. -/
structure Upsert where
  contractVersion : String := "1.0"
  environment : Environment
  recordingUid : String
  vicidialRecordingId : String
  vicidialCallId : String
  asteriskUniqueid : String
  campaignKey : String
  agentKey : String
  startedAt : String
  durationSeconds : Duration
  format : Format
  codec : String
  channels : Int
  sampleRateHz : Int
  sha256 : String
  fileSizeBytes : Int
  objectVersionId : String
  storageStatus : String := "verified"
  retentionClass : RetentionClass
  retentionUntil : Option String
  legalHold : Bool
deriving DecidableEq

structure N8nProjection where
  contractVersion : String := "1.0"
  eventId : String
  eventType : String := "vicidial.recording.verified.v1"
  occurredAt : String
  environment : Environment
  recordingUid : String
  callUid : String
  campaignKey : String
  durationSeconds : Duration
  sha256 : String
  objectVersionId : Option String
  retentionClass : RetentionClass

structure Service where
  recordings : OrderedDict String Recording := []
  byIdempotency : OrderedDict (Environment × String) String := []
  reservationResponses : OrderedDict String ReservationResponse := []
  objectVersions : OrderedDict String String := []
  failureResults : OrderedDict (String × String) Ack := []
  audit : List StateAudit := []
  outbox : List N8nProjection := []

/-- A completion that awaits Odoo. -/
structure Call where
  recordingUid : String
  head : ObjectHead
  metadata : Upsert
  idempotencyKey : String
  running : Bool

abbrev ServiceM := CallM Exc Service

namespace Service

def write (uid : String) (f : Recording → Recording) (s : Service) : Service :=
  match s.recordings.get uid with
  | some recording => { s with recordings := s.recordings.set uid (f recording) }
  | none => s

/-- The entries of a recording in the audit. -/
def history (s : Service) (uid : String) : List StateAudit := s.audit.filter fun a => decide (a.recordingUid = uid)

/-- `_transition`. -/
def transition (uid : String) (state : RecordingState) (reason : String) (s : Service) : Service :=
  match s.recordings.get uid with
  | some recording =>
    { s.write uid fun r => { r with state } with
      audit := s.audit ++ [⟨uid, (s.history uid).length + 1, recording.state, state, reason⟩] }
  | none => s

end Service

/-! ## The service -/

section Operations

variable (lib : Library)

def newRecording (payload : Reservation) (uid opaqueId : String) : Recording :=
  { recordingUid := uid, environment := payload.recording.environment, campaignKey := payload.recording.campaignKey,
    callUid := payload.recording.vicidialCallId, idempotencyKey := payload.idempotencyKey, sha256 := payload.recording.sha256,
    fileSizeBytes := payload.recording.fileSizeBytes, contentType := payload.recording.format.contentType,
    opaqueObjectIdentifier := opaqueId, retentionClass := payload.recording.retentionClass,
    vicidialRecordingId := payload.recording.vicidialRecordingId, asteriskUniqueid := payload.recording.asteriskUniqueid,
    agentKey := payload.recording.agentKey, startedAt := payload.recording.startedAt,
    durationSeconds := payload.recording.durationSeconds, format := payload.recording.format, codec := payload.recording.codec,
    channels := payload.recording.channels, sampleRateHz := payload.recording.sampleRateHz }

/-- `_reservation_response`. -/
def Recording.reservationResponse (recording : Recording) (url : String) (expires : Time) : ReservationResponse :=
  { recordingUid := recording.recordingUid, uploadUrl := url, uploadUrlExpiresAt := lib.isoformat expires,
    requiredContentType := recording.contentType, opaqueObjectIdentifier := recording.opaqueObjectIdentifier }

/-- `reserve`, with the two `uuid4` it draws and what `storage.reserve_upload` answers. -/
def reserve (payload : Reservation) (uid opaqueId : String) (upload : Except Exc (String × Time)) : ServiceM ReservationResponse := do
  let s ← MonadState.get
  match s.byIdempotency.get (payload.recording.environment, payload.idempotencyKey) with
  | some existing =>
    match s.recordings.get existing, s.reservationResponses.get existing with
    | some _, some response => pure response
    | _, _ => throw .keyError
  | none =>
    let recording := newRecording payload uid opaqueId
    modify fun s =>
      { s with
        recordings := s.recordings.set uid recording
        byIdempotency := s.byIdempotency.set (payload.recording.environment, payload.idempotencyKey) uid }
    modify (Service.transition uid .uploading "upload_authorized")
    let (url, expires) ← liftM upload
    let response := recording.reservationResponse lib url expires
    modify fun s => { s with reservationResponses := s.reservationResponses.set uid response }
    pure response

def get (uid : String) : ServiceM Recording := do
  match (← MonadState.get).recordings.get uid with
  | some recording => pure recording
  | none => throw (.recordingNotFound uid)

/-- Names of the values that are not as expected, in order. -/
def mismatched (checks : List (String × Bool)) : List String := (checks.filter fun c => !c.2).map (·.1)

/-- The bindings of a completion that do not match, sorted by their names. -/
def Recording.mismatchedCompletion (recording : Recording) (uid : String) (payload : Completion) : List String :=
  mismatched [("campaign_key", decide (payload.campaignKey = some recording.campaignKey)),
    ("duration_seconds", decide (payload.durationSeconds = some recording.durationSeconds)),
    ("environment", decide (payload.environment = some recording.environment)),
    ("file_size_bytes", decide (payload.fileSizeBytes = some recording.fileSizeBytes)),
    ("format", decide (payload.format = some recording.format)),
    ("idempotency_key", decide (payload.idempotencyKey = some recording.idempotencyKey)),
    ("recording_uid", decide (payload.recordingUid = some uid)), ("sha256", decide (payload.sha256 = some recording.sha256))]

/-- What of the object's head is not as it was reserved, sorted by its name. -/
def Recording.mismatches (recording : Recording) (head : ObjectHead) : List String :=
  mismatched [("campaign_key", decide (head.metadata.get "campaign_key" = some recording.campaignKey)),
    ("content_type", decide (head.contentType = recording.contentType)),
    ("environment", decide (head.metadata.get "environment" = some recording.environment.value)),
    ("file_size_bytes", decide (head.sizeBytes = recording.fileSizeBytes)),
    ("idempotency_key", decide (head.metadata.get "idempotency_key" = some recording.idempotencyKey)),
    ("recording_uid", decide (head.metadata.get "recording_uid" = some recording.recordingUid)),
    ("sha256", decide (head.checksumSha256 = recording.sha256))]

/-- `_ack`. -/
def Recording.ack (recording : Recording) (duplicate : Bool) : Ack :=
  { recordingUid := recording.recordingUid, state := recording.state, checksumVerified := recording.verifiedAt.isSome,
    odooLinked := recording.odooLinkedAt.isSome, duplicate }

def day : Time := 86400000000

/-- The instant up to which a recording is retained. -/
def Recording.retentionUntil (recording : Recording) (verifiedAt : Time) : Option Time :=
  if recording.legalHold then none else recording.retentionClass.days.map fun days => verifiedAt + days * day

def Recording.metadata (recording : Recording) (versionId : String) (verifiedAt : Time) : Upsert :=
  { environment := recording.environment, recordingUid := recording.recordingUid,
    vicidialRecordingId := recording.vicidialRecordingId, vicidialCallId := recording.callUid,
    asteriskUniqueid := recording.asteriskUniqueid, campaignKey := recording.campaignKey, agentKey := recording.agentKey,
    startedAt := recording.startedAt, durationSeconds := recording.durationSeconds, format := recording.format,
    codec := recording.codec, channels := recording.channels, sampleRateHz := recording.sampleRateHz, sha256 := recording.sha256,
    fileSizeBytes := recording.fileSizeBytes, objectVersionId := versionId, retentionClass := recording.retentionClass,
    retentionUntil := (recording.retentionUntil verifiedAt).map lib.isoformat, legalHold := recording.legalHold }

/-- How far a completion comes at once. -/
inductive Begun where
  | answered (ack : Ack)
  | awaiting (call : Call)

/-- The exceptions of `storage.head` that a completion catches. -/
def Exc.ofHead : Exc → Bool
  | .keyError | .osError => true
  | _ => false

/-- The owner of an object's version, if it is another recording. -/
def Service.ownedElsewhere (s : Service) (versionId uid : String) : Bool :=
  match s.objectVersions.get versionId with
  | some owner => decide (owner ≠ uid)
  | none => false

def completable : List RecordingState := [.uploading, .uploaded, .serverVerified]

/-- `complete` up to its call of Odoo. -/
def complete (uid : String) (payload : Completion) (head : Except Exc ObjectHead) (now : Time) : ServiceM Begun := do
  let recording ← get uid
  let names := recording.mismatchedCompletion uid payload
  if names ≠ [] then
    modify (Service.transition uid .quarantined ("completion:" ++ ",".intercalate names))
    throw (.recordingConflict "completion contract conflicts with reservation")
  if recording.state = .odooLinked ∧ recording.objectVersionId.isSome then
    pure (.answered (recording.ack true))
  else
    if recording.state ∉ completable then throw (.recordingConflict "completion conflicts with recording state")
    modify (Service.transition uid .uploaded "completion_received")
    match head with
    | .error x =>
      if !x.ofHead then throw x
      modify (Service.transition uid .failed "object_head_failed")
      throw (.recordingConflict "object unavailable")
    | .ok head =>
      if (← MonadState.get).ownedElsewhere head.versionId uid then
        modify (Service.transition uid .quarantined "version_conflict")
        throw (.recordingConflict "object version already belongs to another recording")
      let names := recording.mismatches head
      if names ≠ [] then
        modify (Service.write uid fun r => { r with failureCode := some "OBJECT_METADATA_MISMATCH" })
        modify (Service.transition uid .quarantined (",".intercalate names))
        throw (.recordingConflict "object verification mismatch")
      modify (Service.write uid fun r => { r with objectVersionId := some head.versionId, verifiedAt := some now })
      modify fun s => { s with objectVersions := s.objectVersions.set head.versionId uid }
      modify (Service.transition uid .serverVerified "object_verified")
      pure (.awaiting ⟨uid, head, recording.metadata lib head.versionId now, recording.idempotencyKey, true⟩)

def requiredAcknowledgement : List String :=
  ["contract_version", "recording_uid", "odoo_record_id", "call_link_status", "lead_link_status", "campaign_link_status",
    "agent_link_status", "storage_status", "retention_class", "retention_until", "legal_hold", "updated_at"]

/-- `value == text`. -/
def isText (value : Option Json) (text : String) : Bool :=
  match value with
  | some (.str s) => decide (s = text)
  | _ => false

/-- `value == b`, which a number may be. -/
def isBool (value : Option Json) (b : Bool) : Bool :=
  match value with
  | some (.bool b') => b' == b
  | some (.int n) => decide (n = if b then 1 else 0)
  | some (.float repr) => if b then decide (repr = "1.0") else decide (repr = "0.0" ∨ repr = "-0.0")
  | _ => false

/-- A value that is not `None`. -/
def given (value : Option Json) : Option Json :=
  match value with
  | some .null => none
  | value => value

def checkAcknowledgement (recording : Recording) (metadata : Upsert) (acknowledgement : Obj) : Except Exc Unit := do
  if !(acknowledgement.all (·.1 ∈ requiredAcknowledgement) && requiredAcknowledgement.all fun key => (acknowledgement.lookup key).isSome) then
    throw (.recordingConflict "canonical Odoo acknowledgement required")
  if !(isText (acknowledgement.lookup "contract_version") "1.0" &&
      isText (acknowledgement.lookup "recording_uid") recording.recordingUid &&
      isText (acknowledgement.lookup "storage_status") metadata.storageStatus &&
      isText (acknowledgement.lookup "retention_class") recording.retentionClass.value &&
      isBool (acknowledgement.lookup "legal_hold") recording.legalHold) then
    throw (.recordingConflict "Odoo acknowledgement binding mismatch")
  match given (acknowledgement.lookup "retention_until"), metadata.retentionUntil with
  | none, none => pure ()
  | some acknowledged, some expected =>
    match lib.fromisoformat acknowledged, lib.fromisoformat (.str expected) with
    | some a, some e => if a ≠ e then throw (.recordingConflict "Odoo acknowledgement retention mismatch")
    | _, _ => throw .valueError
  | _, _ => throw (.recordingConflict "Odoo acknowledgement retention mismatch")

/-- `_n8n_projection`, with the identifier it draws. -/
def Recording.n8nProjection (recording : Recording) (eventId : String) (now : Time) : N8nProjection :=
  { eventId, occurredAt := lib.isoformat now, environment := recording.environment, recordingUid := recording.recordingUid,
    callUid := recording.callUid, campaignKey := recording.campaignKey, durationSeconds := recording.durationSeconds,
    sha256 := recording.sha256, objectVersionId := recording.objectVersionId, retentionClass := recording.retentionClass }

/-- `complete` from the answer of Odoo on. -/
def finish (call : Call) (reply : Except Exc Obj) (eventId : String) (now : Time) : ServiceM Ack := do
  match reply with
  | .error x =>
    if x ≠ .cancelled then
      modify (Service.write call.recordingUid fun r => { r with failureCode := some "ODOO_UPSERT_FAILED" })
    throw x
  | .ok acknowledgement =>
    let recording ← get call.recordingUid
    liftM (checkAcknowledgement lib recording call.metadata acknowledgement)
    modify (Service.write call.recordingUid fun r => { r with odooLinkedAt := some now })
    modify (Service.transition call.recordingUid .odooLinked "odoo_acknowledged")
    let recording ← get call.recordingUid
    modify fun s => { s with outbox := s.outbox ++ [recording.n8nProjection lib eventId now] }
    pure (recording.ack false)

def failure (uid code key : String) : ServiceM Ack := do
  let recording ← get uid
  match (← MonadState.get).failureResults.get (uid, key) with
  | some result => pure { result with duplicate := true }
  | none =>
    if key = "" ∨ key ≠ recording.idempotencyKey then throw (.recordingConflict "failure idempotency binding mismatch")
    modify (Service.write uid fun r => { r with failureCode := some code })
    modify (Service.transition uid .failed code)
    let recording ← get uid
    let result := recording.ack false
    modify fun s => { s with failureResults := s.failureResults.set (uid, key) result }
    pure result

end Operations

/-! ## The calls of the service -/

/-- The service, and the completions that came to Odoo. -/
structure World where
  service : Service := {}
  calls : List Call := []

inductive Event where
  | reserve (payload : Reservation) (uid opaqueId : String) (upload : Except Exc (String × Time))
  | complete (uid : String) (payload : Completion) (head : Except Exc ObjectHead) (now : Time)
  /-- Odoo answers a completion. -/
  | resume (i : Nat) (reply : Except Exc Obj) (eventId : String) (now : Time)
  | failure (uid code key : String)

inductive Reply where
  | reserved (response : ReservationResponse)
  | acknowledged (ack : Ack)
  | awaiting

section Steps

variable (lib : Library)

def Event.answer (e : Event) (w : World) : Except Exc Reply × World :=
  match e with
  | .reserve payload uid opaqueId upload =>
    let (reply, service) := invoke (Recordings.reserve lib payload uid opaqueId upload) w.service
    (reply.map .reserved, { w with service })
  | .complete uid payload head now =>
    match invoke (Recordings.complete lib uid payload head now) w.service with
    | (.ok (.awaiting call), service) => (.ok .awaiting, { service, calls := w.calls ++ [call] })
    | (.ok (.answered ack), service) => (.ok (.acknowledged ack), { w with service })
    | (.error x, service) => (.error x, { w with service })
  | .resume i reply eventId now =>
    match w.calls[i]? with
    | some call =>
      if call.running then
        let (reply, service) := invoke (finish lib call reply eventId now) w.service
        (reply.map .acknowledged, { service, calls := w.calls.set i { call with running := false } })
      else (.ok .awaiting, w)
    | none => (.ok .awaiting, w)
  | .failure uid code key =>
    let (reply, service) := invoke (Recordings.failure uid code key) w.service
    (reply.map .acknowledged, { w with service })

def step (e : Event) (w : World) : World := (e.answer lib w).2

end Steps

end Middleware.Recordings

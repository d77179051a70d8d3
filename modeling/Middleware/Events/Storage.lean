/-
The event inbox of `app/storage.py`: `MemoryInboxStore.accept` with its two identity indexes and its hash-chained
ledger, and `verify_event_ledger_records`.

An event's timestamps are the texts its JSON form gives them. The digest of the body and the destination of a delivery
are left out: the store reads neither.
-/
import Middleware.Ledger.Types

namespace Middleware.Events

open Ledger (Dict orElse)

/-! ## Records -/

structure EventEnvelope where
  eventId : String
  eventType : String
  eventVersion : String := "1.0"
  occurredAt : String
  receivedAt : String
  source : String
  tenantId : String
  customerId : Option String := none
  correlationId : String
  causationId : String
  idempotencyKey : String
  payload : Obj
  metadata : Obj := []

def optionalText : Option String → Json
  | some text => .str text
  | none => .null

/-- `model_dump(mode="json")`. -/
def EventEnvelope.modelDump (e : EventEnvelope) : Obj :=
  [("event_id", .str e.eventId), ("event_type", .str e.eventType), ("event_version", .str e.eventVersion),
    ("occurred_at", .str e.occurredAt), ("received_at", .str e.receivedAt), ("source", .str e.source),
    ("tenant_id", .str e.tenantId), ("customer_id", optionalText e.customerId),
    ("correlation_id", .str e.correlationId), ("causation_id", .str e.causationId),
    ("idempotency_key", .str e.idempotencyKey), ("payload", .obj e.payload), ("metadata", .obj e.metadata)]

inductive IngressStatus where
  | accepted
  | duplicate
deriving DecidableEq, Repr

structure IngressResult where
  eventId : String
  tenantId : String
  status : IngressStatus
  duplicate : Bool
  correlationId : String
deriving DecidableEq, Repr

structure EventLedgerRecord where
  tenantId : String
  tenantSequence : Nat
  eventId : String
  semanticSha256 : String
  previousEntryHash : String
  entryHash : String
  payload : Obj

/-- The two errors of the store, with their messages. -/
inductive StorageError where
  | replayConflict (message : String)
  | eventLedgerIntegrityError (message : String)
deriving DecidableEq, Repr

/-! ## Hashes -/

/-- `ZERO_LEDGER_HASH`. -/
def zeroLedgerHash : String := String.ofList (List.replicate 64 '0')

def canonicalPayloadSha256 (payload : Obj) : String := Sha256.hexdigest (dumps false (.obj payload))

def eventLedgerHash (tenantId : String) (tenantSequence : Nat) (eventId semanticSha256 previousEntryHash : String) :
    String :=
  Sha256.hexdigest (dumps false (.arr [.str "codestra-event-ledger-v1", .str tenantId, .int tenantSequence, .str eventId,
    .str semanticSha256, .str previousEntryHash]))

/-! ## Verification -/

/-- The three dictionaries of `verify_event_ledger_records`. -/
structure LedgerHeads where
  expectedSequence : Dict String Nat := ∅
  previousHash : Dict String String := ∅
  counts : Dict String Nat := ∅

def integrityError (what tenantId : String) : StorageError :=
  .eventLedgerIntegrityError ("event ledger " ++ what ++ " for tenant " ++ tenantId)

def LedgerHeads.advance (heads : LedgerHeads) (r : EventLedgerRecord) : LedgerHeads where
  expectedSequence :=
    heads.expectedSequence.insert r.tenantId ((heads.expectedSequence.lookup r.tenantId).getD 1 + 1)
  previousHash := heads.previousHash.insert r.tenantId r.entryHash
  counts := heads.counts.insert r.tenantId ((heads.counts.lookup r.tenantId).getD 0 + 1)

def verifyRecord (heads : LedgerHeads) (r : EventLedgerRecord) : Except StorageError LedgerHeads :=
  let expected := (heads.expectedSequence.lookup r.tenantId).getD 1
  let previous := (heads.previousHash.lookup r.tenantId).getD zeroLedgerHash
  if r.tenantSequence ≠ expected then .error (integrityError "sequence gap" r.tenantId)
  else if r.previousEntryHash ≠ previous then .error (integrityError "previous hash mismatch" r.tenantId)
  else if canonicalPayloadSha256 r.payload ≠ r.semanticSha256 then
    .error (integrityError "payload hash mismatch" r.tenantId)
  else if r.entryHash ≠
      eventLedgerHash r.tenantId r.tenantSequence r.eventId r.semanticSha256 r.previousEntryHash then
    .error (integrityError "entry hash mismatch" r.tenantId)
  else .ok (heads.advance r)

def verifyFrom (heads : LedgerHeads) : List EventLedgerRecord → Except StorageError LedgerHeads
  | [] => .ok heads
  | r :: rest =>
    match verifyRecord heads r with
    | .ok heads => verifyFrom heads rest
    | .error e => .error e

/-- The order of `(tenant_id, tenant_sequence)`. -/
def EventLedgerRecord.le (r r' : EventLedgerRecord) : Prop :=
  r.tenantId < r'.tenantId ∨ (r.tenantId = r'.tenantId ∧ r.tenantSequence ≤ r'.tenantSequence)

instance : DecidableRel EventLedgerRecord.le := fun r r' =>
  inferInstanceAs (Decidable (r.tenantId < r'.tenantId ∨ (r.tenantId = r'.tenantId ∧ r.tenantSequence ≤ r'.tenantSequence)))

def verifyEventLedgerRecords (records : List EventLedgerRecord) : Except StorageError (Dict String Nat) :=
  match verifyFrom {} (records.insertionSort EventLedgerRecord.le) with
  | .ok heads => .ok heads.counts
  | .error e => .error e

/-! ## The store -/

/-- The arguments of `accept`. -/
structure Delivery where
  envelope : EventEnvelope
  producerClientId : String
  semanticSha256 : String
  deduplicationSha256 : Option String := none

namespace Delivery

/-- `deduplication_sha256 or semantic_sha256`. -/
def comparisonSha256 (d : Delivery) : String := (orElse d.deduplicationSha256 none).getD d.semanticSha256

/-- The producer's event, or the tenant's. -/
def eventKey (d : Delivery) : String × String :=
  match d.deduplicationSha256 with
  | some _ => (d.producerClientId, d.envelope.eventId)
  | none => (d.envelope.tenantId, d.envelope.eventId)

def idempotencyKey (d : Delivery) : String × String := (d.envelope.tenantId, d.envelope.idempotencyKey)

def result (d : Delivery) : IngressResult :=
  { eventId := d.envelope.eventId, tenantId := d.envelope.tenantId, status := .accepted, duplicate := false,
    correlationId := d.envelope.correlationId }

end Delivery

structure MemoryInboxStore where
  eventItems : Dict (String × String) (String × IngressResult) := ∅
  idempotencyItems : Dict (String × String) (String × IngressResult) := ∅
  ledgerRecords : List EventLedgerRecord := []
  ledgerHeads : Dict String String := ∅
  ledgerCounts : Dict String Nat := ∅

namespace MemoryInboxStore

/-- The number of the tenant's next record. -/
def nextSequence (s : MemoryInboxStore) (tenantId : String) : Nat := (s.ledgerCounts.lookup tenantId).getD 0 + 1

def record (d : Delivery) (s : MemoryInboxStore) : EventLedgerRecord :=
  let previousEntryHash := (s.ledgerHeads.lookup d.envelope.tenantId).getD zeroLedgerHash
  { tenantId := d.envelope.tenantId
    tenantSequence := s.nextSequence d.envelope.tenantId
    eventId := d.envelope.eventId
    semanticSha256 := d.semanticSha256
    previousEntryHash := previousEntryHash
    entryHash := eventLedgerHash d.envelope.tenantId (s.nextSequence d.envelope.tenantId) d.envelope.eventId
      d.semanticSha256 previousEntryHash
    payload := d.envelope.modelDump }

/-- The store after a new event. -/
def admitted (d : Delivery) (s : MemoryInboxStore) : MemoryInboxStore :=
  { eventItems := s.eventItems.insert d.eventKey (d.comparisonSha256, d.result)
    idempotencyItems := s.idempotencyItems.insert d.idempotencyKey (d.comparisonSha256, d.result)
    ledgerRecords := s.ledgerRecords ++ [record d s]
    ledgerHeads := s.ledgerHeads.insert d.envelope.tenantId (record d s).entryHash
    ledgerCounts := s.ledgerCounts.insert d.envelope.tenantId (s.nextSequence d.envelope.tenantId) }

/-- The item a delivery meets: the one of its event, else the one of its idempotency key. -/
def existing (d : Delivery) (s : MemoryInboxStore) : Option (String × IngressResult) :=
  s.eventItems.lookup d.eventKey <|> s.idempotencyItems.lookup d.idempotencyKey

/-- Whether the two keys of a delivery name different events. -/
def mixedIdentities (d : Delivery) (s : MemoryInboxStore) : Bool :=
  match s.eventItems.lookup d.eventKey, s.idempotencyItems.lookup d.idempotencyKey with
  | some byEvent, some byKey => byEvent.2.eventId ≠ byKey.2.eventId
  | _, _ => false

def accept (d : Delivery) (s : MemoryInboxStore) : Except StorageError IngressResult × MemoryInboxStore :=
  if canonicalPayloadSha256 d.envelope.modelDump ≠ d.semanticSha256 then
    (.error (.eventLedgerIntegrityError "semantic hash does not match the canonical event payload"), s)
  else if mixedIdentities d s then
    (.error (.replayConflict "event and idempotency identities refer to different accepted events"), s)
  else
    match existing d s with
    | some (oldComparisonHash, result) =>
      if oldComparisonHash ≠ d.comparisonSha256 then
        (.error (.replayConflict "event/idempotency identity was reused with a different semantic payload"), s)
      else (.ok { result with status := .duplicate, duplicate := true }, s)
    | none => (.ok d.result, admitted d s)

end MemoryInboxStore

end Middleware.Events

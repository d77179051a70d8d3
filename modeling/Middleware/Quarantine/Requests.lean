/-
The requests to the quarantine as one type, and what each endpoint does: it refuses and leaves the tables, or it acts on
the record it found, whose unit the reviewer has or which has none.
-/
import Middleware.Quarantine.Records

namespace Middleware.Quarantine

open Ledger Lib Policy

/-- A reviewer's request, with what the endpoint draws and its reading of the clock. -/
inductive Request where
  | listRecords (businessUnit : Option String)
  | detail (id : Uuid)
  | review (id : Uuid) (targetState : String) (recordVersion : Int) (now : Time)
  | createCorrection (id : Uuid) (correctedPayload : Obj) (correctionReason : String) (d : Draws)
  | reprocess (id : Uuid) (d : Draws) (now : Time)

namespace Request

def run (lib : Library) (c : Reviewer) : Request → Db → Result
  | listRecords businessUnit => Quarantine.listRecords lib c businessUnit
  | detail id => Quarantine.detail lib c id
  | review id targetState recordVersion now => Quarantine.review lib c id targetState recordVersion now
  | createCorrection id correctedPayload correctionReason d =>
    Quarantine.createCorrection lib c id correctedPayload correctionReason d
  | reprocess id d now => Quarantine.reprocess lib c id d now

def recordId : Request → Option Uuid
  | listRecords _ => none
  | detail id | review id .. | createCorrection id .. | reprocess id .. => some id

end Request

section Endpoints

variable {lib : Library} {c : Reviewer} {required : String} {id id' : Uuid} {db : Db} {act : Record → Result} {r : Record}
  {f : Record → Record}

theorem authorize_ok {requestedUnit : Option String} : authorize lib required c requestedUnit = .ok () ↔
    authorizeScope lib required c = .ok () ∧ ∀ unit, requestedUnit = some unit → unit ≠ "" → unit ∈ c.units := by
  unfold authorize
  cases authorizeScope lib required c with
  | error e => simp [bind, Except.bind]
  | ok _ =>
    cases requestedUnit with
    | none => simp [bind, Except.bind, pure, Except.pure]
    | some unit =>
      by_cases hu : unit ≠ "" ∧ !c.units.contains unit
      · simp only [bind, Except.bind, if_pos hu]
        simp only [ne_eq, Bool.not_eq_true', List.contains_eq_mem, decide_eq_false_iff_not] at hu
        simp [throw, throwThe, MonadExceptOf.throw, hu.1, hu.2]
      · simp only [bind, Except.bind, if_neg hu]
        simpa [pure, Except.pure] using hu

/-- The check on a record: its unit, if it has one, is among the reviewer's. -/
theorem authorize_record : authorize lib required c (r.businessUnit.map (·.1)) = .ok () ↔
    authorizeScope lib required c = .ok () ∧ ∀ unit, r.businessUnit = some unit → unit.1 ∈ c.units := by
  rw [authorize_ok]
  constructor
  · rintro ⟨hs, hu⟩
    exact ⟨hs, fun unit h => hu unit.1 (by rw [h]; rfl) unit.2⟩
  · rintro ⟨hs, hu⟩
    refine ⟨hs, fun text h _ => ?_⟩
    obtain ⟨unit, hunit, rfl⟩ := Option.map_eq_some_iff.1 h
    exact hu unit hunit

theorem onRecord_cases (lib : Library) (c : Reviewer) (required : String) (id : Uuid) (db : Db) (act : Record → Result) :
    (∃ e, onRecord lib required c id db act = (.error e, db)) ∨
    ∃ r, db.records.row id = some r ∧ authorize lib required c (r.businessUnit.map (·.1)) = .ok () ∧
      onRecord lib required c id db act = act r := by
  unfold onRecord
  cases h : db.records.row id with
  | none => exact .inl ⟨_, rfl⟩
  | some r =>
    cases ha : authorize lib required c (r.businessUnit.map (·.1)) with
    | error e => exact .inl ⟨e, by simp only [ha]⟩
    | ok _ => exact .inr ⟨r, rfl, ha, by simp only [ha]⟩

theorem onRecord_found (h : db.records.row id = some r)
    (ha : authorize lib required c (r.businessUnit.map (·.1)) = .ok ()) : onRecord lib required c id db act = act r := by
  unfold onRecord
  simp only [h, ha]

theorem writeRecord_row (hf : ∀ r, (f r).id = r.id) : (db.writeRecord id f hf).records.row id' =
    if id' = id then (db.records.row id').map f else db.records.row id' := by
  show (db.records.rows.map fun r => if decide (r.id = id) then f r else r).find? (fun r => decide (r.id = id')) = _
  simp only [decide_eq_true_eq]
  exact @rowAt_map_at Record Uuid _ (fun r => r.id) id id' f db.records.rows hf

/-- What reprocessing does to a record it is authorized for: it refuses, answers a duplicate, or decides on its payload and
writes it as denied or as replayed. -/
inductive Reprocesses (lib : Library) (c : Reviewer) (id : Uuid) (d : Draws) (now : Time) (db : Db) (record : Record)
    (unit : BusinessUnit) (x : Result) : Prop
  | refused (e : HttpException) (result : x = (.error e, db))
  | duplicate (status : record.status = .replayed)
      (result : x = (.ok (.reprocessed record.replayedEventId true), db))
  | denied (replay : Replay) (e : HttpException) (status : record.status = .replayApproved)
      (prepared : prepareReplay lib db record unit.1 d.correlationId now = some replay)
      (policy : replay.policy.allow = false) (reply : x.1 = .error e)
      (records : x.2.records = (db.writeRecord id (·.denied c.reviewer now) fun _ => rfl).records)
      (events : x.2.events = db.events) (corrections : x.2.corrections = db.corrections)
  | replayed (replay : Replay) (event : IntegrationEvent) (existing : Bool) (db' : Db)
      (status : record.status = .replayApproved)
      (prepared : prepareReplay lib db record unit.1 d.correlationId now = some replay)
      (policy : replay.policy.allow = true)
      (ensured : ensureEvent lib record replay d.eventCorrelationId (db.decided d.id replay.policy) =
        (event, existing, db'))
      (reply : x.1 = .ok (.reprocessed (some event.id) existing))
      (records : x.2.records = (db.writeRecord id (·.replayedAs event.id c.reviewer now) fun _ => rfl).records)
      (events : x.2.events = db'.events) (corrections : x.2.corrections = db.corrections)

theorem ensureEvent_kept {replay : Replay} {correlationId : String} {event : IntegrationEvent} {existing : Bool} {db' : Db}
    (h : ensureEvent lib r replay correlationId db = (event, existing, db')) :
    db'.records = db.records ∧ db'.corrections = db.corrections := by
  unfold ensureEvent at h
  split at h <;> cases h <;> exact ⟨rfl, rfl⟩

theorem replayRecord_reprocesses (lib : Library) (c : Reviewer) (id : Uuid) (d : Draws) (now : Time) (db : Db) (r : Record)
    (unit : BusinessUnit) :
    Reprocesses lib c id d now db r unit (replayRecord lib c id d now db r unit) := by
  unfold replayRecord
  split
  · rename_i hs
    exact .duplicate hs rfl
  split
  · exact .refused _ rfl
  rename_i heligible
  have hstatus : r.status = .replayApproved := by
    by_contra h
    exact heligible (.inl h)
  split
  · exact .refused _ rfl
  split
  · exact .refused _ rfl
  rename_i replay hprepared
  dsimp only
  split
  · rename_i hdenied
    exact .denied replay _ hstatus hprepared (by simpa using hdenied) rfl rfl rfl rfl
  · rename_i hallowed
    obtain ⟨⟨event, existing, db'⟩, hensured⟩ : ∃ x, ensureEvent lib r replay d.eventCorrelationId
        (db.decided d.id replay.policy) = x := ⟨_, rfl⟩
    obtain ⟨hrecords, hcorrections⟩ := ensureEvent_kept hensured
    rw [hensured]
    refine .replayed replay event existing db' hstatus hprepared (by simpa using hallowed) hensured rfl ?_ rfl hcorrections
    simp only [Db.writeRecord, hrecords]
    rfl

theorem reprocess_cases (lib : Library) (c : Reviewer) (id : Uuid) (d : Draws) (now : Time) (db : Db) :
    (∃ e, reprocess lib c id d now db = (.error e, db)) ∨
    ∃ r unit, db.records.row id = some r ∧ authorize lib "quarantine:replay" c (r.businessUnit.map (·.1)) = .ok () ∧
      r.businessUnit = some unit ∧ reprocess lib c id d now db = replayRecord lib c id d now db r unit := by
  unfold reprocess onRecord
  cases h : db.records.row id with
  | none => exact .inl ⟨_, rfl⟩
  | some r =>
    cases ha : authorize lib "quarantine:replay" c (r.businessUnit.map (·.1)) with
    | error e => exact .inl ⟨e, by simp only [ha]⟩
    | ok _ =>
      cases hunit : r.businessUnit with
      | none => exact .inl ⟨⟨409, "quarantine business unit unavailable"⟩, by simp only [ha]; rw [hunit]⟩
      | some unit => exact .inr ⟨r, unit, rfl, ha, hunit, by simp only [ha]; rw [hunit]⟩

end Endpoints

/-! ## A synthetic reviewer -/

namespace Synthetic

/-- Libraries that sign, encrypt and fingerprint by tagging. -/
def lib : Library where
  reviewerSignature text := "hmac-sha256:" ++ text
  encrypt nonce raw _ := nonce ++ raw
  decrypt nonce ciphertext _ := some (ciphertext.drop nonce.length)
  fingerprint raw := toString raw
  loads _ := none
  isUuid _ := true
  fromisoformat _ := none
  zone _ := .ok fun _ => 0
  encryptionKeyVersion := "k1"
  requestMaxBytes := 65536
  outboxMaxAttempts := 5

/-- A reviewer of one unit who may read and review, and not replay. -/
def reviewer : Reviewer where
  scopes := "quarantine:read quarantine:review"
  reviewer := "reviewer-1"
  authorizedUnits := "synthetic-unit"
  authorizationContext := "hmac-sha256:reviewer-1\nquarantine:read quarantine:review\nsynthetic-unit"

end Synthetic

end Middleware.Quarantine

/-
Runs over the quarantine: reviewers' requests, passes of `cleanup_expired`, captures of invalid events (`_quarantine` of
`app/api/v1/publisher.py`) and events accepted elsewhere, in any order.

The target of a review is any edge of `TRANSITIONS`, those of reprocessing included: a reviewer without the replay scope
moves an approved record to REPLAYING and REPLAYED. A run replays by the replay path alone exactly when no review does so.
-/
import Middleware.Lib.Runs
import Middleware.Quarantine.Requests

namespace Middleware.Quarantine

open Ledger Lib Policy

/-! ## Steps -/

/-- What `_quarantine` writes of an invalid event. -/
structure Captured where
  id : Uuid
  serverCorrelationId : String
  clientCorrelationId : Option String := none
  claimedSource : Option String := none
  claimedPublisherIdentity : Option String := none
  publisherId : String
  keyId : String
  digest : String
  encrypted : Option EncryptedPayload
  preview : Json
  reason : String
  businessUnit : Option BusinessUnit
  now : Time
  retentionPolicyVersion : String
  retentionDeadline : Time

def Captured.record (x : Captured) : Record :=
  { id := x.id, serverCorrelationId := x.serverCorrelationId, clientCorrelationId := x.clientCorrelationId,
    claimedSource := x.claimedSource, claimedPublisherIdentity := x.claimedPublisherIdentity,
    authenticatedPublisherId := x.publisherId, authenticationKeyId := some x.keyId, payloadFingerprint := x.digest,
    encryptedPayload := x.encrypted.map (·.ciphertext), encryptionNonce := x.encrypted.map (·.nonce),
    encryptionKeyVersion := x.encrypted.map (·.keyVersion), sanitizedPreview := x.preview, reasonCode := x.reason,
    businessUnit := x.businessUnit, retentionPolicyVersion := x.retentionPolicyVersion,
    retentionDeadline := x.retentionDeadline, receivedAt := x.now }

/-- The write of a capture that was seen before. -/
def Record.seenAgain (record : Record) : Record :=
  { record with occurrenceCount := record.occurrenceCount + 1, recordVersion := record.recordVersion + 1 }

/-- `_quarantine`. -/
def captureInvalid (x : Captured) (db : Db) : Db :=
  match db.records.rows.find? fun r =>
      r.authenticatedPublisherId == x.publisherId && r.payloadFingerprint == x.digest with
  | some existing => db.writeRecord existing.id Record.seenAgain fun _ => rfl
  | none => { db with records := db.records.insert x.record }

def acceptEvent (e : IntegrationEvent) (db : Db) : Db :=
  { db with events := db.events ++ [{ e with id := db.nextEventId }], nextEventId := db.nextEventId + 1 }

inductive Step where
  | request (c : Reviewer) (q : Request)
  | cleanup (limit : Nat) (now : Time)
  | capture (x : Captured)
  | accept (e : IntegrationEvent)

def Step.next (lib : Library) : Step → Db → Db
  | request c q, db => (q.run lib c db).2
  | cleanup limit now, db => (cleanupExpired limit now db).2
  | capture x, db => captureInvalid x db
  | accept e, db => acceptEvent e db

/-! ## What one step does to a record -/

/-- A reprocess call decided on the payload of the record, which is its latest correction if there is one, and the policy
allowed it: the record refers to the event with the payload's event id. -/
structure Replays (lib : Library) (c : Reviewer) (id : Uuid) (d : Draws) (now : Time) (db : Db) (eventId : Option Nat)
    (event : IntegrationEvent) : Prop where
  scope : authorizeScope lib "quarantine:replay" c = .ok ()
  payload : ∃ record unit encrypted digest raw value request policy,
    db.records.row id = some record ∧ record.businessUnit = some unit ∧ record.status = .replayApproved ∧
    replayPayload db record = some (encrypted, digest) ∧ decryptPayload lib encrypted digest = some raw ∧
    lib.loads raw = some (.obj value) ∧ validateEvent lib now value = some event.originalEventId ∧
    replayPolicyRequest value event.originalEventId unit.1 d.correlationId now = some request ∧
    evaluate lib.zone now request = .ok policy ∧ policy.allow = true
  event : eventId = some event.id

/-- How a step changes a record that is there. -/
inductive Moves (lib : Library) (step : Step) (db : Db) (r r' : Record) : Prop
  | kept (status : r'.status = r.status) (eventId : r'.replayedEventId = r.replayedEventId)
  | reviewed (c : Reviewer) (targetState : String) (recordVersion : Int) (now : Time) (target : Status)
      (step_eq : step = .request c (.review r.id targetState recordVersion now))
      (authorized : authorize lib "quarantine:review" c (r.businessUnit.map (·.1)) = .ok ())
      (version : r.recordVersion = recordVersion) (valid : r.status.transition targetState = some target)
      (status : r'.status = target)
  | closed (status : r'.status = .rejected ∨ r'.status = .expired)
  | replayed (c : Reviewer) (d : Draws) (now : Time) (event : IntegrationEvent)
      (step_eq : step = .request c (.reprocess r.id d now)) (approved : r.status = .replayApproved)
      (replays : Replays lib c r.id d now db r'.replayedEventId event) (mem : event ∈ (step.next lib db).events)

section Steps

variable {lib : Library} {step : Step} {db : Db} {id : Uuid} {r r' : Record} {targetState : String}

theorem transition_mem {s target : Status} (h : s.transition targetState = some target) :
    target ∈ s.transitions ∧ target.value = targetState := by
  exact ⟨List.mem_of_find?_eq_some h, by simpa using List.find?_some h⟩

variable {now : Time}

theorem prepareReplay_some {record : Record} {unit correlationId : String} {replay : Replay}
    (h : prepareReplay lib db record unit correlationId now = some replay) :
    ∃ encrypted raw request, replayPayload db record = some (encrypted, replay.payloadHash) ∧
      decryptPayload lib encrypted replay.payloadHash = some raw ∧ lib.loads raw = some (.obj replay.value) ∧
      validateEvent lib now replay.value = some replay.eventId ∧
      replayPolicyRequest replay.value replay.eventId unit correlationId now = some request ∧
      evaluate lib.zone now request = .ok replay.policy := by
  unfold prepareReplay at h
  simp only [Option.bind_eq_bind, Option.bind_eq_some_iff] at h
  obtain ⟨⟨encrypted, digest⟩, hpayload, raw, hraw, h⟩ := h
  split at h
  · rename_i value hloads
    simp only [Option.bind_eq_some_iff] at h
    obtain ⟨eventId, hvalid, request, hrequest, h⟩ := h
    split at h
    · rename_i policy hpolicy
      cases h
      exact ⟨encrypted, raw, request, hpayload, hraw, hloads, hvalid, hrequest, hpolicy⟩
    · cases h
  · cases h

theorem ensureEvent_event {record : Record} {replay : Replay} {correlationId : String} {event : IntegrationEvent}
    {existing : Bool} {db' : Db} (h : ensureEvent lib record replay correlationId db = (event, existing, db')) :
    event.originalEventId = replay.eventId ∧ event ∈ db'.events := by
  unfold ensureEvent at h
  split at h
  · rename_i e he
    cases h
    exact ⟨by simpa using List.find?_some he, List.mem_of_find?_eq_some he⟩
  · cases h
    exact ⟨rfl, List.mem_append_right _ (List.mem_singleton_self _)⟩

variable {id' : Uuid} {f : Record → Record}

theorem writeRecord_moves (hf : ∀ r, (f r).id = r.id) (hr : db.records.row id' = some r)
    (hr' : (db.writeRecord id f hf).records.row id' = some r') : (id' = id ∧ r' = f r) ∨ r' = r := by
  rw [writeRecord_row hf, hr] at hr'
  split at hr'
  · rename_i hid
    cases hr'
    exact .inl ⟨hid, rfl⟩
  · cases hr'
    exact .inr rfl

theorem Records.write_row {t : Records} {selected : Record → Bool} {f : Record → Record} (hf : ∀ r, (f r).id = r.id)
    (hr : t.row id = some r) : (t.write selected f hf).row id = some (if selected r then f r else r) := by
  unfold Records.row Records.write rowAt
  rw [find_map_row]
  · have h : t.rows.find? (fun r => decide (r.id = id)) = some r := hr
    rw [h]
    rfl
  · intro r
    split
    · exact hf r
    · rfl

theorem cleanup_moves {limit : Nat} (hr : db.records.row id = some r)
    (hr' : (cleanupExpired limit now db).2.records.row id = some r') : Moves lib step db r r' := by
  have hrow : (cleanupExpired limit now db).2.records.row id =
      some (if ((expiring limit now db.records).map (·.id)).contains r.id then r.cleaned else r) :=
    @Records.write_row id r db.records _ Record.cleaned (fun _ => rfl) hr
  have heq : some r' = some _ := hr'.symm.trans hrow
  cases heq
  split
  · by_cases hs : r.status = .pendingReview
    · exact .closed (.inr (if_pos hs))
    · exact .kept (if_neg hs) rfl
  · exact .kept rfl rfl

theorem insert_row {t : Records} {x : Record} (hx : (t.insert x).row id = some r') :
    t.row id = some r' ∨ (t.row id = none ∧ r' = x) := by
  unfold Records.insert at hx
  split at hx
  · have hor : (t.row id).or (if x.id = id then some x else none) = some r' := by
      rw [← hx]
      exact (rowAt_append_row t.rows x).symm
    cases h : t.row id with
    | some r => rw [h] at hor; exact .inl hor
    | none =>
      rw [h, Option.none_or] at hor
      split at hor
      · cases hor
        exact .inr ⟨rfl, rfl⟩
      · cases hor
  · exact .inl hx

theorem capture_moves {x : Captured} (hr : db.records.row id = some r)
    (hr' : (captureInvalid x db).records.row id = some r') : Moves lib step db r r' := by
  unfold captureInvalid at hr'
  split at hr'
  · rcases writeRecord_moves (f := Record.seenAgain) (fun _ => rfl) hr hr' with ⟨-, rfl⟩ | rfl <;> exact .kept rfl rfl
  · rcases insert_row hr' with h | ⟨h, -⟩
    · cases hr.symm.trans h
      exact .kept rfl rfl
    · rw [hr] at h
      cases h

variable {c : Reviewer}

theorem review_moves {recordVersion : Int}
    (hr : db.records.row id = some r)
    (hr' : (review lib c id' targetState recordVersion now db).2.records.row id = some r') :
    Moves lib (.request c (.review id' targetState recordVersion now)) db r r' := by
  have hkept : db.records.row id = some r' → Moves lib (.request c (.review id' targetState recordVersion now)) db r r' := by
    intro h
    cases hr.symm.trans h
    exact .kept rfl rfl
  unfold review at hr'
  rcases onRecord_cases lib c _ _ db _ with ⟨e, he⟩ | ⟨r₀, hr₀, ha, hact⟩
  · rw [he] at hr'
    exact hkept hr'
  rw [hact] at hr'
  split at hr'
  · exact hkept hr'
  rename_i hversion
  split at hr'
  · exact hkept hr'
  rename_i target hvalid
  rcases writeRecord_moves (f := (·.reviewed target c.reviewer now)) (fun _ => rfl) hr hr' with ⟨hid, rfl⟩ | rfl
  · subst hid
    cases hr.symm.trans hr₀
    have hid : r.id = id := Records.row_id hr
    rw [← hid]
    exact .reviewed c targetState recordVersion now target rfl ha (not_not.1 hversion) hvalid rfl
  · exact .kept rfl rfl

variable {d : Draws}

theorem createCorrection_moves {correctedPayload : Obj} {correctionReason : String}
    (hr : db.records.row id = some r)
    (hr' : (createCorrection lib c id' correctedPayload correctionReason d db).2.records.row id = some r') :
    Moves lib step db r r' := by
  have hkept : db.records.row id = some r' → Moves lib step db r r' := by
    intro h
    cases hr.symm.trans h
    exact .kept rfl rfl
  unfold createCorrection at hr'
  rcases onRecord_cases lib c _ _ db _ with ⟨e, he⟩ | ⟨r₀, hr₀, ha, hact⟩
  · rw [he] at hr'
    exact hkept hr'
  rw [hact] at hr'
  split at hr'
  · exact hkept hr'
  split at hr'
  · exact hkept hr'
  dsimp only at hr'
  split at hr'
  · exact hkept hr'
  rcases writeRecord_moves (f := Record.corrected) (fun _ => rfl) hr hr' with ⟨-, rfl⟩ | rfl <;> exact .kept rfl rfl

theorem reprocess_moves (hr : db.records.row id = some r)
    (hr' : (reprocess lib c id' d now db).2.records.row id = some r') :
    Moves lib (.request c (.reprocess id' d now)) db r r' := by
  have hkept : db.records.row id = some r' → Moves lib (.request c (.reprocess id' d now)) db r r' := by
    intro h
    cases hr.symm.trans h
    exact .kept rfl rfl
  rcases reprocess_cases lib c id' d now db with ⟨e, he⟩ | ⟨r₀, unit, hr₀, ha, hunit, hact⟩
  · rw [he] at hr'
    exact hkept hr'
  rw [hact] at hr'
  rcases replayRecord_reprocesses lib c id' d now db r₀ unit with ⟨e, result⟩ | ⟨-, result⟩ | ⟨replay, e, hstatus, -, -, -, records, -, -⟩ |
    ⟨replay, event, existing, db', hstatus, hprepared, hpolicy, hensured, -, records, events, -⟩
  · rw [result] at hr'
    exact hkept hr'
  · rw [result] at hr'
    exact hkept hr'
  · rw [records] at hr'
    rcases writeRecord_moves (f := (·.denied c.reviewer now)) (fun _ => rfl) hr hr' with ⟨-, rfl⟩ | rfl
    · exact .closed (.inl rfl)
    · exact .kept rfl rfl
  · rw [records] at hr'
    rcases writeRecord_moves (f := (·.replayedAs event.id c.reviewer now)) (fun _ => rfl) hr hr' with ⟨hid, rfl⟩ | rfl
    · subst hid
      cases hr.symm.trans hr₀
      have hid : r.id = id := Records.row_id hr
      obtain ⟨horiginal, hmem⟩ := ensureEvent_event hensured
      obtain ⟨encrypted, raw, request, hpayload, hraw, hloads, hvalid, hrequest, hevaluate⟩ := prepareReplay_some hprepared
      rw [← hid] at hr hact events ⊢
      refine .replayed c d now event rfl hstatus ⟨(authorize_record.1 ha).1, ?_, rfl⟩ ?_
      · refine ⟨r, unit, encrypted, _, raw, _, request, _, hr, hunit, hstatus, hpayload, hraw, hloads, ?_, ?_, hevaluate, ?_⟩
        · rw [horiginal]
          exact hvalid
        · rw [horiginal]
          exact hrequest
        · exact hpolicy
      · show event ∈ (reprocess lib c r.id d now db).2.events
        rw [hact, events]
        exact hmem
    · exact .kept rfl rfl

theorem next_moves (hr : db.records.row id = some r) (hr' : (step.next lib db).records.row id = some r') :
    Moves lib step db r r' := by
  have hkept : db.records.row id = some r' → Moves lib step db r r' := by
    intro h
    cases hr.symm.trans h
    exact .kept rfl rfl
  cases step with
  | cleanup limit now => exact cleanup_moves hr hr'
  | capture x => exact capture_moves hr hr'
  | accept e => exact hkept hr'
  | request c q =>
    cases q with
    | listRecords businessUnit =>
      refine hkept ?_
      rw [← hr']
      simp only [Step.next, Request.run, listRecords]
      split <;> rfl
    | detail id' =>
      refine hkept ?_
      rw [← hr']
      simp only [Step.next, Request.run, detail]
      rcases onRecord_cases lib c _ _ db _ with ⟨e, he⟩ | ⟨r₀, -, -, hact⟩
      · rw [he]
      · rw [hact]
    | review id' targetState recordVersion now => exact review_moves hr hr'
    | createCorrection id' correctedPayload correctionReason d => exact createCorrection_moves hr hr'
    | reprocess id' d now => exact reprocess_moves hr hr'

/-! ## What every step keeps -/

/-- A step that adds no record and drops no event. -/
structure Keeps (db db' : Db) : Prop where
  absent : ∀ id, db.records.row id = none → db'.records.row id = none
  events : db.events <+: db'.events

theorem Keeps.refl : Keeps db db := ⟨fun _ h => h, List.prefix_rfl⟩

theorem writeRecord_absent (hf : ∀ r, (f r).id = r.id) (h : db.records.row id' = none) :
    (db.writeRecord id f hf).records.row id' = none := by
  rw [writeRecord_row hf, h]
  simp

theorem onRecord_keeps {required : String} {act : Record → Result} (h : ∀ r, Keeps db (act r).2) :
    Keeps db (onRecord lib required c id db act).2 := by
  rcases onRecord_cases lib c _ _ db _ with ⟨e, he⟩ | ⟨r, -, -, hact⟩
  · rw [he]
    exact .refl
  · rw [hact]
    exact h r

theorem reprocess_keeps : Keeps db (reprocess lib c id d now db).2 := by
  rcases reprocess_cases lib c id d now db with ⟨e, he⟩ | ⟨r, unit, -, -, -, hact⟩
  · rw [he]
    exact .refl
  rw [hact]
  rcases replayRecord_reprocesses lib c id d now db r unit with ⟨e, result⟩ | ⟨-, result⟩ | ⟨replay, e, -, -, -, -, records, events, -⟩ |
    ⟨replay, event, existing, db', -, -, -, hensured, -, records, events, -⟩
  · rw [result]
    exact .refl
  · rw [result]
    exact .refl
  · refine ⟨fun id' h => ?_, ?_⟩
    · rw [records]
      exact writeRecord_absent (f := (·.denied c.reviewer now)) (fun _ => rfl) h
    · rw [events]
  · refine ⟨fun id' h => ?_, ?_⟩
    · rw [records]
      exact writeRecord_absent (f := (·.replayedAs event.id c.reviewer now)) (fun _ => rfl) h
    · rw [events]
      unfold ensureEvent at hensured
      split at hensured <;> cases hensured
      · exact List.prefix_rfl
      · exact List.prefix_append _ _

theorem request_keeps {q : Request} : Keeps db (q.run lib c db).2 := by
  cases q with
  | listRecords businessUnit =>
    simp only [Request.run, listRecords]
    split <;> exact .refl
  | detail id' => exact onRecord_keeps fun _ => .refl
  | review id' targetState recordVersion now =>
    refine onRecord_keeps fun r => ?_
    split
    · exact .refl
    split
    · exact .refl
    · exact ⟨fun _ h => writeRecord_absent (f := (·.reviewed _ c.reviewer now)) (fun _ => rfl) h, List.prefix_rfl⟩
  | createCorrection id' correctedPayload correctionReason d =>
    refine onRecord_keeps fun r => ?_
    split
    · exact .refl
    split
    · exact .refl
    dsimp only
    split
    · exact .refl
    · exact ⟨fun _ h => writeRecord_absent (f := Record.corrected) (fun _ => rfl) h, List.prefix_rfl⟩
  | reprocess id' d now => exact reprocess_keeps

theorem Records.write_absent {t : Records} {selected : Record → Bool} (hf : ∀ r, (f r).id = r.id)
    (h : t.row id = none) : (t.write selected f hf).row id = none := by
  unfold Records.row Records.write rowAt
  rw [find_map_row]
  · have h : t.rows.find? (fun r => decide (r.id = id)) = none := h
    rw [h]
    rfl
  · intro r
    split
    · exact hf r
    · rfl

theorem next_keeps : db.events <+: (step.next lib db).events ∧
    ∀ r', (step.next lib db).records.row id = some r' → db.records.row id = none → r'.status = .pendingReview := by
  have hkeeps : ∀ db', Keeps db db' → db.events <+: db'.events ∧
      ∀ r', db'.records.row id = some r' → db.records.row id = none → r'.status = .pendingReview := by
    rintro db' ⟨habsent, hevents⟩
    refine ⟨hevents, fun r' hr' hnone => ?_⟩
    rw [habsent id hnone] at hr'
    cases hr'
  cases step with
  | request c q => exact hkeeps _ request_keeps
  | cleanup limit now =>
    exact hkeeps _ ⟨fun _ h => Records.write_absent (f := Record.cleaned) (fun _ => rfl) h, List.prefix_rfl⟩
  | accept e => exact hkeeps _ ⟨fun _ h => h, List.prefix_append _ _⟩
  | capture x =>
    simp only [Step.next, captureInvalid]
    split
    · exact hkeeps _ ⟨fun _ h => writeRecord_absent (f := Record.seenAgain) (fun _ => rfl) h, List.prefix_rfl⟩
    · refine ⟨List.prefix_rfl, fun r' hr' hnone => ?_⟩
      rcases insert_row hr' with h | ⟨-, rfl⟩
      · rw [hnone] at h
        cases h
      · rfl

theorem reprocess_replayed (hr : db.records.row id = some r)
    (hs : r.status = .replayed) : (reprocess lib c id d now db).2 = db := by
  rcases reprocess_cases lib c id d now db with ⟨e, he⟩ | ⟨r₀, unit, hr₀, -, -, hact⟩
  · rw [he]
  · cases hr.symm.trans hr₀
    rw [hact]
    unfold replayRecord
    rw [if_pos hs]

end Steps

/-! ## Runs -/

/-- The tables before any record was captured, with the events that were accepted. -/
def Db.fresh (events : List IntegrationEvent) (nextEventId : Nat) : Db := { events := events, nextEventId := nextEventId }

/-- The tables after the steps of a run. -/
def after (lib : Library) (db : Db) (steps : List Step) : Db := runFrom (Step.next lib) db steps

/-- A replayed record is one that a reprocess call of the run replayed; its event is there. -/
def ReplayedInRun (lib : Library) (db : Db) (steps : List Step) (r : Record) : Prop :=
  ∃ before later c d now event, steps = before ++ .request c (.reprocess r.id d now) :: later ∧
    Replays lib c r.id d now (after lib db before) r.replayedEventId event ∧ event ∈ (after lib db steps).events

/-- A review brings no record to REPLAYING or REPLAYED. -/
def ReviewStays (lib : Library) (db : Db) (step : Step) : Prop :=
  ∀ c id targetState recordVersion now, step = .request c (.review id targetState recordVersion now) →
    ∀ id' r r', db.records.row id' = some r → (step.next lib db).records.row id' = some r' →
      r'.status = .replaying ∨ r'.status = .replayed → r'.status = r.status

/-- Reprocessing a replayed record adds no event. -/
def ReplaysOnce (lib : Library) (db : Db) (step : Step) : Prop :=
  ∀ c id d now r, step = .request c (.reprocess id d now) → db.records.row id = some r → r.status = .replayed →
    (step.next lib db).events = db.events

/-- A replay needs the replay path, in every state of a run and at every step. -/
structure ReplayPath (lib : Library) (db : Db) (steps : List Step) : Prop where
  replayed : ∀ before, before <+: steps → ∀ r ∈ (after lib db before).records.rows, r.status = .replayed →
    ReplayedInRun lib db before r
  reviews : Always (Step.next lib) (ReviewStays lib) db steps
  once : Always (Step.next lib) (ReplaysOnce lib) db steps

/-- A review that passes its checks names neither REPLAYING nor REPLAYED as its target. -/
def ReviewTargets (lib : Library) (db : Db) (step : Step) : Prop :=
  ∀ c id targetState recordVersion now, step = .request c (.review id targetState recordVersion now) →
    ∀ r, db.records.row id = some r → authorize lib "quarantine:review" c (r.businessUnit.map (·.1)) = .ok () →
      r.recordVersion = recordVersion → (r.status.transition targetState).isSome = true →
      targetState ≠ "REPLAYING" ∧ targetState ≠ "REPLAYED"

section Runs

variable {lib : Library} {db : Db} {step : Step} {steps : List Step}

theorem replaysOnce : ReplaysOnce lib db step := by
  rintro c id d now r rfl hr hs
  show (reprocess lib c id d now db).2.events = _
  rw [reprocess_replayed hr hs]

theorem review_stays (h : ReviewTargets lib db step) : ReviewStays lib db step := by
  rintro c id targetState recordVersion now rfl id' r r' hr hr' hs
  rcases next_moves hr hr' with ⟨status, -⟩ | ⟨c', targetState', _, _, target, step_eq, authorized, version, valid, status⟩ |
    ⟨status⟩ | ⟨_, _, _, _, step_eq, -, -, -⟩
  · exact status
  · cases step_eq
    -- the review passed its checks, so its target is another one
    obtain ⟨hreplaying, hreplayed⟩ := h c _ targetState recordVersion now rfl r (by rw [Records.row_id hr]; exact hr)
      authorized version (by rw [valid]; rfl)
    obtain ⟨-, hvalue⟩ := transition_mem valid
    rw [status] at hs
    rcases hs with rfl | rfl
    · exact absurd hvalue.symm hreplaying
    · exact absurd hvalue.symm hreplayed
  · rcases status with status | status <;> rw [status] at hs <;> simp at hs
  · cases step_eq

/-- A review with such a target that passes its checks leaves the review path. -/
theorem review_targets (h : ReviewStays lib db step) : ReviewTargets lib db step := by
  rintro c id targetState recordVersion now rfl r hr ha hv ht
  obtain ⟨target, htarget⟩ := Option.isSome_iff_exists.1 ht
  obtain ⟨hmem, hvalue⟩ := transition_mem htarget
  have hrow : (review lib c id targetState recordVersion now db).2.records.row id =
      some (r.reviewed target c.reviewer now) := by
    unfold review
    rw [onRecord_found hr ha, if_neg (not_not.2 hv), htarget]
    refine (writeRecord_row (f := (·.reviewed target c.reviewer now)) fun _ => rfl).trans ?_
    rw [if_pos rfl, hr]
    rfl
  have hstays := h c id targetState recordVersion now rfl id r _ hr hrow
  have hnot : target ≠ .replaying ∧ target ≠ .replayed := by
    constructor
    all_goals
      rintro rfl
      have hsame : _ = r.status := hstays (by simp [Record.reviewed])
      rw [← hsame] at hmem
      simp [Record.reviewed, Status.transitions] at hmem
  rw [← hvalue]
  revert hnot
  cases target <;> simp [Status.value]

theorem ReplayedInRun.next {r : Record} (h : ReplayedInRun lib db steps r) {r' : Record} (hid : r'.id = r.id)
    (hevent : r'.replayedEventId = r.replayedEventId) : ReplayedInRun lib db (steps ++ [step]) r' := by
  obtain ⟨before, later, c, d, now, event, rfl, hreplays, hmem⟩ := h
  refine ⟨before, later ++ [step], c, d, now, event, ?_, ?_, ?_⟩
  · rw [hid, List.append_assoc]
    rfl
  · rw [hid, hevent]
    exact hreplays
  · unfold after at hmem ⊢
    rw [runFrom_concat]
    exact (@next_keeps lib step (runFrom (Step.next lib) db (before ++ .request c (.reprocess r.id d now) :: later)) r.id).1.subset
      hmem

end Runs

/-- A run replays by the replay path alone exactly when none of its reviews names REPLAYING or REPLAYED as its target and
passes the checks of the endpoint. -/
theorem replay_path_iff (lib : Library) (events : List IntegrationEvent) (nextEventId : Nat) (steps : List Step) :
    ReplayPath lib (Db.fresh events nextEventId) steps ↔
      Always (Step.next lib) (ReviewTargets lib) (Db.fresh events nextEventId) steps := by
  constructor
  · exact fun h => h.reviews.mono fun _ _ => review_targets
  intro h
  refine ⟨?_, h.mono fun _ _ => review_stays, always_iff.2 fun _ _ _ _ => replaysOnce⟩
  intro before hbefore
  refine (h.take hbefore).induction (I := fun steps db => ∀ r ∈ db.records.rows, r.status = .replayed →
    ReplayedInRun lib (Db.fresh events nextEventId) steps r) ?_ ?_
  · intro r hr
    cases hr
  intro steps step _ hI htargets r' hr' hs
  have hrow' := Records.row_of_mem hr'
  cases hrow : (runFrom (Step.next lib) (Db.fresh events nextEventId) steps).records.row r'.id with
  | none =>
    have hpending := next_keeps.2 r' hrow' hrow
    rw [hpending] at hs
    cases hs
  | some r =>
    have hid : r.id = r'.id := Records.row_id hrow
    have hmem := Records.mem_of_row hrow
    rcases next_moves hrow hrow' with ⟨status, eventId⟩ | ⟨c, targetState, recordVersion, now, target, step_eq, -, -, valid, -⟩ |
      ⟨status⟩ | ⟨c, d, now, event, step_eq, -, replays, mem⟩
    · exact (hI r hmem (status ▸ hs)).next hid.symm eventId
    · -- a review keeps a replayed record, which has no transition
      have hsame := review_stays htargets c r.id targetState recordVersion now step_eq r'.id r r' hrow hrow' (.inr hs)
      obtain ⟨hedge, -⟩ := transition_mem valid
      rw [← hsame, hs] at hedge
      cases hedge
    · rcases status with status | status <;> rw [status] at hs <;> cases hs
    · rw [hid] at step_eq replays
      refine ⟨steps, [], c, d, now, event, by rw [step_eq], replays, ?_⟩
      unfold after
      rw [runFrom_concat]
      exact mem

/-! ## Reviews that replay -/

namespace Reviewed

def captured : Captured :=
  { id := "a", serverCorrelationId := "corr", publisherId := "publisher-test", keyId := "key-1", digest := "f",
    encrypted := some ⟨[1], [2], "k1"⟩, preview := .obj [], reason := "schema_rejected",
    businessUnit := some ⟨"synthetic-unit", by decide⟩, now := 0, retentionPolicyVersion := "v1", retentionDeadline := 10 }

/-- One reviewer without the replay scope takes the record along `TRANSITIONS`. -/
def steps : List Step :=
  .capture captured :: (["UNDER_REVIEW", "REPLAY_APPROVED", "REPLAYING", "REPLAYED"].zipIdx 1).map fun t =>
    .request Synthetic.reviewer (.review "a" t.1 t.2 5)

end Reviewed

/-- Four reviews bring a record to REPLAYED: nothing was decrypted, and it refers to no event. -/
theorem reviews_replay : ¬ReplayPath Synthetic.lib (Db.fresh [] 1) Reviewed.steps ∧
    ((after Synthetic.lib (Db.fresh [] 1) Reviewed.steps).records.rows.map fun r => (r.id, r.status, r.replayedEventId)) =
      [("a", .replayed, none)] ∧
    (authorizeScope Synthetic.lib "quarantine:replay" Synthetic.reviewer).isOk = false := by
  refine ⟨?_, by decide, by decide⟩
  intro h
  obtain ⟨r, hr, hs⟩ : ∃ r ∈ (after Synthetic.lib (Db.fresh [] 1) Reviewed.steps).records.rows, r.status = .replayed :=
    ⟨_, List.mem_cons_self, by decide⟩
  obtain ⟨before, later, c, d, now, event, hsteps, -⟩ := h.replayed Reviewed.steps List.prefix_rfl r hr hs
  -- no step of the run reprocesses
  have hmem : Step.request c (.reprocess r.id d now) ∈ Reviewed.steps := by
    rw [hsteps]
    exact List.mem_append_right _ List.mem_cons_self
  simp [Reviewed.steps] at hmem

end Middleware.Quarantine

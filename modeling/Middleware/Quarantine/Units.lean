/-
Isolation of business units. `_authorize` checks a unit only where there is one, so a list without a unit and a record
without one are open to every reviewer of the scope. Every request is isolated exactly when it is `Guarded`, and guarded
requests see the same records in all tables that agree on the reviewer's units.
-/
import Middleware.Quarantine.Requests

namespace Middleware.Quarantine

open Ledger Lib Policy

/-! ## Isolation -/

def Reviewer.Holds (c : Reviewer) (unit : Option BusinessUnit) : Prop := ∃ u, unit = some u ∧ u.1 ∈ c.units

/-- The records whose content an answer gives; a correction and a replay answer about their record. -/
def answerViews (q : Request) (db : Db) : Except HttpException Response → List View
  | .error _ => []
  | .ok (.items views) => views
  | .ok (.view v) => [v]
  | .ok (.correction ..) | .ok (.reprocessed ..) => ((q.recordId.bind db.records.row).map (·.toView)).toList

/-- The records a reviewer sees with a request. -/
def seen (lib : Library) (c : Reviewer) (q : Request) (db : Db) : List View := answerViews q db (q.run lib c db).1

/-- Every record that is seen or changed is of one of the reviewer's units. -/
structure Isolated (lib : Library) (c : Reviewer) (q : Request) (db : Db) : Prop where
  seen : ∀ v ∈ seen lib c q db, c.Holds v.businessUnit
  changed : ∀ r ∈ db.records.rows, (q.run lib c db).2.records.row r.id ≠ some r → c.Holds r.businessUnit

def Named (businessUnit : Option String) : Prop := ∃ unit, businessUnit = some unit ∧ unit ≠ ""

/-- The checks of an endpoint on its record, the unit apart. Reprocessing has a check of its own on the unit. -/
def Request.Admits (lib : Library) (c : Reviewer) : Request → Record → Prop
  | .listRecords _, _ | .reprocess .., _ => False
  | .detail _, _ => authorizeScope lib "quarantine:read" c = .ok ()
  | .review _ targetState recordVersion _, r =>
    authorizeScope lib "quarantine:review" c = .ok () ∧ r.recordVersion = recordVersion ∧
      (r.status.transition targetState).isSome = true
  | .createCorrection _ correctedPayload correctionReason _, r =>
    authorizeScope lib "quarantine:review" c = .ok () ∧ r.status = .correctable ∧
      (strip correctionReason).isEmpty = false ∧ correctionReason.length ≤ 512 ∧
      (dumps true (.obj correctedPayload)).toUTF8.toList.length ≤ lib.requestMaxBytes

/-- A list names its unit, or happens to hold only the reviewer's; an admitted record has a unit. -/
def Guarded (lib : Library) (c : Reviewer) (q : Request) (db : Db) : Prop :=
  match q with
  | .listRecords businessUnit => authorizeScope lib "quarantine:read" c = .ok () →
      Named businessUnit ∨ ∀ r ∈ listed none db, c.Holds r.businessUnit
  | q => ∀ id r, q.recordId = some id → db.records.row id = some r → q.Admits lib c r → r.businessUnit.isSome = true

section Lists

variable {lib : Library} {c : Reviewer} {db db' : Db} {businessUnit : Option String}

theorem listed_named {unit : String} (hu : unit ≠ "") : listed (some unit) db =
    ((db.records.rows.filter fun r => r.businessUnit.any fun u : BusinessUnit => u.val == unit).insertionSort
      newestFirst).take 100 := by
  unfold listed
  split
  · rename_i h
    cases h
  · rename_i h
    cases h
    exact absurd rfl hu
  · rename_i h
    cases h
    rfl

theorem listed_unnamed (h : ¬Named businessUnit) : listed businessUnit db = listed none db := by
  cases businessUnit with
  | none => rfl
  | some unit =>
    have hu : unit = "" := by
      by_contra hu
      exact h ⟨unit, rfl, hu⟩
    rw [hu]
    rfl

theorem mem_listed {unit : String} {r : Record} (hu : unit ≠ "") (h : r ∈ listed (some unit) db) :
    ∃ u : BusinessUnit, r.businessUnit = some u ∧ u.1 = unit := by
  rw [listed_named hu] at h
  have hmem := (List.mem_insertionSort _).1 (List.mem_of_mem_take h)
  obtain ⟨-, hunit⟩ := List.mem_filter.1 hmem
  obtain ⟨u, hu, heq⟩ := (Option.any_eq_true _ _).1 hunit
  exact ⟨u, hu, by simpa using heq⟩

theorem refused_isolated {q : Request} {e : HttpException} (h : q.run lib c db = (.error e, db)) :
    Isolated lib c q db := by
  refine ⟨?_, ?_⟩
  · unfold seen
    rw [h]
    simp [answerViews]
  · intro r hr hne
    rw [h] at hne
    exact absurd (Records.row_of_mem hr) hne

/-- A request that shows and changes one record of the reviewer's units is isolated. -/
theorem record_isolated {q : Request} {id : Uuid} {r : Record} (hr : db.records.row id = some r)
    (hholds : c.Holds r.businessUnit) (hseen : ∀ v ∈ seen lib c q db, v.businessUnit = r.businessUnit)
    (hothers : ∀ id', id' ≠ id → (q.run lib c db).2.records.row id' = db.records.row id') : Isolated lib c q db := by
  refine ⟨?_, ?_⟩
  · intro v hv
    rw [hseen v hv]
    exact hholds
  · intro r' hr' hne
    by_cases hid : r'.id = id
    · have hrow := Records.row_of_mem hr'
      rw [hid, hr] at hrow
      cases hrow
      exact hholds
    · rw [hothers r'.id hid] at hne
      exact absurd (Records.row_of_mem hr') hne

theorem listRecords_isolated :
    Isolated lib c (.listRecords businessUnit) db ↔ Guarded lib c (.listRecords businessUnit) db := by
  cases ha : authorize lib "quarantine:read" c businessUnit with
  | error e =>
    have hrun : Request.run lib c (.listRecords businessUnit) db = (.error e, db) := by
      simp only [Request.run, listRecords, ha]
    constructor
    · intro _ hscope
      left
      by_contra hnot
      -- a unit that is not named is not checked
      have hok : authorize lib "quarantine:read" c businessUnit = .ok () :=
        authorize_ok.2 ⟨hscope, fun unit hunit hne => absurd ⟨unit, hunit, hne⟩ hnot⟩
      rw [ha] at hok
      cases hok
    · exact fun _ => refused_isolated hrun
  | ok _ =>
    obtain ⟨hscope, hunits⟩ := authorize_ok.1 ha
    have hrun : Request.run lib c (.listRecords businessUnit) db =
        (.ok (.items ((listed businessUnit db).map (·.toView))), db) := by
      simp only [Request.run, listRecords, ha]
    have hisolated : Isolated lib c (.listRecords businessUnit) db ↔ ∀ r ∈ listed businessUnit db, c.Holds r.businessUnit := by
      constructor
      · intro h r hr
        refine h.seen r.toView ?_
        unfold seen
        rw [hrun]
        exact List.mem_map_of_mem hr
      · intro h
        refine ⟨?_, ?_⟩
        · intro v hv
          unfold seen at hv
          rw [hrun] at hv
          obtain ⟨r, hr, rfl⟩ := List.mem_map.1 hv
          exact h r hr
        · intro r hr hne
          rw [hrun] at hne
          exact absurd (Records.row_of_mem hr) hne
    rw [hisolated]
    by_cases hn : Named businessUnit
    · obtain ⟨unit, rfl, hne⟩ := hn
      refine ⟨fun _ _ => .inl ⟨unit, rfl, hne⟩, fun _ r hr => ?_⟩
      obtain ⟨u, hu, rfl⟩ := mem_listed hne hr
      exact ⟨u, hu, hunits u.1 rfl hne⟩
    · rw [listed_unnamed hn]
      constructor
      · exact fun h _ => .inr h
      · intro h
        rcases h hscope with hn' | h
        · exact absurd hn' hn
        · exact h

end Lists

section Endpoints

variable {lib : Library} {c : Reviewer} {q : Request} {required : String} {id : Uuid} {db : Db} {act : Record → Result}
  {r : Record}

/-- An endpoint that answers about its record when it admits it, and refuses it otherwise. -/
structure Acts (lib : Library) (c : Reviewer) (q : Request) (db : Db) (required : String) (id : Uuid)
    (act : Record → Result) : Prop where
  recordId : q.recordId = some id
  run : q.run lib c db = onRecord lib required c id db act
  scope : ∀ r, q.Admits lib c r → authorizeScope lib required c = .ok ()
  refuses : ∀ r, db.records.row id = some r → authorizeScope lib required c = .ok () → ¬q.Admits lib c r →
    ∃ e, act r = (.error e, db)
  answers : ∀ r, db.records.row id = some r → q.Admits lib c r → ∃ v, answerViews q db (act r).1 = [v] ∧
    v.businessUnit = r.businessUnit
  others : ∀ r id', id' ≠ id → (act r).2.records.row id' = db.records.row id'

theorem acts_isolated (h : Acts lib c q db required id act) :
    Isolated lib c q db ↔ ∀ r, db.records.row id = some r → q.Admits lib c r → r.businessUnit.isSome = true := by
  constructor
  · intro hi r hr hadmits
    by_contra hnone
    simp only [Bool.not_eq_true, Option.isSome_eq_false_iff, Option.isNone_iff_eq_none] at hnone
    have ha : authorize lib required c (r.businessUnit.map (·.1)) = .ok () :=
      authorize_record.2 ⟨h.scope r hadmits, fun u hu => by rw [hnone] at hu; cases hu⟩
    obtain ⟨v, hv, hunit⟩ := h.answers r hr hadmits
    have hseen : v ∈ seen lib c q db := by
      unfold seen
      rw [h.run, onRecord_found hr ha, hv]
      exact List.mem_singleton_self v
    obtain ⟨u, hu, -⟩ := hi.seen v hseen
    rw [hunit, hnone] at hu
    cases hu
  · intro hguard
    rcases onRecord_cases lib c required id db act with ⟨e, he⟩ | ⟨r, hr, ha, hact⟩
    · exact refused_isolated (h.run.trans he)
    obtain ⟨hscope, hunits⟩ := authorize_record.1 ha
    by_cases hadmits : q.Admits lib c r
    swap
    · obtain ⟨e, he⟩ := h.refuses r hr hscope hadmits
      exact refused_isolated ((h.run.trans hact).trans he)
    obtain ⟨u, hu⟩ := Option.isSome_iff_exists.1 (hguard r hr hadmits)
    have hholds : c.Holds r.businessUnit := ⟨u, hu, hunits u hu⟩
    refine record_isolated hr hholds ?_ ?_
    · intro v hv
      obtain ⟨v', hv', hunit⟩ := h.answers r hr hadmits
      rw [seen, h.run, hact, hv', List.mem_singleton] at hv
      rw [hv, hunit]
    · intro id' hid
      rw [h.run, hact, h.others r id' hid]

theorem detail_acts : Acts lib c (.detail id) db "quarantine:read" id fun r => (.ok (.view r.toView), db) where
  recordId := rfl
  run := rfl
  scope _ h := h
  refuses _ _ hs hn := absurd hs hn
  answers r _ _ := ⟨r.toView, rfl, rfl⟩
  others _ _ _ := rfl

theorem review_acts (lib : Library) (c : Reviewer) (id : Uuid) (db : Db) (targetState : String) (recordVersion : Int)
    (now : Time) :
    ∃ act, Acts lib c (.review id targetState recordVersion now) db "quarantine:review" id act := by
  refine ⟨_, rfl, rfl, fun r h => h.1, ?_, ?_, ?_⟩
  · intro r hr hs hn
    split
    · exact ⟨_, rfl⟩
    · rename_i hv
      split
      · exact ⟨_, rfl⟩
      · rename_i target ht
        refine absurd ⟨hs, ?_, ?_⟩ hn
        · simpa using hv
        · rw [ht]
          rfl
  · rintro r hr ⟨-, hv, ht⟩
    obtain ⟨target, ht⟩ := Option.isSome_iff_exists.1 ht
    simp only [hv, ne_eq, not_true_eq_false, if_false, ht]
    exact ⟨_, rfl, rfl⟩
  · intro r id' hid
    split
    · rfl
    · split
      · rfl
      · exact (writeRecord_row (f := (·.reviewed _ c.reviewer now)) fun _ => rfl).trans (if_neg hid)

theorem createCorrection_acts (lib : Library) (c : Reviewer) (id : Uuid) (db : Db) (correctedPayload : Obj)
    (correctionReason : String) (d : Draws) :
    ∃ act, Acts lib c (.createCorrection id correctedPayload correctionReason d) db "quarantine:review" id act := by
  refine ⟨_, rfl, rfl, fun r h => h.1, ?_, ?_, ?_⟩
  · intro r hr hs hn
    simp only
    split
    · exact ⟨_, rfl⟩
    rename_i hstatus
    split
    · exact ⟨_, rfl⟩
    rename_i hreason
    split
    · exact ⟨_, rfl⟩
    rename_i hsize
    simp only [Bool.or_eq_true, decide_eq_true_eq, not_or, Bool.not_eq_true] at hreason
    refine absurd ⟨hs, ?_, hreason.1, ?_, ?_⟩ hn
    · simpa using hstatus
    · exact Nat.le_of_not_lt hreason.2
    · exact Nat.le_of_not_lt hsize
  · rintro r hr ⟨-, hstatus, hreason, hlength, hsize⟩
    have hrow : (Request.recordId (.createCorrection id correctedPayload correctionReason d)).bind db.records.row = some r := hr
    have hlength' : decide (512 < correctionReason.length) = false := by simpa using hlength
    simp only [hstatus, ne_eq, not_true_eq_false, if_false, hreason, hlength', Bool.or_false, Bool.false_eq_true,
      Nat.not_lt.2 hsize]
    refine ⟨r.toView, ?_, rfl⟩
    simp only [answerViews, hrow]
    rfl
  · intro r id' hid
    simp only
    split
    · rfl
    split
    · rfl
    split
    · rfl
    · exact (writeRecord_row (f := Record.corrected) fun _ => rfl).trans (if_neg hid)

/-- Reprocessing refuses a record without a unit. -/
theorem reprocess_isolated {d : Draws} {now : Time} : Isolated lib c (.reprocess id d now) db := by
  rcases reprocess_cases lib c id d now db with ⟨e, he⟩ | ⟨r, unit, hr, ha, hunit, hact⟩
  · exact refused_isolated he
  have hholds : c.Holds r.businessUnit := ⟨unit, hunit, (authorize_record.1 ha).2 unit hunit⟩
  have hrun : Request.run lib c (.reprocess id d now) db = replayRecord lib c id d now db r unit := hact
  have hrow : (Request.recordId (.reprocess id d now)).bind db.records.row = some r := hr
  have hviews : ∀ eventId duplicate, answerViews (.reprocess id d now) db (.ok (.reprocessed eventId duplicate)) =
      [r.toView] := by
    intro eventId duplicate
    simp only [answerViews, hrow]
    rfl
  rcases replayRecord_reprocesses lib c id d now db r unit with ⟨e, result⟩ | ⟨-, result⟩ | ⟨replay, e, -, -, -, reply, records, -, -⟩ |
    ⟨replay, event, existing, db', -, -, -, -, reply, records, -, -⟩
  · exact refused_isolated (hrun.trans result)
  · refine record_isolated hr hholds ?_ ?_
    · intro v hv
      rw [seen, hrun, result, hviews, List.mem_singleton] at hv
      rw [hv]
    · intro id' _
      rw [hrun, result]
  · refine record_isolated hr hholds ?_ ?_
    · intro v hv
      rw [seen, hrun, reply] at hv
      cases hv
    · intro id' hid
      rw [hrun, records]
      exact (writeRecord_row (f := (·.denied c.reviewer now)) fun _ => rfl).trans (if_neg hid)
  · refine record_isolated hr hholds ?_ ?_
    · intro v hv
      rw [seen, hrun, reply, hviews, List.mem_singleton] at hv
      rw [hv]
    · intro id' hid
      rw [hrun, records]
      exact (writeRecord_row (f := (·.replayedAs event.id c.reviewer now)) fun _ => rfl).trans (if_neg hid)

theorem isolated_iff_guarded : Isolated lib c q db ↔ Guarded lib c q db := by
  cases q with
  | listRecords businessUnit => exact listRecords_isolated
  | detail id =>
    rw [acts_isolated detail_acts]
    constructor
    · rintro h _ r ⟨⟩ hr
      exact h r hr
    · exact fun h r hr => h id r rfl hr
  | review id targetState recordVersion now =>
    obtain ⟨act, hact⟩ := review_acts lib c id db targetState recordVersion now
    rw [acts_isolated hact]
    constructor
    · rintro h _ r ⟨⟩ hr
      exact h r hr
    · exact fun h r hr => h id r rfl hr
  | createCorrection id correctedPayload correctionReason d =>
    obtain ⟨act, hact⟩ := createCorrection_acts lib c id db correctedPayload correctionReason d
    rw [acts_isolated hact]
    constructor
    · rintro h _ r ⟨⟩ hr
      exact h r hr
    · exact fun h r hr => h id r rfl hr
  | reprocess id d now =>
    refine ⟨?_, fun _ => reprocess_isolated⟩
    rintro - _ r - - ⟨⟩

end Endpoints

end Middleware.Quarantine

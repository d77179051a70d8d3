/-
Two tables that agree on the reviewer's units. A guarded request answers from the rows of these units alone, so a reviewer
sees the same records in both; without the guard the newest rows of all units are one selection, and a row without a unit
is everyone's.
-/
import Middleware.Quarantine.Units

namespace Middleware.Quarantine

open Ledger Lib Policy

/-! ## Selections -/

section Sorted

variable {α : Type} {le : α → α → Prop} [DecidableRel le] {p : α → Bool}

theorem filter_orderedInsert (htrans : ∀ a b c, le a b → le b c → le a c) {a : α} {l : List α} (hl : l.Pairwise le) :
    (l.orderedInsert le a).filter p = if p a then (l.filter p).orderedInsert le a else l.filter p := by
  induction l with
  | nil => cases h : p a <;> simp [h]
  | cons b l ih =>
    obtain ⟨hb, hl⟩ := List.pairwise_cons.1 hl
    by_cases hab : le a b
    · rw [List.orderedInsert_cons_of_le le l hab, List.filter_cons]
      split
      · -- every row behind `b` is behind `a` too
        have hall : ∀ c ∈ (b :: l).filter p, le a c := by
          intro c hc
          rcases List.mem_cons.1 (List.mem_filter.1 hc).1 with rfl | hc
          · exact hab
          · exact htrans a b c hab (hb c hc)
        cases hf : (b :: l).filter p with
        | nil => rfl
        | cons c rest =>
          rw [hf] at hall
          rw [List.orderedInsert_cons_of_le le rest (hall c List.mem_cons_self)]
      · rfl
    · rw [List.orderedInsert_of_not_le le l hab, List.filter_cons, List.filter_cons, ih hl]
      cases hpb : p b
      · simp
      · cases hpa : p a
        · simp
        · simp [List.orderedInsert_of_not_le le _ hab]

/-- A stable sort of the selected rows is the selection of the sorted ones. -/
theorem filter_insertionSort (htrans : ∀ a b c, le a b → le b c → le a c) (htotal : ∀ a b, le a b ∨ le b a) (l : List α) :
    (l.insertionSort le).filter p = (l.filter p).insertionSort le := by
  have : IsTrans α le := ⟨htrans⟩
  have : Std.Total le := ⟨htotal⟩
  induction l with
  | nil => rfl
  | cons a l ih =>
    rw [List.insertionSort_cons, filter_orderedInsert htrans (List.pairwise_insertionSort le l), ih, List.filter_cons]
    split
    · rw [List.insertionSort_cons]
    · rfl

theorem newestFirst_trans (a b c : Record) (hab : newestFirst a b) (hbc : newestFirst b c) : newestFirst a c :=
  le_trans hbc hab

theorem newestFirst_total (a b : Record) : newestFirst a b ∨ newestFirst b a :=
  le_total b.receivedAt a.receivedAt

/-- A page that holds only selected rows is the page of the selected rows. -/
theorem take_filter {l : List α} {n : Nat} (h : ∀ a ∈ l.take n, p a = true) : (l.filter p).take n = l.take n := by
  conv_lhs => rw [← List.take_append_drop n l, List.filter_append, List.filter_eq_self.2 h]
  by_cases hn : n ≤ l.length
  · have hlen : n ≤ (l.take n).length := by
      rw [List.length_take]
      omega
    rw [List.take_append_of_le_length hlen, List.take_take, Nat.min_self]
  · have hshort : l.length ≤ n := Nat.le_of_lt (Nat.not_le.1 hn)
    rw [List.drop_eq_nil_of_le hshort, List.filter_nil, List.append_nil, List.take_take, Nat.min_self]

end Sorted

/-! ## Two tables -/

/-- The record is of one of the reviewer's units. -/
def Reviewer.owns (c : Reviewer) (r : Record) : Bool := r.businessUnit.any fun u : BusinessUnit => decide (u.1 ∈ c.units)

/-- Two tables hold the same records of the reviewer's units, in the same order. -/
def SameUnits (c : Reviewer) (t t' : Records) : Prop := t.rows.filter c.owns = t'.rows.filter c.owns

def Db.withRecords (db : Db) (t : Records) : Db := { db with records := t }

section Tables

variable {lib : Library} {c : Reviewer} {q : Request} {db : Db} {t t' : Records} {id : Uuid} {r : Record}
  {businessUnit : Option String}

theorem owns_iff : c.owns r = true ↔ c.Holds r.businessUnit := by
  unfold Reviewer.owns Reviewer.Holds
  cases r.businessUnit <;> simp

theorem SameUnits.symm (h : SameUnits c t t') : SameUnits c t' t := Eq.symm h

theorem SameUnits.row (h : SameUnits c t t') (hr : t.row id = some r) (hholds : c.Holds r.businessUnit) :
    t'.row id = some r := by
  have hmem : r ∈ t.rows.filter c.owns := List.mem_filter.2 ⟨Records.mem_of_row hr, owns_iff.2 hholds⟩
  rw [h] at hmem
  rw [← Records.row_id hr]
  exact Records.row_of_mem (List.mem_filter.1 hmem).1

/-! ## Lists -/

theorem listed_owned {unit : String} (hne : unit ≠ "") (hunit : unit ∈ c.units) (h : SameUnits c t t') :
    listed (some unit) (db.withRecords t') = listed (some unit) (db.withRecords t) := by
  have hsub : ∀ rows : List Record, (rows.filter c.owns).filter
      (fun r => r.businessUnit.any fun u : BusinessUnit => u.val == unit) =
        rows.filter fun r => r.businessUnit.any fun u : BusinessUnit => u.val == unit := by
    intro rows
    rw [List.filter_filter]
    apply List.filter_congr
    intro r _
    unfold Reviewer.owns
    cases r.businessUnit with
    | none => rfl
    | some u =>
      by_cases hu : u.val = unit
      · simp [hu, hunit]
      · simp [hu]
  rw [listed_named hne, listed_named hne]
  show ((t'.rows.filter _).insertionSort newestFirst).take 100 = ((t.rows.filter _).insertionSort newestFirst).take 100
  rw [← hsub t'.rows, ← hsub t.rows, h]

/-- A page of the reviewer's units alone is the page of these units. -/
theorem listed_all (h : ∀ r ∈ listed none (db.withRecords t), c.Holds r.businessUnit) :
    listed none (db.withRecords t) = ((t.rows.filter c.owns).insertionSort newestFirst).take 100 := by
  rw [← filter_insertionSort newestFirst_trans newestFirst_total]
  exact (take_filter fun r hr => owns_iff.2 (h r hr)).symm

theorem list_same (h : SameUnits c t t') (hg : Guarded lib c (.listRecords businessUnit) (db.withRecords t))
    (hg' : Guarded lib c (.listRecords businessUnit) (db.withRecords t')) :
    seen lib c (.listRecords businessUnit) (db.withRecords t') =
      seen lib c (.listRecords businessUnit) (db.withRecords t) := by
  cases ha : authorize lib "quarantine:read" c businessUnit with
  | error e =>
    unfold seen
    simp only [Request.run, listRecords, ha, answerViews]
  | ok _ =>
    obtain ⟨hscope, hunits⟩ := authorize_ok.1 ha
    have hlisted : listed businessUnit (db.withRecords t') = listed businessUnit (db.withRecords t) := by
      by_cases hn : Named businessUnit
      · obtain ⟨unit, rfl, hne⟩ := hn
        exact listed_owned hne (hunits unit rfl hne) h
      · rw [listed_unnamed hn, listed_unnamed hn, listed_all ((hg hscope).resolve_left hn),
          listed_all ((hg' hscope).resolve_left hn), h]
    unfold seen
    simp only [Request.run, listRecords, ha, answerViews, hlisted]

/-! ## Records -/

theorem ensureEvent_answer (lib : Library) (r : Record) (replay : Replay) (correlationId : String) (db db' : Db)
    (hevents : db'.events = db.events)
    (hnext : db'.nextEventId = db.nextEventId) :
    (ensureEvent lib r replay correlationId db').1 = (ensureEvent lib r replay correlationId db).1 ∧
      (ensureEvent lib r replay correlationId db').2.1 = (ensureEvent lib r replay correlationId db).2.1 := by
  unfold ensureEvent
  rw [hevents, hnext]
  split <;> exact ⟨rfl, rfl⟩

theorem replayRecord_answer {d : Draws} {now : Time} {unit : BusinessUnit} :
    (replayRecord lib c id d now (db.withRecords t') r unit).1 = (replayRecord lib c id d now (db.withRecords t) r unit).1 := by
  have hprepared : prepareReplay lib (db.withRecords t') r unit.1 d.correlationId now =
      prepareReplay lib (db.withRecords t) r unit.1 d.correlationId now := rfl
  unfold replayRecord
  rw [hprepared]
  split
  · rfl
  split
  · rfl
  split
  · rfl
  split
  · rfl
  rename_i replay _
  dsimp only
  split
  · rfl
  · obtain ⟨hevent, hexisting⟩ := ensureEvent_answer lib r replay d.eventCorrelationId
      ((db.withRecords t).decided d.id replay.policy) ((db.withRecords t').decided d.id replay.policy) rfl rfl
    rw [hevent, hexisting]

theorem owned_same (h : SameUnits c t t') (hq : q.recordId = some id) (hr : t.row id = some r)
    (hholds : c.Holds r.businessUnit) : seen lib c q (db.withRecords t') = seen lib c q (db.withRecords t) := by
  have hrow : (db.withRecords t).records.row id = some r := hr
  have hrow' : (db.withRecords t').records.row id = some r := h.row hr hholds
  have hviews : ∀ answer, answerViews q (db.withRecords t') answer = answerViews q (db.withRecords t) answer := by
    intro answer
    unfold answerViews
    rw [hq, Option.bind_some, Option.bind_some, hrow, hrow']
  have hrun : (q.run lib c (db.withRecords t')).1 = (q.run lib c (db.withRecords t)).1 := by
    cases q with
    | listRecords businessUnit => cases hq
    | detail id' =>
      cases hq
      simp only [Request.run, detail, onRecord, hrow, hrow']
      split <;> rfl
    | review id' targetState recordVersion now =>
      cases hq
      simp only [Request.run, review, onRecord, hrow, hrow']
      split
      · rfl
      split
      · rfl
      split <;> rfl
    | createCorrection id' correctedPayload correctionReason d =>
      cases hq
      simp only [Request.run, createCorrection, onRecord, hrow, hrow']
      split
      · rfl
      split
      · rfl
      split
      · rfl
      split <;> rfl
    | reprocess id' d now =>
      cases hq
      simp only [Request.run, reprocess, onRecord, hrow, hrow']
      split
      · rfl
      split
      · rfl
      · exact replayRecord_answer
  unfold seen
  rw [hrun, hviews]

/-! ## Records that are not the reviewer's -/

theorem reprocess_answer (lib : Library) (c : Reviewer) (id : Uuid) (d : Draws) (now : Time) (db : Db) :
    (∃ e, (reprocess lib c id d now db).1 = .error e) ∨
    ∃ r, db.records.row id = some r ∧ ∃ eventId duplicate,
      (reprocess lib c id d now db).1 = .ok (.reprocessed eventId duplicate) := by
  rcases reprocess_cases lib c id d now db with ⟨e, he⟩ | ⟨r, unit, hr, -, -, hact⟩
  · exact .inl ⟨e, by rw [he]⟩
  rw [hact]
  rcases replayRecord_reprocesses lib c id d now db r unit with ⟨e, result⟩ | ⟨-, result⟩ | ⟨_, e, -, -, -, reply, -, -, -⟩ | ⟨_, _, _, _, -, -, -, -, reply, -, -, -⟩
  · exact .inl ⟨e, by rw [result]⟩
  · exact .inr ⟨r, hr, _, _, by rw [result]⟩
  · exact .inl ⟨e, reply⟩
  · exact .inr ⟨r, hr, _, _, reply⟩

theorem acts_seen {required : String} {act : Record → Result} {v : View} (h : Acts lib c q db required id act)
    (hv : v ∈ seen lib c q db) : ∃ r, db.records.row id = some r ∧ v.businessUnit = r.businessUnit := by
  unfold seen at hv
  rw [h.run] at hv
  rcases onRecord_cases lib c required id db act with ⟨e, he⟩ | ⟨r, hr, ha, hact⟩
  · rw [he] at hv
    cases hv
  refine ⟨r, hr, ?_⟩
  by_cases hadmits : q.Admits lib c r
  · obtain ⟨v', hv', hunit⟩ := h.answers r hr hadmits
    rw [hact, hv', List.mem_singleton] at hv
    rw [hv, hunit]
  · obtain ⟨e, he⟩ := h.refuses r hr (authorize_record.1 ha).1 hadmits
    rw [hact, he] at hv
    cases hv

/-- A request about a record shows the reviewer nothing of another unit's record. -/
theorem seen_unit {v : View} (hq : q.recordId = some id) (hv : v ∈ seen lib c q db) :
    ∃ r, db.records.row id = some r ∧ v.businessUnit = r.businessUnit := by
  cases q with
  | listRecords businessUnit => cases hq
  | detail id' =>
    cases hq
    exact acts_seen detail_acts hv
  | review id' targetState recordVersion now =>
    cases hq
    obtain ⟨act, hact⟩ := review_acts lib c id db targetState recordVersion now
    exact acts_seen hact hv
  | createCorrection id' correctedPayload correctionReason d =>
    cases hq
    obtain ⟨act, hact⟩ := createCorrection_acts lib c id db correctedPayload correctionReason d
    exact acts_seen hact hv
  | reprocess id' d now =>
    cases hq
    -- an answer is about the row; a refusal shows nothing
    have hanswer : (Request.run lib c (.reprocess id d now) db).1 = (reprocess lib c id d now db).1 := rfl
    unfold seen at hv
    rw [hanswer] at hv
    rcases reprocess_answer lib c id d now db with ⟨e, he⟩ | ⟨r, hr, eventId, duplicate, hok⟩
    · rw [he] at hv
      cases hv
    · have hrow : (Request.recordId (.reprocess id d now)).bind db.records.row = some r := hr
      simp only [hok, answerViews, hrow] at hv
      exact ⟨r, hr, by rw [List.mem_singleton.1 hv]⟩

theorem unowned_seen (hq : q.recordId = some id) (hg : Guarded lib c q db)
    (hnot : ∀ r, db.records.row id = some r → ¬c.Holds r.businessUnit) : seen lib c q db = [] := by
  rw [List.eq_nil_iff_forall_not_mem]
  intro v hv
  obtain ⟨r, hr, hunit⟩ := seen_unit hq hv
  have hholds := (isolated_iff_guarded.2 hg).seen v hv
  rw [hunit] at hholds
  exact hnot r hr hholds

theorem record_same (h : SameUnits c t t') (hq : q.recordId = some id) (hg : Guarded lib c q (db.withRecords t))
    (hg' : Guarded lib c q (db.withRecords t')) : seen lib c q (db.withRecords t') = seen lib c q (db.withRecords t) := by
  by_cases hex : ∃ r, t.row id = some r ∧ c.Holds r.businessUnit
  · obtain ⟨r, hr, hholds⟩ := hex
    exact owned_same h hq hr hholds
  · have hnot : ∀ r, t.row id = some r → ¬c.Holds r.businessUnit := fun r hr hholds => hex ⟨r, hr, hholds⟩
    have hnot' : ∀ r, t'.row id = some r → ¬c.Holds r.businessUnit := fun r hr hholds =>
      hnot r (h.symm.row hr hholds) hholds
    rw [unowned_seen hq hg hnot, unowned_seen hq hg' hnot']

end Tables

/-- Every request is isolated exactly when it is guarded, and guarded requests see the same records in all tables that
agree on the reviewer's units. -/
theorem units_isolated (lib : Library) :
    (∀ c q db, Isolated lib c q db ↔ Guarded lib c q db) ∧
    ∀ c q (db : Db) records, SameUnits c db.records records → Guarded lib c q db →
      Guarded lib c q (db.withRecords records) → seen lib c q (db.withRecords records) = seen lib c q db := by
  refine ⟨fun c q db => isolated_iff_guarded, ?_⟩
  intro c q db records h hg hg'
  cases hq : q.recordId with
  | some id => exact record_same h hq hg hg'
  | none =>
    cases q with
    | listRecords businessUnit => exact list_same h hg hg'
    | _ => cases hq

/-! ## A list without a unit -/

namespace Unnamed

def record (id : Uuid) (businessUnit : Option BusinessUnit) : Record :=
  { id := id, serverCorrelationId := "corr", authenticatedPublisherId := "publisher-test", payloadFingerprint := "f",
    sanitizedPreview := .obj [("business_unit", .str "other-unit")], reasonCode := "schema_rejected",
    businessUnit := businessUnit, receivedAt := 0, retentionDeadline := 10, retentionPolicyVersion := "v1" }

/-- A record of another unit, and one without a unit. -/
def db : Db := { records := ⟨[record "a" (some ⟨"other-unit", by decide⟩), record "b" none], by decide⟩ }

end Unnamed

/-- A list without a unit shows the record of another unit, and the table without it shows less; the record without a unit
is shown and moved to review. -/
theorem unnamed_list_shows_others :
    ¬Isolated Synthetic.lib Synthetic.reviewer (.listRecords none) Unnamed.db ∧
    ¬Isolated Synthetic.lib Synthetic.reviewer (.review "b" "UNDER_REVIEW" 1 5) Unnamed.db ∧
    ((seen Synthetic.lib Synthetic.reviewer (.listRecords none) Unnamed.db).map fun v => v.businessUnit.map (·.1)) =
      [some "other-unit", none] ∧
    SameUnits Synthetic.reviewer Unnamed.db.records ⟨[], List.nodup_nil⟩ ∧
    seen Synthetic.lib Synthetic.reviewer (.listRecords none) (Unnamed.db.withRecords ⟨[], List.nodup_nil⟩) = [] := by
  refine ⟨?_, ?_, by decide, rfl, by decide⟩
  · rw [isolated_iff_guarded]
    intro h
    rcases h (by decide) with ⟨unit, hunit, -⟩ | h
    · cases hunit
    · obtain ⟨u, hu, -⟩ := h (Unnamed.record "b" none) (by simp [listed, Unnamed.db, newestFirst, Unnamed.record])
      cases hu
  · rw [isolated_iff_guarded]
    intro h
    have hadmits : Request.Admits Synthetic.lib Synthetic.reviewer (.review "b" "UNDER_REVIEW" 1 5) (Unnamed.record "b" none) :=
      ⟨by decide, by decide, by decide⟩
    exact absurd (h "b" (Unnamed.record "b" none) rfl (by rfl) hadmits) (by decide)

end Middleware.Quarantine

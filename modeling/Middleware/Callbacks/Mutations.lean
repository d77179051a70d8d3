/-
What every run of the callbacks keeps: one event for each version, the edges of the state machine, an owner, and one
mutation for each expected version. Assignments and repeated answers are right only in runs whose calls keep to a condition:
every target writes the assignment fields, and a reply repeats for a key alone.
-/
import Middleware.Callbacks.Effects

namespace Middleware.Callbacks

open Ledger Lib Policy

/-- The versions of a callback's events, oldest first. -/
def Db.eventVersions (db : Db) (id : Uuid) : List Nat :=
  (db.events.filter fun e => decide (e.callbackId = id)).map (·.version)

/-- An event of a mutation; the others are of creation and of the scheduler. -/
def CallbackEvent.mutates (e : CallbackEvent) : Bool :=
  !(["callback.created", "callback.due", "callback.missed", "callback.escalated"].contains e.eventType)

/-! ## Rows that gain a version -/

/-- The tables after each of the selected rows gained a version and an event for it. -/
structure Bumps (db db' : Db) (selected : List CallbackRecord) (f : CallbackRecord → CallbackRecord)
    (ev : CallbackRecord → CallbackEvent) : Prop where
  records : db'.records = db.records.map fun r => if (selected.map (·.id)).contains r.id then f r else r
  events : db'.events = db.events ++ selected.map ev
  subset : ∀ r ∈ selected, r ∈ db.records
  nodup : (selected.map (·.id)).Nodup
  row : ∀ r ∈ selected, (f r).id = r.id ∧ (f r).version = r.version + 1 ∧ r.state.leadsTo (f r).state ∧
    (r.owned = true → (f r).owned = true)
  event : ∀ r ∈ selected, (ev r).callbackId = r.id ∧ (ev r).version = r.version + 1

section Bumps

variable {db db' : Db} {selected : List CallbackRecord} {f : CallbackRecord → CallbackRecord}
  {ev : CallbackRecord → CallbackEvent} {r r' : CallbackRecord} {id : Uuid}

theorem selected_of_id (hkeys : (db.records.map (·.id)).Nodup) (hsub : ∀ r ∈ selected, r ∈ db.records) (hr : r ∈ db.records)
    (h : (selected.map (·.id)).contains r.id = true) : r ∈ selected := by
  obtain ⟨x, hx, hid⟩ := List.mem_map.1 (List.contains_iff_mem.1 h)
  rw [← List.inj_on_of_nodup_map hkeys (hsub x hx) hr hid]
  exact hx

namespace Bumps

variable (b : Bumps db db' selected f ev) (hkeys : (db.records.map (·.id)).Nodup)
include b hkeys

theorem forward (hr : r ∈ db.records) : (r ∈ selected ∧ f r ∈ db'.records) ∨ (r ∉ selected ∧ r ∈ db'.records) := by
  rw [b.records]
  by_cases h : (selected.map (·.id)).contains r.id = true
  · refine .inl ⟨selected_of_id hkeys b.subset hr h, List.mem_map.2 ⟨r, hr, ?_⟩⟩
    rw [if_pos h]
  · refine .inr ⟨fun hsel => h (List.contains_iff_mem.2 (List.mem_map_of_mem hsel)), List.mem_map.2 ⟨r, hr, ?_⟩⟩
    rw [if_neg h]

theorem backward (h : r' ∈ db'.records) : (∃ r ∈ selected, r' = f r) ∨ (r' ∈ db.records ∧ r' ∉ selected) := by
  rw [b.records] at h
  obtain ⟨r, hr, rfl⟩ := List.mem_map.1 h
  by_cases hsel : (selected.map (·.id)).contains r.id = true
  · rw [if_pos hsel]
    exact .inl ⟨r, selected_of_id hkeys b.subset hr hsel, rfl⟩
  · rw [if_neg hsel]
    exact .inr ⟨hr, fun h => hsel (List.contains_iff_mem.2 (List.mem_map_of_mem h))⟩

theorem ids : db'.records.map (·.id) = db.records.map (·.id) := by
  rw [b.records, List.map_map]
  refine List.map_congr_left fun r hr => ?_
  simp only [Function.comp]
  split
  · rename_i h
    exact (b.row r (selected_of_id hkeys b.subset hr h)).1
  · rfl

omit hkeys in
/-- The versions of the new events of a callback: the next one, if its row is written. -/
theorem newVersions : ((selected.map ev).filter fun e => decide (e.callbackId = id)).map (·.version) =
    (rowAt CallbackRecord.id id selected).toList.map fun r => r.version + 1 := by
  have hfilter : ((selected.map ev).filter fun e => decide (e.callbackId = id)) =
      (selected.filter fun r => decide (r.id = id)).map ev := by
    rw [List.filter_map]
    refine congrArg (List.map ev) (List.filter_congr fun r hr => ?_)
    simp only [Function.comp]
    rw [(b.event r hr).1]
  rw [hfilter, List.map_map, filter_key b.nodup]
  refine List.map_congr_left fun r hr => ?_
  have hmem : r ∈ selected := rowAt_mem (Option.mem_toList.1 hr)
  exact (b.event r hmem).2

/-- Where the events of every callback have the versions up to its own, they have them after the step too. -/
theorem versions (h : ∀ r ∈ db.records, db.eventVersions r.id = (List.range r.version).map (· + 1)) (hr : r' ∈ db'.records) :
    db'.eventVersions r'.id = (List.range r'.version).map (· + 1) := by
  unfold Db.eventVersions
  rw [b.events, List.filter_append, List.map_append, b.newVersions]
  rcases b.backward hkeys hr with ⟨r, hsel, rfl⟩ | ⟨hmem, hsel⟩
  · obtain ⟨hid, hversion, -⟩ := b.row r hsel
    have hold : _ = _ := h r (b.subset r hsel)
    unfold Db.eventVersions at hold
    rw [hid, hversion, hold, rowAt_of_mem b.nodup hsel, List.range_succ, List.map_append]
    rfl
  · have hnone : rowAt CallbackRecord.id r'.id selected = none := by
      cases hrow : rowAt CallbackRecord.id r'.id selected with
      | none => rfl
      | some x =>
        have hx : x = r' := List.inj_on_of_nodup_map hkeys (b.subset x (rowAt_mem hrow)) hmem (key_of_rowAt hrow)
        exact absurd (hx ▸ rowAt_mem hrow) hsel
    rw [hnone]
    have hold := h r' hmem
    unfold Db.eventVersions at hold
    rw [hold]
    exact List.append_nil _

end Bumps

theorem bumps_mutated {lib : Library} {now : Time} {p : Principal} {id : Uuid} {target : Target} {body : Change}
    {row row' : CallbackRecord} (key correlation : String) (hload : load p id db = .ok row)
    (hrow : mutated lib now target body p row = .ok row') :
    Bumps db (db.mutate target body key correlation p row row') [row] (fun _ => row') fun _ =>
      event row' ("callback." ++ target.lower) key p.actor (mutationPayload target body row row') correlation := by
  obtain ⟨hid, -, hversion, hedge, howned⟩ := mutated_row hrow
  refine ⟨?_, rfl, ?_, by simp, ?_, ?_⟩
  · refine List.map_congr_left fun r _ => ?_
    by_cases h : r.id = row.id <;> simp [h]
  · intro r hr
    rw [List.mem_singleton.1 hr]
    exact rowAt_mem (load_ok hload).1
  · intro r hr
    rw [List.mem_singleton.1 hr]
    exact ⟨hid, hversion, hedge, fun _ => howned⟩
  · intro r hr
    rw [List.mem_singleton.1 hr]
    exact ⟨hid, hversion⟩

theorem bumps_advance {now : Time} {states : List State} {a : Advance} (workerId : String) (hpasses : Passes now states a)
    (hsub : ∀ r ∈ selected, r ∈ db.records ∧ r.state ∈ states) (hnodup : (selected.map (·.id)).Nodup) :
    Bumps db (db.advance a workerId selected) selected a.row (a.event workerId) := by
  refine ⟨rfl, rfl, fun r hr => (hsub r hr).1, hnodup, fun r hr => ⟨rfl, rfl, ?_, fun h => h⟩, fun r hr => ⟨rfl, rfl⟩⟩
  have hstate := (hsub r hr).2
  -- the states a pass selects all have an edge to its target
  show r.state.leadsTo a.target
  cases hpasses <;> cases hr : r.state <;> simp_all [claimable, State.leadsTo, State.transitions, dueAdvance, missedAdvance,
    escalatedAdvance]

end Bumps

/-! ## Events and owners -/

/-- The events of every callback have its versions, and it has an owner. -/
structure Versioned (db : Db) : Prop where
  keys : (db.records.map (·.id)).Nodup
  versions : ∀ r ∈ db.records, db.eventVersions r.id = (List.range r.version).map (· + 1)
  owned : ∀ r ∈ db.records, r.owned = true
  known : ∀ e ∈ db.events, e.callbackId ∈ db.records.map (·.id)

section Versioned

variable {db db' : Db}

theorem Versioned.bump {selected : List CallbackRecord} {f : CallbackRecord → CallbackRecord}
    {ev : CallbackRecord → CallbackEvent} (h : Versioned db) (b : Bumps db db' selected f ev) : Versioned db' := by
  refine ⟨?_, fun r hr => b.versions h.keys h.versions hr, ?_, ?_⟩
  · rw [b.ids h.keys]
    exact h.keys
  · intro r' hr'
    rcases b.backward h.keys hr' with ⟨r, hsel, rfl⟩ | ⟨hmem, -⟩
    · exact (b.row r hsel).2.2.2 (h.owned r (b.subset r hsel))
    · exact h.owned r' hmem
  · intro e he
    rw [b.ids h.keys]
    rw [b.events] at he
    rcases List.mem_append.1 he with he | he
    · exact h.known e he
    · obtain ⟨r, hsel, rfl⟩ := List.mem_map.1 he
      rw [(b.event r hsel).1]
      exact List.mem_map_of_mem (b.subset r hsel)

theorem valid_keys (h : db.valid = true) : (db.records.map (·.id)).Nodup ∧
    (db.events.map fun e => (e.tenantId, e.idempotencyKey)).Nodup := by
  simp only [Db.valid, Bool.and_eq_true, decide_eq_true_eq] at h
  exact ⟨h.1.1.1.1.1.1, h.1.1.2⟩

theorem Versioned.create (h : Versioned db) {row : CallbackRecord} {ev : CallbackEvent}
    {deliveries : List CallbackDelivery} (hrow : row.version = 1) (howned : row.owned = true)
    (hev : ev.callbackId = row.id ∧ ev.version = 1)
    (hkeys : ((db.records ++ [row]).map (·.id)).Nodup) : Versioned ⟨db.records ++ [row], db.events ++ [ev], deliveries⟩ := by
  have hnew : row.id ∉ db.records.map (·.id) := by
    rw [List.map_append, List.nodup_append] at hkeys
    intro hmem
    exact hkeys.2.2 _ hmem row.id (by simp) rfl
  refine ⟨hkeys, ?_, ?_, ?_⟩
  · intro r hr
    unfold Db.eventVersions
    rw [List.filter_append, List.map_append]
    rcases List.mem_append.1 hr with hr | hr
    · have hold := h.versions r hr
      unfold Db.eventVersions at hold
      have hne : ev.callbackId ≠ r.id := by
        rw [hev.1]
        rintro heq
        exact hnew (heq ▸ List.mem_map_of_mem hr)
      rw [hold]
      simp [hne]
    · rw [List.mem_singleton.1 hr]
      have hnone : (db.events.filter fun e => decide (e.callbackId = row.id)) = [] := by
        rw [List.filter_eq_nil_iff]
        intro e he heq
        exact hnew (of_decide_eq_true heq ▸ h.known e he)
      rw [hnone]
      simp [hev, hrow]
  · intro r hr
    rcases List.mem_append.1 hr with hr | hr
    · exact h.owned r hr
    · rw [List.mem_singleton.1 hr]
      exact howned
  · intro e he
    rw [List.map_append]
    rcases List.mem_append.1 he with he | he
    · exact List.mem_append_left _ (h.known e he)
    · rw [List.mem_singleton.1 he, hev.1]
      simp

theorem newRecord_owned (lib : Library) (id : Uuid) (body : CreateCallback) (scheduled : Time)
    (phone key correlation : String) : (newRecord lib id body scheduled phone key correlation).owned = true := body.owned

theorem Versioned.wrote {lib : Library} {now : Time} {act : Act} (h : Versioned db) (hw : Wrote lib now act db db') :
    Versioned db' := by
  cases hw with
  | same _ heq => exact heq ▸ h
  | created _ p body row ev emails heq hrow hev _ hvalid =>
    obtain ⟨id, scheduled, phone, key, correlation, rfl⟩ := hrow
    obtain ⟨key', payload, correlation', rfl⟩ := hev
    subst heq
    exact h.create rfl (newRecord_owned ..) ⟨rfl, rfl⟩ (valid_keys hvalid).1
  | mutated p id target body key correlation row row' _ _ hload _ hrow heq _ =>
    subst heq
    exact h.bump (bumps_mutated key correlation hload hrow)
  | advanced _ a states workerId selected hpasses hsub _ hnodup heq _ =>
    subst heq
    exact h.bump (bumps_advance workerId hpasses hsub (hnodup h.keys))
  | delivered _ f heq _ _ =>
    subst heq
    exact ⟨h.keys, h.versions, h.owned, h.known⟩

theorem Versioned.steady {lib : Library} {now : Time} {act : Act} {r : CallbackRecord} (h : Versioned db)
    (hw : Wrote lib now act db db') (hr : r ∈ db.records) :
    ∃ r' ∈ db'.records, r'.id = r.id ∧ r.state.leadsTo r'.state ∧ r.version ≤ r'.version := by
  have bumped {selected f ev} (b : Bumps db db' selected f ev) :
      ∃ r' ∈ db'.records, r'.id = r.id ∧ r.state.leadsTo r'.state ∧ r.version ≤ r'.version := by
    rcases b.forward h.keys hr with ⟨hsel, hf⟩ | ⟨-, hmem⟩
    · obtain ⟨hid, hversion, hedge, -⟩ := b.row r hsel
      exact ⟨f r, hf, hid, hedge, by omega⟩
    · exact ⟨r, hmem, rfl, .inl rfl, le_rfl⟩
  cases hw with
  | same _ heq => exact ⟨r, heq ▸ hr, rfl, .inl rfl, le_rfl⟩
  | created _ p body row ev emails heq _ _ _ _ =>
    subst heq
    exact ⟨r, List.mem_append_left _ hr, rfl, .inl rfl, le_rfl⟩
  | mutated p id target body key correlation row row' _ _ hload _ hrow heq _ =>
    subst heq
    exact bumped (bumps_mutated key correlation hload hrow)
  | advanced _ a states workerId selected hpasses hsub _ hnodup heq _ =>
    subst heq
    exact bumped (bumps_advance workerId hpasses hsub (hnodup h.keys))
  | delivered _ f heq _ _ =>
    subst heq
    exact ⟨r, hr, rfl, .inl rfl, le_rfl⟩

end Versioned

/-! ## Mutations that were made -/

def Mutation.eventOf (m : Mutation) (e : CallbackEvent) : Prop :=
  e.mutates = true ∧ e.tenantId = m.tenant ∧ e.idempotencyKey = m.key

/-- A call that is answered from the event under its key. -/
def Act.repeats (db : Db) : Act → Bool
  | .mutate p id _ _ key _ => p.context.complete && (load p id db).isOk && (db.eventFor p.tenant key).isSome
  | _ => false

/-- The mutations that were made have the events that are no creation and no pass of the scheduler, one each; they were made
under different keys and of different versions of their callbacks. -/
structure Recorded (w : World) : Prop where
  eventKeys : (w.db.events.map fun e => (e.tenantId, e.idempotencyKey)).Nodup
  keyed : (w.made.map fun m => (m.tenant, m.key)).Nodup
  once : (w.made.map fun m => (m.callbackId, m.body.expectedVersion)).Nodup
  older : ∀ m ∈ w.made, ∃ r ∈ w.db.records, r.id = m.callbackId ∧ m.body.expectedVersion < r.version
  stems : ∀ e ∈ w.db.events, e.mutates = true → ∃ m ∈ w.made, m.eventOf e
  recorded : ∀ m ∈ w.made, ∃ e ∈ w.db.events, m.eventOf e

section Recorded

variable {lib : Library} {now : Time} {act : Act} {db db' : Db}

theorem mutated_mutates (target : Target) (row : CallbackRecord) (key actor : String) (payload : Obj)
    (correlation : String) : (event row ("callback." ++ target.lower) key actor payload correlation).mutates = true := by
  show (!(["callback.created", "callback.due", "callback.missed", "callback.escalated"].contains
    ("callback." ++ target.lower))) = true
  cases target <;> decide

theorem advanced_mutates {states : List State} {a : Advance} (h : Passes now states a) (workerId : String)
    (r : CallbackRecord) : (a.event workerId r).mutates = false := by
  cases h <;> rfl

theorem wrote_events (hw : Wrote lib now act db db') (hmakes : act.makes lib now db = false) :
    ∃ new, db'.events = db.events ++ new ∧ ∀ e ∈ new, e.mutates = false := by
  cases hw with
  | same _ heq => exact ⟨[], by simp [heq], by simp⟩
  | created _ p body row ev emails heq _ hev _ _ =>
    obtain ⟨key, payload, correlation, rfl⟩ := hev
    subst heq
    exact ⟨_, rfl, by simp [CallbackEvent.mutates, event]⟩
  | mutated p id target body key correlation row row' _ hmade => simp [hmade] at hmakes
  | advanced _ a states workerId selected hpasses _ _ _ heq _ =>
    subst heq
    refine ⟨_, rfl, fun e he => ?_⟩
    obtain ⟨r, -, rfl⟩ := List.mem_map.1 he
    exact advanced_mutates hpasses workerId r
  | delivered _ f heq _ _ =>
    subst heq
    exact ⟨[], (List.append_nil _).symm, by simp⟩

theorem wrote_eventKeys (hw : Wrote lib now act db db')
    (h : (db.events.map fun e => (e.tenantId, e.idempotencyKey)).Nodup) :
    (db'.events.map fun e => (e.tenantId, e.idempotencyKey)).Nodup := by
  cases hw with
  | same _ heq => exact heq ▸ h
  | created _ p body row ev emails heq _ _ _ hvalid => exact (valid_keys hvalid).2
  | mutated p id target body key correlation row row' _ _ _ _ _ _ hvalid => exact (valid_keys hvalid).2
  | advanced _ a states workerId selected _ _ _ _ _ hvalid => exact (valid_keys hvalid).2
  | delivered _ f heq _ _ => exact heq ▸ h

theorem eventFor_none {tenant key : String} (h : db.eventFor tenant key = none) {e : CallbackEvent} (he : e ∈ db.events) :
    ¬(e.tenantId = tenant ∧ e.idempotencyKey = key) := by
  have hno := List.find?_eq_none.1 h e he
  simpa using hno

theorem eventFor_some {tenant key : String} (h : (db.eventFor tenant key).isSome = true) :
    ∃ e ∈ db.events, e.tenantId = tenant ∧ e.idempotencyKey = key := by
  obtain ⟨e, he⟩ := Option.isSome_iff_exists.1 h
  exact ⟨e, List.mem_of_find?_eq_some he, by simpa using List.find?_some he⟩

end Recorded

section Steps

variable {lib : Library} {w : World} {s : Step}

theorem Recorded.step (hv : Versioned w.db) (h : Recorded w) : Recorded (s.next lib w) := by
  have hw : Wrote lib (s.now w) s.act w.db (s.next lib w).db := run_wrote
  have hkeys := wrote_eventKeys hw h.eventKeys
  have older : ∀ m ∈ w.made, ∃ r ∈ (s.next lib w).db.records, r.id = m.callbackId ∧ m.body.expectedVersion < r.version := by
    intro m hm
    obtain ⟨r, hr, hid, hlt⟩ := h.older m hm
    obtain ⟨r', hr', hid', -, hle⟩ := hv.steady hw hr
    exact ⟨r', hr', hid'.trans hid, by omega⟩
  cases hmakes : s.act.makes lib (s.now w) w.db with
  | false =>
    obtain ⟨new, hevents, hnew⟩ := wrote_events hw hmakes
    have hmade : (s.next lib w).made = w.made := by simp [Step.next, hmakes]
    refine ⟨hkeys, ?_, ?_, ?_, ?_, ?_⟩
    · rw [hmade]
      exact h.keyed
    · rw [hmade]
      exact h.once
    · rw [hmade]
      exact older
    · intro e he hmut
      rw [hmade]
      rw [hevents] at he
      rcases List.mem_append.1 he with he | he
      · exact h.stems e he hmut
      · simp [hnew e he] at hmut
    · intro m hm
      rw [hmade] at hm
      obtain ⟨e, he, hof⟩ := h.recorded m hm
      rw [hevents]
      exact ⟨e, List.mem_append_left _ he, hof⟩
  | true =>
    cases hw with
    | same hno | created hno | advanced hno | delivered hno => simp [hno] at hmakes
    | mutated p id target body key correlation row row' hact _ hload hfresh hrow heq _ =>
      have hmade : (s.next lib w).made = ⟨p.tenant, key, id, target, body⟩ :: w.made := by
        show (if s.act.makes lib (s.now w) w.db then s.act.mutation.toList ++ w.made else w.made) = _
        rw [if_pos hmakes, hact]
        rfl
      obtain ⟨hrowid, htenant⟩ := load_ok hload
      obtain ⟨hid', htenant', hversion, -, -⟩ := mutated_row hrow
      have hexpected := (permitted_ok (mutated_ok hrow).1).1
      have hid : row.id = id := key_of_rowAt hrowid
      -- the event of the mutation: the only one under its key
      have hof : (Mutation.mk p.tenant key id target body).eventOf
          (event row' ("callback." ++ target.lower) key p.actor (mutationPayload target body row row') correlation) :=
        ⟨mutated_mutates .., htenant'.trans htenant, rfl⟩
      have hevents : (s.next lib w).db.events = w.db.events ++
          [event row' ("callback." ++ target.lower) key p.actor (mutationPayload target body row row') correlation] := by
        rw [heq]
        rfl
      refine ⟨hkeys, ?_, ?_, ?_, ?_, ?_⟩
      · rw [hmade, List.map_cons, List.nodup_cons]
        refine ⟨fun hmem => ?_, h.keyed⟩
        obtain ⟨m, hm, hkey⟩ := List.mem_map.1 hmem
        obtain ⟨e, he, -, het, hek⟩ := h.recorded m hm
        simp only [Prod.mk.injEq] at hkey
        exact eventFor_none hfresh he ⟨het.trans hkey.1, hek.trans hkey.2⟩
      · rw [hmade, List.map_cons, List.nodup_cons]
        refine ⟨fun hmem => ?_, h.once⟩
        obtain ⟨m, hm, hkey⟩ := List.mem_map.1 hmem
        obtain ⟨r, hr, hrid, hlt⟩ := h.older m hm
        simp only [Prod.mk.injEq] at hkey
        -- an earlier mutation expected an earlier version of the row that was loaded
        have hsame : r = row :=
          List.inj_on_of_nodup_map hv.keys hr (rowAt_mem hrowid) (by rw [hrid, hkey.1, hid])
        rw [hsame, hexpected, hkey.2] at hlt
        exact absurd hlt (lt_irrefl _)
      · rw [hmade]
        intro m hm
        rcases List.mem_cons.1 hm with rfl | hm
        · have hwritten : row' ∈ (s.next lib w).db.records := by
            rw [heq]
            refine List.mem_map.2 ⟨row, rowAt_mem hrowid, ?_⟩
            rw [if_pos rfl]
          exact ⟨row', hwritten, hid'.trans hid, by dsimp only; omega⟩
        · exact older m hm
      · intro e he hmut
        rw [hmade]
        rw [hevents] at he
        rcases List.mem_append.1 he with he | he
        · obtain ⟨m, hm, hof'⟩ := h.stems e he hmut
          exact ⟨m, List.mem_cons_of_mem _ hm, hof'⟩
        · rw [List.mem_singleton.1 he]
          exact ⟨_, List.mem_cons_self, hof⟩
      · rw [hmade, hevents]
        intro m hm
        rcases List.mem_cons.1 hm with rfl | hm
        · exact ⟨_, List.mem_append_right _ (List.mem_singleton_self _), hof⟩
        · obtain ⟨e, he, hof'⟩ := h.recorded m hm
          exact ⟨e, List.mem_append_left _ he, hof'⟩

theorem Versioned.step (h : Versioned w.db) : Versioned (s.next lib w).db := by
  have hw : Wrote lib (s.now w) s.act w.db (s.next lib w).db := run_wrote
  exact h.wrote hw

end Steps

def World.start (clock : Time) : World := { clock := clock }

theorem reached_sound (lib : Library) (clock : Time) (steps : List Step) :
    Versioned (runFrom (Step.next lib) (World.start clock) steps).db ∧
      Recorded (runFrom (Step.next lib) (World.start clock) steps) := by
  refine runFrom_invariant (I := fun w => Versioned w.db ∧ Recorded w) ⟨?_, ?_⟩ fun w s h => ⟨h.1.step, h.2.step h.1⟩
  · exact ⟨List.nodup_nil, by simp [World.start], by simp [World.start], by simp [World.start]⟩
  · exact ⟨List.nodup_nil, List.nodup_nil, List.nodup_nil, by simp [World.start], by simp [World.start],
      by simp [World.start]⟩

/-! ## Assignments and repeated answers -/

/-- The call of a principal that may reassign. -/
def Act.reassigns : Act → Bool
  | .mutate p _ _ _ _ _ => p.role.reassigns
  | _ => false

/-- Only principals that may reassign change an assignment. -/
def AssignmentGuarded (lib : Library) (w : World) (s : Step) : Prop :=
  ∀ r ∈ w.db.records, ∀ r' ∈ (s.next lib w).db.records, r'.id = r.id →
    (r'.assignedAgentId = r.assignedAgentId ∧ r'.assignedTeamId = r.assignedTeamId) ∨ s.act.reassigns = true

/-- A call is answered from an earlier event only where it is the mutation that was made. -/
def AnsweredOwn (w : World) (s : Step) : Prop := s.act.repeats w.db = true → ∀ m ∈ s.act.mutation, m ∈ w.made

/-- The assignment fields of a body that are set are the callback's. -/
def Change.keeps (body : Change) (r : CallbackRecord) : Prop :=
  (∀ agent ∈ body.assignedAgentId, r.assignedAgentId = some agent) ∧ ∀ team ∈ body.assignedTeamId, r.assignedTeamId = some team

/-- A principal that may not reassign sets no other assignment in a call that passes the checks on its callback. -/
def KeepsAssignment (w : World) (s : Step) : Prop :=
  ∀ p id target body key correlation row, s.act = .mutate p id target body key correlation → load p id w.db = .ok row →
    permitted target body p row = .ok () → transition target row = .ok () → p.role.reassigns = true ∨ body.keeps row

/-- A call under a key that is taken is the mutation that took it. -/
def OwnKey (w : World) (s : Step) : Prop :=
  s.act.repeats w.db = true → ∀ m ∈ s.act.mutation,
    (∀ e ∈ w.db.events, e.tenantId = m.tenant → e.idempotencyKey = m.key → e.mutates = true) ∧
      ∀ m' ∈ w.made, m'.tenant = m.tenant → m'.key = m.key → m' = m

section Guards

variable {lib : Library} {w : World} {s : Step}

theorem assign_keeps {target : Target} {body : Change} {row : CallbackRecord} (htarget : target ≠ .reassigned)
    (h : body.keeps row) : (assign target body row).assignedAgentId = row.assignedAgentId ∧
      (assign target body row).assignedTeamId = row.assignedTeamId := by
  obtain ⟨hagent, hteam⟩ := h
  unfold assign
  cases ha : body.assignedAgentId with
  | none =>
    cases ht : body.assignedTeamId with
    | none => exact ⟨rfl, rfl⟩
    | some team => exact ⟨by simp [htarget], (hteam team ht).symm⟩
  | some agent =>
    cases ht : body.assignedTeamId with
    | none => exact ⟨(hagent agent ha).symm, by simp [htarget]⟩
    | some team => exact ⟨by simp [htarget, hagent agent ha], (hteam team ht).symm⟩

theorem assignment_guarded (hv : Versioned w.db) (h : KeepsAssignment w s) : AssignmentGuarded lib w s := by
  intro r hr r' hr' hid
  have hw : Wrote lib (s.now w) s.act w.db (s.next lib w).db := run_wrote
  have hkeys : ((s.next lib w).db.records.map (·.id)).Nodup := hv.step.keys
  -- the row of the next state under the same id
  have unique {x : CallbackRecord} (hx : x ∈ (s.next lib w).db.records) (hxid : x.id = r.id) : r' = x :=
    List.inj_on_of_nodup_map hkeys hr' hx (hid.trans hxid.symm)
  cases hw with
  | same _ heq =>
    rw [unique (heq ▸ hr) rfl]
    exact .inl ⟨rfl, rfl⟩
  | created _ p body row ev emails heq =>
    rw [unique (by rw [heq]; exact List.mem_append_left _ hr) rfl]
    exact .inl ⟨rfl, rfl⟩
  | delivered _ f heq _ _ =>
    rw [unique (by rw [heq]; exact hr) rfl]
    exact .inl ⟨rfl, rfl⟩
  | advanced _ a states workerId selected hpasses hsub _ hnodup heq _ =>
    have b := bumps_advance workerId hpasses hsub (hnodup hv.keys)
    rcases b.forward hv.keys hr with ⟨-, hf⟩ | ⟨-, hmem⟩
    · rw [unique (x := a.row r) (heq ▸ hf) rfl]
      exact .inl ⟨rfl, rfl⟩
    · rw [unique (heq ▸ hmem) rfl]
      exact .inl ⟨rfl, rfl⟩
  | mutated p id target body key correlation row row' hact _ hload _ hrow heq _ =>
    have b := bumps_mutated key correlation hload hrow
    rcases b.forward hv.keys hr with ⟨hsel, hf⟩ | ⟨-, hmem⟩
    · have hsame : r = row := List.mem_singleton.1 hsel
      subst hsame
      rw [unique (heq ▸ hf) (mutated_row hrow).1]
      obtain ⟨hpermitted, hedge, timed, htimed, -, hfinish⟩ := mutated_ok hrow
      rcases h p id target body key correlation r hact hload hpermitted hedge with hrole | hkeep
      · right
        rw [hact]
        exact hrole
      · by_cases htarget : target = .reassigned
        · right
          rw [hact]
          exact (permitted_ok hpermitted).2 htarget
        · left
          obtain ⟨t, timezone, rfl⟩ := schedule_ok htimed
          rw [hfinish]
          exact assign_keeps htarget hkeep
    · rw [unique (heq ▸ hmem) rfl]
      exact .inl ⟨rfl, rfl⟩

/-- The key of a call that is answered from an earlier event is taken. -/
theorem repeats_event (h : s.act.repeats w.db = true) : ∀ m ∈ s.act.mutation,
    ∃ e ∈ w.db.events, e.tenantId = m.tenant ∧ e.idempotencyKey = m.key := by
  intro m hm
  unfold Act.repeats at h
  split at h
  · rename_i p id target body key correlation hact
    rw [hact] at hm
    cases hm
    simp only [Bool.and_eq_true] at h
    exact eventFor_some h.2
  · cases h

theorem answered_own_iff (hr : Recorded w) : AnsweredOwn w s ↔ OwnKey w s := by
  constructor
  · intro h hrep m hm
    have hmade := h hrep m hm
    refine ⟨fun e he htenant hkey => ?_, fun m' hm' htenant hkey => ?_⟩
    · obtain ⟨e', he', hmut, htenant', hkey'⟩ := hr.recorded m hmade
      have hsame : e = e' := List.inj_on_of_nodup_map hr.eventKeys he he' (by rw [htenant, hkey, htenant', hkey'])
      rw [hsame]
      exact hmut
    · exact List.inj_on_of_nodup_map hr.keyed hm' hmade (by rw [htenant, hkey])
  · intro h hrep m hm
    obtain ⟨hown, hsame⟩ := h hrep m hm
    obtain ⟨e, he, htenant, hkey⟩ := repeats_event hrep m hm
    obtain ⟨m', hm', -, htenant', hkey'⟩ := hr.stems e he (hown e he htenant hkey)
    rw [← hsame m' hm' (htenant'.symm.trans htenant) (hkey'.symm.trans hkey)]
    exact hm'

end Guards

/-- What holds of the callbacks in every run, and what holds in runs whose calls keep to their conditions. -/
theorem mutations_safe (lib : Library) (clock : Time) (steps : List Step) :
    (∀ r ∈ (runFrom (Step.next lib) (World.start clock) steps).db.records,
      (runFrom (Step.next lib) (World.start clock) steps).db.eventVersions r.id = (List.range r.version).map (· + 1) ∧
        r.owned = true) ∧
    ((runFrom (Step.next lib) (World.start clock) steps).made.map fun m => (m.callbackId, m.body.expectedVersion)).Nodup ∧
    Always (Step.next lib) (fun w s => ∀ r ∈ w.db.records, ∃ r' ∈ (s.next lib w).db.records,
      r'.id = r.id ∧ r.state.leadsTo r'.state) (World.start clock) steps ∧
    (Always (Step.next lib) KeepsAssignment (World.start clock) steps →
      Always (Step.next lib) (AssignmentGuarded lib) (World.start clock) steps) ∧
    (Always (Step.next lib) AnsweredOwn (World.start clock) steps ↔
      Always (Step.next lib) OwnKey (World.start clock) steps) := by
  have hreached := reached_sound lib clock
  refine ⟨fun r hr => ?_, (hreached steps).2.once, ?_, fun h => ?_, ?_⟩
  · exact ⟨(hreached steps).1.versions r hr, (hreached steps).1.owned r hr⟩
  · refine always_iff.2 fun before s after _ r hr => ?_
    have hw : Wrote lib (s.now _) s.act _ (s.next lib (runFrom (Step.next lib) (World.start clock) before)).db := run_wrote
    obtain ⟨r', hr', hid, hedge, -⟩ := (hreached before).1.steady hw hr
    exact ⟨r', hr', hid, hedge⟩
  · exact always_iff.2 fun before s after heq => assignment_guarded (hreached before).1 (always_iff.1 h before s after heq)
  · constructor
    · intro h
      exact always_iff.2 fun before s after heq => (answered_own_iff (hreached before).2).1 (always_iff.1 h before s after heq)
    · intro h
      exact always_iff.2 fun before s after heq => (answered_own_iff (hreached before).2).2 (always_iff.1 h before s after heq)

/-! An agent of the assigned team, with two callbacks. -/

namespace Shared

def lib : Library where
  zone _ := .ok fun _ => 0
  zoneKeyError timezone := timezone
  isDigit := Char.isDigit
  hash body := body.phoneNumber
  isoformat _ := ""
  emailCommandEnabled := false
  emailSenderProfileId := ""
  emailPolicyHash := ""

def agent : Principal := ⟨"agent-1", "tenant", ["campaign"], .agent, ["team"]⟩

def body : CreateCallback where
  tenantId := "tenant"
  campaignId := "campaign"
  assignedTeamId := some "team"
  phoneNumber := "+15550000001"
  scheduledAt := ⟨minutes 2880, some 0⟩
  customerTimezone := "UTC"
  reason := "asked"
  compliance := { consent := true, withinCallingHours := true, campaignAllowed := true }

def steps : List Step :=
  [⟨0, .create agent "first" body "create-1" "correlation"⟩,
    ⟨0, .create agent "second" body "create-2" "correlation"⟩,
    ⟨1, .mutate agent "first" .updated { expectedVersion := 1, assignedAgentId := some "agent-2" } "change-1" "correlation"⟩,
    ⟨1, .mutate agent "second" .snoozed { expectedVersion := 1 } "change-1" "correlation"⟩]

end Shared

/-- The agent gives the first callback to another agent, and its snooze of the second is answered from that change. -/
theorem agent_reassigns : ¬Always (Step.next Shared.lib) (AssignmentGuarded Shared.lib) (World.start 0) Shared.steps ∧
    ¬Always (Step.next Shared.lib) AnsweredOwn (World.start 0) Shared.steps := by
  constructor
  · rintro ⟨-, -, h, -⟩
    revert h
    unfold AssignmentGuarded
    decide +kernel
  · rintro ⟨-, -, -, h, -⟩
    revert h
    unfold AnsweredOwn
    decide +kernel

end Middleware.Callbacks

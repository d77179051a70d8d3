/-
What one step does to the callback tables: nothing, or it adds a callback with its event and deliveries, writes one row
for a mutation, advances late rows, or changes deliveries alone.
-/
import Middleware.Callbacks.Scheduler

namespace Middleware.Callbacks

open Ledger Lib Policy

/-- The passes of the scheduler, with the states they select. -/
inductive Passes (now : Time) : List State → Advance → Prop
  | due : Passes now claimable (dueAdvance now)
  | missed (graceMinutes : Nat) : Passes now [.due] (missedAdvance graceMinutes now)
  | escalated (escalationMinutes : Nat) : Passes now [.missed] (escalatedAdvance escalationMinutes now)

/-- The tables after an action, and whether it makes a mutation. -/
inductive Wrote (lib : Library) (now : Time) (act : Act) (db db' : Db) : Prop
  | same (unmade : act.makes lib now db = false) (db_eq : db' = db)
  | created (unmade : act.makes lib now db = false) (p : Principal) (body : CreateCallback) (row : CallbackRecord) (ev : CallbackEvent)
      (emails : List CallbackDelivery) (db_eq : db' = ⟨db.records ++ [row], db.events ++ [ev],
        db.deliveries ++ emails ++ popupDeliveries row⟩)
      (row_eq : ∃ id scheduled phone key correlation, row = newRecord lib id body scheduled phone key correlation)
      (event_eq : ∃ key payload correlation, ev = event row "callback.created" key p.actor payload correlation)
      (email : ∀ d ∈ emails, d.channel = .email) (valid : db'.valid = true)
  | mutated (p : Principal) (id : Uuid) (target : Target) (body : Change) (key correlation : String)
      (row row' : CallbackRecord) (act_eq : act = .mutate p id target body key correlation)
      (made : act.makes lib now db = true) (loaded : load p id db = .ok row) (fresh : db.eventFor p.tenant key = none)
      (row_eq : mutated lib now target body p row = .ok row')
      (db_eq : db' = db.mutate target body key correlation p row row') (valid : db'.valid = true)
  | advanced (unmade : act.makes lib now db = false) (a : Advance) (states : List State) (workerId : String) (selected : List CallbackRecord)
      (passes : Passes now states a) (subset : ∀ r ∈ selected, r ∈ db.records ∧ r.state ∈ states)
      (due : a.target = .due → ∃ tenant campaign limit locked,
        act = .claimDue workerId tenant campaign limit locked ∧ selected = dueRows workerId tenant campaign limit now locked db)
      (nodup : (db.records.map (·.id)).Nodup → (selected.map (·.id)).Nodup)
      (db_eq : db' = db.advance a workerId selected) (valid : db'.valid = true)
  | delivered (unmade : act.makes lib now db = false) (f : CallbackDelivery → CallbackDelivery) (db_eq : db' = { db with deliveries := db.deliveries.map f })
      (keys : ∀ d, (f d).idempotencyKey = d.idempotencyKey)
      (act_eq : (∃ tenant campaign, act = .reconcile tenant campaign ∧ f = fun d =>
          if outdated (workerContext "callback-reconciler" "scheduler" tenant campaign) tenant campaign db d then d.stale
          else d) ∨
        ∃ tenant campaign limit gateway locked written, act = .deliverCallbackPopups tenant campaign limit gateway locked ∧
          (duePopups (workerContext "callback-realtime-worker" "service" tenant campaign) tenant campaign limit now locked
            db).mapM (fun x => deliverOne now gateway x.1 x.2) = some written ∧
          f = fun d => (written.find? fun x => x.idempotencyKey == d.idempotencyKey).getD d)

section Effects

variable {lib : Library} {now : Time} {db db' : Db} {act : Act} {p : Principal} {id : Uuid} {row row' : CallbackRecord}
variable {ctx : Context}

theorem commit_ok {written : List CallbackRecord} {db₁ : Db} (h : Db.commit ctx written db₁ = .ok db') :
    db' = db₁ ∧ db'.valid = true := by
  unfold Db.commit at h
  split at h
  · cases h
  split at h
  · cases h
  · rename_i hv
    cases h
    exact ⟨rfl, by simpa using hv⟩

theorem mapError_ok {α ε : Type} {x : Except ε α} {f : ε → ε} {a : α} (h : x.mapError f = .ok a) : x = .ok a := by
  cases x with
  | error e => cases h
  | ok a' => exact h

theorem load_ok (h : load p id db = .ok row) : db.record id = some row ∧ row.tenantId = p.tenant := by
  unfold load at h
  split at h
  · cases h
  · rename_i row₀ hrow
    split at h
    · cases h
    rename_i hscope
    split at h
    · cases h
    cases h
    refine ⟨(Option.filter_eq_some_iff.1 hrow).1, ?_⟩
    by_contra hne
    exact hscope (.inl hne)

variable {body : CreateCallback}

theorem emails_channel {emails : List CallbackDelivery}
    (h : emailDeliveries lib row body = .ok emails) : ∀ d ∈ emails, d.channel = .email := by
  unfold emailDeliveries at h
  split at h
  · cases h
    simp
  split at h
  · cases h
  split at h
  · cases h
  · cases h
    simp [delivery]

theorem create_wrote {key correlation : String} :
    Wrote lib now (.create p id body key correlation) db (create lib p id body key correlation db).2 := by
  unfold create
  split
  · exact .same rfl rfl
  split
  · exact .same rfl rfl
  split
  · split <;> exact .same rfl rfl
  split
  · exact .same rfl rfl
  · exact .same rfl rfl
  dsimp only
  split
  · exact .same rfl rfl
  rename_i db' h
  unfold insertRecord at h
  simp only [bind, Except.bind] at h
  split at h
  · cases h
  rename_i db₁ h₁
  obtain ⟨rfl, -⟩ := commit_ok (mapError_ok h₁)
  split at h
  · cases h
  rename_i emails hemails
  obtain ⟨rfl, hvalid⟩ := commit_ok (mapError_ok h)
  exact .created rfl p body _ _ emails rfl ⟨_, _, _, _, _, rfl⟩ ⟨_, _, _, rfl⟩ (emails_channel hemails) hvalid

variable {target : Target} {body : Change}

theorem mutate_wrote {key correlation : String} :
    Wrote lib now (.mutate p id target body key correlation) db
      (mutate lib now id target body key correlation p db).2 := by
  -- the reply and the tables of each branch of the call
  obtain ⟨reply, db', heq⟩ : ∃ reply db', mutate lib now id target body key correlation p db = (reply, db') := ⟨_, _, rfl⟩
  have hmakes : Act.makes lib now db (.mutate p id target body key correlation) =
      (reply.isOk && (db.eventFor p.tenant key).isNone) := by
    show ((mutate lib now id target body key correlation p db).1.isOk && _) = _
    rw [heq]
  rw [heq]
  unfold mutate at heq
  split at heq
  · cases heq
    exact .same hmakes rfl
  split at heq
  · cases heq
    exact .same hmakes rfl
  rename_i row hload
  split at heq
  · rename_i hsome
    cases heq
    refine .same ?_ rfl
    rw [hmakes, Bool.and_eq_false_iff]
    exact .inr (by simpa [Option.isSome_iff_ne_none] using hsome)
  rename_i hfresh
  split at heq
  · cases heq
    exact .same hmakes rfl
  rename_i row' hrow
  split at heq
  · cases heq
    exact .same hmakes rfl
  rename_i db₁ hcommit
  cases heq
  obtain ⟨rfl, hvalid⟩ := commit_ok hcommit
  have hnone : db.eventFor p.tenant key = none := by simpa using hfresh
  rw [hnone] at hmakes
  exact .mutated p id target body key correlation row row' rfl hmakes hload hnone hrow rfl hvalid

variable {states : List State}

theorem advanceRows_wrote {a : Advance} {selected : List CallbackRecord}
    (hmakes : act.makes lib now db = false) (hpasses : Passes now states a) (hsubset : ∀ r ∈ selected, r ∈ db.records ∧ r.state ∈ states)
    (hdue : a.target = .due → ∃ tenant campaign limit locked,
      act = .claimDue ctx.actor tenant campaign limit locked ∧
        selected = dueRows ctx.actor tenant campaign limit now locked db)
    (hnodup : (db.records.map (·.id)).Nodup → (selected.map (·.id)).Nodup) :
    Wrote lib now act db (advanceRows ctx a selected db).2 := by
  unfold advanceRows
  split
  · exact .same hmakes rfl
  split
  · exact .same hmakes rfl
  rename_i db' hcommit
  obtain ⟨rfl, hvalid⟩ := commit_ok hcommit
  exact .advanced hmakes a states ctx.actor selected hpasses hsubset hdue hnodup rfl hvalid

/-! ## Mutated rows -/

/-- A state and the next: the same, or an edge of `TRANSITIONS`. -/
def State.leadsTo (s s' : State) : Prop := s' = s ∨ s' ∈ s.transitions

def CallbackRecord.owned (r : CallbackRecord) : Bool := !falsy r.assignedAgentId || !falsy r.assignedTeamId

theorem schedule_ok (h : schedule lib now target body row = .ok row') :
    ∃ t timezone, row' = { row with scheduledAt := t, customerTimezone := timezone } := by
  unfold schedule at h
  split at h
  · cases h
    exact ⟨_, row.customerTimezone, rfl⟩
  · split at h
    · split at h
      · cases h
      split at h
      · cases h
      · cases h
        exact ⟨_, _, rfl⟩
    · cases h
  · cases h
    exact ⟨row.scheduledAt, row.customerTimezone, rfl⟩

theorem assign_eq (target : Target) (body : Change) (row : CallbackRecord) :
    ∃ agent team, assign target body row = { row with assignedAgentId := agent, assignedTeamId := team } := by
  unfold assign
  cases body.assignedAgentId <;> cases body.assignedTeamId <;> exact ⟨_, _, rfl⟩

theorem permitted_ok (h : permitted target body p row = .ok ()) :
    row.version = body.expectedVersion ∧ (target = .reassigned → p.role.reassigns = true) := by
  unfold permitted at h
  split at h
  · cases h
  rename_i hversion
  refine ⟨by simpa using hversion, fun htarget => ?_⟩
  rw [if_pos htarget] at h
  unfold reassignment at h
  split at h
  · cases h
  · rename_i hrole
    simpa using hrole

theorem transition_ok (h : transition target row = .ok ()) :
    ∀ state, target.state = some state → state ∈ row.state.transitions := by
  intro state hstate
  unfold transition at h
  rw [hstate] at h
  dsimp only at h
  split at h
  · rename_i hedge
    simpa using hedge
  · cases h

/-- A mutation passed its checks, and wrote the time, the assignment and then the other fields. -/
theorem mutated_ok (h : mutated lib now target body p row = .ok row') :
    permitted target body p row = .ok () ∧ transition target row = .ok () ∧
      ∃ timed, schedule lib now target body row = .ok timed ∧ (assign target body timed).owned = true ∧
        row' = finish now target body (assign target body timed) := by
  unfold mutated at h
  simp only [bind, Except.bind, throw, throwThe, MonadExceptOf.throw, pure, Except.pure] at h
  split at h
  · cases h
  rename_i hpermitted
  split at h
  · cases h
  rename_i timed htimed
  split at h
  · cases h
  rename_i hedge
  split at h
  · cases h
  rename_i howner
  cases h
  refine ⟨hpermitted, hedge, timed, htimed, ?_, rfl⟩
  rw [CallbackRecord.owned, ← Bool.not_and, Bool.not_eq_true']
  simpa using howner

/-- A mutated row is the callback's next version, in the same state or one that an edge leads to. -/
theorem mutated_row (h : mutated lib now target body p row = .ok row') :
    row'.id = row.id ∧ row'.tenantId = row.tenantId ∧ row'.version = row.version + 1 ∧
      row.state.leadsTo row'.state ∧ row'.owned = true := by
  obtain ⟨-, hedge, timed, htimed, howned, rfl⟩ := mutated_ok h
  obtain ⟨t, timezone, rfl⟩ := schedule_ok htimed
  obtain ⟨agent, team, heq⟩ := assign_eq target body { row with scheduledAt := t, customerTimezone := timezone }
  rw [heq] at howned ⊢
  refine ⟨rfl, rfl, rfl, ?_, howned⟩
  cases hstate : target.state with
  | none => exact .inl (by simp [finish, hstate])
  | some state => exact .inr (by simpa [finish, hstate] using transition_ok hedge state hstate)

variable {locked : List Uuid} {campaign : String} {r : CallbackRecord}

theorem selectLate_subset {latest : Time}
    (h : r ∈ selectLate ctx campaign states latest locked db) :
    r ∈ db.records ∧ r.state ∈ states ∧ r.scheduledAt ≤ latest := by
  obtain ⟨hmem, hsel⟩ := List.mem_filter.1 h
  simp only [Bool.and_eq_true, List.contains_eq_mem, decide_eq_true_eq] at hsel
  exact ⟨hmem, hsel.1.1.2, hsel.1.2⟩

theorem selectLate_nodup {latest : Time}
    (h : (db.records.map (·.id)).Nodup) : ((selectLate ctx campaign states latest locked db).map (·.id)).Nodup :=
  h.sublist (List.filter_sublist.map _)

theorem dueRows_mem {workerId tenant : String} {limit : Nat}
    (h : r ∈ dueRows workerId tenant campaign limit now locked db) :
    r ∈ db.records ∧ r.state ∈ claimable ∧ r.scheduledAt ≤ now :=
  selectLate_subset ((List.mem_insertionSort _).1 (List.mem_of_mem_take h))

theorem run_wrote : Wrote lib now act db (act.run lib now db) := by
  cases act with
  | create p id body key correlation => exact create_wrote
  | mutate p id target body key correlation => exact mutate_wrote
  | claimDue workerId tenant campaign limit locked =>
    refine advanceRows_wrote rfl .due (fun r hr => ?_) (fun _ => ⟨tenant, campaign, limit, locked, rfl, rfl⟩) (fun h => ?_)
    · obtain ⟨hmem, hstate, -⟩ := dueRows_mem hr
      exact ⟨hmem, hstate⟩
    · refine List.Nodup.sublist ((List.take_sublist _ _).map _) ?_
      rw [((List.perm_insertionSort earliest _).map _).nodup_iff]
      exact selectLate_nodup h
  | markMissed workerId tenant campaign graceMinutes locked =>
    refine advanceRows_wrote rfl (.missed graceMinutes) (fun r hr => ?_) (fun h => by cases h) selectLate_nodup
    obtain ⟨hmem, hstate, -⟩ := selectLate_subset hr
    exact ⟨hmem, hstate⟩
  | escalateMissed workerId tenant campaign escalationMinutes locked =>
    refine advanceRows_wrote rfl (.escalated escalationMinutes) (fun r hr => ?_) (fun h => by cases h) selectLate_nodup
    obtain ⟨hmem, hstate, -⟩ := selectLate_subset hr
    exact ⟨hmem, hstate⟩
  | reconcile tenant campaign =>
    unfold Act.run reconcile
    dsimp only
    split
    · exact .same rfl rfl
    · refine .delivered rfl _ rfl (fun d => ?_) (.inl ⟨tenant, campaign, rfl, rfl⟩)
      split <;> rfl
  | deliverCallbackPopups tenant campaign limit gateway locked =>
    unfold Act.run deliverCallbackPopups
    dsimp only
    split
    · exact .same rfl rfl
    split
    · exact .same rfl rfl
    · rename_i written hwritten
      refine .delivered rfl _ rfl (fun d => ?_) (.inr ⟨tenant, campaign, limit, gateway, locked, written, rfl, hwritten, rfl⟩)
      -- a delivery is replaced by one that was written under its key
      cases hfind : written.find? fun x => x.idempotencyKey == d.idempotencyKey with
      | none => rfl
      | some x =>
        simpa using List.find?_some hfind

end Effects

end Middleware.Callbacks

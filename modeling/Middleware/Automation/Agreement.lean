/-
`MemoryAutomationStore` and `PostgresAutomationStore` side by side: what makes a state of one and the tables of the other the
same, and exactly when a call with the same arguments and clock readings answers alike on both and leaves corresponding
states. The ids that the sequence of the steps generates are not compared.
-/
import Middleware.Automation.DeadLetters

namespace Middleware.Automation.Durable

open Lib Automation OrderedDict

/-! ## Corresponding states -/

def SameEvidence (a b : StepEvidence) : Prop := { a with evidenceId := 0 } = { b with evidenceId := 0 }

/-- Two records of a run with the same counts: a mapping has no order. -/
structure SameRun (a b : ReconciliationRun) : Prop where
  counts : ∀ state, a.stateCounts.get state = b.stateCounts.get state
  rest : { a with stateCounts := [] } = { b with stateCounts := [] }

/-- The job is under its own tenant and id, and the id is that of its event. -/
def Identified (lib : Library) (m : Key × Job) : Prop :=
  m.1 = (m.2.tenantId, m.2.jobId) ∧ m.2.jobId =
    lib.uuid5 s!"codestra-automation-job:{m.2.tenantId}:{m.2.eventId}:{m.2.workflowKey}:{m.2.workflowVersion}"

/-- The two stores hold the same jobs, steps, approvals, dead letters and runs. -/
structure Corresponds (lib : Library) (s : Store) (db : Database) : Prop where
  jobs : db.jobs = s.jobs
  identified : ∀ m ∈ s.jobs, Identified lib m
  steps : ∀ key, Option.Rel (fun a b => a.1 = b.1 ∧ SameEvidence a.2 b.2) (s.steps.get key) (db.jobSteps.get key)
  approvals : ∀ key, s.approvals.get key = (db.approvals.get key).map fun row => (row.requestSha256, row.record)
  approvalKeys : ∀ tenantId jobId idempotencyKey, Option.Rel (fun id m => m.1 = (tenantId, id))
    (s.approvalIdempotency.get ((tenantId, jobId), idempotencyKey))
    (db.approvals.find? (Database.isApproval tenantId jobId idempotencyKey))
  primary : db.approvals.keys.Nodup
  deadLetters : db.deadLetters = s.deadLetters
  filed : ∀ m ∈ s.deadLetters, m.1.2 = deadLetterIdOf lib m.1.1 m.2.jobId
  runs : ∀ key, Option.Rel (fun a b => a.1 = b.1 ∧ SameRun a.2 b.2) (s.reconciliations.get key) (db.reconciliationRuns.get key)
  dispatches : ∀ key, (s.dispatches.get key).isSome = db.hasDispatch key
  dispatched : AllDispatched s
  owned : ∀ row ∈ db.dispatchOutbox, (s.jobs.get (row.tenantId, row.jobId)).isSome = true

/-! ## Corresponding answers -/

def className : Error → String
  | .conflict _ => "AutomationConflict"
  | .authorizationDenied _ => "AutomationAuthorizationDenied"
  | .notFound _ => "AutomationNotFound"
  | .keyError => "KeyError"

def SameReply : Reply → Reply → Prop
  | .evidence a, .evidence b => SameEvidence a b
  | .reconciliation a, .reconciliation b => SameRun a b
  | a, b => a = b

/-- Both raise an error of one class, or both return the same. -/
def SameAnswer : Except Error Reply → Except Raised Reply → Prop
  | .ok a, .ok b => SameReply a b
  | .error e, .error (.automation e') => className e = className e'
  | .ok _, .error _ => False
  | .error _, .ok _ => False
  | .error _, .error _ => False

/-- A call answers alike on both stores and leaves corresponding states. -/
structure Agrees (lib : Library) (x : Except Error Reply × Store) (y : Except Raised Reply × Database) : Prop where
  answer : SameAnswer x.1 y.1
  states : Corresponds lib x.2 y.2

variable {tenantId : String} {db' : Database} {s' : Store} (job : Job) {jobId : Uuid}

section Keeping

variable {lib : Library} {s : Store} {db : Database} {key : Key} {job job' : Job}

/-- A job changes and stays the one of its event. -/
structure SameIdentity (job job' : Job) : Prop where
  tenant : job'.tenantId = job.tenantId
  id : job'.jobId = job.jobId
  event : job'.eventId = job.eventId
  workflow : job'.workflowKey = job.workflowKey
  version : job'.workflowVersion = job.workflowVersion

theorem await_identity (job : Job) (now : Time) : SameIdentity job (job.await now) := by
  unfold Job.await
  split <;> exact ⟨rfl, rfl, rfl, rfl, rfl⟩

theorem Identified.same (h : Identified lib (key, job)) (hsame : SameIdentity job job') : Identified lib (key, job') := by
  obtain ⟨htenant, hid, hevent, hworkflow, hversion⟩ := hsame
  unfold Identified at h ⊢
  rw [htenant, hid, hevent, hworkflow, hversion]
  exact h

theorem Corresponds.put (h : Corresponds lib s db) (hget : s.jobs.get key = some job) (job' : Job) (hsame : SameIdentity job job') :
    Corresponds lib (s.put key job') (db.updateJob key job') := by
  refine { h with jobs := ?_, identified := ?_, dispatched := ?_, owned := ?_ }
  · show db.jobs.set key job' = s.jobs.set key job'
    rw [h.jobs]
  · intro m hm
    rcases mem_set hm with rfl | hold
    · exact (h.identified _ (mem_of_get hget)).same hsame
    · exact h.identified m hold
  · intro k new hnew
    have hset : (s.jobs.set key job').get k = some new := hnew
    rw [get_set] at hset
    split at hset
    · rename_i hk
      rw [hk]
      exact h.dispatched key job hget
    · exact h.dispatched k new hset
  · intro row hrow
    show ((s.jobs.set key job').get _).isSome = true
    rw [get_set]
    split
    · rfl
    · exact h.owned row hrow

theorem hasDispatch_dispatch (db : Database) (key : Key) (generation : Nat) (row : Job) (deliveryToken : String) (k : Key) :
    (db.dispatch key generation row deliveryToken).hasDispatch k = (db.hasDispatch k || decide (k = key)) := by
  unfold Database.hasDispatch Database.dispatch
  simp [Database.ofJob, eq_comm]

theorem Corresponds.dispatch (h : Corresponds lib s db) (hget : (s.jobs.get key).isSome = true) (dispatch : Dispatch)
    (generation : Nat) (row : Job) (deliveryToken : String) :
    Corresponds lib { s with dispatches := s.dispatches.set key dispatch } (db.dispatch key generation row deliveryToken) := by
  refine { h with dispatches := ?_, dispatched := ?_, owned := ?_ }
  · intro k
    rw [hasDispatch_dispatch, ← h.dispatches k]
    rw [get_set]
    by_cases hk : k = key
    · simp [hk]
    · simp [hk]
  · intro k job hjob
    rw [get_set]
    split
    · rfl
    · exact h.dispatched k job hjob
  · intro r hr
    rcases List.mem_append.1 hr with hold | hnew
    · exact h.owned r hold
    · rw [List.mem_singleton.1 hnew]
      exact hget

/-! ### Answers -/

theorem agrees_error (h : Corresponds lib s db) {e e' : Error} (hclass : className e = className e') :
    Agrees lib (.error e, s) (.error (.automation e'), db) := ⟨hclass, h⟩

theorem agrees_reply (h : Corresponds lib s' db') {a b : Reply} (hreply : SameReply a b) :
    Agrees lib (.ok a, s') (.ok b, db') := ⟨hreply, h⟩

variable {x : Except Error Reply × Store}

/-- An answer is never the same as an error that only the database raises. -/
theorem not_agrees_foreign {e : Raised} (he : ∀ e', e ≠ .automation e' := by rintro _ ⟨⟩) :
    ¬ Agrees lib x (.error e, db') := by
  rintro ⟨hanswer, -⟩
  cases e with
  | automation e' => exact he e' rfl
  | valueError message => rcases hx : x.1 with _ | _ <;> rw [hx] at hanswer <;> exact hanswer
  | dataError => rcases hx : x.1 with _ | _ <;> rw [hx] at hanswer <;> exact hanswer
  | uniqueViolation => rcases hx : x.1 with _ | _ <;> rw [hx] at hanswer <;> exact hanswer

/-- The tenant's connection opens. -/
def Supported (tenantId : String) : Prop := ∃ value, canonicalTenantId tenantId = .ok value

variable {α : Type}

theorem connection_ok (h : Supported tenantId) (statements : Database → Outcome α) (db : Database) :
    tenantConnection tenantId statements db = statements db := by
  obtain ⟨value, hvalue⟩ := h
  unfold tenantConnection
  rw [hvalue]

theorem connection_error (h : ¬ Supported tenantId) (statements : Database → Outcome α)
    (db : Database) : ∃ message, tenantConnection tenantId statements db = (.error (.valueError message), db) := by
  unfold tenantConnection
  split
  · rename_i e he
    unfold canonicalTenantId at he
    dsimp only at he
    split at he
    · cases he
      exact ⟨_, rfl⟩
    · split at he
      · cases he
        exact ⟨_, rfl⟩
      · cases he
  · rename_i value hvalue
    exact absurd ⟨value, hvalue⟩ h

theorem agrees_connection {statements : Database → Outcome α}
    {f : α → Reply} {P : Prop} (h : Supported tenantId → (Agrees lib x ((statements db).as f) ↔ ¬ P)) :
    Agrees lib x ((tenantConnection tenantId statements db).as f) ↔ ¬ (¬ Supported tenantId ∨ P) := by
  by_cases hs : Supported tenantId
  · rw [connection_ok hs, h hs]
    simp [hs]
  · obtain ⟨message, herror⟩ := connection_error hs statements db
    rw [herror]
    constructor
    · intro hagrees
      exact absurd hagrees not_agrees_foreign
    · intro hnot
      exact absurd (.inl hs) hnot

theorem job_cases (h : Corresponds lib s db) (tenantId : String) (jobId : Uuid) :
    (s.jobs.get (tenantId, jobId) = none ∧ s.raw tenantId jobId = .error (.notFound "automation job was not found") ∧
      db.job tenantId jobId = .error (notFound "automation job was not found")) ∨
    ∃ job, s.jobs.get (tenantId, jobId) = some job ∧ s.raw tenantId jobId = .ok job ∧ db.job tenantId jobId = .ok job := by
  unfold Store.raw Database.job
  rw [h.jobs]
  rcases s.jobs.get (tenantId, jobId) with _ | job
  · exact .inl ⟨rfl, rfl, rfl⟩
  · exact .inr ⟨job, rfl, rfl, rfl⟩

theorem lease_cases (hjob : db.job tenantId jobId = .ok job) (body : HeartbeatRequest)
    (clientId : String) (checked : Time) :
    (job.held body clientId checked = false ∧
      activeLease job body clientId checked = .error (.conflict "active automation lease is required") ∧
      leaseRow db tenantId jobId body clientId checked = .error (conflict "active automation lease is required")) ∨
    (job.held body clientId checked = true ∧ activeLease job body clientId checked = .ok () ∧
      leaseRow db tenantId jobId body clientId checked = .ok job) := by
  unfold activeLease leaseRow
  rw [hjob]
  dsimp only
  by_cases hheld : job.held body clientId checked = true
  · rw [if_pos hheld, if_pos hheld]
    exact .inr ⟨hheld, rfl, rfl⟩
  · rw [if_neg hheld, if_neg hheld]
    exact .inl ⟨by simpa using hheld, rfl, rfl⟩

end Keeping

/-! ## Calls -/

section Calls

variable {server : Server} {lib : Library} {s : Store} {db : Database}

theorem getJob_agrees (h : Corresponds lib s db) (tenantId : String) (jobId : Uuid) :
    Agrees lib ((Automation.getJob tenantId jobId s).as (.job · false)) ((getJob tenantId jobId db).as (.job · false)) ↔
      ¬ (¬ Supported tenantId ∨ False) := by
  refine agrees_connection fun _ => ?_
  rw [not_false_eq_true, iff_true]
  unfold Automation.getJob
  rcases job_cases h tenantId jobId with ⟨-, hraw, hjob⟩ | ⟨job, hget, hraw, hjob⟩
  · rw [hraw, hjob]
    exact agrees_error h rfl
  · rw [hraw, hjob]
    exact agrees_reply h rfl

theorem heartbeat_agrees (h : Corresponds lib s db) (jobId : Uuid) (body : HeartbeatRequest) (clientId : String)
    (checked now : Time) :
    Agrees lib ((Automation.heartbeat jobId body clientId checked now s).as (.job · false))
      ((heartbeat jobId body clientId checked now db).as (.job · false)) ↔ ¬ (¬ Supported body.tenantId ∨ False) := by
  refine agrees_connection fun _ => ?_
  rw [not_false_eq_true, iff_true]
  unfold Automation.heartbeat
  rcases job_cases h body.tenantId jobId with ⟨-, hraw, hjob⟩ | ⟨job, hget, hraw, hjob⟩
  · unfold leaseRow
    rw [hraw, hjob]
    exact agrees_error h rfl
  · rw [hraw]
    rcases lease_cases hjob body clientId checked with ⟨-, hactive, hrow⟩ | ⟨-, hactive, hrow⟩
    · dsimp only
      rw [hactive, hrow]
      exact agrees_error h rfl
    · dsimp only
      rw [hactive, hrow]
      refine agrees_reply (h.put hget _ ?_) ?_
      · exact ⟨rfl, rfl, rfl, rfl, rfl⟩
      · rfl

theorem hasDispatch_claimed (db : Database) (key k : Key) :
    Database.hasDispatch { db with
      dispatchOutbox := db.dispatchOutbox.map fun row =>
        if Database.ofJob key row && row.state == "PENDING" then { row with state := "CLAIMED" } else row } k = db.hasDispatch k := by
  unfold Database.hasDispatch
  rw [List.any_map]
  congr 1
  funext row
  simp only [Function.comp_apply]
  split
  · rename_i hpending
    simp only [Bool.and_eq_true, beq_iff_eq] at hpending
    simp [Database.ofJob, hpending.2]
  · rfl

variable {key : Key}

theorem Corresponds.claimed (h : Corresponds lib s db) {dispatch : Dispatch}
    (hdispatch : (s.dispatches.get key).isSome = true) :
    Corresponds lib { s with dispatches := s.dispatches.set key dispatch }
      { db with
        dispatchOutbox := db.dispatchOutbox.map fun row =>
          if Database.ofJob key row && row.state == "PENDING" then { row with state := "CLAIMED" } else row } := by
  have hsame : ∀ k, ((s.dispatches.set key dispatch).get k).isSome = (s.dispatches.get k).isSome := by
    intro k
    rw [get_set]
    split
    · rename_i hk
      rw [hk, hdispatch]
      rfl
    · rfl
  refine { h with dispatches := ?_, dispatched := ?_, owned := ?_ }
  · intro k
    rw [hasDispatch_claimed, ← h.dispatches k]
    exact hsame k
  · intro k job hjob
    rw [hsame]
    exact h.dispatched k job hjob
  · intro row hrow
    obtain ⟨old, hold, rfl⟩ := List.mem_map.1 hrow
    have howned := h.owned old hold
    split
    · exact howned
    · exact howned

theorem claim_agrees (h : Corresponds lib s db) (body : JobClaimRequest) (clientId : String) (now : Time) :
    Agrees lib ((Automation.claim lib body clientId now s).as .claimed) ((claim lib body clientId now db).as .claimed) ↔
      ¬ (¬ Supported body.tenantId ∨ False) := by
  refine agrees_connection fun _ => ?_
  rw [not_false_eq_true, iff_true]
  unfold Automation.claim
  rcases job_cases h body.tenantId body.jobId with ⟨-, hraw, hjob⟩ | ⟨job, hget, hraw, hjob⟩
  · rw [hraw, hjob]
    exact agrees_error h rfl
  rw [hraw, hjob]
  dsimp only
  by_cases hworkflow : job.workflowKey ≠ body.workflowKey ∨ job.workflowVersion ≠ body.workflowVersion
  · rw [if_pos hworkflow, if_pos hworkflow]
    exact agrees_error h rfl
  rw [if_neg hworkflow, if_neg hworkflow]
  by_cases hclient : job.expectedClientId ≠ clientId
  · rw [if_pos hclient, if_pos hclient]
    exact agrees_error h rfl
  rw [if_neg hclient, if_neg hclient]
  by_cases htoken : job.deliveryTokenSha256 ≠ tokenDigest body.deliveryToken
  · rw [if_pos htoken, if_pos htoken]
    exact agrees_error h rfl
  rw [if_neg htoken, if_neg htoken]
  by_cases hused : job.deliveryTokenUsedAt.isSome = true
  · rw [if_pos hused, if_pos hused]
    split
    · exact agrees_reply h rfl
    · exact agrees_error h rfl
  rw [if_neg hused, if_neg hused]
  by_cases hstate : job.state ≠ .pending ∧ job.state ≠ .retryScheduled
  · rw [if_pos hstate, if_pos hstate]
    exact agrees_error h rfl
  rw [if_neg hstate, if_neg hstate]
  have hdispatched := h.dispatched _ job hget
  obtain ⟨dispatch, hdispatch⟩ := Option.isSome_iff_exists.1 hdispatched
  have hput : ∀ new : Job, (s.put (body.tenantId, body.jobId) new).dispatches = s.dispatches := fun _ => rfl
  rw [hput, hdispatch]
  refine agrees_reply ?_ rfl
  refine Corresponds.claimed (h.put hget _ ?_) hdispatched
  exact ⟨rfl, rfl, rfl, rfl, rfl⟩

/-! ### Steps -/

/-- Two steps of the same idempotency key that the stores take differently: a duplicate moves the job on the database only, and
a text or a document may not fit a column. -/
def StepDiverges (server : Server) (lib : Library) (s : Store) (jobId : Uuid) (body : StepRecord) (clientId : String)
    (checked : Time) : Prop :=
  ∃ job, s.jobs.get (body.tenantId, jobId) = some job ∧ job.held body.toHeartbeatRequest clientId checked = true ∧
    (server.holds body.stepKey = false ∨
      match s.steps.get ((body.tenantId, jobId), body.idempotencyKey) with
      | none => server.jsonb body.safeMetadata ≠ some body.safeMetadata
      | some (existing, _) => server.jsonb body.safeMetadata = none ∨ existing = body.digest lib)

theorem not_corresponds_moved {job job' : Job} (hget : s'.jobs.get key = some job)
    (hget' : db'.jobs.get key = some job') (hne : job' ≠ job) : ¬ Corresponds lib s' db' := by
  intro h
  rw [h.jobs, hget] at hget'
  exact hne (Option.some.inj hget').symm

theorem Corresponds.sequence (h : Corresponds lib s db) (n : Nat) : Corresponds lib s { db with jobStepsId := n } := { h with }

theorem Corresponds.step (h : Corresponds lib s db) (k : Key × String) (requestDigest : String) {evidence evidence' : StepEvidence}
    (hevidence : SameEvidence evidence evidence') :
    Corresponds lib { s with steps := s.steps.set k (requestDigest, evidence) }
      { db with jobSteps := db.jobSteps.set k (requestDigest, evidence') } := by
  refine { h with steps := ?_ }
  intro key
  rw [get_set, get_set]
  split
  · exact .some ⟨rfl, hevidence⟩
  · exact h.steps key

theorem recordStep_agrees (h : Corresponds lib s db) (jobId : Uuid) (body : StepRecord) (clientId : String) (checked now : Time) :
    Agrees lib ((Automation.recordStep lib jobId body clientId checked now s).as .evidence)
      ((recordStep server lib jobId body clientId checked now db).as .evidence) ↔
      ¬ (¬ Supported body.tenantId ∨ StepDiverges server lib s jobId body clientId checked) := by
  refine agrees_connection fun _ => ?_
  unfold Automation.recordStep StepDiverges
  rcases job_cases h body.tenantId jobId with ⟨hnone, hraw, hjob⟩ | ⟨job, hget, hraw, hjob⟩
  · have hrow : leaseRow db body.tenantId jobId body.toHeartbeatRequest clientId checked =
        .error (notFound "automation job was not found") := by
      unfold leaseRow
      rw [hjob]
    rw [hraw, hrow]
    refine iff_of_true (agrees_error h rfl) ?_
    rintro ⟨job, hget, -⟩
    rw [hnone] at hget
    cases hget
  rw [hraw]
  dsimp only
  rcases lease_cases hjob body.toHeartbeatRequest clientId checked with ⟨hheld, hactive, hrow⟩ | ⟨hheld, hactive, hrow⟩
  · rw [hactive, hrow]
    refine iff_of_true (agrees_error h rfl) ?_
    rintro ⟨job', hget', hheld', -⟩
    rw [hget] at hget'
    cases hget'
    rw [hheld] at hheld'
    cases hheld'
  rw [hactive, hrow]
  have hdiverges : ∀ P : Prop, (∃ job', s.jobs.get (body.tenantId, jobId) = some job' ∧
      job'.held body.toHeartbeatRequest clientId checked = true ∧ P) ↔ P := by
    intro P
    constructor
    · rintro ⟨_, _, _, hP⟩
      exact hP
    · intro hP
      exact ⟨job, hget, hheld, hP⟩
  rw [hdiverges]
  have hsteps := h.steps ((body.tenantId, jobId), body.idempotencyKey)
  cases hholds : server.holds body.stepKey with
  | false =>
    refine iff_of_false not_agrees_foreign ?_
    simp
  | true =>
    cases hjsonb : server.jsonb body.safeMetadata with
    | none =>
      refine iff_of_false not_agrees_foreign ?_
      rcases s.steps.get ((body.tenantId, jobId), body.idempotencyKey) with _ | ⟨existing, evidence⟩ <;> simp
    | some stored =>
      rcases hold : s.steps.get ((body.tenantId, jobId), body.idempotencyKey) with _ | ⟨existing, evidence⟩ <;>
        rcases hnew : db.jobSteps.get ((body.tenantId, jobId), body.idempotencyKey) with _ | ⟨existing', evidence'⟩ <;>
        rw [hold, hnew] at hsteps
      · -- a new step: the metadata has to come back as it was written
        by_cases hmetadata : stored = body.safeMetadata
        · subst hmetadata
          refine iff_of_true (agrees_reply ?_ rfl) (by simp)
          have hput := (h.sequence (db.jobStepsId + 1)).put hget (job.run now) ⟨rfl, rfl, rfl, rfl, rfl⟩
          exact hput.step ((body.tenantId, jobId), body.idempotencyKey) (body.digest lib) rfl
        · refine iff_of_false ?_ (by simp [hmetadata])
          rintro ⟨hanswer, -⟩
          have hsame := congrArg StepEvidence.safeMetadata (show SameEvidence _ _ from hanswer)
          exact hmetadata hsame.symm
      · cases hsteps
      · cases hsteps
      · obtain ⟨hdigest, hevidence⟩ := Option.rel_some_some.1 hsteps
        dsimp only at hdigest hevidence ⊢
        rw [← hdigest]
        by_cases hsame : existing = body.digest lib
        · -- a duplicate moves the job on the database only
          rw [if_neg (not_not.2 hsame), if_neg (not_not.2 hsame)]
          refine iff_of_false ?_ (by simp [hsame])
          rintro ⟨-, hstates⟩
          refine not_corresponds_moved hget get_set_self ?_ hstates
          intro heq
          have hversion := congrArg Job.resourceVersion heq
          simp [Job.run] at hversion
        · rw [if_pos hsame, if_pos hsame]
          exact iff_of_true (agrees_error (h.sequence _) rfl) (by simp [hsame])

/-! ### Terminal reports -/

/-- A report that the stores take as the first one under a lease. -/
def Accepts (s : Store) (jobId : Uuid) (r : HeartbeatRequest) (clientId : String) (checked : Time) (job : Job) : Prop :=
  s.jobs.get (r.tenantId, jobId) = some job ∧ job.terminalIdempotencyKey = none ∧ job.held r clientId checked = true

theorem terminal_cases (idempotencyKey requestDigest : String) :
    (∃ e e', terminalReplay job idempotencyKey requestDigest = .error e ∧
      terminalExisting job idempotencyKey requestDigest = .error (.automation e') ∧ className e = className e' ∧
      job.terminalIdempotencyKey ≠ none) ∨
    (terminalReplay job idempotencyKey requestDigest = .ok (some job) ∧
      terminalExisting job idempotencyKey requestDigest = .ok (some job) ∧ job.terminalIdempotencyKey ≠ none) ∨
    (terminalReplay job idempotencyKey requestDigest = .ok none ∧
      terminalExisting job idempotencyKey requestDigest = .ok none ∧ job.terminalIdempotencyKey = none) := by
  unfold terminalReplay terminalExisting
  rcases job.terminalIdempotencyKey with _ | existing
  · exact .inr (.inr ⟨rfl, rfl, rfl⟩)
  · dsimp only
    split
    · exact .inr (.inl ⟨rfl, rfl, nofun⟩)
    · exact .inl ⟨_, _, rfl, rfl, rfl, nofun⟩

/-- What the two stores find before a terminal report is taken. -/
inductive Finds (s : Store) (db : Database) (jobId : Uuid) (r : HeartbeatRequest) (clientId : String) (checked : Time)
    (idempotencyKey requestDigest : String) : Prop
  | missing (raw : s.raw r.tenantId jobId = .error (.notFound "automation job was not found"))
      (row : db.job r.tenantId jobId = .error (notFound "automation job was not found"))
  | different (job : Job) (e e' : Error) (raw : s.raw r.tenantId jobId = .ok job) (row : db.job r.tenantId jobId = .ok job)
      (replay : terminalReplay job idempotencyKey requestDigest = .error e)
      (existing : terminalExisting job idempotencyKey requestDigest = .error (.automation e')) (same : className e = className e')
  | recorded (job : Job) (raw : s.raw r.tenantId jobId = .ok job) (row : db.job r.tenantId jobId = .ok job)
      (replay : terminalReplay job idempotencyKey requestDigest = .ok (some job))
      (existing : terminalExisting job idempotencyKey requestDigest = .ok (some job))
  | unleased (job : Job) (raw : s.raw r.tenantId jobId = .ok job) (row : db.job r.tenantId jobId = .ok job)
      (replay : terminalReplay job idempotencyKey requestDigest = .ok none)
      (existing : terminalExisting job idempotencyKey requestDigest = .ok none)
      (active : activeLease job r clientId checked = .error (.conflict "active automation lease is required"))
      (lease : leaseRow db r.tenantId jobId r clientId checked = .error (conflict "active automation lease is required"))

/-- A report is not taken, and the stores find the same; or it is taken by both. -/
theorem report_cases (h : Corresponds lib s db) (jobId : Uuid) (r : HeartbeatRequest) (clientId : String) (checked : Time)
    (idempotencyKey requestDigest : String) :
    ((∀ job, ¬ Accepts s jobId r clientId checked job) ∧ Finds s db jobId r clientId checked idempotencyKey requestDigest) ∨
    ∃ job, Accepts s jobId r clientId checked job ∧ s.raw r.tenantId jobId = .ok job ∧ db.job r.tenantId jobId = .ok job ∧
      terminalReplay job idempotencyKey requestDigest = .ok none ∧ terminalExisting job idempotencyKey requestDigest = .ok none ∧
      activeLease job r clientId checked = .ok () ∧ leaseRow db r.tenantId jobId r clientId checked = .ok job := by
  rcases job_cases h r.tenantId jobId with ⟨hnone, hraw, hjob⟩ | ⟨job, hget, hraw, hjob⟩
  · refine .inl ⟨?_, .missing hraw hjob⟩
    rintro job ⟨hget, -⟩
    rw [hnone] at hget
    cases hget
  rcases terminal_cases job idempotencyKey requestDigest with
    ⟨e, e', hreplay, hexisting, hclass, hkey⟩ | ⟨hreplay, hexisting, hkey⟩ | ⟨hreplay, hexisting, hkey⟩
  · refine .inl ⟨?_, .different job e e' hraw hjob hreplay hexisting hclass⟩
    rintro job' ⟨hget', hkey', -⟩
    rw [hget] at hget'
    cases hget'
    exact hkey hkey'
  · refine .inl ⟨?_, .recorded job hraw hjob hreplay hexisting⟩
    rintro job' ⟨hget', hkey', -⟩
    rw [hget] at hget'
    cases hget'
    exact hkey hkey'
  rcases lease_cases hjob r clientId checked with ⟨hheld, hactive, hrow⟩ | ⟨hheld, hactive, hrow⟩
  · refine .inl ⟨?_, .unleased job hraw hjob hreplay hexisting hactive hrow⟩
    rintro job' ⟨hget', -, hheld'⟩
    rw [hget] at hget'
    cases hget'
    rw [hheld] at hheld'
    cases hheld'
  · exact .inr ⟨job, ⟨hget, hkey, hheld⟩, hraw, hjob, hreplay, hexisting, hactive, hrow⟩

theorem Accepts.unique {r : HeartbeatRequest} {clientId : String} {checked : Time} {job job' : Job}
    (h : Accepts s jobId r clientId checked job) (h' : Accepts s jobId r clientId checked job') : job' = job := by
  have hget := h'.1
  rw [h.1] at hget
  exact (Option.some.inj hget).symm

/-- A completion whose result does not fit its column. -/
def CompleteDiverges (server : Server) (s : Store) (jobId : Uuid) (body : TerminalResult) (clientId : String) (checked : Time) :
    Prop :=
  ∃ job, Accepts s jobId body.toHeartbeatRequest clientId checked job ∧ server.jsonb body.safeResult = none

theorem complete_agrees (h : Corresponds lib s db) (jobId : Uuid) (body : TerminalResult) (clientId : String) (checked now : Time) :
    Agrees lib ((Automation.complete jobId body clientId checked now s).as fun x => .job x.1 x.2)
      ((complete server jobId body clientId checked now db).as fun x => .job x.1 x.2) ↔
      ¬ (¬ Supported body.tenantId ∨ CompleteDiverges server s jobId body clientId checked) := by
  refine agrees_connection fun _ => ?_
  unfold Automation.complete CompleteDiverges
  rcases report_cases h jobId body.toHeartbeatRequest clientId checked body.idempotencyKey body.digest with
    ⟨hnone, hfinds⟩ | ⟨job, haccepts, hraw, hjob, hreplay, hexisting, hactive, hrow⟩
  · refine iff_of_true ?_ fun ⟨job, haccepts, _⟩ => hnone job haccepts
    cases hfinds with
    | missing raw row =>
      rw [raw, row]
      exact agrees_error h rfl
    | different job e e' raw row replay existing same =>
      rw [raw, row]
      dsimp only
      rw [replay, existing]
      exact agrees_error h same
    | recorded job raw row replay existing =>
      rw [raw, row]
      dsimp only
      rw [replay, existing]
      exact agrees_reply h rfl
    | unleased job raw row replay existing active lease =>
      rw [raw, row]
      dsimp only
      rw [replay, existing]
      rw [active, lease]
      exact agrees_error h rfl
  rw [hraw, hjob]
  dsimp only
  rw [hreplay, hexisting]
  rw [hactive, hrow]
  rcases hjsonb : server.jsonb body.safeResult with _ | stored
  · exact iff_of_false not_agrees_foreign (not_not.2 ⟨job, haccepts, rfl⟩)
  · refine iff_of_true (agrees_reply (h.put haccepts.1 _ ?_) rfl) ?_
    · exact ⟨rfl, rfl, rfl, rfl, rfl⟩
    · rintro ⟨_, _, hnone⟩
      cases hnone

/-- A failure whose error does not fit its column, or that leads to DEAD_LETTER where another dead letter stands: in memory it
is replaced, in the database it stays. -/
def FailDiverges (server : Server) (lib : Library) (s : Store) (jobId : Uuid) (body : FailureResult) (clientId : String)
    (checked now : Time) : Prop :=
  ∃ job, Accepts s jobId body.toHeartbeatRequest clientId checked job ∧ (server.jsonb body.safeError = none ∨
    job.failureState body = .deadLetter ∧ ∃ dead,
      s.deadLetters.get (body.tenantId, deadLetterIdOf lib body.tenantId jobId) = some dead ∧
      dead ≠ job.deadLetter lib body.tenantId jobId body now)

theorem failedRow_retry (body : FailureResult) (deliveryToken : String) (now : Time) :
    failedRow job .retryScheduled body (some (tokenDigest deliveryToken)) now =
      (job.terminal .retryScheduled none (some body.errorCode) body.idempotencyKey body.digest now).reopened deliveryToken := by
  simp [failedRow, Job.terminal, Job.reopened]

theorem failedRow_settled {state : JobState} (hstate : state ≠ .retryScheduled) (body : FailureResult) (now : Time) :
    failedRow job state body none now =
      job.terminal state none (some body.errorCode) body.idempotencyKey body.digest now := by
  simp [failedRow, Job.terminal, hstate]

variable {dead : DeadLetterRecord}

theorem Corresponds.bury (h : Corresponds lib s db)
    (hid : key.2 = deadLetterIdOf lib key.1 dead.jobId) :
    Corresponds lib { s with deadLetters := s.deadLetters.set key dead } { db with deadLetters := db.deadLetters.set key dead } := by
  refine { h with deadLetters := ?_, filed := ?_ }
  · rw [h.deadLetters]
  · intro m hm
    rcases mem_set hm with rfl | hold
    · exact hid
    · exact h.filed m hold

theorem insertDeadLetter_new (h : Corresponds lib s db) (tenantId : String) (dead : DeadLetterRecord)
    (hid : dead.deadLetterId = deadLetterIdOf lib tenantId dead.jobId)
    (hnew : s.deadLetters.get (tenantId, dead.deadLetterId) = none) :
    insertDeadLetter db tenantId dead = .ok { db with deadLetters := db.deadLetters.set (tenantId, dead.deadLetterId) dead } := by
  unfold insertDeadLetter
  rw [h.deadLetters, if_neg (by rw [hnew]; nofun), if_neg]
  intro hany
  -- another one of the job would stand under the same id
  obtain ⟨m, hm, hsame⟩ := List.any_eq_true.1 hany
  obtain ⟨htenant, hjob⟩ := of_decide_eq_true hsame
  have hkey : m.1 = (tenantId, dead.deadLetterId) := by
    refine Prod.ext htenant ?_
    rw [h.filed m hm, htenant, hjob, hid]
  refine get_eq_none.1 hnew ?_
  rw [← hkey]
  exact List.mem_map.2 ⟨m, hm, rfl⟩

theorem fail_agrees (h : Corresponds lib s db) (jobId : Uuid) (body : FailureResult) (clientId deliveryToken : String)
    (checked now : Time) :
    Agrees lib ((Automation.fail lib jobId body clientId deliveryToken checked now s).as fun x => .job x.1 x.2)
      ((fail server lib jobId body clientId deliveryToken checked now db).as fun x => .job x.1 x.2) ↔
      ¬ (¬ Supported body.tenantId ∨ FailDiverges server lib s jobId body clientId checked now) := by
  refine agrees_connection fun _ => ?_
  unfold Automation.fail
  rcases report_cases h jobId body.toHeartbeatRequest clientId checked body.idempotencyKey body.digest with
    ⟨hnone, hfinds⟩ | ⟨job, haccepts, hraw, hjob, hreplay, hexisting, hactive, hrow⟩
  · refine iff_of_true ?_ fun ⟨job, haccepts, _⟩ => hnone job haccepts
    cases hfinds with
    | missing raw row =>
      rw [raw, row]
      exact agrees_error h rfl
    | different job e e' raw row replay existing same =>
      rw [raw, row]
      dsimp only
      rw [replay, existing]
      exact agrees_error h same
    | recorded job raw row replay existing =>
      rw [raw, row]
      dsimp only
      rw [replay, existing]
      exact agrees_reply h rfl
    | unleased job raw row replay existing active lease =>
      rw [raw, row]
      dsimp only
      rw [replay, existing]
      rw [active, lease]
      exact agrees_error h rfl
  rw [hraw, hjob]
  dsimp only
  rw [hreplay, hexisting]
  rw [hactive, hrow]
  rcases hjsonb : server.jsonb body.safeError with _ | stored
  · exact iff_of_false not_agrees_foreign (not_not.2 ⟨job, haccepts, .inl hjsonb⟩)
  have hdiverges : FailDiverges server lib s jobId body clientId checked now ↔ job.failureState body = .deadLetter ∧ ∃ dead,
      s.deadLetters.get (body.tenantId, deadLetterIdOf lib body.tenantId jobId) = some dead ∧
      dead ≠ job.deadLetter lib body.tenantId jobId body now := by
    constructor
    · rintro ⟨job', haccepts', hnone | hrest⟩
      · rw [hjsonb] at hnone
        cases hnone
      · rwa [haccepts.unique haccepts'] at hrest
    · intro hrest
      exact ⟨job, haccepts, .inr hrest⟩
  rw [hdiverges]
  have hfound := haccepts.1
  rcases failureState_cases job body with hstate | hstate | hstate
  · -- another attempt, under a new token
    simp only [hstate, ↓reduceIte, failedRow_retry]
    refine iff_of_true (agrees_reply ?_ rfl) (by simp)
    refine Corresponds.dispatch (h.put hfound _ ?_) ?_ _ _ _ _
    · exact ⟨rfl, rfl, rfl, rfl, rfl⟩
    · show ((s.jobs.set _ _).get _).isSome = true
      rw [get_set_self]
      rfl
  · -- a dead letter
    simp only [hstate, reduceCtorEq, ↓reduceIte, true_and]
    rw [failedRow_settled job (by decide)]
    have hput := h.put hfound (job.terminal .deadLetter none (some body.errorCode) body.idempotencyKey body.digest now)
      ⟨rfl, rfl, rfl, rfl, rfl⟩
    rcases hold : s.deadLetters.get (body.tenantId, deadLetterIdOf lib body.tenantId jobId) with _ | dead
    · rw [insertDeadLetter_new hput body.tenantId (job.deadLetter lib body.tenantId jobId body now) rfl hold]
      refine iff_of_true (agrees_reply ?_ rfl) (by simp)
      exact hput.bury rfl
    · have hkept : insertDeadLetter (db.updateJob (body.tenantId, jobId) (job.terminal .deadLetter none (some body.errorCode)
          body.idempotencyKey body.digest now)) body.tenantId (job.deadLetter lib body.tenantId jobId body now) =
          .ok (db.updateJob (body.tenantId, jobId) (job.terminal .deadLetter none (some body.errorCode)
            body.idempotencyKey body.digest now)) := by
        refine if_pos ?_
        rw [hput.deadLetters]
        show (s.deadLetters.get (body.tenantId, deadLetterIdOf lib body.tenantId jobId)).isSome = true
        rw [hold]
        rfl
      rw [hkept]
      by_cases hsame : dead = job.deadLetter lib body.tenantId jobId body now
      · subst hsame
        refine iff_of_true (agrees_reply ?_ rfl) (by simp)
        have hset : s.deadLetters.set (body.tenantId, deadLetterIdOf lib body.tenantId jobId)
            (job.deadLetter lib body.tenantId jobId body now) = s.deadLetters := set_get hold
        have hstore : { s.put (body.tenantId, jobId) (job.terminal .deadLetter none (some body.errorCode) body.idempotencyKey
            body.digest now) with
              deadLetters := s.deadLetters.set (body.tenantId, deadLetterIdOf lib body.tenantId jobId)
                (job.deadLetter lib body.tenantId jobId body now) } =
            s.put (body.tenantId, jobId) (job.terminal .deadLetter none (some body.errorCode) body.idempotencyKey body.digest now) := by
          rw [hset]
          rfl
        rw [← hstore] at hput
        exact hput
      · refine iff_of_false ?_ (by simp [hsame])
        rintro ⟨-, hstates⟩
        have hdead : db.deadLetters = s.deadLetters.set (body.tenantId, deadLetterIdOf lib body.tenantId jobId)
            (job.deadLetter lib body.tenantId jobId body now) := hstates.deadLetters
        have hget := congrArg (get · (body.tenantId, deadLetterIdOf lib body.tenantId jobId)) hdead
        rw [h.deadLetters, hold, get_set_self] at hget
        exact hsame (Option.some.inj hget)
  · simp only [hstate, reduceCtorEq, ↓reduceIte, false_and, not_false_eq_true, iff_true]
    refine agrees_reply (h.put hfound _ ?_) rfl
    exact ⟨rfl, rfl, rfl, rfl, rfl⟩

/-! ### Approvals -/

/-- An approval whose texts do not fit their columns, or whose id stands under another idempotency key. -/
def ApprovalDiverges (server : Server) (lib : Library) (s : Store) (body : ApprovalRequest) (clientId requestedBy : String) : Prop :=
  ∃ job, s.jobs.get (body.tenantId, body.jobId) = some job ∧ job.expectedClientId = clientId ∧
    (List.all [body.summary, requestedBy] server.holds = false ∨
      s.approvalIdempotency.get ((body.tenantId, body.jobId), body.idempotencyKey) = none ∧
      (s.approvals.get (body.tenantId, lib.uuid5 s!"codestra-approval:{body.tenantId}:{body.jobId}:{body.idempotencyKey}")).isSome =
        true)

theorem Corresponds.decided (h : Corresponds lib s db) {key : Key} {row : ApprovalRow} {record : ApprovalRecord}
    (hget : db.approvals.get key = some row) (hjob : record.jobId = row.record.jobId) :
    Corresponds lib { s with approvals := s.approvals.set key (row.requestSha256, record) }
      { db with approvals := db.approvals.set key { row with record := record } } := by
  refine { h with approvals := ?_, approvalKeys := ?_, primary := nodup_keys_set h.primary }
  · intro k
    rw [get_set, get_set]
    split
    · rfl
    · exact h.approvals k
  · intro tenantId jobId idempotencyKey
    have hold := h.approvalKeys tenantId jobId idempotencyKey
    rw [find?_set h.primary hget (by unfold Database.isApproval; dsimp only; rw [hjob])]
    rcases hfind : db.approvals.find? (Database.isApproval tenantId jobId idempotencyKey) with _ | m
    · rw [hfind] at hold
      exact hold
    · rw [hfind] at hold
      rcases hid : s.approvalIdempotency.get ((tenantId, jobId), idempotencyKey) with _ | id
      · rw [hid] at hold
        cases hold
      · rw [hid] at hold
        refine .some ?_
        have hkey : m.1 = (tenantId, id) := by
          cases hold with
          | some hkey => exact hkey
        dsimp only
        split
        · rename_i heq
          exact heq.symm.trans hkey
        · exact hkey

theorem Corresponds.requested (h : Corresponds lib s db) {approvalId : Uuid} {idempotencyKey : String}
    {record : ApprovalRecord} {requestDigest : String} (hnew : db.approvals.get (tenantId, approvalId) = none)
    (hfirst : db.approvals.find? (Database.isApproval tenantId jobId idempotencyKey) = none) (hjob : record.jobId = jobId) :
    Corresponds lib
      { s with
        approvals := s.approvals.set (tenantId, approvalId) (requestDigest, record)
        approvalIdempotency := s.approvalIdempotency.set ((tenantId, jobId), idempotencyKey) approvalId }
      { db with approvals := db.approvals.set (tenantId, approvalId) ⟨record, idempotencyKey, requestDigest⟩ } := by
  refine { h with approvals := ?_, approvalKeys := ?_, primary := nodup_keys_set h.primary }
  · intro k
    rw [get_set, get_set]
    split
    · rfl
    · exact h.approvals k
  · intro tenantId' jobId' idempotencyKey'
    have hold := h.approvalKeys tenantId' jobId' idempotencyKey'
    rw [find?_set_new hnew, get_set]
    by_cases hsame : ((tenantId', jobId'), idempotencyKey') = ((tenantId, jobId), idempotencyKey)
    · obtain ⟨⟨rfl, rfl⟩, rfl⟩ : (tenantId' = tenantId ∧ jobId' = jobId) ∧ idempotencyKey' = idempotencyKey := by
        simpa using hsame
      rw [if_pos rfl, hfirst, Option.none_or, if_pos]
      · exact .some rfl
      · unfold Database.isApproval
        simp [hjob]
    · rw [if_neg hsame]
      have hother : Database.isApproval tenantId' jobId' idempotencyKey'
          ((tenantId, approvalId), ⟨record, idempotencyKey, requestDigest⟩) = false := by
        unfold Database.isApproval
        rw [decide_eq_false_iff_not]
        rintro ⟨htenant, hjob', hkey⟩
        rw [← htenant, ← hjob', ← hkey, hjob] at hsame
        exact hsame rfl
      rw [hother]
      simpa using hold

theorem getApproval_agrees (h : Corresponds lib s db) (tenantId : String) (approvalId : Uuid) (checked now : Time) :
    Agrees lib ((Automation.getApproval tenantId approvalId checked now s).as .approval)
      ((getApproval tenantId approvalId checked now db).as .approval) ↔ ¬ (¬ Supported tenantId ∨ False) := by
  refine agrees_connection fun _ => ?_
  rw [not_false_eq_true, iff_true]
  unfold Automation.getApproval
  rw [h.approvals]
  rcases hrow : db.approvals.get (tenantId, approvalId) with _ | row
  · exact agrees_error h rfl
  · dsimp only [Option.map_some]
    split
    · refine agrees_reply ?_ rfl
      exact h.decided hrow rfl
    · exact agrees_reply h rfl

theorem requestApproval_agrees (h : Corresponds lib s db) (body : ApprovalRequest) (clientId requestedBy : String) (now : Time) :
    Agrees lib ((Automation.requestApproval lib body clientId requestedBy now s).as .approval)
      ((requestApproval server lib body clientId requestedBy now db).as .approval) ↔
      ¬ (¬ Supported body.tenantId ∨ ApprovalDiverges server lib s body clientId requestedBy) := by
  refine agrees_connection fun _ => ?_
  unfold Automation.requestApproval
  rcases job_cases h body.tenantId body.jobId with ⟨hnone, hraw, hjob⟩ | ⟨job, hget, hraw, hjob⟩
  · rw [hraw, hjob]
    refine iff_of_true (agrees_error h rfl) ?_
    rintro ⟨job, hget, -⟩
    rw [hnone] at hget
    cases hget
  rw [hraw, hjob]
  dsimp only
  have hdiverges : ApprovalDiverges server lib s body clientId requestedBy ↔ job.expectedClientId = clientId ∧
      (List.all [body.summary, requestedBy] server.holds = false ∨
        s.approvalIdempotency.get ((body.tenantId, body.jobId), body.idempotencyKey) = none ∧
        (s.approvals.get (body.tenantId, lib.uuid5 s!"codestra-approval:{body.tenantId}:{body.jobId}:{body.idempotencyKey}")).isSome =
          true) := by
    constructor
    · rintro ⟨job', hget', hrest⟩
      rw [hget] at hget'
      cases hget'
      exact hrest
    · intro hrest
      exact ⟨job, hget, hrest⟩
  rw [hdiverges]
  by_cases hclient : job.expectedClientId = clientId
  case neg =>
    rw [if_pos hclient, if_pos hclient]
    exact iff_of_true (agrees_error h rfl) fun hdiv => hclient hdiv.1
  rw [if_neg (not_not.2 hclient), if_neg (not_not.2 hclient)]
  rcases hholds : List.all [body.summary, requestedBy] server.holds with _ | _
  · exact iff_of_false not_agrees_foreign (by simp [hclient])
  simp only [Bool.not_true, Bool.false_eq_true, ↓reduceIte, Bool.true_eq_false, false_or]
  have hkeys := h.approvalKeys body.tenantId body.jobId body.idempotencyKey
  unfold Database.approvalUnder
  rcases hid : s.approvalIdempotency.get ((body.tenantId, body.jobId), body.idempotencyKey) with _ | id <;>
    rcases hfind : db.approvals.find? (Database.isApproval body.tenantId body.jobId body.idempotencyKey) with _ | m <;>
    rw [hid, hfind] at hkeys
  · -- a new approval
    rw [h.approvals, Option.isSome_map]
    by_cases hnew : (db.approvals.get (body.tenantId,
        lib.uuid5 s!"codestra-approval:{body.tenantId}:{body.jobId}:{body.idempotencyKey}")).isSome = true
    · rw [if_pos hnew]
      exact iff_of_false not_agrees_foreign (not_not.2 ⟨hclient, rfl, hnew⟩)
    · rw [if_neg hnew]
      refine iff_of_true (agrees_reply ?_ rfl) fun hdiv => hnew hdiv.2.2
      rw [Bool.not_eq_true, Option.isSome_eq_false_iff, Option.isNone_iff_eq_none] at hnew
      exact (h.put hget (job.await now) (await_identity job now)).requested hnew hfind rfl
  · cases hkeys
  · cases hkeys
  · have hkey : m.1 = (body.tenantId, id) := by
      cases hkeys with
      | some hkey => exact hkey
    have hrow : db.approvals.get (body.tenantId, id) = some m.2 := by
      rw [← hkey]
      exact get_of_mem h.primary (List.mem_of_find?_eq_some hfind)
    dsimp only [Option.map_some]
    rw [h.approvals, hrow]
    dsimp only [Option.map_some]
    refine iff_of_true ?_ (by simp)
    split
    · exact agrees_error h rfl
    · exact agrees_reply h rfl

/-! ### Events -/

/-- An event whose texts or payload do not fit their columns, or whose job's id stands for another event. -/
def EnqueueDiverges (server : Server) (lib : Library) (s : Store) (envelope : EventEnvelope) (route : WorkflowRoute)
    (sourceClientId : String) : Prop :=
  List.all [envelope.eventId, envelope.correlationId, envelope.causationId, sourceClientId] server.holds = false ∨
    match s.jobs.get (envelope.tenantId, jobIdOf lib envelope.tenantId envelope.eventId route) with
    | none => server.jsonb envelope.payload ≠ some envelope.payload
    | some _ => server.jsonb envelope.payload = none ∨ ¬ ∃ m ∈ s.jobs, m.2.tenantId = envelope.tenantId ∧
        m.2.eventId = envelope.eventId ∧ m.2.workflowKey = route.workflowKey ∧ m.2.workflowVersion = route.workflowVersion

theorem Corresponds.enqueued (h : Corresponds lib s db) {job : Job} (hid : Identified lib (key, job))
    (dispatch : Dispatch) (generation : Nat) (deliveryToken : String) :
    Corresponds lib { s.put key job with dispatches := s.dispatches.set key dispatch }
      ((db.updateJob key job).dispatch key generation job deliveryToken) := by
  refine { h with jobs := ?_, identified := ?_, dispatches := ?_, dispatched := ?_, owned := ?_ }
  · show db.jobs.set key job = s.jobs.set key job
    rw [h.jobs]
  · intro m hm
    rcases mem_set hm with rfl | hold
    · exact hid
    · exact h.identified m hold
  · intro k
    rw [hasDispatch_dispatch]
    show ((s.dispatches.set key dispatch).get k).isSome = (db.hasDispatch k || decide (k = key))
    rw [← h.dispatches k, get_set]
    by_cases hk : k = key
    · simp [hk]
    · simp [hk]
  · intro k new hnew
    have hset : (s.jobs.set key job).get k = some new := hnew
    rw [get_set] at hset ⊢
    split
    · rfl
    · rename_i hk
      rw [if_neg hk] at hset
      exact h.dispatched k new hset
  · intro row hrow
    show ((s.jobs.set key job).get _).isSome = true
    rw [get_set]
    split
    · rfl
    · rename_i hne
      rcases List.mem_append.1 hrow with hold | hnew
      · exact h.owned row hold
      · rw [List.mem_singleton.1 hnew] at hne
        exact absurd rfl hne

theorem enqueueEvent_agrees (h : Corresponds lib s db) (envelope : EventEnvelope) (route : WorkflowRoute)
    (sourceClientId deliveryToken : String) (now : Time) :
    Agrees lib ((Automation.enqueueEvent lib envelope route sourceClientId deliveryToken now s).as fun _ => .unit)
      ((enqueueEvent server lib envelope route sourceClientId deliveryToken now db).as fun _ => .unit) ↔
      ¬ (¬ Supported envelope.tenantId ∨ EnqueueDiverges server lib s envelope route sourceClientId) := by
  refine agrees_connection fun _ => ?_
  unfold Automation.enqueueEvent EnqueueDiverges
  rcases hholds : List.all [envelope.eventId, envelope.correlationId, envelope.causationId, sourceClientId] server.holds with _ | _
  · refine iff_of_false not_agrees_foreign (by simp)
  simp only [Bool.not_true, Bool.false_eq_true, ↓reduceIte, Bool.true_eq_false, false_or]
  rw [h.jobs]
  rcases hget : s.jobs.get (envelope.tenantId, jobIdOf lib envelope.tenantId envelope.eventId route) with _ | job
  · -- no job of the event stands under another id
    have hfresh : s.jobs.any (fun m => decide (m.2.tenantId = envelope.tenantId ∧ m.2.eventId = envelope.eventId ∧
        m.2.workflowKey = route.workflowKey ∧ m.2.workflowVersion = route.workflowVersion)) = false := by
      rw [Bool.eq_false_iff]
      intro hany
      obtain ⟨m, hm, hsame⟩ := List.any_eq_true.1 hany
      obtain ⟨htenant, hevent, hworkflow, hversion⟩ := of_decide_eq_true hsame
      obtain ⟨hkey, hid⟩ := h.identified m hm
      refine get_eq_none.1 hget (List.mem_map.2 ⟨m, hm, ?_⟩)
      rw [hkey, hid, htenant, hevent, hworkflow, hversion]
      rfl
    rcases hjsonb : server.jsonb envelope.payload with _ | stored
    · exact iff_of_false not_agrees_foreign (by simp)
    have hnone : db.dispatchOutbox.any (fun row =>
        Database.ofJob (envelope.tenantId, jobIdOf lib envelope.tenantId envelope.eventId route) row &&
          decide (row.dispatchGeneration = 1)) = false := by
      rw [Bool.eq_false_iff]
      intro hany
      obtain ⟨row, hrow, hof⟩ := List.any_eq_true.1 hany
      have hkey := of_decide_eq_true (Bool.and_eq_true_iff.1 hof).1
      have howned := h.owned row hrow
      rw [hkey, hget] at howned
      cases howned
    rw [hfresh, Option.isSome_none]
    simp only [Bool.false_eq_true, ↓reduceIte]
    rw [if_neg]
    rotate_left
    · exact Bool.eq_false_iff.1 hnone
    by_cases hsame : stored = envelope.payload
    · subst hsame
      refine iff_of_true (agrees_reply ?_ rfl) (by simp)
      refine h.enqueued ⟨rfl, ?_⟩ _ _ _
      rfl
    · refine iff_of_false ?_ (by simp [hsame])
      rintro ⟨-, hstates⟩
      refine not_corresponds_moved get_set_self get_set_self ?_ hstates
      intro heq
      exact hsame (congrArg Job.safePayload heq)
  · rcases hjsonb : server.jsonb envelope.payload with _ | stored
    · exact iff_of_false not_agrees_foreign (by simp)
    dsimp only
    by_cases hevent : ∃ m ∈ s.jobs, m.2.tenantId = envelope.tenantId ∧ m.2.eventId = envelope.eventId ∧
        m.2.workflowKey = route.workflowKey ∧ m.2.workflowVersion = route.workflowVersion
    · have hany : s.jobs.any (fun m => decide (m.2.tenantId = envelope.tenantId ∧ m.2.eventId = envelope.eventId ∧
          m.2.workflowKey = route.workflowKey ∧ m.2.workflowVersion = route.workflowVersion)) = true := by
        obtain ⟨m, hm, hsame⟩ := hevent
        exact List.any_eq_true.2 ⟨m, hm, decide_eq_true hsame⟩
      rw [if_pos hany]
      exact iff_of_true (agrees_reply h rfl) (by simp [hevent])
    · have hany : ¬ s.jobs.any (fun m => decide (m.2.tenantId = envelope.tenantId ∧ m.2.eventId = envelope.eventId ∧
          m.2.workflowKey = route.workflowKey ∧ m.2.workflowVersion = route.workflowVersion)) = true := by
        intro hany
        obtain ⟨m, hm, hsame⟩ := List.any_eq_true.1 hany
        exact hevent ⟨m, hm, of_decide_eq_true hsame⟩
      rw [if_neg hany, Option.isSome_some, if_pos rfl]
      exact iff_of_false not_agrees_foreign (not_not.2 (.inr hevent))

/-! ### Replays -/

/-- The memory refuses the replay as a conflict with the dead letter. -/
def ReplayConflicts (s : Store) (deadLetterId : Uuid) (body : DeadLetterReplayRequest) (checked : Time) : Prop :=
  ∃ dead approval, s.deadLetters.get (body.tenantId, deadLetterId) = some dead ∧
    s.approvals.get (body.tenantId, body.approvalId) = some approval ∧ approval.2.admits dead checked = true ∧
    (dead.resourceVersion ≠ body.expectedVersion ∨ dead.originalEffectFingerprint ≠ body.originalEffectFingerprint ∨
      dead.state ≠ .opened)

/-- A replay under an idempotency key that the database knows: it answers from its record, which the memory does not keep. -/
def ReplayDiverges (s : Store) (db : Database) (deadLetterId : Uuid) (body : ReplayRequest) (clientId : String) (checked : Time) :
    Prop :=
  clientId = "n8n-operations-automation" ∧ (¬ Supported body.tenantId ∨
    ∃ prior, db.replayRequests.get ((body.tenantId, deadLetterId), body.idempotencyKey) = some prior ∧
      (prior.1 = body.digest ∨ ¬ ReplayConflicts s deadLetterId body.toDeadLetterReplayRequest checked))

theorem Corresponds.requestedReplay (h : Corresponds lib s db)
    (hget : s.deadLetters.get key = some dead) (dead' : DeadLetterRecord) (hjob : dead'.jobId = dead.jobId) :
    Corresponds lib { s with deadLetters := s.deadLetters.set key dead' } { db with deadLetters := db.deadLetters.set key dead' } := by
  refine h.bury ?_
  rw [hjob]
  exact h.filed _ (mem_of_get hget)

theorem replay_refused {deadLetterId : Uuid} {body : DeadLetterReplayRequest} {clientId deliveryToken : String}
    {checked now : Time} {e : Error}
    (h : Automation.replayDeadLetter deadLetterId body clientId deliveryToken checked now s = (.error e, s')) : s' = s := by
  unfold Automation.replayDeadLetter at h
  repeat' split at h
  all_goals cases h
  all_goals rfl

theorem replay_conflicts (deadLetterId : Uuid) (body : DeadLetterReplayRequest) (deliveryToken : String) (checked now : Time) :
    (∃ message, Automation.replayDeadLetter deadLetterId body "n8n-operations-automation" deliveryToken checked now s =
      (.error (.conflict message), s)) ↔ ReplayConflicts s deadLetterId body checked := by
  unfold Automation.replayDeadLetter ReplayConflicts
  rcases s.deadLetters.get (body.tenantId, deadLetterId) with _ | dead
  · simp
  rcases s.approvals.get (body.tenantId, body.approvalId) with _ | ⟨requestDigest, approval⟩
  · simp
  dsimp only
  cases hadmits : approval.admits dead checked with
  | false => simp [hadmits]
  | true =>
    by_cases hversion : dead.resourceVersion = body.expectedVersion
    case neg => simp [hadmits, hversion]
    by_cases hfingerprint : dead.originalEffectFingerprint = body.originalEffectFingerprint
    case neg => simp [hadmits, hversion, hfingerprint]
    by_cases hstate : dead.state = .opened
    case neg => simp [hadmits, hversion, hfingerprint, hstate]
    have hraw : ∀ e, s.raw body.tenantId dead.jobId = .error e → ∃ message, e = .notFound message := by
      intro e he
      unfold Store.raw at he
      split at he
      · cases he
      · cases he
        exact ⟨_, rfl⟩
    rcases hjob : s.raw body.tenantId dead.jobId with e | job
    · obtain ⟨message, rfl⟩ := hraw e hjob
      simp [hadmits, hversion, hfingerprint, hstate]
    · simp [hadmits, hversion, hfingerprint, hstate]

theorem replayDeadLetter_agrees (h : Corresponds lib s db) (deadLetterId : Uuid) (body : ReplayRequest)
    (clientId deliveryToken : String) (checked now : Time) :
    Agrees lib
      ((Automation.replayDeadLetter deadLetterId body.toDeadLetterReplayRequest clientId deliveryToken checked now s).as
        (.job · false))
      ((replayDeadLetter deadLetterId body clientId deliveryToken checked now db).as fun x => .job x.1 x.2) ↔
      ¬ ReplayDiverges s db deadLetterId body clientId checked := by
  unfold replayDeadLetter ReplayDiverges
  by_cases hclient : clientId = "n8n-operations-automation"
  case neg =>
    unfold Automation.replayDeadLetter
    rw [if_pos hclient, if_pos hclient]
    exact iff_of_true (agrees_error h rfl) fun hdiv => hclient hdiv.1
  subst hclient
  rw [if_neg (not_not.2 rfl)]
  simp only [true_and]
  refine agrees_connection fun _ => ?_
  rcases hprior : db.replayRequests.get ((body.tenantId, deadLetterId), body.idempotencyKey) with _ | ⟨requestSha256, response⟩
  · refine iff_of_true ?_ (by simp)
    unfold Automation.replayDeadLetter
    rw [if_neg (not_not.2 rfl), h.deadLetters, h.approvals, h.jobs]
    rcases hdead : s.deadLetters.get (body.tenantId, deadLetterId) with _ | dead
    · exact agrees_error h rfl
    rcases happroval : db.approvals.get (body.tenantId, body.approvalId) with _ | approval
    · exact agrees_error h rfl
    dsimp only [Option.map_some]
    split
    · exact agrees_error h rfl
    split
    · exact agrees_error h rfl
    split
    · exact agrees_error h rfl
    split
    · exact agrees_error h rfl
    unfold Store.raw
    rcases hget : s.jobs.get (body.tenantId, dead.jobId) with _ | job
    · exact agrees_error h rfl
    refine agrees_reply ?_ rfl
    have hput := h.put hget (job.replayed deliveryToken now) ⟨rfl, rfl, rfl, rfl, rfl⟩
    have hfound : ((s.put (body.tenantId, dead.jobId) (job.replayed deliveryToken now)).jobs.get
        (body.tenantId, dead.jobId)).isSome = true := by
      show ((s.jobs.set _ _).get _).isSome = true
      rw [get_set_self]
      rfl
    have hdispatched := hput.dispatch hfound ((job.replayed deliveryToken now).dispatch dead.jobId deliveryToken)
      ((db.updateJob (body.tenantId, dead.jobId) (job.replayed deliveryToken now)).nextGeneration (body.tenantId, dead.jobId))
      { job.replayed deliveryToken now with workflowKey := dead.workflowKey } deliveryToken
    have hrequested := hdispatched.requestedReplay hdead (dead.requested now) rfl
    refine { hrequested with deadLetters := ?_ }
    rfl
  · have hdiverges : (∃ prior, some (requestSha256, response) = some prior ∧
        (prior.1 = body.digest ∨ ¬ ReplayConflicts s deadLetterId body.toDeadLetterReplayRequest checked)) ↔
        (requestSha256 = body.digest ∨ ¬ ReplayConflicts s deadLetterId body.toDeadLetterReplayRequest checked) := by
      simp
    rw [hdiverges]
    dsimp only
    by_cases hsame : requestSha256 = body.digest
    · -- the record of the replay, as a duplicate
      rw [if_neg (not_not.2 hsame)]
      refine iff_of_false ?_ (not_not.2 (.inl hsame))
      rintro ⟨hanswer, -⟩
      rcases hmemory : Automation.replayDeadLetter deadLetterId body.toDeadLetterReplayRequest "n8n-operations-automation"
        deliveryToken checked now s with ⟨e | job, s'⟩
      · rw [hmemory] at hanswer
        exact hanswer
      · rw [hmemory] at hanswer
        cases hanswer
    · rw [if_pos hsame, ← replay_conflicts deadLetterId body.toDeadLetterReplayRequest deliveryToken checked now]
      constructor
      · rintro ⟨hanswer, -⟩
        rcases hmemory : Automation.replayDeadLetter deadLetterId body.toDeadLetterReplayRequest "n8n-operations-automation"
          deliveryToken checked now s with ⟨e | job, s'⟩
        · rw [hmemory] at hanswer
          have hclass : className e = "AutomationConflict" := hanswer
          have hsame' : s' = s := replay_refused hmemory
          cases e with
          | conflict message => simp [hsame, hsame']
          | authorizationDenied => simp [className] at hclass
          | notFound => simp [className] at hclass
          | keyError => simp [className] at hclass
        · rw [hmemory] at hanswer
          exact hanswer.elim
      · intro hnot
        obtain ⟨message, herror⟩ := not_not.1 (not_or.1 hnot).2
        rw [herror]
        exact agrees_error h rfl

/-! ### Reconciliation -/

/-- A new run whose requester does not fit its column, whose id is taken, or whose plan depends on the order of the jobs. -/
def ReconcileDiverges (server : Server) (lib : Library) (s : Store) (db : Database) (body : ReconciliationRequest)
    (requestedBy : String) (now : Time) : Prop :=
  s.reconciliations.get (body.tenantId, body.idempotencyKey) = none ∧ (server.holds requestedBy = false ∨
    (∃ m ∈ db.reconciliationRuns, m.1.1 = body.tenantId ∧ m.2.2.reconciliationId =
      lib.uuid5 s!"codestra-automation-reconcile:{body.tenantId}:{body.idempotencyKey}") ∨
    body.mode = "PLAN" ∧ (selected s.jobs body).flatMap (s.plan now) ≠
      ((selected s.jobs body).insertionSort inOrder).flatMap (s.plan now))

theorem hasDispatch_false (h : Corresponds lib s db) (key : Key) : db.hasDispatch key = false ↔ s.dispatches.get key = none := by
  rw [← h.dispatches, Option.isSome_eq_false_iff, Option.isNone_iff_eq_none]

theorem plan_agrees (h : Corresponds lib s db) (now : Time) : db.plan now = s.plan now := by
  funext job
  unfold Database.plan Store.plan
  simp only [hasDispatch_false h]

theorem Corresponds.reconciled (h : Corresponds lib s db) (key : String × String) (requestDigest : String) {run run' : ReconciliationRun}
    (hrun : SameRun run run') :
    Corresponds lib { s with reconciliations := s.reconciliations.set key (requestDigest, run) }
      { db with reconciliationRuns := db.reconciliationRuns.set key (requestDigest, run') } := by
  refine { h with runs := ?_ }
  intro k
  rw [get_set, get_set]
  split
  · exact .some ⟨rfl, hrun⟩
  · exact h.runs k

theorem reconcile_agrees (h : Corresponds lib s db) (body : ReconciliationRequest) (requestedBy : String) (now : Time) :
    Agrees lib ((Automation.reconcile lib body requestedBy now s).as .reconciliation)
      ((reconcile server lib body requestedBy now db).as .reconciliation) ↔
      ¬ (¬ Supported body.tenantId ∨ ReconcileDiverges server lib s db body requestedBy now) := by
  refine agrees_connection fun _ => ?_
  unfold Automation.reconcile ReconcileDiverges
  dsimp only
  have hruns := h.runs (body.tenantId, body.idempotencyKey)
  rcases hold : s.reconciliations.get (body.tenantId, body.idempotencyKey) with _ | ⟨existing, run⟩ <;>
    rcases hnew : db.reconciliationRuns.get (body.tenantId, body.idempotencyKey) with _ | ⟨existing', run'⟩ <;>
    rw [hold, hnew] at hruns
  · have hrows : selected db.jobs body = selected s.jobs body := by rw [h.jobs]
    rw [hrows, plan_agrees h now]
    unfold selected
    generalize (s.jobs.filter fun m => decide (m.1.1 = body.tenantId) &&
      (body.jobIds.isEmpty || body.jobIds.contains m.1.2)).map (·.2) = rows
    have hperm : (rows.insertionSort inOrder).Perm rows := List.perm_insertionSort _ _
    rcases hholds : server.holds requestedBy with _ | _
    · exact iff_of_false not_agrees_foreign (by simp)
    simp only [Bool.not_true, Bool.false_eq_true, ↓reduceIte, Bool.true_eq_false, false_or, true_and, List.any_eq_true,
      decide_eq_true_eq]
    by_cases htaken : ∃ m ∈ db.reconciliationRuns, m.1.1 = body.tenantId ∧ m.2.2.reconciliationId =
        lib.uuid5 s!"codestra-automation-reconcile:{body.tenantId}:{body.idempotencyKey}"
    · rw [if_pos htaken]
      exact iff_of_false not_agrees_foreign (not_not.2 (.inl htaken))
    rw [if_neg htaken, or_iff_right htaken]
    have hmissing : ∀ row : Job, decide ((row.state = .pending ∨ row.state = .retryScheduled) ∧
        db.hasDispatch (row.tenantId, row.jobId) = false) = decide ((row.state = .pending ∨ row.state = .retryScheduled) ∧
        s.dispatches.get (row.tenantId, row.jobId) = none) := by
      intro row
      rw [decide_eq_decide, hasDispatch_false h]
    simp only [hmissing]
    have hfilter : ∀ p : Job → Bool, ((rows.insertionSort inOrder).filter p).length = (rows.filter p).length :=
      fun p => (hperm.filter p).length_eq
    simp only [hfilter, hperm.length_eq]
    have hsame : ∀ {run run' : ReconciliationRun}, (∀ state, run.stateCounts.get state = run'.stateCounts.get state) →
        { run with stateCounts := [] } = { run' with stateCounts := [] } → SameRun run run' := SameRun.mk
    constructor
    · rintro ⟨hanswer, -⟩ ⟨hmode, hplan⟩
      have hrest := congrArg ReconciliationRun.safePlan (SameRun.rest hanswer)
      simp only [hmode, ↓reduceIte] at hrest
      exact hplan hrest
    · intro hplan
      have hrun : (if body.mode = "PLAN" then rows.flatMap (s.plan now) else []) =
          if body.mode = "PLAN" then (rows.insertionSort inOrder).flatMap (s.plan now) else [] := by
        split
        · rename_i hmode
          exact not_not.1 fun hne => hplan ⟨hmode, hne⟩
        · rfl
      rw [← hrun]
      refine agrees_reply (h.reconciled _ _ ?_) ?_
      · refine hsame ?_ rfl
        intro state
        exact get_tally_perm _ hperm.symm _ _
      · refine hsame ?_ rfl
        intro state
        exact get_tally_perm _ hperm.symm _ _
  · cases hruns
  · cases hruns
  · -- the run on record
    obtain ⟨hdigest, hrun⟩ : existing = existing' ∧ SameRun run run' := by
      cases hruns with
      | some hsame => exact hsame
    dsimp only
    refine iff_of_true ?_ (by simp)
    rw [← hdigest]
    split
    · exact agrees_error h rfl
    · refine agrees_reply h ⟨hrun.counts, ?_⟩
      exact congrArg (fun r : ReconciliationRun => { r with duplicate := true }) hrun.rest

/-! ### Decisions -/

/-- A decision on an approval of the store that is not the approval, which is the one that the memory knows. -/
def DecisionDiverges (s : Store) (tenantId : String) (approvalId : Uuid) (state : ApprovalState) (decidedBy : String) : Prop :=
  state ≠ .approved ∧ ∃ entry, s.approvals.get (tenantId, approvalId) = some entry ∧ entry.2.requestedBy ≠ decidedBy

theorem decideApproval_corresponds (h : Corresponds lib s db) (tenantId : String) (approvalId : Uuid) (state : ApprovalState)
    (decidedBy : String) (now : Time) :
    Corresponds lib (Automation.approveForTest tenantId approvalId decidedBy now s).2
      (decideApproval tenantId approvalId state decidedBy now db).2 ↔ ¬ DecisionDiverges s tenantId approvalId state decidedBy := by
  unfold Automation.approveForTest decideApproval DecisionDiverges
  rw [h.approvals]
  rcases hrow : db.approvals.get (tenantId, approvalId) with _ | row
  · exact iff_of_true h (by simp)
  dsimp only [Option.map_some]
  by_cases hself : row.record.requestedBy = decidedBy
  · rw [if_pos hself, if_pos hself]
    exact iff_of_true h (by simp [hself])
  rw [if_neg hself, if_neg hself]
  by_cases hstate : state = .approved
  · subst hstate
    exact iff_of_true (h.decided hrow rfl) (by simp)
  · refine iff_of_false ?_ (by simp [hstate, hself])
    intro hsame
    have hget := hsame.approvals (tenantId, approvalId)
    rw [get_set_self, get_set_self] at hget
    have hrecord := congrArg (·.2.state) (Option.some.inj hget)
    exact hstate hrecord.symm

end Calls

/-! ## Runs -/

/-- The call of the memory with the same arguments and clock readings. -/
def Call.twin : Call → Automation.Call
  | .enqueueEvent envelope route sourceClientId deliveryToken now => .enqueueEvent envelope route sourceClientId deliveryToken now
  | .claim body clientId now => .claim body clientId now
  | .getJob tenantId jobId => .getJob tenantId jobId
  | .heartbeat jobId body clientId checked now => .heartbeat jobId body clientId checked now
  | .recordStep jobId body clientId checked now => .recordStep jobId body clientId checked now
  | .complete jobId body clientId checked now => .complete jobId body clientId checked now
  | .fail jobId body clientId deliveryToken checked now => .fail jobId body clientId deliveryToken checked now
  | .requestApproval body clientId requestedBy now => .requestApproval body clientId requestedBy now
  | .getApproval tenantId approvalId checked now => .getApproval tenantId approvalId checked now
  | .decideApproval tenantId approvalId _ decidedBy now => .approveForTest tenantId approvalId decidedBy now
  | .replayDeadLetter deadLetterId body clientId deliveryToken checked now =>
    .replayDeadLetter deadLetterId body.toDeadLetterReplayRequest clientId deliveryToken checked now
  | .reconcile body requestedBy now => .reconcile body requestedBy now

/-- The call answers alike on both stores and leaves corresponding states. Of a decision, which is no method of the store in
the database, only the states are compared. -/
def Alike (server : Server) (lib : Library) (x : Store × Database) (c : Call) : Prop :=
  match c with
  | .decideApproval .. => Corresponds lib (Automation.perform lib c.twin x.1).2 (perform server lib c x.2).2
  | c => Agrees lib (Automation.perform lib c.twin x.1) (perform server lib c x.2)

/-- When the two stores take a call differently. -/
def Diverges (server : Server) (lib : Library) (x : Store × Database) : Call → Prop
  | .enqueueEvent envelope route sourceClientId _ _ =>
    ¬ Supported envelope.tenantId ∨ EnqueueDiverges server lib x.1 envelope route sourceClientId
  | .claim body _ _ => ¬ Supported body.tenantId
  | .getJob tenantId _ => ¬ Supported tenantId
  | .heartbeat _ body _ _ _ => ¬ Supported body.tenantId
  | .recordStep jobId body clientId checked _ =>
    ¬ Supported body.tenantId ∨ StepDiverges server lib x.1 jobId body clientId checked
  | .complete jobId body clientId checked _ => ¬ Supported body.tenantId ∨ CompleteDiverges server x.1 jobId body clientId checked
  | .fail jobId body clientId _ checked now =>
    ¬ Supported body.tenantId ∨ FailDiverges server lib x.1 jobId body clientId checked now
  | .requestApproval body clientId requestedBy _ =>
    ¬ Supported body.tenantId ∨ ApprovalDiverges server lib x.1 body clientId requestedBy
  | .getApproval tenantId _ _ _ => ¬ Supported tenantId
  | .decideApproval tenantId approvalId state decidedBy _ => DecisionDiverges x.1 tenantId approvalId state decidedBy
  | .replayDeadLetter deadLetterId body clientId _ checked _ => ReplayDiverges x.1 x.2 deadLetterId body clientId checked
  | .reconcile body requestedBy now => ¬ Supported body.tenantId ∨ ReconcileDiverges server lib x.1 x.2 body requestedBy now

def both (server : Server) (lib : Library) (c : Call) (x : Store × Database) : Store × Database :=
  (Automation.call lib c.twin x.1, call server lib c x.2)

variable {server : Server} {lib : Library} {s : Store} {db : Database}

theorem alike_iff (h : Corresponds lib s db) (c : Call) : Alike server lib (s, db) c ↔ ¬ Diverges server lib (s, db) c := by
  cases c with
  | enqueueEvent envelope route sourceClientId deliveryToken now => exact enqueueEvent_agrees h ..
  | claim body clientId now =>
    have hagrees := claim_agrees h body clientId now
    rwa [or_false] at hagrees
  | getJob tenantId jobId =>
    have hagrees := getJob_agrees h tenantId jobId
    rwa [or_false] at hagrees
  | heartbeat jobId body clientId checked now =>
    have hagrees := heartbeat_agrees h jobId body clientId checked now
    rwa [or_false] at hagrees
  | recordStep jobId body clientId checked now => exact recordStep_agrees h ..
  | complete jobId body clientId checked now => exact complete_agrees h ..
  | fail jobId body clientId deliveryToken checked now => exact fail_agrees h ..
  | requestApproval body clientId requestedBy now => exact requestApproval_agrees h ..
  | getApproval tenantId approvalId checked now =>
    have hagrees := getApproval_agrees h tenantId approvalId checked now
    rwa [or_false] at hagrees
  | decideApproval tenantId approvalId state decidedBy now => exact decideApproval_corresponds h ..
  | replayDeadLetter deadLetterId body clientId deliveryToken checked now => exact replayDeadLetter_agrees h ..
  | reconcile body requestedBy now => exact reconcile_agrees h ..

theorem alike_corresponds {x : Store × Database} {c : Call} (h : Alike server lib x c) :
    Corresponds lib (both server lib c x).1 (both server lib c x).2 := by
  unfold both Automation.call call
  dsimp only
  unfold Alike at h
  split at h
  · exact h
  · exact h.states

/-- From corresponding states, the calls of a run are answered alike on both stores, and leave corresponding states, exactly if
none of them is one that the stores take differently in the states it comes to. -/
theorem alike_run_iff (h : Corresponds lib s db) (calls : List Call) :
    Always (both server lib) (Alike server lib) (s, db) calls ↔
      Always (both server lib) (fun x c => ¬ Diverges server lib x c) (s, db) calls := by
  induction calls generalizing s db with
  | nil => exact Iff.rfl
  | cons c rest ih =>
    constructor
    · rintro ⟨hc, hrest⟩
      exact ⟨(alike_iff h c).1 hc, (ih (alike_corresponds hc)).1 hrest⟩
    · rintro ⟨hc, hrest⟩
      have halike := (alike_iff h c).2 hc
      exact ⟨halike, (ih (alike_corresponds halike)).2 hrest⟩

theorem corresponds_empty (lib : Library) : Corresponds lib {} {} where
  jobs := rfl
  identified _ hm := by cases hm
  steps _ := .none
  approvals _ := rfl
  approvalKeys _ _ _ := .none
  primary := List.nodup_nil
  deadLetters := rfl
  filed _ hm := by cases hm
  runs _ := .none
  dispatches _ := rfl
  dispatched _ _ hget := by cases hget
  owned _ hrow := by cases hrow

def sampleStep : StepRecord where
  tenantId := "a"
  leaseToken := "t1codestra-automation-job:a:e:w:1:x:n8n"
  executionId := "x"
  idempotencyKey := "step-1"
  stepKey := "lookup"
  stepState := "COMPLETED"
  recordedAt := 2
  safeMetadata := []

/-- A job is claimed, and its executor reports a step twice. -/
def steppedTwice : List Call :=
  [.enqueueEvent sampleEnvelope (sampleRoute 2 sample_attempts) "crm" "t1" 0, .claim (sampleClaim "t1") "n8n" 1,
    .recordStep sampleJob sampleStep "n8n" 2 2, .recordStep sampleJob sampleStep "n8n" 3 3]

/-- The job after the run, in memory and in the database. -/
def steppedVersions : Option Nat × Option Nat :=
  let x := runFrom (both sampleServer sampleLibrary) ({}, {}) steppedTwice
  ((x.1.jobs.get ("a", sampleJob)).map (·.resourceVersion), (x.2.jobs.get ("a", sampleJob)).map (·.resourceVersion))

theorem stepped_versions : steppedVersions = (some 3, some 4) := by decide +kernel

/-- The first calls of that run are answered alike. -/
theorem claimed_alike :
    Always (both sampleServer sampleLibrary) (Alike sampleServer sampleLibrary) ({}, {}) (steppedTwice.take 2) := by
  have hsupported : Supported "a" := ⟨"a", by decide +kernel⟩
  refine (alike_run_iff (corresponds_empty sampleLibrary) _).2 ⟨?_, ?_, trivial⟩
  · rintro (hnot | htexts | hpayload)
    · exact hnot hsupported
    · cases htexts
    · exact hpayload rfl
  · intro hnot
    exact hnot hsupported

/-- The duplicate step moves the job in the database only. -/
theorem duplicate_step_diverges :
    ¬ ∀ calls, Always (both sampleServer sampleLibrary) (Alike sampleServer sampleLibrary) ({}, {}) calls := by
  intro h
  have halike := (always_iff.1 (h steppedTwice)) (steppedTwice.take 3) (.recordStep sampleJob sampleStep "n8n" 3 3) [] rfl
  have hjobs := (alike_corresponds halike).jobs
  have hversions : steppedVersions.1 = steppedVersions.2 := by
    unfold steppedVersions
    have hrun : runFrom (both sampleServer sampleLibrary) ({}, {}) steppedTwice = both sampleServer sampleLibrary
        (.recordStep sampleJob sampleStep "n8n" 3 3) (runFrom (both sampleServer sampleLibrary) ({}, {}) (steppedTwice.take 3)) := rfl
    rw [hrun]
    dsimp only
    rw [hjobs]
  rw [stepped_versions] at hversions
  cases hversions

end Middleware.Automation.Durable

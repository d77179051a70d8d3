/-
The provider is started at most once for a job, over every run of the operations. `exec_cases` says once what a call
does to the table; a job is described by what its statements keep (`Job.Fresh`, the holder of its lease, its counts), and
each part of `provider_started_once` is read off these along the log.
-/
import Middleware.Tts.Jobs

namespace Middleware.Tts

open Ledger Lib

/-! ## Definitions -/

/-- The row an answered statement returned. -/
def returned : Answered → Option Job
  | ⟨.update _, .ok row⟩ => row
  | _ => none

/-- The lease a worker's statement is made under; the claims, `cancel` and `recover_expired` have none. -/
def Statement.lease : Statement → Option Lease
  | .markProviderStarted l | .recordChunk l _ | .complete l | .markAmbiguous l _ | .markCancelledStreaming l => some l
  | .claim .. | .claimExact .. | .cancel .. | .requeue .. | .giveUp .. => none

def Statement.claimant : Statement → Option String
  | .claim workerId _ | .claimExact _ workerId _ => some workerId
  | _ => none

/-- The claim that answered with a row: its job, worker and fencing token. -/
def claimed : Answered → Option Lease
  | ⟨.update s, .ok (some row)⟩ => s.claimant.map fun workerId => ⟨row.id, workerId, row.fencingToken⟩
  | _ => none

def latestClaim (id : Uuid) (log : List LogEntry) : Option Lease :=
  log.findSome? fun e => (claimed e.toEv).filter fun l => l.jobId == id

/-- `mark_provider_started` of the job succeeded. -/
def startsProvider (id : Uuid) : Answered → Prop
  | ⟨.update (.markProviderStarted l), .ok (some _)⟩ => l.jobId = id
  | _ => False

/-- The size of the chunk that `record_chunk` stored for the job. -/
def chunkOf (id : Uuid) : Answered → Option Int
  | ⟨.update (.recordChunk l size), .ok (some _)⟩ => if l.jobId = id then some size else none
  | _ => none

/-- A job whose provider was started is neither queued nor claimed. -/
def Job.Fresh (j : Job) : Prop := j.providerRequestStartedAt.isSome = true → j.state ≠ .queued ∧ j.state ≠ .claimed

def JobState.absorbing (s : JobState) : Prop :=
  s ∈ [JobState.completed, .cancelled, .ambiguousProviderOutcome]

/-! ## What a call does -/

section Effects

variable {i : Input} {op : Call} {t t' : Table} {s : Statement} {now : Time} {j j' : Job} {id : Uuid}

theorem set_id : (s.set now j).id = j.id := by
  cases s <;> rfl

variable {l : Lease} {locked : List Uuid}

theorem target_lease (hl : s.lease = some l) (h : s.target locked now t = some id) :
    l.jobId = id := by
  cases s <;> cases hl <;> cases h <;> rfl

/-- What a call does: it leaves the jobs as they are, inserts one, or runs a statement on one. -/
inductive Effect (op : Call) (reply : Except Exc op.Answer) (t t' : Table) : Prop
  | kept (jobs : ∀ id, t'.job id = t.job id) (nothing : returned ⟨op, reply⟩ = none)
  | inserted (s : Submission) (id : Uuid) (now : Time) (fresh : t.job id = none) (nothing : returned ⟨op, reply⟩ = none)
      (jobs : ∀ id', t'.job id' = if id' = id then some { s with id := id, createdAt := now } else t.job id')
  | updated (s : Statement) (now : Time) (j : Job) (call : op = .update s) (found : t.job j.id = some j)
      (guard : s.guard now j = true) (answer : returned ⟨op, reply⟩ = some (s.set now j))
      (lease : ∀ l, s.lease = some l → l.jobId = j.id)
      (jobs : ∀ id, t'.job id = if id = j.id then some (s.set now j) else t.job id)

theorem insert_effect {jobId : Uuid} {b : Submission} :
    Effect (.submit jobId b) (insert jobId b now t).1 t (insert jobId b now t).2 := by
  unfold insert
  split
  · exact .kept (fun _ => rfl) rfl
  split
  · exact .kept (fun _ => rfl) rfl
  split
  · exact .kept (fun _ => rfl) rfl
  rename_i hfresh
  refine .inserted b jobId now hfresh rfl fun id' => ?_
  unfold Table.job at hfresh ⊢
  rw [rowAt_append_row]
  by_cases hid : id' = jobId
  · subst hid
    rw [hfresh]
    simp
  · simp [hid, Ne.symm hid]

theorem update_effect :
    Effect (.update s) (s.run locked now t).1 t (s.run locked now t).2 := by
  unfold Statement.run
  split
  · exact .kept (fun _ => rfl) rfl
  rename_i target htarget
  rcases @updateOne_cases Job Uuid _ _ Job.id rejected Job.valid (s.guard now) target (s.set now) t (fun _ => set_id) with ⟨hnone, hsame⟩ | ⟨j, hread, hguard, hreply, hjobs⟩
  · rw [hsame]
    refine .kept (fun _ => rfl) ?_
    generalize (updateOne Job.id rejected Job.valid target (s.guard now) (s.set now) t).1 = reply at hnone
    cases reply with
    | error e => rfl
    | ok row =>
      cases row with
      | none => rfl
      | some j => exact absurd rfl (hnone j)
  · have hid := key_of_rowAt hread
    subst hid
    rw [hreply]
    exact .updated s now j rfl hread hguard rfl (fun l hl => target_lease hl htarget) hjobs

theorem exec_effect (i : Input) (op : Call) (t : Table) : Effect op (exec i op t).1 t (exec i op t).2 := by
  have hfault : ∀ {op : Call} {e : Exc}, Effect op (.error e) t t := by
    intro op e
    refine .kept (fun _ => rfl) ?_
    cases op <;> rfl
  cases op with
  | now => exact .kept (fun _ => rfl) rfl
  | scan =>
    unfold exec Input.transaction
    split
    · exact hfault
    · exact .kept (fun _ => rfl) rfl
  | submit jobId b =>
    unfold exec Input.transaction
    split
    · exact hfault
    · exact insert_effect
  | update s =>
    unfold exec Input.transaction
    split
    · exact hfault
    · exact update_effect

theorem returned_update {reply : Except Exc (Option Job)} (h : returned ⟨.update s, reply⟩ = some j) :
    reply = .ok (some j) := by
  cases reply with
  | error e => cases h
  | ok row => exact congrArg Except.ok h

variable {v : Answered}

theorem claimed_none (h : returned v = none) : claimed v = none := by
  obtain ⟨op, reply⟩ := v
  cases op <;> try rfl
  cases reply with
  | error e => rfl
  | ok row =>
    cases (h : row = none)
    rfl

theorem chunkOf_none (h : returned v = none) : chunkOf id v = none := by
  obtain ⟨op, reply⟩ := v
  cases op <;> try rfl
  rename_i s
  cases reply with
  | error e => cases s <;> rfl
  | ok row =>
    cases (h : row = none)
    cases s <;> rfl

theorem not_startsProvider (h : returned v = none) : ¬startsProvider id v := by
  obtain ⟨op, reply⟩ := v
  cases op with
  | update s =>
    cases reply with
    | error e => cases s <;> exact not_false
    | ok row =>
      cases (h : row = none)
      cases s <;> exact not_false
  | _ => exact not_false

/-! ## What a statement keeps of its job -/

theorem Job.inProvider_iff : j.inProvider = true ↔ j.state = .providerStarting ∨ j.state = .streaming := by
  simp [Job.inProvider]

theorem Lease.owns_iff : l.owns j = true ↔ j.leaseOwner = some l.workerId ∧ j.fencingToken = l.fencingToken := by
  simp [Lease.owns]

theorem guard_waiting (hg : s.guard now j = true) (hs : (s.set now j).state = .queued ∨ (s.set now j).state = .claimed) :
    (s.set now j).providerRequestStartedAt = j.providerRequestStartedAt ∧
      (j.state = .queued ∨ j.providerRequestStartedAt = none) := by
  cases s with
  | claim workerId leaseSeconds | claimExact jobId workerId leaseSeconds =>
    simp only [Statement.guard, Bool.and_eq_true, beq_iff_eq] at hg
    exact ⟨rfl, .inl hg.1⟩
  | requeue jobId now =>
    simp only [Statement.guard, Bool.and_eq_true, Option.isNone_iff_eq_none] at hg
    exact ⟨rfl, .inr hg.1.2⟩
  | markProviderStarted l | recordChunk l size | complete l | markAmbiguous l failureClass | markCancelledStreaming l
  | cancel jobId organizationId workspaceId requestedBy | giveUp jobId now =>
    simp [Statement.set] at hs

theorem set_fresh (hg : s.guard now j = true) (hf : j.Fresh) : (s.set now j).Fresh := by
  intro hstarted
  by_contra hs
  obtain ⟨hsame, hfrom⟩ := guard_waiting hg (by tauto)
  rw [hsame] at hstarted
  rcases hfrom with hq | hnone
  · exact (hf hstarted).1 hq
  · rw [hnone] at hstarted
    cases hstarted

theorem set_started (h : j.providerRequestStartedAt.isSome = true) :
    (s.set now j).providerRequestStartedAt.isSome = true := by
  cases s <;> first | exact h | rfl

theorem guard_absorbing (hg : s.guard now j = true) : ¬j.state.absorbing := by
  intro ha
  simp only [JobState.absorbing, List.mem_cons, List.not_mem_nil, or_false] at ha
  cases s with
  | claim workerId leaseSeconds | claimExact jobId workerId leaseSeconds =>
    simp only [Statement.guard, Bool.and_eq_true, beq_iff_eq] at hg
    rw [hg.1] at ha
    simp at ha
  | markProviderStarted l | requeue jobId now | complete l =>
    simp only [Statement.guard, Bool.and_eq_true, beq_iff_eq] at hg
    rw [hg.1.1.1] at ha
    simp at ha
  | recordChunk l size =>
    simp only [Statement.guard, Bool.and_eq_true, Job.inProvider_iff] at hg
    rcases hg.1.1.1 with h | h <;> rw [h] at ha <;> simp at ha
  | markAmbiguous l failureClass | markCancelledStreaming l | giveUp jobId now =>
    simp only [Statement.guard, Bool.and_eq_true, Job.inProvider_iff] at hg
    rcases hg.1 with h | h <;> rw [h] at ha <;> simp at ha
  | cancel jobId organizationId workspaceId requestedBy =>
    simp only [Statement.guard, Bool.and_eq_true, Bool.not_eq_true', List.contains_eq_mem] at hg
    rcases ha with h | h | h <;> rw [h] at hg <;> simp at hg

/-- Under a lease a statement is about a job of the lease's owner and token. -/
theorem guard_lease (hl : s.lease = some l) (hg : s.guard now j = true) :
    j.leaseOwner = some l.workerId ∧ j.fencingToken = l.fencingToken := by
  rw [← Lease.owns_iff]
  cases s <;> cases hl <;> simp only [Statement.guard, Bool.and_eq_true] at hg
  · exact hg.1.1.2
  · exact hg.1.1.2
  · exact hg.1.1.2
  · exact hg.2
  · exact hg.2

theorem set_owner {workerId : String} (ho : (s.set now j).leaseOwner = some workerId) :
    s.claimant = some workerId ∨
      s.claimant = none ∧ j.leaseOwner = some workerId ∧ (s.set now j).fencingToken = j.fencingToken := by
  cases s with
  | claim workerId' leaseSeconds | claimExact jobId workerId' leaseSeconds => exact .inl ho
  | markProviderStarted l | recordChunk l size => exact .inr ⟨rfl, ho, rfl⟩
  | complete l | markAmbiguous l failureClass | markCancelledStreaming l | requeue jobId now | giveUp jobId now
  | cancel jobId organizationId workspaceId requestedBy => cases ho

end Effects

/-! ## Every run -/

/-- The job is changed by its claims, `cancel` and `recover_expired`, or under the latest claim's worker and token. -/
def OwnerWrites (older : List LogEntry) (e : LogEntry) : Prop :=
  ∀ id j, e.before.job id = some j → e.after.job id = some j ∨ ∃ s, e.op = .update s ∧
    ∀ l, s.lease = some l → latestClaim id older = some l

/-- No job whose provider was started waits for another claim. -/
def Table.Started (t : Table) : Prop := ∀ id j, t.job id = some j → j.Fresh

/-- The provider of the job was started. -/
def Provided (id : Uuid) (t : Table) : Prop := ∃ j, t.job id = some j ∧ j.providerRequestStartedAt.isSome = true

section Runs

variable {tasks : List Task} {log newer older : List LogEntry} {e : LogEntry} {t : Table} {id : Uuid}

abbrev Legal (tasks : List Task) (log : List LogEntry) (t : Table) : Prop :=
  runtime.Legal Table.Started System.Discipline.any [] tasks log t

theorem effect_started {op : Call} {reply : Except Exc op.Answer} {t t' : Table} (h : Effect op reply t t')
    (hf : t.Started) : t'.Started := by
  intro id j hj
  cases h with
  | kept jobs nothing =>
    rw [jobs] at hj
    exact hf id j hj
  | inserted s id' now fresh nothing jobs =>
    rw [jobs] at hj
    split at hj
    · cases hj
      intro hstarted
      cases hstarted
    · exact hf id j hj
  | updated s now j' call found guard answer lease jobs =>
    rw [jobs] at hj
    split at hj
    · cases hj
      exact set_fresh guard (hf j'.id j' found)
    · exact hf id j hj

theorem run_legal (actions : List Step) :
    Legal ((run actions).procs.map (·.job)) (run actions).log (run actions).shared :=
  System.run_legal (fun i op t hf => effect_started (exec_effect i op t) hf) (by simp [Table.Started, Table.job, rowAt])
    actions

theorem legal_effect (hl : Legal tasks log t) (he : e ∈ log) : e.before.Started ∧ Effect e.op e.reply e.before e.after := by
  obtain ⟨newer, older, rfl⟩ := List.append_of_mem he
  obtain ⟨hlaw, -⟩ := hl.split
  obtain ⟨i, hi⟩ := hlaw.exec
  have hi : exec i e.op e.before = (e.reply, e.after) := hi
  have h := exec_effect i e.op e.before
  rw [hi] at h
  exact ⟨hlaw.inv, h⟩

theorem effect_provided {op : Call} {reply : Except Exc op.Answer} {t t' : Table} (h : Effect op reply t t')
    (hp : Provided id t) : Provided id t' := by
  obtain ⟨j, hj, hstarted⟩ := hp
  cases h with
  | kept jobs nothing => exact ⟨j, (jobs id).trans hj, hstarted⟩
  | inserted s id' now fresh nothing jobs =>
    have hid : id ≠ id' := by
      rintro rfl
      rw [hj] at fresh
      cases fresh
    exact ⟨j, by rw [jobs, if_neg hid, hj], hstarted⟩
  | updated s now j' call found guard answer lease jobs =>
    by_cases hid : id = j'.id
    · subst hid
      cases found.symm.trans hj
      exact ⟨s.set now j, by rw [jobs, if_pos rfl], set_started hstarted⟩
    · exact ⟨j, by rw [jobs, if_neg hid, hj], hstarted⟩

theorem starts_provided (hf : e.before.Started) (h : Effect e.op e.reply e.before e.after)
    (hs : startsProvider id e.toEv) : ¬Provided id e.before ∧ Provided id e.after := by
  cases h with
  | kept jobs nothing => exact absurd hs (not_startsProvider nothing)
  | inserted s id' now fresh nothing jobs => exact absurd hs (not_startsProvider nothing)
  | updated s now j call found guard answer lease jobs =>
    obtain ⟨⟨op, reply⟩, pid, before, after⟩ := e
    subst call
    cases returned_update answer
    cases s with
    | markProviderStarted l =>
      have hid : l.jobId = id := hs
      have hjob := lease l rfl
      subst hid
      simp only [Statement.guard, Bool.and_eq_true, beq_iff_eq] at guard
      constructor
      · rintro ⟨j', hj', hstarted⟩
        rw [hjob] at hj'
        cases found.symm.trans hj'
        exact (hf j.id j found hstarted).2 guard.1.1.1
      · exact ⟨_, by rw [jobs, if_pos hjob], rfl⟩
    | _ => exact absurd hs not_false

/-- Once the provider was started the job is neither claimed nor started nor queued again. -/
theorem provider_kept (hl : Legal tasks (newer ++ e :: older) t) (hs : startsProvider id e.toEv) :
    ∀ e' ∈ newer, ¬startsProvider id e'.toEv ∧ (∀ l, claimed e'.toEv = some l → l.jobId ≠ id) ∧
      ∀ j, e'.after.job id = some j → j.state ≠ .queued ∧ j.state ≠ .claimed := by
  obtain ⟨hf, he⟩ := legal_effect hl (e := e) (by simp)
  have hstays := (System.Chain.stays (P := Provided id) (System.Chain.split hl.chain).1 (starts_provided hf he hs).2
    fun e' he' hp => effect_provided (legal_effect hl (List.mem_append_left _ he')).2 hp).2
  intro e' he'
  obtain ⟨hbefore, hafter⟩ := hstays e' he'
  obtain ⟨hf', heffect⟩ := legal_effect hl (List.mem_append_left _ he')
  refine ⟨fun hs' => (starts_provided hf' heffect hs').1 hbefore, ?_, ?_⟩
  · intro l hl' hid
    cases heffect with
    | kept jobs nothing =>
      rw [claimed_none nothing] at hl'
      cases hl'
    | inserted s id' now fresh nothing jobs =>
      rw [claimed_none nothing] at hl'
      cases hl'
    | updated s now j call found guard answer lease jobs =>
      obtain ⟨⟨op, reply⟩, pid, before, after⟩ := e'
      subst call
      cases returned_update answer
      obtain ⟨j', hj', hstarted⟩ := hbefore
      have hjob : l.jobId = j.id := by
        obtain ⟨workerId, -, rfl⟩ := Option.map_eq_some_iff.1 hl'
        exact set_id
      rw [← hid, hjob] at hj'
      cases found.symm.trans hj'
      cases s with
      | claim workerId leaseSeconds | claimExact jobId workerId leaseSeconds =>
        simp only [Statement.guard, Bool.and_eq_true, beq_iff_eq] at guard
        exact (hf' j.id j found hstarted).1 guard.1
      | _ => cases hl'
  · intro j hj
    obtain ⟨j', hj', hstarted⟩ := hafter
    cases hj.symm.trans hj'
    exact effect_started heffect hf' id j hj hstarted

theorem absorbed (hl : Legal tasks log t) (he : e ∈ log) {j : Job} (hj : e.before.job id = some j)
    (ha : j.state.absorbing) : e.after.job id = some j := by
  cases (legal_effect hl he).2 with
  | kept jobs nothing => rw [jobs, hj]
  | inserted s id' now fresh nothing jobs =>
    have hid : id ≠ id' := by
      rintro rfl
      rw [hj] at fresh
      cases fresh
    rw [jobs, if_neg hid, hj]
  | updated s now j' call found guard answer lease jobs =>
    have hid : id ≠ j'.id := by
      rintro rfl
      cases found.symm.trans hj
      exact guard_absorbing guard ha
    rw [jobs, if_neg hid, hj]

theorem latestClaim_cons : latestClaim id (e :: log) =
    ((claimed e.toEv).filter fun l => l.jobId == id).or (latestClaim id log) := by
  unfold latestClaim
  rw [List.findSome?_cons]
  cases (claimed e.toEv).filter fun l => l.jobId == id <;> rfl

theorem latestClaim_skip (h : ∀ l, claimed e.toEv = some l → l.jobId ≠ id) :
    latestClaim id (e :: log) = latestClaim id log := by
  rw [latestClaim_cons]
  cases hc : claimed e.toEv with
  | none => rfl
  | some l => simp [Option.filter, h l hc]

theorem latest_owner (hl : Legal tasks log t) : ∀ id j, t.job id = some j → ∀ workerId, j.leaseOwner = some workerId →
    latestClaim id log = some ⟨id, workerId, j.fencingToken⟩ := by
  refine System.Legal.induction (P := fun log t => ∀ id j, t.job id = some j → ∀ workerId,
    j.leaseOwner = some workerId → latestClaim id log = some ⟨id, workerId, j.fencingToken⟩) ?_ ?_ hl
  · intro id j hj
    cases hj
  intro older e hlegal hlaw ih id j hj workerId ho
  obtain ⟨i, hi⟩ := hlaw.exec
  have hi : exec i e.op e.before = (e.reply, e.after) := hi
  have heffect := exec_effect i e.op e.before
  rw [hi] at heffect
  cases heffect with
  | kept jobs nothing =>
    rw [latestClaim_skip (by simp [claimed_none nothing])]
    rw [jobs] at hj
    exact ih id j hj workerId ho
  | inserted s id' now fresh nothing jobs =>
    rw [latestClaim_skip (by simp [claimed_none nothing])]
    rw [jobs] at hj
    split at hj
    · cases hj
      cases ho
    · exact ih id j hj workerId ho
  | updated s now j' call found guard answer lease jobs =>
    obtain ⟨⟨op, reply⟩, pid, before, after⟩ := e
    subst call
    cases returned_update answer
    have hclaimed : claimed ⟨.update s, .ok (some (s.set now j'))⟩ =
        s.claimant.map fun workerId => ⟨j'.id, workerId, (s.set now j').fencingToken⟩ := by
      show s.claimant.map (fun workerId => (⟨(s.set now j').id, workerId, (s.set now j').fencingToken⟩ : Lease)) = _
      rw [set_id]
    rw [jobs] at hj
    split at hj
    · rename_i hid
      subst hid
      cases hj
      rcases set_owner ho with hc | ⟨hc, ho', htoken⟩
      · rw [latestClaim_cons]
        simp only [hclaimed, hc, Option.map_some, Option.filter, beq_self_eq_true, if_true, Option.some_or]
      · rw [latestClaim_skip (by simp [hclaimed, hc]), htoken]
        exact ih j'.id j' found workerId ho'
    · rename_i hid
      rw [latestClaim_skip]
      · exact ih id j hj workerId ho
      · intro l hl hl'
        rw [hclaimed] at hl
        obtain ⟨w, -, rfl⟩ := Option.map_eq_some_iff.1 hl
        exact hid hl'.symm

theorem owner_writes (hl : Legal tasks (newer ++ e :: older) t) : OwnerWrites older e := by
  have heffect := (legal_effect hl (e := e) (by simp)).2
  have howner := latest_owner hl.split.2
  intro id j hj
  cases heffect with
  | kept jobs nothing => exact .inl ((jobs id).trans hj)
  | inserted s id' now fresh nothing jobs =>
    have hid : id ≠ id' := by
      rintro rfl
      rw [hj] at fresh
      cases fresh
    exact .inl (by rw [jobs, if_neg hid, hj])
  | updated s now j' call found guard answer lease jobs =>
    by_cases hid : id = j'.id
    · subst hid
      cases found.symm.trans hj
      refine .inr ⟨s, call, fun l hs => ?_⟩
      obtain ⟨ho, htoken⟩ := guard_lease hs guard
      rw [howner j.id j found l.workerId ho, htoken, ← lease l hs]
    · exact .inl (by rw [jobs, if_neg hid, hj])

/-- The counts of a job are those of its chunks. -/
def Counted (id : Uuid) (log : List LogEntry) (t : Table) : Prop :=
  match t.job id with
  | none => log.filterMap (fun e => chunkOf id e.toEv) = []
  | some j => j.chunkCount = (log.filterMap fun e => chunkOf id e.toEv).length ∧
      j.audioBytes = (log.filterMap fun e => chunkOf id e.toEv).sum

theorem counted (hl : Legal tasks log t) : Counted id log t := by
  refine System.Legal.induction (P := Counted id) ?_ ?_ hl
  · rfl
  intro older e hlegal hlaw ih
  obtain ⟨i, hi⟩ := hlaw.exec
  have hi : exec i e.op e.before = (e.reply, e.after) := hi
  have heffect := exec_effect i e.op e.before
  rw [hi] at heffect
  unfold Counted at ih ⊢
  rw [List.filterMap_cons]
  cases heffect with
  | kept jobs nothing => rwa [chunkOf_none nothing, jobs]
  | inserted s id' now fresh nothing jobs =>
    rw [chunkOf_none nothing, jobs]
    by_cases hid : id = id'
    · subst hid
      rw [fresh] at ih
      simp only [if_true] at ih ⊢
      rw [ih]
      exact ⟨rfl, rfl⟩
    · rwa [if_neg hid]
  | updated s now j call found guard answer lease jobs =>
    obtain ⟨⟨op, reply⟩, pid, before, after⟩ := e
    subst call
    cases returned_update answer
    rw [jobs]
    by_cases hid : id = j.id
    · subst hid
      rw [found] at ih
      simp only [if_true] at ih ⊢
      obtain ⟨hcount, hsum⟩ := ih
      cases s with
      | recordChunk l size =>
        have hchunk : chunkOf j.id ⟨.update (.recordChunk l size), .ok (some ((Statement.recordChunk l size).set now j))⟩ =
            some size := if_pos (lease l rfl)
        rw [hchunk]
        simp only [List.length_cons, List.sum_cons, Statement.set]
        refine ⟨by push_cast; omega, by omega⟩
      | _ => exact ⟨hcount, hsum⟩
    · rw [if_neg hid]
      have hchunk : chunkOf id ⟨.update s, .ok (some (s.set now j))⟩ = none := by
        cases s with
        | recordChunk l size => exact if_neg fun h => hid (h.symm.trans (lease l rfl))
        | _ => rfl
      rwa [hchunk]

/-- In every run of the operations: once `mark_provider_started` succeeded for a job it does not again, and the job is
neither queued nor claimed; a job that ended is not changed; a worker changes a job only under the worker and token of
its latest claim; and the counts of a job are the number and the total size of its recorded chunks. -/
theorem provider_started_once (actions : List Step) :
    (∀ newer e older, (run actions).log = newer ++ e :: older →
      (∀ id, startsProvider id e.toEv → ∀ e' ∈ newer, ¬startsProvider id e'.toEv ∧
        (∀ l, claimed e'.toEv = some l → l.jobId ≠ id) ∧
        ∀ j, e'.after.job id = some j → j.state ≠ .queued ∧ j.state ≠ .claimed) ∧
      OwnerWrites older e) ∧
    (∀ e ∈ (run actions).log, ∀ id j, e.before.job id = some j → j.state.absorbing → e.after.job id = some j) ∧
    ∀ id j, (run actions).shared.job id = some j →
      j.chunkCount = ((run actions).log.filterMap fun e => chunkOf id e.toEv).length ∧
      j.audioBytes = ((run actions).log.filterMap fun e => chunkOf id e.toEv).sum := by
  have hl := run_legal actions
  refine ⟨?_, ?_, ?_⟩
  · intro newer e older hlog
    rw [hlog] at hl
    exact ⟨fun id hs => provider_kept hl hs, owner_writes hl⟩
  · intro e he id j hj ha
    exact absorbed hl he hj ha
  · intro id j hj
    have h : Counted id (run actions).log (run actions).shared := counted hl
    unfold Counted at h
    rwa [hj] at h

end Runs

end Middleware.Tts

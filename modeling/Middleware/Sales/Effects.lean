/-
What a step of the event loop does to the verification jobs (`Effect`), and how the run of a job ends: with a result, or with an
exception that leaves it.
-/
import Middleware.Sales.Jobs

namespace Middleware.Sales

open Lib

/-! ## How a run of a job ends -/

section Outcomes

variable (lib : Library) (w : World)

/-- What comes of a lookup can be used: Odoo is unavailable, or its records can be compared with the candidate. -/
def Usable (candidate : LeadCandidate) (reply : Except Exc OdooLookup) : Prop :=
  (∃ e, reply = .error e ∧ e.isUnavailable = true) ∨
    ∃ lookup found, reply = .ok lookup ∧ compared lib candidate lookup = .ok found

/-- The key of the call is known, and whether it is with this candidate. -/
def Known (a : Resolve) (same : Prop) : Prop :=
  w.locked (.resolve, a.scope) = false ∧
    ∃ prior, w.service.resolutionEntries.get a.scope = some prior ∧ (prior.payloadHash = a.payloadHash lib ↔ same)

/-- The action ends the run of the job: its page is empty or cannot be read, or its last candidate is resolved. -/
def World.Returns (jobId : String) : Action → Prop
  | .page pid reply =>
    (∃ a, w.tasks[pid]? = some (.reading a jobId)) ∧ (reply = .ok [] ∨ ∃ e, reply = .error e ∧ e.isUnavailable = true)
  | .resume pid => ∃ a candidate, w.tasks[pid]? = some (.running a jobId candidate .entering []) ∧
      Known lib w (a.call jobId candidate) True
  | .lookup pid reply => ∃ a candidate candidateId,
      w.tasks[pid]? = some (.running a jobId candidate (.looking candidateId) []) ∧ Usable lib candidate reply
  | _ => False

/-- The action lets an exception out of the run of the job: of its page, of the lookup for a candidate, of a comparison, of a
key that is known with another candidate, or of a task that is cancelled while it waits for a lock. -/
def World.Raises (jobId : String) : Action → Prop
  | .page pid reply => (∃ a, w.tasks[pid]? = some (.reading a jobId)) ∧ ∃ e, reply = .error e ∧ e.isUnavailable = false
  | .resume pid => ∃ a candidate rest, w.tasks[pid]? = some (.running a jobId candidate .entering rest) ∧
      Known lib w (a.call jobId candidate) False
  | .lookup pid reply => ∃ a candidate candidateId rest,
      w.tasks[pid]? = some (.running a jobId candidate (.looking candidateId) rest) ∧ ¬ Usable lib candidate reply
  | .interrupt pid _ => ∃ a candidate rest, w.tasks[pid]? = some (.running a jobId candidate .entering rest)
  | _ => False

end Outcomes

/-! ## Services -/

section Services

variable {lib : Library} {policy : MatchPolicy} {s s' : Service} {jobId key : String} {f g : VerificationJob → VerificationJob}

/-- What `resolve` leaves alone. -/
structure Frame (s s' : Service) : Prop where
  jobs : s'.jobs = s.jobs
  jobEntries : s'.jobEntries = s.jobEntries
  drawn : s.drawn ≤ s'.drawn

theorem enter_frame (lib : Library) (a : Resolve) (s : Service) : Frame s (a.enter lib s).2 := by
  unfold Resolve.enter
  split
  · split
    · exact ⟨rfl, rfl, le_refl _⟩
    · exact ⟨rfl, rfl, le_refl _⟩
  · exact ⟨rfl, rfl, Nat.le_succ _⟩

theorem finish_frame (lib : Library) (policy : MatchPolicy) (a : Resolve) (candidateId : String) (reply : Except Exc OdooLookup)
    (s : Service) : Frame s (a.finish lib policy candidateId reply s).2 := by
  unfold Resolve.finish
  split
  · exact ⟨rfl, rfl, le_refl _⟩
  · split
    · split
      · exact ⟨rfl, rfl, Nat.le_succ _⟩
      · exact ⟨rfl, rfl, le_refl _⟩
    · exact ⟨rfl, rfl, le_refl _⟩

theorem enter_cases (lib : Library) (a : Resolve) (s : Service) :
    (∃ prior, s.resolutionEntries.get a.scope = some prior ∧ prior.payloadHash ≠ a.payloadHash lib ∧
      ∃ e, (a.enter lib s).1 = .inl (.error e)) ∨
    (∃ prior, s.resolutionEntries.get a.scope = some prior ∧ prior.payloadHash = a.payloadHash lib ∧
      (a.enter lib s).1 = .inl (.ok (prior.result, true))) ∨
    s.resolutionEntries.get a.scope = none ∧ ∃ candidateId, (a.enter lib s).1 = .inr candidateId := by
  unfold Resolve.enter
  cases hprior : s.resolutionEntries.get a.scope with
  | none => exact .inr (.inr ⟨rfl, _, rfl⟩)
  | some prior =>
    dsimp only
    by_cases hsame : prior.payloadHash = a.payloadHash lib
    · rw [if_neg (not_not.2 hsame)]
      exact .inr (.inl ⟨prior, rfl, hsame, rfl⟩)
    · rw [if_pos hsame]
      exact .inl ⟨prior, rfl, hsame, _, rfl⟩

theorem resolution_unavailable {candidate : LeadCandidate} {candidateId correlationId : String} {e : Exc} (h : e.isUnavailable = true) :
    resolution lib policy candidate candidateId correlationId (.error e) =
      .ok (manualReview candidate candidateId correlationId, none) := by
  cases e with
  | odooReadUnavailable m => rfl
  | timeoutError => rfl
  | valueError m => cases h
  | salesError m => cases h
  | salesConflict m => cases h
  | other n m => cases h

theorem resolution_error {candidate : LeadCandidate} {candidateId correlationId : String} {e : Exc} (h : e.isUnavailable = false) :
    resolution lib policy candidate candidateId correlationId (.error e) = .error e := by
  cases e with
  | odooReadUnavailable m => cases h
  | timeoutError => cases h
  | valueError m => rfl
  | salesError m => rfl
  | salesConflict m => rfl
  | other n m => rfl

/-- A resolution is made of what comes of a lookup exactly if that can be used. -/
theorem resolution_usable {candidate : LeadCandidate} {candidateId correlationId : String} {reply : Except Exc OdooLookup} :
    (∃ r, resolution lib policy candidate candidateId correlationId reply = .ok r) ↔ Usable lib candidate reply := by
  rcases reply with e | lookup
  · cases he : e.isUnavailable with
    | true =>
      rw [resolution_unavailable he]
      exact ⟨fun _ => .inl ⟨e, rfl, he⟩, fun _ => ⟨_, rfl⟩⟩
    | false =>
      rw [resolution_error he]
      constructor
      · rintro ⟨r, h⟩
        cases h
      · rintro (⟨e', h, he'⟩ | ⟨lookup, found, h, -⟩)
        · cases h
          rw [he] at he'
          cases he'
        · cases h
  · unfold resolution
    dsimp only
    rcases hfound : compared lib candidate lookup with e | found
    · constructor
      · rintro ⟨r, h⟩
        cases h
      · rintro (⟨e', h, -⟩ | ⟨lookup', found, h, h'⟩)
        · cases h
        · cases h
          rw [hfound] at h'
          cases h'
    · exact ⟨fun _ => .inr ⟨lookup, found, rfl, hfound⟩, fun _ => ⟨_, rfl⟩⟩

/-- A call answers what Odoo says exactly if that can be used. -/
theorem finish_cases (lib : Library) (policy : MatchPolicy) (a : Resolve) (candidateId : String) (reply : Except Exc OdooLookup)
    (s : Service) : Usable lib a.candidate reply ∧ (∃ r, (a.finish lib policy candidateId reply s).1 = .ok (r, false)) ∨
      ¬ Usable lib a.candidate reply ∧ ∃ e, (a.finish lib policy candidateId reply s).1 = .error e := by
  unfold Resolve.finish
  rcases h : resolution lib policy a.candidate candidateId a.correlationId reply with e | ⟨r, found⟩
  · refine .inr ⟨?_, e, rfl⟩
    intro husable
    obtain ⟨r, hr⟩ := resolution_usable.2 husable
    rw [h] at hr
    cases hr
  · exact .inl ⟨resolution_usable.1 ⟨_, h⟩, r, rfl⟩

theorem create_cases (lib : Library) (a : CreateJob) (s : Service) :
    (∃ answer, a.enter lib s = (.inl answer, s)) ∨
    s.jobEntries.get a.scope = none ∧
      a.enter lib s =
        (.inr ("LVJ-" ++ lib.uuid4 s.drawn),
          { s with
            drawn := s.drawn + 1
            jobs := s.jobs.set ("LVJ-" ++ lib.uuid4 s.drawn)
              { jobId := "LVJ-" ++ lib.uuid4 s.drawn, request := a.request, correlationId := a.correlationId, state := .running }
            jobEntries := s.jobEntries.set a.scope
              { payloadHash := a.payloadHash lib, result := "LVJ-" ++ lib.uuid4 s.drawn, correlationId := a.correlationId } }) := by
  unfold CreateJob.enter
  cases hprior : s.jobEntries.get a.scope with
  | none => exact .inr ⟨rfl, rfl⟩
  | some prior =>
    dsimp only
    split
    · exact .inl ⟨_, rfl⟩
    · cases s.jobs.get prior.result with
      | none => exact .inl ⟨_, rfl⟩
      | some job => exact .inl ⟨_, rfl⟩

theorem cancel_cases (jobId tenantId : String) (s : Service) : (cancelJob jobId tenantId s).2 = s ∨
    ∃ job, s.jobs.get jobId = some job ∧ (job.state = .queued ∨ job.state = .running) ∧
      (cancelJob jobId tenantId s).2 = s.update jobId fun job => { job with state := .canceled } := by
  unfold cancelJob Service.update
  cases hjob : s.jobs.get jobId with
  | none => exact .inl rfl
  | some job =>
    dsimp only
    by_cases htenant : job.request.tenantId ≠ tenantId
    · rw [if_pos htenant]
      exact .inl rfl
    · rw [if_neg htenant]
      by_cases hstate : job.state = .queued ∨ job.state = .running
      · rw [if_pos hstate]
        exact .inr ⟨job, rfl, hstate, rfl⟩
      · rw [if_neg hstate]
        exact .inl rfl

theorem get_update : (s.update jobId f).jobs.get key = if key = jobId then (s.jobs.get jobId).map f else s.jobs.get key := by
  unfold Service.update
  cases hjob : s.jobs.get jobId with
  | none =>
    dsimp only
    split
    · rename_i hkey
      rw [hkey, hjob]
      rfl
    · rfl
  | some job => exact OrderedDict.get_set

theorem update_jobEntries : (s.update jobId f).jobEntries = s.jobEntries := by
  unfold Service.update
  split <;> rfl

theorem update_drawn : (s.update jobId f).drawn = s.drawn := by
  unfold Service.update
  split <;> rfl

theorem update_congr (h : s'.jobs = s.jobs) : (s'.update jobId f).jobs = (s.update jobId f).jobs := by
  unfold Service.update
  rw [h]
  split
  · rfl
  · exact h

theorem update_id : (s.update jobId id).jobs = s.jobs := by
  unfold Service.update
  cases hjob : s.jobs.get jobId with
  | none => rfl
  | some job => exact OrderedDict.set_get hjob

theorem update_update : ((s.update jobId f).update jobId g).jobs = (s.update jobId (g ∘ f)).jobs := by
  unfold Service.update
  cases hjob : s.jobs.get jobId with
  | none =>
    rw [hjob]
  | some job =>
    rw [OrderedDict.get_set_self]
    exact OrderedDict.set_set

end Services

/-! ## What a step does to the jobs -/

/-- The results of candidates are counted. -/
def VerificationJob.Counted (job : VerificationJob) : Prop := job.processed = job.candidateResults.length

/-- The job of a task, and whether its run goes on. -/
def Task.job : Task → Option (CreateJob × String × Bool)
  | reading a jobId => some (a, jobId, true)
  | running a jobId _ _ _ => some (a, jobId, true)
  | created a (some jobId) _ => some (a, jobId, false)
  | _ => none

def World.job (w : World) (pid : Nat) : Option (CreateJob × String × Bool) := w.tasks[pid]?.bind Task.job

structure Keeps (f : VerificationJob → VerificationJob) : Prop where
  state : ∀ job, (f job).state = job.state
  counted : ∀ job, job.Counted → (f job).Counted

/-- A change with which the run of a job ends. -/
structure Finishes (f : VerificationJob → VerificationJob) : Prop where
  state : ∀ job, (f job).state = .completed ∨ (f job).state = .completedWithWarnings
  counted : ∀ job, job.Counted → (f job).Counted

inductive Effect (lib : Library) (w : World) (act : Action) (w' : World) : Prop where
  | quiet (hjobs : w'.service.jobs = w.service.jobs) (hentries : w'.service.jobEntries = w.service.jobEntries)
      (hdrawn : w.service.drawn ≤ w'.service.drawn) (hjob : w'.job = w.job)
  | cancel (jobId : String) (job : VerificationJob) (hget : w.service.jobs.get jobId = some job)
      (hstate : job.state = .queued ∨ job.state = .running)
      (hjobs : w'.service.jobs = (w.service.update jobId fun job => { job with state := .canceled }).jobs)
      (hentries : w'.service.jobEntries = w.service.jobEntries) (hdrawn : w.service.drawn ≤ w'.service.drawn) (hjob : w'.job = w.job)
  | create (pid : Nat) (a : CreateJob) (hpid : w.job pid = none) (hnew : w.service.jobEntries.get a.scope = none)
      (hdrawn : w'.service.drawn = w.service.drawn + 1)
      (hjobs : w'.service.jobs = w.service.jobs.set ("LVJ-" ++ lib.uuid4 w.service.drawn)
        { jobId := "LVJ-" ++ lib.uuid4 w.service.drawn, request := a.request, correlationId := a.correlationId, state := .running })
      (hentries : w'.service.jobEntries = w.service.jobEntries.set a.scope
        { payloadHash := a.payloadHash lib, result := "LVJ-" ++ lib.uuid4 w.service.drawn, correlationId := a.correlationId })
      (hjob : w'.job = Function.update w.job pid (some (a, "LVJ-" ++ lib.uuid4 w.service.drawn, true)))
  | write (pid : Nat) (a : CreateJob) (jobId : String) (f : VerificationJob → VerificationJob) (hf : Keeps f)
      (hpid : w.job pid = some (a, jobId, true)) (hjobs : w'.service.jobs = (w.service.update jobId f).jobs)
      (hentries : w'.service.jobEntries = w.service.jobEntries) (hdrawn : w.service.drawn ≤ w'.service.drawn) (hjob : w'.job = w.job)
  | finish (pid : Nat) (a : CreateJob) (jobId : String) (f : VerificationJob → VerificationJob) (hf : Finishes f)
      (hpid : w.job pid = some (a, jobId, true)) (hreturns : w.Returns lib jobId act)
      (hjobs : w'.service.jobs = (w.service.update jobId f).jobs) (hentries : w'.service.jobEntries = w.service.jobEntries)
      (hdrawn : w.service.drawn ≤ w'.service.drawn) (hjob : w'.job = Function.update w.job pid (some (a, jobId, false)))
  | raise (pid : Nat) (a : CreateJob) (jobId : String) (f : VerificationJob → VerificationJob) (hf : Keeps f)
      (hpid : w.job pid = some (a, jobId, true)) (hraises : jobId.length = 36 → w.Raises lib jobId act)
      (hjobs : w'.service.jobs = (w.service.update jobId f).jobs) (hentries : w'.service.jobEntries = w.service.jobEntries)
      (hdrawn : w.service.drawn ≤ w'.service.drawn) (hjob : w'.job = Function.update w.job pid (some (a, jobId, false)))

section Effects

variable {lib : Library} {policy : MatchPolicy} {w w' : World} {act : Action} {pid : Nat} {a : CreateJob} {jobId : String}
  {task task' : Task} {s : Service}

theorem job_put (h : w.tasks[pid]? = some task') : (w.put pid task s).job = Function.update w.job pid task.job := by
  funext p
  have hpid : pid < w.tasks.length := (List.getElem?_eq_some_iff.1 h).1
  show (w.tasks.set pid task)[p]?.bind Task.job = _
  rw [List.getElem?_set]
  by_cases hp : pid = p
  · subst hp
    rw [if_pos rfl, if_pos hpid, Function.update_self]
    rfl
  · rw [if_neg hp, Function.update_of_ne (Ne.symm hp)]
    rfl

theorem job_of (h : w.tasks[pid]? = some task) : w.job pid = task.job := by
  unfold World.job
  rw [h]
  rfl

theorem job_same (h : w.tasks[pid]? = some task') (hsame : task.job = task'.job) : (w.put pid task s).job = w.job := by
  rw [job_put h, hsame, ← job_of h, Function.update_eq_self]

theorem job_append (h : task.job = none) : (World.mk s (w.tasks ++ [task])).job = w.job := by
  funext p
  show (w.tasks ++ [task])[p]?.bind Task.job = w.tasks[p]?.bind Task.job
  rcases lt_trichotomy p w.tasks.length with hp | hp | hp
  · rw [List.getElem?_append_left hp]
  · rw [hp, List.getElem?_concat_length, List.getElem?_eq_none (le_refl _)]
    exact h
  · rw [List.getElem?_eq_none (by rw [List.length_append]; exact hp), List.getElem?_eq_none hp.le]

theorem withTotal_keeps (n : Nat) : Keeps fun job => job.withTotal n := ⟨fun _ => rfl, fun _ h => h⟩

theorem keeps_id : Keeps id := ⟨fun _ => rfl, fun _ h => h⟩

theorem append_keeps (r : LeadResolution) : Keeps fun job => job.append r := by
  refine ⟨fun _ => rfl, ?_⟩
  intro job h
  show job.processed + 1 = (List.filter _ (job.results ++ [_])).length
  rw [List.filter_append, List.length_append, h]
  rfl

theorem Keeps.completed {f : VerificationJob → VerificationJob} (hf : Keeps f) : Finishes (VerificationJob.completed ∘ f) :=
  ⟨fun _ => .inl rfl, fun job h => hf.counted job h⟩

theorem dependencyUnavailable_finishes : Finishes VerificationJob.dependencyUnavailable := by
  refine ⟨fun _ => .inr rfl, ?_⟩
  intro job h
  show job.processed = (List.filter _ (job.results ++ [_])).length
  rw [List.filter_append, List.length_append, h]
  rfl

theorem call_bounded (hjob : jobId.length = 36) (candidate : LeadCandidate) : (a.call jobId candidate).bounded = true := by
  have hbounds := candidate.source.requestIdBounds
  have hlength : (a.call jobId candidate).idempotencyKey.length = 50 + candidate.source.requestId.length := by
    show ("verification:" ++ jobId ++ ":" ++ candidate.source.requestId).length = _
    rw [String.length_append, String.length_append, String.length_append, hjob]
    rfl
  unfold Resolve.bounded
  rw [hlength, decide_eq_true_eq]
  omega

theorem advance_effect {f : VerificationJob → VerificationJob} (htask : w.tasks[pid]? = some task')
    (hrunning : task'.job = some (a, jobId, true)) (hf : Keeps f)
    (hjobs : s.jobs = (w.service.update jobId f).jobs) (hentries : s.jobEntries = w.service.jobEntries)
    (hdrawn : w.service.drawn ≤ s.drawn) {rest : List LeadCandidate} (hreturns : rest = [] → w.Returns lib jobId act) : Effect lib w act (w.advance pid a jobId s rest) := by
  have hpid : w.job pid = some (a, jobId, true) := (job_of htask).trans hrunning
  cases rest with
  | nil =>
    refine .finish pid a jobId _ hf.completed hpid (hreturns rfl) ?_ ?_ ?_ (job_put htask)
    · exact (update_congr (s := w.service.update jobId f) hjobs).trans update_update
    · exact update_jobEntries.trans hentries
    · exact hdrawn.trans update_drawn.ge
  | cons candidate rest =>
    unfold World.advance
    dsimp only
    split
    · exact .write pid a jobId f hf hpid hjobs hentries hdrawn (job_same htask hrunning.symm)
    · rename_i hbounded
      exact .raise pid a jobId f hf hpid (fun hlength => absurd (call_bounded hlength candidate) hbounded) hjobs hentries hdrawn
        (job_put htask)

theorem proceed_effect (htask : w.tasks[pid]? = some task') (hrunning : task'.job = some (a, jobId, true))
    (hframe : Frame w.service s) {rest : List LeadCandidate} {answer : Except Exc (LeadResolution × Bool)}
    (hreturns : ∀ r, answer = .ok r → rest = [] → w.Returns lib jobId act)
    (hraises : ∀ e, answer = .error e → w.Raises lib jobId act) : Effect lib w act (w.proceed pid a jobId rest s answer) := by
  rcases answer with e | r
  · exact .raise pid a jobId id keeps_id ((job_of htask).trans hrunning) (fun _ => hraises e rfl)
      (hframe.jobs.trans update_id.symm) hframe.jobEntries hframe.drawn (job_put htask)
  · exact advance_effect htask hrunning (append_keeps r.1) (update_congr hframe.jobs)
      (update_jobEntries.trans hframe.jobEntries) (hframe.drawn.trans update_drawn.ge) (hreturns r rfl)

theorem resume_effect : Effect lib w (.resume pid) (w.resume lib pid) := by
  unfold World.resume
  split
  · rename_i b htask
    split
    · exact .quiet rfl rfl (le_refl _) rfl
    · have hframe := enter_frame lib b w.service
      split
      · rename_i answer s heq
        rw [heq] at hframe
        exact .quiet hframe.jobs hframe.jobEntries hframe.drawn (job_same htask rfl)
      · rename_i candidateId s heq
        rw [heq] at hframe
        exact .quiet hframe.jobs hframe.jobEntries hframe.drawn (job_same htask rfl)
  · rename_i b htask
    split
    · exact .quiet rfl rfl (le_refl _) rfl
    rcases create_cases lib b w.service with ⟨answer, h⟩ | ⟨hnew, h⟩
    · rw [h]
      exact .quiet rfl rfl (le_refl _) (job_same htask rfl)
    · rw [h]
      exact .create pid b (job_of htask) hnew rfl rfl rfl (job_put htask)
  · rename_i b jobId candidate rest htask
    split
    · exact .quiet rfl rfl (le_refl _) rfl
    rename_i hlocked
    rw [Bool.not_eq_true] at hlocked
    have hframe := enter_frame lib (b.call jobId candidate) w.service
    have hcases := enter_cases lib (b.call jobId candidate) w.service
    split
    · rename_i answer s heq
      rw [heq] at hframe hcases
      refine proceed_effect htask rfl hframe ?_ ?_
      · -- The key is known with this candidate.
        rintro r rfl rfl
        rcases hcases with ⟨_, _, _, e, he⟩ | ⟨prior, hprior, hsame, -⟩ | ⟨_, candidateId, h⟩
        · cases he
        · exact ⟨b, candidate, htask, hlocked, prior, hprior, iff_of_true hsame trivial⟩
        · cases h
      · rintro e rfl
        rcases hcases with ⟨prior, hprior, hother, -⟩ | ⟨_, _, _, h⟩ | ⟨_, candidateId, h⟩
        · exact ⟨b, candidate, rest, htask, hlocked, prior, hprior, iff_of_false hother id⟩
        · cases h
        · cases h
    · rename_i candidateId s heq
      rw [heq] at hframe
      exact .quiet hframe.jobs hframe.jobEntries hframe.drawn (job_same htask rfl)
  · exact .quiet rfl rfl (le_refl _) rfl

theorem page_effect (reply : Except Exc (List LeadCandidate)) : Effect lib w (.page pid reply) (w.page pid reply) := by
  unfold World.page
  split
  · rename_i b jobId htask
    rcases reply with e | candidates
    · dsimp only
      split
      · rename_i he
        exact .finish pid b jobId _ dependencyUnavailable_finishes (job_of htask) ⟨⟨b, htask⟩, .inr ⟨e, rfl, he⟩⟩ rfl
          update_jobEntries update_drawn.ge (job_put htask)
      · rename_i he
        exact .raise pid b jobId id keeps_id (job_of htask) (fun _ => ⟨⟨b, htask⟩, e, rfl, eq_false_of_ne_true he⟩)
          update_id.symm rfl (le_refl _) (job_put htask)
    · refine advance_effect htask rfl (withTotal_keeps candidates.length) rfl
        update_jobEntries update_drawn.ge ?_
      rintro rfl
      exact ⟨⟨b, htask⟩, .inl rfl⟩
  · exact .quiet rfl rfl (le_refl _) rfl

theorem lookup_effect (reply : Except Exc OdooLookup) : Effect lib w (.lookup pid reply) (w.lookup lib policy pid reply) := by
  unfold World.lookup
  split
  · rename_i b candidateId htask
    have hframe := finish_frame lib policy b candidateId reply w.service
    exact .quiet hframe.jobs hframe.jobEntries hframe.drawn (job_same htask rfl)
  · rename_i b jobId candidate candidateId rest htask
    have hframe := finish_frame lib policy (b.call jobId candidate) candidateId reply w.service
    have hcases := finish_cases lib policy (b.call jobId candidate) candidateId reply w.service
    generalize Resolve.finish lib policy (b.call jobId candidate) candidateId reply w.service = result at hframe hcases ⊢
    obtain ⟨answer, s⟩ := result
    refine proceed_effect htask rfl hframe ?_ ?_
    · rintro r rfl rfl
      rcases hcases with ⟨husable, -⟩ | ⟨_, e, he⟩
      · exact ⟨b, candidate, candidateId, htask, husable⟩
      · cases he
    · rintro e rfl
      rcases hcases with ⟨_, r, hr⟩ | ⟨husable, -⟩
      · cases hr
      · exact ⟨b, candidate, candidateId, rest, htask, husable⟩
  · exact .quiet rfl rfl (le_refl _) rfl

theorem interrupt_effect (e : Exc) : Effect lib w (.interrupt pid e) (w.interrupt pid e) := by
  unfold World.interrupt
  split
  · rename_i b htask
    exact .quiet rfl rfl (le_refl _) (job_same htask rfl)
  · rename_i b htask
    exact .quiet rfl rfl (le_refl _) (job_same htask rfl)
  · rename_i b jobId candidate rest htask
    exact .raise pid b jobId id keeps_id (job_of htask) (fun _ => ⟨b, candidate, rest, htask⟩) update_id.symm rfl (le_refl _)
      (job_put htask)
  · exact .quiet rfl rfl (le_refl _) rfl

theorem step_effect (policy : MatchPolicy) (act : Action) : Effect lib w act (step lib policy act w) := by
  cases act with
  | resolve a =>
    refine .quiet rfl rfl (le_refl _) (job_append ?_)
    split <;> rfl
  | createJob a => exact .quiet rfl rfl (le_refl _) (job_append rfl)
  | cancelJob jobId tenantId =>
    show Effect lib w (.cancelJob jobId tenantId) { w with service := (cancelJob jobId tenantId w.service).2 }
    rcases cancel_cases jobId tenantId w.service with h | ⟨job, hjob, hstate, h⟩
    · rw [h]
      exact .quiet rfl rfl (le_refl _) rfl
    · rw [h]
      exact .cancel jobId job hjob hstate rfl update_jobEntries update_drawn.ge rfl
  | resume pid => exact resume_effect
  | page pid reply => exact page_effect reply
  | lookup pid reply => exact lookup_effect reply
  | interrupt pid e => exact interrupt_effect e

theorem finish_state {f : VerificationJob → VerificationJob} (hf : Finishes f) {job : VerificationJob}
    (hjobs : s.jobs = w.service.jobs) (hget : w.service.jobs.get jobId = some job) :
    ∃ job', (s.update jobId f).jobs.get jobId = some job' ∧ (job'.state = .completed ∨ job'.state = .completedWithWarnings) := by
  rw [get_update, if_pos rfl, hjobs, hget]
  exact ⟨f job, rfl, hf.state job⟩

theorem proceed_state {job : VerificationJob} (hjobs : s.jobs = w.service.jobs) (hget : w.service.jobs.get jobId = some job)
    (r : LeadResolution × Bool) :
    ∃ job', (w.proceed pid a jobId [] s (.ok r)).service.jobs.get jobId = some job' ∧
      (job'.state = .completed ∨ job'.state = .completedWithWarnings) := by
  show ∃ job', ((s.update jobId (·.append r.1)).update jobId (·.completed)).jobs.get jobId = some job' ∧ _
  rw [update_update]
  exact finish_state (append_keeps r.1).completed hjobs hget

theorem step_returns (policy : MatchPolicy) (h : w.Returns lib jobId act) {job : VerificationJob} (hget : w.service.jobs.get jobId = some job) :
    ∃ job', (step lib policy act w).service.jobs.get jobId = some job' ∧
      (job'.state = .completed ∨ job'.state = .completedWithWarnings) := by
  cases act with
  | page pid reply =>
    obtain ⟨⟨a, htask⟩, rfl | ⟨e, rfl, he⟩⟩ := h
    · unfold step
      dsimp only
      unfold World.page
      rw [htask]
      show ∃ job', ((w.service.update jobId (·.withTotal 0)).update jobId (·.completed)).jobs.get jobId = some job' ∧ _
      rw [update_update]
      exact finish_state (withTotal_keeps 0).completed rfl hget
    · unfold step
      dsimp only
      unfold World.page
      rw [htask]
      dsimp only
      rw [if_pos he]
      exact finish_state dependencyUnavailable_finishes rfl hget
  | resume pid =>
    obtain ⟨a, candidate, htask, hlocked, prior, hprior, hsame⟩ := h
    unfold step
    dsimp only
    unfold World.resume
    rw [htask]
    dsimp only
    rw [hlocked, if_neg Bool.false_ne_true]
    have hframe := enter_frame lib (a.call jobId candidate) w.service
    have hcases := enter_cases lib (a.call jobId candidate) w.service
    generalize (a.call jobId candidate).enter lib w.service = result at hframe hcases ⊢
    obtain ⟨result, s⟩ := result
    rcases hcases with ⟨prior', hprior', hother, -⟩ | ⟨prior', -, -, rfl⟩ | ⟨hnone, -⟩
    · rw [hprior] at hprior'
      cases hprior'
      exact absurd (hsame.2 trivial) hother
    · exact proceed_state hframe.jobs hget _
    · rw [hprior] at hnone
      cases hnone
  | lookup pid reply =>
    obtain ⟨a, candidate, candidateId, htask, husable⟩ := h
    unfold step
    dsimp only
    unfold World.lookup
    rw [htask]
    dsimp only
    have hframe := finish_frame lib policy (a.call jobId candidate) candidateId reply w.service
    have hcases := finish_cases lib policy (a.call jobId candidate) candidateId reply w.service
    generalize Resolve.finish lib policy (a.call jobId candidate) candidateId reply w.service = result at hframe hcases ⊢
    obtain ⟨answer, s⟩ := result
    rcases hcases with ⟨-, r, rfl⟩ | ⟨hnot, -⟩
    · exact proceed_state hframe.jobs hget _
    · exact absurd husable hnot
  | resolve a => exact h.elim
  | createJob a => exact h.elim
  | cancelJob jobId tenantId => exact h.elim
  | interrupt pid e => exact h.elim

theorem put_mem (h : w.tasks[pid]? = some task') : task ∈ (w.put pid task s).tasks := by
  refine List.mem_iff_getElem?.2 ⟨pid, ?_⟩
  show (w.tasks.set pid task)[pid]? = some task
  rw [List.getElem?_set_self (List.getElem?_eq_some_iff.1 h).1]

/-- An exception that leaves the run of a job ends the call and leaves the job as it is. -/
theorem step_raises (policy : MatchPolicy) (h : w.Raises lib jobId act) :
    (step lib policy act w).service.jobs = w.service.jobs ∧
      ∃ a answer, .created a (some jobId) answer ∈ (step lib policy act w).tasks := by
  cases act with
  | page pid reply =>
    obtain ⟨⟨a, htask⟩, e, rfl, he⟩ := h
    unfold step
    dsimp only
    unfold World.page
    rw [htask]
    dsimp only
    rw [he, if_neg Bool.false_ne_true]
    exact ⟨rfl, a, .error e, put_mem htask⟩
  | resume pid =>
    obtain ⟨a, candidate, rest, htask, hlocked, prior, hprior, hother⟩ := h
    unfold step
    dsimp only
    unfold World.resume
    rw [htask]
    dsimp only
    rw [hlocked, if_neg Bool.false_ne_true]
    have hframe := enter_frame lib (a.call jobId candidate) w.service
    have hcases := enter_cases lib (a.call jobId candidate) w.service
    generalize (a.call jobId candidate).enter lib w.service = result at hframe hcases ⊢
    obtain ⟨result, s⟩ := result
    rcases hcases with ⟨_, _, _, e, rfl⟩ | ⟨prior', hprior', hsame, -⟩ | ⟨hnone, -⟩
    · exact ⟨hframe.jobs, a, .error e, put_mem htask⟩
    · rw [hprior] at hprior'
      cases hprior'
      exact (hother.1 hsame).elim
    · rw [hprior] at hnone
      cases hnone
  | lookup pid reply =>
    obtain ⟨a, candidate, candidateId, rest, htask, hnot⟩ := h
    unfold step
    dsimp only
    unfold World.lookup
    rw [htask]
    dsimp only
    have hframe := finish_frame lib policy (a.call jobId candidate) candidateId reply w.service
    have hcases := finish_cases lib policy (a.call jobId candidate) candidateId reply w.service
    generalize Resolve.finish lib policy (a.call jobId candidate) candidateId reply w.service = result at hframe hcases ⊢
    obtain ⟨answer, s⟩ := result
    rcases hcases with ⟨husable, -⟩ | ⟨-, e, rfl⟩
    · exact absurd husable hnot
    · exact ⟨hframe.jobs, a, .error e, put_mem htask⟩
  | interrupt pid e =>
    obtain ⟨a, candidate, rest, htask⟩ := h
    unfold step
    dsimp only
    unfold World.interrupt
    rw [htask]
    exact ⟨rfl, a, .error e, put_mem htask⟩
  | resolve a => exact h.elim
  | createJob a => exact h.elim
  | cancelJob jobId tenantId => exact h.elim

end Effects

end Middleware.Sales

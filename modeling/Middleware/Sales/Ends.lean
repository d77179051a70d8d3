/-
How verification jobs end. They do, unless an exception leaves the run of a job that is not cancelled, or a run ends whose job was
cancelled meanwhile; then the job stays RUNNING, or the cancellation is overwritten.
-/
import Middleware.Sales.Effects
import Middleware.Lib.Runs

namespace Middleware.Sales

open Lib

/-! ## What is expected of the jobs -/

def VerificationJob.Over (job : VerificationJob) : Prop := job.state ≠ .queued ∧ job.state ≠ .running

/-- A job that was stored by a call that is over has ended and its results are counted, a cancelled job stays cancelled, and the
repeat of such a call is answered with its job. -/
structure Ends (lib : Library) (policy : MatchPolicy) (acts : List Action) : Prop where
  ended : ∀ before : List Action, before <+: acts → ∀ a jobId answer,
    .created a (some jobId) answer ∈ (runFrom (step lib policy) {} before).tasks →
      ∃ job, (runFrom (step lib policy) {} before).service.jobs.get jobId = some job ∧ job.Over ∧ job.Counted
  absorbing : ∀ (before : List Action) (act : Action), before ++ [act] <+: acts → ∀ jobId job,
    (runFrom (step lib policy) {} before).service.jobs.get jobId = some job → job.state = .canceled →
      ∃ job', (runFrom (step lib policy) {} (before ++ [act])).service.jobs.get jobId = some job' ∧ job'.state = .canceled
  repeated : ∀ (before : List Action) (pid : Nat), before ++ [.resume pid] <+: acts → ∀ a b jobId answer,
    (runFrom (step lib policy) {} before).tasks[pid]? = some (.create a) →
      .created b (some jobId) answer ∈ (runFrom (step lib policy) {} before).tasks →
        a.request = b.request → a.idempotencyKey = b.idempotencyKey →
          (runFrom (step lib policy) {} (before ++ [.resume pid])).tasks[pid]? = some (.created a none (.ok (jobId, true)))

section Outcomes

variable (lib : Library) (w : World) (act : Action)

/-- The run of a cancelled job ends as if it were not. -/
def World.Overwrites : Prop :=
  ∃ jobId job, w.service.jobs.get jobId = some job ∧ job.state = .canceled ∧ w.Returns lib jobId act

/-- An exception leaves the run of a job that is not cancelled. -/
def World.Escapes : Prop :=
  ∃ jobId job, w.service.jobs.get jobId = some job ∧ job.state = .running ∧ w.Raises lib jobId act

end Outcomes

/-! ## What a run keeps -/

/-- The first identifiers that are drawn are different. -/
def Library.Fresh (lib : Library) (n : Nat) : Prop := ∀ i < n, ∀ j < n, lib.uuid4 i = lib.uuid4 j → i = j

structure Inv (lib : Library) (w : World) : Prop where
  drawn : ∀ jobId job, w.service.jobs.get jobId = some job → ∃ n < w.service.drawn, jobId = "LVJ-" ++ lib.uuid4 n
  counted : ∀ jobId job, w.service.jobs.get jobId = some job → job.Counted
  stored : ∀ pid a jobId b, w.job pid = some (a, jobId, b) → ∃ job, w.service.jobs.get jobId = some job
  running : ∀ pid a jobId, w.job pid = some (a, jobId, true) → ∀ job, w.service.jobs.get jobId = some job →
    job.state = .running ∨ job.state = .canceled
  entered : ∀ pid a jobId b, w.job pid = some (a, jobId, b) → ∃ entry, w.service.jobEntries.get a.scope = some entry ∧
    entry.payloadHash = a.payloadHash lib ∧ entry.result = jobId
  alone : ∀ pid pid' a a' jobId b b', w.job pid = some (a, jobId, b) → w.job pid' = some (a', jobId, b') → pid = pid'

variable {pid : Nat} {a : CreateJob}

section Invariant

variable {lib : Library} {policy : MatchPolicy} {w w' : World} {act : Action} {jobId : String}
  {f : VerificationJob → VerificationJob}

theorem Inv.length (h : Inv lib w) (pid : Nat) (a : CreateJob) (jobId : String) (b : Bool)
    (hpid : w.job pid = some (a, jobId, b)) : jobId.length = 36 := by
  obtain ⟨job, hjob⟩ := h.stored pid a jobId b hpid
  obtain ⟨n, -, rfl⟩ := h.drawn jobId job hjob
  rw [String.length_append, lib.uuid4_length]
  rfl

variable {key : String} {s : Service}

theorem of_update {job' : VerificationJob} (h : (s.update jobId f).jobs.get key = some job') :
    ∃ job, s.jobs.get key = some job ∧ (key = jobId ∧ job' = f job ∨ key ≠ jobId ∧ job' = job) := by
  rw [get_update] at h
  by_cases hkey : key = jobId
  · subst hkey
    rw [if_pos rfl] at h
    obtain ⟨job, hjob, rfl⟩ := Option.map_eq_some_iff.1 h
    exact ⟨job, hjob, .inl ⟨rfl, rfl⟩⟩
  · rw [if_neg hkey] at h
    exact ⟨job', h, .inr ⟨hkey, rfl⟩⟩

theorem Inv.update (h : Inv lib w) (hjobs : w'.service.jobs = (w.service.update jobId f).jobs)
    (hentries : w'.service.jobEntries = w.service.jobEntries) (hdrawn : w.service.drawn ≤ w'.service.drawn)
    (hcounted : ∀ job, job.Counted → (f job).Counted)
    (hjob : ∀ pid a key b, w'.job pid = some (a, key, b) → ∃ b', w.job pid = some (a, key, b') ∧ (b = true → b' = true))
    (hstate : ∀ pid a, w'.job pid = some (a, jobId, true) → ∀ job, job.state = .running ∨ job.state = .canceled →
      (f job).state = .running ∨ (f job).state = .canceled) : Inv lib w' := by
  constructor
  · intro key job hget
    rw [hjobs] at hget
    obtain ⟨job, hget, -⟩ := of_update hget
    obtain ⟨n, hn, hkey⟩ := h.drawn key job hget
    exact ⟨n, hn.trans_le hdrawn, hkey⟩
  · intro key job' hget
    rw [hjobs] at hget
    obtain ⟨job, hold, ⟨-, rfl⟩ | ⟨-, rfl⟩⟩ := of_update hget
    · exact hcounted job (h.counted key job hold)
    · exact h.counted key job' hold
  · intro pid a key b hpid
    obtain ⟨b', hpid, -⟩ := hjob pid a key b hpid
    obtain ⟨job, hget⟩ := h.stored pid a key b' hpid
    rw [hjobs, get_update]
    split
    · rename_i hkey
      rw [← hkey, hget]
      exact ⟨_, rfl⟩
    · exact ⟨job, hget⟩
  · intro pid a key hpid job' hget
    obtain ⟨b', hpid', hb⟩ := hjob pid a key true hpid
    rw [hb rfl] at hpid'
    rw [hjobs] at hget
    obtain ⟨job, hold, ⟨rfl, rfl⟩ | ⟨-, rfl⟩⟩ := of_update hget
    · exact hstate pid a hpid job (h.running pid a key hpid' job hold)
    · exact h.running pid a key hpid' job' hold
  · intro pid a key b hpid
    obtain ⟨b', hpid, -⟩ := hjob pid a key b hpid
    rw [hentries]
    exact h.entered pid a key b' hpid
  · intro pid pid' a a' key b b' hpid hpid'
    obtain ⟨c, hpid, -⟩ := hjob pid a key b hpid
    obtain ⟨c', hpid', -⟩ := hjob pid' a' key b' hpid'
    exact h.alone pid pid' a a' key c c' hpid hpid'

theorem job_ended (hpid : w.job pid = some (a, jobId, true))
    (hjob : w'.job = Function.update w.job pid (some (a, jobId, false))) (p : Nat) (a' : CreateJob) (key : String) (b : Bool)
    (h : w'.job p = some (a', key, b)) : ∃ b', w.job p = some (a', key, b') ∧ (b = true → b' = true) := by
  rw [hjob] at h
  by_cases hp : p = pid
  · subst hp
    rw [Function.update_self] at h
    cases h
    exact ⟨true, hpid, nofun⟩
  · rw [Function.update_of_ne hp] at h
    exact ⟨b, h, id⟩

theorem Inv.ended (h : Inv lib w) (hpid : w.job pid = some (a, jobId, true))
    (hjob : w'.job = Function.update w.job pid (some (a, jobId, false))) (p : Nat) (a' : CreateJob) :
    w'.job p ≠ some (a', jobId, true) := by
  intro hp
  obtain ⟨b, hp', -⟩ := job_ended hpid hjob p a' jobId true hp
  have hsame := h.alone p pid a' a jobId b true hp' hpid
  rw [hjob, hsame, Function.update_self] at hp
  cases hp

theorem Inv.unknown (h : Inv lib w) (hfresh : lib.Fresh (w.service.drawn + 1)) :
    w.service.jobs.get ("LVJ-" ++ lib.uuid4 w.service.drawn) = none := by
  rcases hget : w.service.jobs.get ("LVJ-" ++ lib.uuid4 w.service.drawn) with _ | job
  · rfl
  · obtain ⟨n, hn, heq⟩ := h.drawn _ job hget
    have hsame : lib.uuid4 w.service.drawn = lib.uuid4 n := (String.append_right_inj _).1 heq
    have := hfresh w.service.drawn (by omega) n (by omega) hsame
    omega

variable {job : VerificationJob}

theorem Inv.create (h : Inv lib w) (hfresh : lib.Fresh w'.service.drawn)
    (hnew : w.service.jobEntries.get a.scope = none) (hdrawn : w'.service.drawn = w.service.drawn + 1)
    {entry : IdempotencyEntry String} (hstate : job.state = .running) (hcounted : job.Counted)
    (hentry : entry.payloadHash = a.payloadHash lib ∧ entry.result = "LVJ-" ++ lib.uuid4 w.service.drawn)
    (hjobs : w'.service.jobs = w.service.jobs.set ("LVJ-" ++ lib.uuid4 w.service.drawn) job)
    (hentries : w'.service.jobEntries = w.service.jobEntries.set a.scope entry)
    (hjob : w'.job = Function.update w.job pid (some (a, "LVJ-" ++ lib.uuid4 w.service.drawn, true))) : Inv lib w' := by
  have hunknown := h.unknown (hdrawn ▸ hfresh)
  -- The job of another task is another one.
  have hother : ∀ p a' key b, w.job p = some (a', key, b) → key ≠ "LVJ-" ++ lib.uuid4 w.service.drawn := by
    rintro p a' key b hp rfl
    obtain ⟨job', hjob'⟩ := h.stored p a' _ b hp
    rw [hunknown] at hjob'
    cases hjob'
  constructor
  · intro key job' hget
    rw [hjobs, OrderedDict.get_set] at hget
    split at hget
    · rename_i hkey
      exact ⟨w.service.drawn, by omega, hkey⟩
    · obtain ⟨n, hn, hkey⟩ := h.drawn key job' hget
      exact ⟨n, by omega, hkey⟩
  · intro key job' hget
    rw [hjobs, OrderedDict.get_set] at hget
    split at hget
    · rw [← Option.some.inj hget]
      exact hcounted
    · exact h.counted key job' hget
  · intro p a' key b hp
    rw [hjobs, OrderedDict.get_set]
    split
    · exact ⟨job, rfl⟩
    · rename_i hkey
      rw [hjob] at hp
      by_cases hpid : p = pid
      · rw [hpid, Function.update_self] at hp
        cases hp
        exact absurd rfl hkey
      · rw [Function.update_of_ne hpid] at hp
        exact h.stored p a' key b hp
  · intro p a' key hp job' hget
    rw [hjobs, OrderedDict.get_set] at hget
    split at hget
    · rw [← Option.some.inj hget]
      exact .inl hstate
    · rename_i hkey
      rw [hjob] at hp
      by_cases hpid : p = pid
      · rw [hpid, Function.update_self] at hp
        cases hp
        exact absurd rfl hkey
      · rw [Function.update_of_ne hpid] at hp
        exact h.running p a' key hp job' hget
  · intro p a' key b hp
    rw [hjob] at hp
    rw [hentries, OrderedDict.get_set]
    by_cases hpid : p = pid
    · rw [hpid, Function.update_self] at hp
      cases hp
      rw [if_pos rfl]
      exact ⟨entry, rfl, hentry⟩
    · rw [Function.update_of_ne hpid] at hp
      obtain ⟨entry', hentry', hrest⟩ := h.entered p a' key b hp
      have hscope : a'.scope ≠ a.scope := by
        intro hscope
        rw [hscope, hnew] at hentry'
        cases hentry'
      rw [if_neg hscope]
      exact ⟨entry', hentry', hrest⟩
  · intro p p' a' a'' key b b' hp hp'
    rw [hjob] at hp hp'
    by_cases hpid : p = pid
    · by_cases hpid' : p' = pid
      · rw [hpid, hpid']
      · rw [hpid, Function.update_self] at hp
        rw [Function.update_of_ne hpid'] at hp'
        cases hp
        exact absurd rfl (hother p' a'' _ b' hp')
    · rw [Function.update_of_ne hpid] at hp
      by_cases hpid' : p' = pid
      · rw [hpid', Function.update_self] at hp'
        cases hp'
        exact absurd rfl (hother p a' _ b hp)
      · rw [Function.update_of_ne hpid'] at hp'
        exact h.alone p p' a' a'' key b b' hp hp'

theorem Effect.inv (heffect : Effect lib w act w') (hfresh : lib.Fresh w'.service.drawn) (h : Inv lib w) : Inv lib w' := by
  cases heffect with
  | quiet hjobs hentries hdrawn hjob =>
    have hsame : w'.service.jobs = (w.service.update "" id).jobs := hjobs.trans update_id.symm
    refine h.update hsame hentries hdrawn (fun _ hc => hc) ?_ ?_
    · intro pid a key b hpid
      rw [hjob] at hpid
      exact ⟨b, hpid, id⟩
    · exact fun _ _ _ _ hstate => hstate
  | cancel jobId job hget hstate hjobs hentries hdrawn hjob =>
    refine h.update hjobs hentries hdrawn (fun _ hc => hc) ?_ ?_
    · intro pid a key b hpid
      rw [hjob] at hpid
      exact ⟨b, hpid, id⟩
    · exact fun _ _ _ _ _ => .inr rfl
  | create pid a hpid hnew hdrawn hjobs hentries hjob =>
    refine h.create hfresh hnew hdrawn ?_ ?_ ⟨rfl, rfl⟩ hjobs hentries hjob
    · rfl
    · rfl
  | write pid a jobId f hf hpid hjobs hentries hdrawn hjob =>
    refine h.update hjobs hentries hdrawn hf.counted ?_ ?_
    · intro p a' key b hp
      rw [hjob] at hp
      exact ⟨b, hp, id⟩
    · intro _ _ _ job hstate
      rw [hf.state]
      exact hstate
  | finish pid a jobId f hf hpid hreturns hjobs hentries hdrawn hjob =>
    exact h.update hjobs hentries hdrawn hf.counted (job_ended hpid hjob) fun p a' hp => absurd hp (h.ended hpid hjob p a')
  | raise pid a jobId f hf hpid hraises hjobs hentries hdrawn hjob =>
    exact h.update hjobs hentries hdrawn hf.counted (job_ended hpid hjob) fun p a' hp => absurd hp (h.ended hpid hjob p a')

/-- The tasks that are over have jobs that are. -/
def Settled (w : World) : Prop :=
  ∀ pid a jobId, w.job pid = some (a, jobId, false) → ∃ job, w.service.jobs.get jobId = some job ∧ job.Over

theorem Inv.other (h : Inv lib w) {p : Nat} {a' : CreateJob} {b b' : Bool}
    (hpid : w.job pid = some (a, jobId, b)) (hp : w.job p = some (a', key, b')) (hne : p ≠ pid) : key ≠ jobId := by
  rintro rfl
  exact hne (h.alone p pid a' a key b' b hp hpid)

theorem get_other (hne : key ≠ jobId) : (s.update jobId f).jobs.get key = s.jobs.get key := by
  rw [get_update, if_neg hne]

theorem Effect.settled (heffect : Effect lib w act w') (hfresh : lib.Fresh w'.service.drawn) (h : Inv lib w) (hsettled : Settled w)
    (hescapes : ¬ w.Escapes lib act) : Settled w' := by
  intro p a' key hp
  cases heffect with
  | quiet hjobs hentries hdrawn hjob =>
    rw [hjob] at hp
    rw [hjobs]
    exact hsettled p a' key hp
  | cancel jobId job hget hstate hjobs hentries hdrawn hjob =>
    rw [hjob] at hp
    obtain ⟨job', hget', hover⟩ := hsettled p a' key hp
    rw [hjobs, get_update]
    split
    · rw [hget]
      exact ⟨_, rfl, by rintro ⟨⟩, by rintro ⟨⟩⟩
    · exact ⟨job', hget', hover⟩
  | create pid a hpid hnew hdrawn hjobs hentries hjob =>
    rw [hjob] at hp
    by_cases hne : p = pid
    · rw [hne, Function.update_self] at hp
      cases hp
    · rw [Function.update_of_ne hne] at hp
      obtain ⟨job', hget', hover⟩ := hsettled p a' key hp
      have hkey : key ≠ "LVJ-" ++ lib.uuid4 w.service.drawn := by
        rintro rfl
        rw [h.unknown (hdrawn ▸ hfresh)] at hget'
        cases hget'
      rw [hjobs, OrderedDict.get_set_ne hkey]
      exact ⟨job', hget', hover⟩
  | write pid a jobId f hf hpid hjobs hentries hdrawn hjob =>
    rw [hjob] at hp
    have hne : p ≠ pid := by
      rintro rfl
      rw [hpid] at hp
      cases hp
    rw [hjobs, get_other (h.other hpid hp hne)]
    exact hsettled p a' key hp
  | finish pid a jobId f hf hpid hreturns hjobs hentries hdrawn hjob =>
    rw [hjob] at hp
    by_cases hne : p = pid
    · rw [hne, Function.update_self] at hp
      cases hp
      obtain ⟨job, hget⟩ := h.stored pid _ _ true hpid
      rw [hjobs, get_update, if_pos rfl, hget]
      refine ⟨f job, rfl, ?_⟩
      unfold VerificationJob.Over
      rcases hf.state job with hstate | hstate
      · rw [hstate]
        exact ⟨by decide, by decide⟩
      · rw [hstate]
        exact ⟨by decide, by decide⟩
    · rw [Function.update_of_ne hne] at hp
      rw [hjobs, get_other (h.other hpid hp hne)]
      exact hsettled p a' key hp
  | raise pid a jobId f hf hpid hraises hjobs hentries hdrawn hjob =>
    rw [hjob] at hp
    by_cases hne : p = pid
    · rw [hne, Function.update_self] at hp
      cases hp
      obtain ⟨job, hget⟩ := h.stored pid _ _ true hpid
      rw [hjobs, get_update, if_pos rfl, hget]
      refine ⟨f job, rfl, ?_⟩
      unfold VerificationJob.Over
      -- The job was cancelled, or the exception escapes.
      rcases h.running pid _ _ hpid job hget with hstate | hstate
      · exact absurd ⟨_, job, hget, hstate, hraises (h.length pid _ _ true hpid)⟩ hescapes
      · rw [hf.state, hstate]
        exact ⟨by decide, by decide⟩
    · rw [Function.update_of_ne hne] at hp
      rw [hjobs, get_other (h.other hpid hp hne)]
      exact hsettled p a' key hp

theorem canceled_update (hget : s.jobs.get key = some job)
    (hstate : job.state = .canceled) (hf : key = jobId → (f job).state = .canceled) :
    ∃ job', (s.update jobId f).jobs.get key = some job' ∧ job'.state = .canceled := by
  rw [get_update]
  split
  · rename_i hkey
    rw [← hkey, hget]
    exact ⟨f job, rfl, hf hkey⟩
  · exact ⟨job, hget, hstate⟩

theorem Effect.absorbing (heffect : Effect lib w act w') (hfresh : lib.Fresh w'.service.drawn) (h : Inv lib w)
    (hoverwrites : ¬ w.Overwrites lib act) (hget : w.service.jobs.get key = some job)
    (hstate : job.state = .canceled) : ∃ job', w'.service.jobs.get key = some job' ∧ job'.state = .canceled := by
  cases heffect with
  | quiet hjobs hentries hdrawn hjob =>
    rw [hjobs]
    exact ⟨job, hget, hstate⟩
  | cancel jobId job' hget' hstate' hjobs hentries hdrawn hjob =>
    rw [hjobs]
    exact canceled_update hget hstate fun _ => rfl
  | create pid a hpid hnew hdrawn hjobs hentries hjob =>
    have hkey : key ≠ "LVJ-" ++ lib.uuid4 w.service.drawn := by
      rintro rfl
      rw [h.unknown (hdrawn ▸ hfresh)] at hget
      cases hget
    rw [hjobs, OrderedDict.get_set_ne hkey]
    exact ⟨job, hget, hstate⟩
  | write pid a jobId f hf hpid hjobs hentries hdrawn hjob =>
    rw [hjobs]
    exact canceled_update hget hstate fun _ => (hf.state job).trans hstate
  | finish pid a jobId f hf hpid hreturns hjobs hentries hdrawn hjob =>
    rw [hjobs]
    refine canceled_update hget hstate ?_
    rintro rfl
    exact absurd ⟨key, job, hget, hstate, hreturns⟩ hoverwrites
  | raise pid a jobId f hf hpid hraises hjobs hentries hdrawn hjob =>
    rw [hjobs]
    exact canceled_update hget hstate fun _ => (hf.state job).trans hstate

theorem Effect.drawn (heffect : Effect lib w act w') : w.service.drawn ≤ w'.service.drawn := by
  cases heffect with
  | quiet hjobs hentries hdrawn hjob => exact hdrawn
  | cancel jobId job hget hstate hjobs hentries hdrawn hjob => exact hdrawn
  | create pid a hpid hnew hdrawn hjobs hentries hjob => omega
  | write pid a jobId f hf hpid hjobs hentries hdrawn hjob => exact hdrawn
  | finish pid a jobId f hf hpid hreturns hjobs hentries hdrawn hjob => exact hdrawn
  | raise pid a jobId f hf hpid hraises hjobs hentries hdrawn hjob => exact hdrawn

theorem Inv.unlocked (h : Inv lib w) {b : CreateJob} (hpid : w.job pid = some (b, jobId, false)) :
    w.locked (.createJob, b.scope) = false := by
  refine List.any_eq_false.2 ?_
  intro task htask hlock
  rw [decide_eq_true_eq] at hlock
  obtain ⟨p, hp⟩ := List.mem_iff_getElem?.1 htask
  -- Who has the lock has a job under the same entry, so it is the call itself, which is over.
  have habsurd : ∀ c key, task.job = some (c, key, true) → c.scope = b.scope → False := by
    intro c key hjob hscope
    obtain ⟨entry, hentry, -, hresult⟩ := h.entered p c key true ((job_of hp).trans hjob)
    obtain ⟨entry', hentry', -, hresult'⟩ := h.entered pid b jobId false hpid
    rw [hscope, hentry'] at hentry
    cases hentry
    rw [hresult'] at hresult
    subst hresult
    have hsame := h.alone p pid c b jobId true false ((job_of hp).trans hjob) hpid
    rw [hsame] at hp
    rw [job_of hp, hjob] at hpid
    cases hpid
  cases task with
  | resolve a phase =>
    cases phase with
    | entering => exact absurd hlock List.not_mem_nil
    | looking candidateId =>
      cases List.mem_singleton.1 hlock
  | resolved a answer => exact absurd hlock List.not_mem_nil
  | create a => exact absurd hlock List.not_mem_nil
  | reading a key => exact habsurd a key rfl (congrArg Prod.snd (List.mem_singleton.1 hlock)).symm
  | running a key candidate phase rest =>
    cases phase with
    | entering => exact habsurd a key rfl (congrArg Prod.snd (List.mem_singleton.1 hlock)).symm
    | looking candidateId =>
      rcases List.mem_cons.1 hlock with hlock | hlock
      · exact habsurd a key rfl (congrArg Prod.snd hlock).symm
      · cases List.mem_singleton.1 hlock
  | created a stored answer => exact absurd hlock List.not_mem_nil

end Invariant

/-! ## Runs -/

section Runs

variable {lib : Library} {policy : MatchPolicy} {w : World} {acts : List Action}

theorem Library.Fresh.mono {m n : Nat} (h : lib.Fresh n) (hle : m ≤ n) : lib.Fresh m := by
  intro i hi j hj
  exact h i (hi.trans_le hle) j (hj.trans_le hle)

theorem Inv.start : Inv lib {} := by
  constructor
  · intro jobId job hget
    cases hget
  · intro jobId job hget
    cases hget
  · intro pid a jobId b hpid
    cases hpid
  · intro pid a jobId hpid
    cases hpid
  · intro pid a jobId b hpid
    cases hpid
  · intro pid pid' a a' jobId b b' hpid
    cases hpid

theorem run_inv (hfresh : lib.Fresh (runFrom (step lib policy) {} acts).service.drawn) :
    Inv lib (runFrom (step lib policy) {} acts) := by
  induction acts using List.reverseRecOn with
  | nil => exact .start
  | append_singleton before act ih =>
    rw [runFrom_concat] at hfresh ⊢
    have heffect : Effect lib (runFrom (step lib policy) {} before) act _ := step_effect policy act
    exact heffect.inv hfresh (ih (hfresh.mono heffect.drawn))

theorem run_drawn {before : List Action} (hbefore : before <+: acts) :
    (runFrom (step lib policy) {} before).service.drawn ≤ (runFrom (step lib policy) {} acts).service.drawn := by
  obtain ⟨after, rfl⟩ := hbefore
  induction after using List.reverseRecOn with
  | nil => rw [List.append_nil]
  | append_singleton after act ih =>
    rw [← List.append_assoc, runFrom_concat]
    exact ih.trans (step_effect policy act).drawn

theorem run_settled (hfresh : lib.Fresh (runFrom (step lib policy) {} acts).service.drawn)
    (h : Always (step lib policy) (fun w act => ¬ w.Overwrites lib act ∧ ¬ w.Escapes lib act) {} acts) :
    Settled (runFrom (step lib policy) {} acts) := by
  induction acts using List.reverseRecOn with
  | nil =>
    intro pid a jobId hpid
    cases hpid
  | append_singleton before act ih =>
    obtain ⟨hbefore, -, hescapes⟩ := always_concat.1 h
    have hearlier := hfresh.mono (run_drawn (List.prefix_append before [act]))
    rw [runFrom_concat] at hfresh ⊢
    exact (step_effect policy act).settled hfresh (run_inv hearlier) (ih hearlier hbefore) hescapes

theorem Inv.repeated (h : Inv lib w) {b : CreateJob} {jobId : String} {answer : Except Exc (String × Bool)}
    (htask : w.tasks[pid]? = some (.create a)) (hover : .created b (some jobId) answer ∈ w.tasks)
    (hrequest : a.request = b.request) (hkey : a.idempotencyKey = b.idempotencyKey) :
    (w.resume lib pid).tasks[pid]? = some (.created a none (.ok (jobId, true))) := by
  obtain ⟨p, hp⟩ := List.mem_iff_getElem?.1 hover
  have hscope : a.scope = b.scope := by
    unfold CreateJob.scope
    rw [hrequest, hkey]
  have hhash : a.payloadHash lib = b.payloadHash lib := by
    unfold CreateJob.payloadHash
    rw [hrequest]
  obtain ⟨entry, hentry, hpayload, hresult⟩ := h.entered p b jobId false (job_of hp)
  obtain ⟨job, hjob⟩ := h.stored p b jobId false (job_of hp)
  have henter : a.enter lib w.service = (.inl (.ok (jobId, true)), w.service) := by
    unfold CreateJob.enter
    rw [hscope, hentry]
    dsimp only
    rw [hpayload, hhash, if_neg (not_not.2 rfl), hresult, hjob]
  unfold World.resume
  rw [htask]
  dsimp only
  rw [hscope, h.unlocked (job_of hp), if_neg Bool.false_ne_true, henter]
  show (w.tasks.set pid _)[pid]? = _
  rw [List.getElem?_set_self (List.getElem?_eq_some_iff.1 htask).1]

/-- With different identifiers, the jobs of a run end as they should exactly if no cancellation is overwritten and no exception
escapes from a job that runs. -/
theorem jobs_end_iff (lib : Library) (policy : MatchPolicy) (acts : List Action)
    (hfresh : lib.Fresh (runFrom (step lib policy) {} acts).service.drawn) :
    Ends lib policy acts ↔
      Always (step lib policy) (fun w act => ¬ w.Overwrites lib act ∧ ¬ w.Escapes lib act) {} acts := by
  constructor
  · intro h
    refine always_iff.2 ?_
    rintro before act after rfl
    have hwithin : before ++ [act] <+: before ++ act :: after := ⟨after, by rw [List.append_assoc]; rfl⟩
    constructor
    · rintro ⟨jobId, job, hget, hstate, hreturns⟩
      obtain ⟨job', hget', hcanceled⟩ := h.absorbing before act hwithin jobId job hget hstate
      obtain ⟨job'', hget'', hover⟩ := step_returns policy hreturns hget
      rw [runFrom_concat, hget''] at hget'
      cases hget'
      rw [hcanceled] at hover
      rcases hover with hover | hover
      · cases hover
      · cases hover
    · rintro ⟨jobId, job, hget, hstate, hraises⟩
      obtain ⟨hjobs, a, answer, htask⟩ := step_raises policy hraises
      have hrun : runFrom (step lib policy) {} (before ++ [act]) = step lib policy act (runFrom (step lib policy) {} before) :=
        runFrom_concat
      rw [← hrun] at hjobs htask
      obtain ⟨job', hget', ⟨-, hrunning⟩, -⟩ := h.ended _ hwithin a jobId answer htask
      rw [hjobs, hget] at hget'
      cases hget'
      exact hrunning hstate
  · intro h
    constructor
    · intro before hbefore a jobId answer htask
      have hearlier := hfresh.mono (run_drawn hbefore)
      obtain ⟨pid, hpid⟩ := List.mem_iff_getElem?.1 htask
      obtain ⟨job, hget, hover⟩ := run_settled hearlier (h.take hbefore) pid a jobId (job_of hpid)
      exact ⟨job, hget, hover, (run_inv hearlier).counted jobId job hget⟩
    · intro before act hwithin jobId job hget hstate
      obtain ⟨-, hoverwrites, -⟩ := always_concat.1 (h.take hwithin)
      have hlater := hfresh.mono (run_drawn hwithin)
      have hearlier := hlater.mono (run_drawn (List.prefix_append before [act]))
      rw [runFrom_concat] at hlater ⊢
      exact (step_effect policy act).absorbing hlater (run_inv hearlier) hoverwrites hget hstate
    · intro before pid hwithin a b jobId answer htask hover hrequest hkey
      have hlater := hfresh.mono (run_drawn hwithin)
      have hearlier := hlater.mono (run_drawn (List.prefix_append before [.resume pid]))
      rw [runFrom_concat]
      exact (run_inv hearlier).repeated htask hover hrequest hkey

end Runs

/-! ## A cancellation that is overwritten -/

def sampleLibrary : Library where
  nfkc := id
  casefold := id
  lower := id
  isWord _ := true
  hostname host := .ok host
  idna host := some host
  phonenumbers _ _ := none
  similarity a b := if a = b then 100 else 0
  similarity_self _ := if_pos rfl
  jsonTime _ := "2026-01-01T00:00:00Z"
  uuid4 _ := "7d1f0c52b6a84e0f9c3b5d2e8a61f470"
  uuid4_length _ := rfl

def sampleJob : CreateJob where
  request := { tenantId := "tenant-a", batchSize := 100 }
  idempotencyKey := "verify-tenant-a-1"
  correlationId := "corr-1"

/-- The job is cancelled while its page is read, and there is no candidate on the page. -/
def sampleRun : List Action :=
  [.createJob sampleJob, .resume 0, .cancelJob "LVJ-7d1f0c52b6a84e0f9c3b5d2e8a61f470" "tenant-a", .page 0 (.ok [])]

theorem canceled_reported_completed : ¬ Ends sampleLibrary {} sampleRun := by
  intro h
  obtain ⟨job, hget, hstate⟩ := h.absorbing
    [.createJob sampleJob, .resume 0, .cancelJob "LVJ-7d1f0c52b6a84e0f9c3b5d2e8a61f470" "tenant-a"] (.page 0 (.ok []))
    (List.prefix_refl _) "LVJ-7d1f0c52b6a84e0f9c3b5d2e8a61f470" _ rfl rfl
  cases hget
  cases hstate

theorem jobs_end_sample : Ends sampleLibrary {} sampleRun ↔
    Always (step sampleLibrary {}) (fun w act => ¬ w.Overwrites sampleLibrary act ∧ ¬ w.Escapes sampleLibrary act) {}
      sampleRun := by
  refine jobs_end_iff sampleLibrary {} sampleRun ?_
  have hdrawn : (runFrom (step sampleLibrary {}) {} sampleRun).service.drawn = 1 := rfl
  intro i hi j hj _
  omega

end Middleware.Sales

/-
What every run of the automation store keeps, as long as no job without an attempt left is replayed.
-/
import Middleware.Automation.Leases

namespace Middleware.Automation

open Lib

/-- The key of the job, the request, the client and the clock of an operation that needs the lease. -/
def Call.presents : Call → Option (Key × HeartbeatRequest × String × Time)
  | .heartbeat jobId body clientId checked _ => some ((body.tenantId, jobId), body, clientId, checked)
  | .recordStep jobId body clientId checked _ => some ((body.tenantId, jobId), body.toHeartbeatRequest, clientId, checked)
  | .complete jobId body clientId checked _ => some ((body.tenantId, jobId), body.toHeartbeatRequest, clientId, checked)
  | .fail jobId body clientId _ checked _ => some ((body.tenantId, jobId), body.toHeartbeatRequest, clientId, checked)
  | .enqueueEvent .. | .claim .. | .getJob .. | .requestApproval .. | .getApproval .. | .approveForTest ..
  | .replayDeadLetter .. | .reconcile .. => none

/-- What a run of the store should keep. -/
structure LeaseSafe (lib : Library) (calls : List Call) : Prop where
  tokens : ∀ (before : List Call) body clientId now (mid : List Call) body' clientId' now' (rest : List Call) response response',
    calls = before ++ Call.claim body clientId now :: mid ++ Call.claim body' clientId' now' :: rest →
    (perform lib (.claim body clientId now) (after lib before)).1 = .ok response →
    (perform lib (.claim body' clientId' now') (after lib (before ++ Call.claim body clientId now :: mid))).1 = .ok response' →
    body.deliveryToken = body'.deliveryToken →
    (body'.tenantId, body'.jobId) = (body.tenantId, body.jobId) ∧ body'.executionId = body.executionId ∧ clientId' = clientId
  holders : ∀ (before : List Call) c (rest : List Call) key job job' presented body clientId checked,
    calls = before ++ c :: rest →
    c.presents = some (presented, body, clientId, checked) → (after lib before).jobs.get key = some job →
    (after lib (before ++ [c])).jobs.get key = some job' → job' ≠ job →
    key = presented ∧ job.held body clientId checked = true
  absorbing : ∀ (before : List Call) c (rest : List Call) key job,
    calls = before ++ c :: rest → (after lib before).jobs.get key = some job →
    job.state = .completed ∨ job.state = .failedTerminal →
    ∃ job', (after lib (before ++ [c])).jobs.get key = some job' ∧ job'.state = job.state
  deadLetters : ∀ (before : List Call) c (rest : List Call) key job,
    calls = before ++ c :: rest → (after lib before).jobs.get key = some job →
    job.state = .deadLetter → ∃ job', (after lib (before ++ [c])).jobs.get key = some job' ∧ (job'.state = .deadLetter ∨
      ∃ deadLetterId body clientId deliveryToken checked now,
        c = .replayDeadLetter deadLetterId body clientId deliveryToken checked now)
  attempts : ∀ before, before <+: calls → ∀ key job, (after lib before).jobs.get key = some job →
    job.attemptCount ≤ job.maxAttempts
  refused : ∀ (before : List Call) c (rest : List Call) e,
    calls = before ++ c :: rest → (perform lib c (after lib before)).1 = .error e →
    call lib c (after lib before) = after lib before

section Safety

variable {lib : Library} {calls before mid rest : List Call} {c : Call} {key : Key} {job job' : Job}

theorem tokens_once {body body' : JobClaimRequest} {clientId clientId' : String} {now now' : Time} {response response' : Reply}
    (hfresh : Fresh (before ++ Call.claim body clientId now :: mid))
    (h : (perform lib (.claim body clientId now) (after lib before)).1 = .ok response)
    (h' : (perform lib (.claim body' clientId' now') (after lib (before ++ Call.claim body clientId now :: mid))).1 = .ok response')
    (htoken : body.deliveryToken = body'.deliveryToken) : (body'.tenantId, body'.jobId) = (body.tenantId, body.jobId) ∧
      body'.executionId = body.executionId ∧ clientId' = clientId := by
  have hgranted : Granted lib (before ++ Call.claim body clientId now :: mid) body.deliveryToken (body.tenantId, body.jobId)
      body.executionId clientId := ⟨before, body, now, mid, response, rfl, h, rfl, rfl, rfl⟩
  obtain ⟨job, hget, hsigned, hsame, -⟩ := claim_answered (standing lib hfresh).dispatched h'
  rw [← htoken] at hsigned
  obtain ⟨hkey, hused, hexecution, hclient⟩ := (granted_lease hfresh hgranted).2 _ job hget hsigned
  obtain ⟨hexecution', hclient'⟩ := hsame hused
  rw [hexecution] at hexecution'
  rw [hclient] at hclient'
  exact ⟨hkey, (Option.some.inj hexecution').symm, (Option.some.inj hclient').symm⟩

/-- An operation that needs the lease changes the job whose lease it presents. -/
theorem Turns.holder {s : Store} (h : Turns lib s c key job job') {presented : Key} {body : HeartbeatRequest} {clientId : String}
    {checked : Time} (hpresents : c.presents = some (presented, body, clientId, checked)) :
    key = presented ∧ job.held body clientId checked = true := by
  cases h with
  | buried jobId body clientId deliveryToken checked now job held =>
    cases hpresents
    exact ⟨rfl, held⟩
  | replayed => cases hpresents
  | moved c key job job' moves =>
    cases moves with
    | claimed => cases hpresents
    | awaited => cases hpresents
    | beaten jobId body clientId checked now job held =>
      cases hpresents
      exact ⟨rfl, held⟩
    | stepped jobId body clientId checked now job held =>
      cases hpresents
      exact ⟨rfl, held⟩
    | completed jobId body clientId checked now job held =>
      cases hpresents
      exact ⟨rfl, held⟩
    | retried jobId body clientId deliveryToken checked now job held =>
      cases hpresents
      exact ⟨rfl, held⟩
    | failed jobId body clientId deliveryToken checked now job held =>
      cases hpresents
      exact ⟨rfl, held⟩

/-- A refused call changes nothing: a job has its dispatch. -/
theorem refused_unchanged (hfresh : Fresh calls) {e : Error} (h : (perform lib c (after lib calls)).1 = .error e) :
    call lib c (after lib calls) = after lib calls := by
  have hdispatched := (standing lib hfresh).dispatched
  unfold call
  have hperforms := perform_performs lib c (after lib calls)
  generalize perform lib c (after lib calls) = x at hperforms h ⊢
  cases hperforms with
  | refused => rfl
  | broken body clientId now s' job found missing =>
    have hsome := hdispatched _ job found
    rw [missing] at hsome
    cases hsome
  | answered => cases h
  | repeated => cases h
  | enqueued => cases h
  | moved => cases h
  | buried => cases h
  | replayed => cases h

theorem Fresh.take (h : Fresh calls) (hb : before <+: calls) : Fresh before := by
  obtain ⟨more, rfl⟩ := hb
  exact h.left

/-- The attempts stay within the maximum while the replays are of jobs with an attempt left. -/
theorem attempts_bounded (hfresh : Fresh calls) (hspared : Always (call lib) Spared {} calls) : Bounded (after lib calls) := by
  induction calls using List.reverseRecOn with
  | nil =>
    intro key job h
    cases h
  | append_singleton calls c ih =>
    obtain ⟨hbefore, hc⟩ := always_concat.1 hspared
    exact bounded_step hfresh.left (ih hfresh.left hbefore) hc

/-- The claim that follows a replay takes one attempt more. -/
theorem claimed_replay (hfresh : Fresh (before ++ [c])) {deadLetterId : Uuid} {body : DeadLetterReplayRequest}
    {clientId deliveryToken : String} {checked now : Time} (hc : c = .replayDeadLetter deadLetterId body clientId deliveryToken checked now)
    {dead : DeadLetterRecord} (h : Replayable (after lib before) deadLetterId body clientId checked dead job) (executionId : Uuid)
    (now' : Time) : ∃ leaseTokenSha256, (after lib (before ++ [c, .claim ⟨body.tenantId, dead.jobId, deliveryToken, job.workflowKey,
      job.workflowVersion, executionId⟩ job.expectedClientId now'])).jobs.get (body.tenantId, dead.jobId) =
        some ((job.replayed deliveryToken now).claimed leaseTokenSha256 job.expectedClientId executionId now') := by
  have hget : (after lib (before ++ [c])).jobs.get (body.tenantId, dead.jobId) = some (job.replayed deliveryToken now) := by
    obtain ⟨requestDigest, approval, happroval, hadmits⟩ := h.approved
    have hraw : (after lib before).raw body.tenantId dead.jobId = .ok job := by
      unfold Store.raw
      rw [h.job]
    rw [after_concat, hc]
    unfold call perform Result.as replayDeadLetter
    dsimp only
    rw [if_neg (not_not.2 h.operator), h.found]
    rw [happroval]
    dsimp only
    rw [if_neg (by simp [hadmits]), if_neg (not_not.2 h.version), if_neg (not_not.2 h.fingerprint), if_neg (not_not.2 h.opened),
      hraw]
    exact OrderedDict.get_set_self
  have hstanding := standing lib hfresh
  rw [List.append_cons, after_concat]
  generalize after lib (before ++ [c]) = s at hget hstanding ⊢
  have hraw : s.raw body.tenantId dead.jobId = .ok (job.replayed deliveryToken now) := by
    unfold Store.raw
    rw [hget]
  obtain ⟨dispatch, hdispatch⟩ := Option.isSome_iff_exists.1 (hstanding.dispatched _ _ hget)
  have hput : ∀ new : Job, (s.put (body.tenantId, dead.jobId) new).dispatches = s.dispatches := fun _ => rfl
  refine ⟨tokenDigest (leaseToken lib deliveryToken dead.jobId executionId job.expectedClientId), ?_⟩
  unfold call perform Result.as claim
  dsimp only
  rw [hraw]
  dsimp only
  rw [if_neg (by simp [Job.replayed, Job.reopened]), if_neg (by simp [Job.replayed, Job.reopened]),
    if_neg (by simp [Job.replayed, Job.reopened]), if_neg (by simp [Job.replayed, Job.reopened]),
    if_neg (by simp [Job.replayed]), hput, hdispatch]
  exact OrderedDict.get_set_self

end Safety

/-- A run in which every replay is of a job with an attempt left keeps everything. -/
theorem lease_safe (lib : Library) (calls : List Call) (hfresh : Fresh calls) (hspared : Always (call lib) Spared {} calls) :
    LeaseSafe lib calls := by
  refine ⟨?_, ?_, ?_, ?_, ?_, ?_⟩
  · rintro before body clientId now mid body' clientId' now' rest response response' rfl h h' htoken
    exact tokens_once hfresh.left h h' htoken
  · rintro before c rest key job job' presented body clientId checked rfl hpresents hget hget' hne
    obtain ⟨job'', hget'', rfl | hturns⟩ := job_after hfresh.left c hget
    · rw [hget'] at hget''
      exact absurd (Option.some.inj hget'') hne
    · rw [hget'] at hget''
      cases hget''
      exact hturns.holder hpresents
  · rintro before c rest key job rfl hget hstate
    obtain ⟨job', hget', rfl | hturns⟩ := job_after hfresh.left c hget
    · exact ⟨job', hget', rfl⟩
    · have hsettled : job.state ∈ settledStates := by
        rcases hstate with hs | hs <;> rw [hs] <;> decide
      rcases hturns.settled hsettled with rfl | ⟨deadLetterId, body, clientId, deliveryToken, checked, now, dead, -, -, hreplay⟩
      · exact ⟨job', hget', rfl⟩
      · have hdead := hreplay.dead hfresh.left
        rcases hstate with hs | hs <;> rw [hs] at hdead <;> cases hdead
  · rintro before c rest key job rfl hget hstate
    obtain ⟨job', hget', rfl | hturns⟩ := job_after hfresh.left c hget
    · exact ⟨job', hget', .inl hstate⟩
    · rcases hturns.settled (by rw [hstate]; decide) with rfl |
        ⟨deadLetterId, body, clientId, deliveryToken, checked, now, dead, hc, -, -⟩
      · exact ⟨job', hget', .inl hstate⟩
      · exact ⟨job', hget', .inr ⟨deadLetterId, body, clientId, deliveryToken, checked, now, hc⟩⟩
  · intro before hb key job hget
    exact (attempts_bounded (hfresh.take hb) (hspared.take hb) key job hget).1
  · rintro before c rest e rfl h
    exact refused_unchanged hfresh.left h

/-! ## A job that is replayed -/

def sampleLibrary : Library where
  uuid5 text := text
  mac secret material := secret ++ material
  isoformat _ := "2030-01-01T00:00:00+00:00"

def sampleEnvelope : EventEnvelope where
  tenantId := "a"
  eventId := "e"
  correlationId := "r"
  causationId := "q"
  occurredAt := 0
  payload := []

theorem sample_attempts : 1 ≤ 2 := by decide

def sampleRoute (maxAttempts : Nat) (h : 1 ≤ maxAttempts) : WorkflowRoute := ⟨"w", "f", 1, "n8n", maxAttempts, h⟩

def sampleJob : Uuid := "codestra-automation-job:a:e:w:1"

def sampleClaim (deliveryToken : String) : JobClaimRequest := ⟨"a", sampleJob, deliveryToken, "w", 1, "x"⟩

def sampleFailure : FailureResult where
  tenantId := "a"
  leaseToken := "t1codestra-automation-job:a:e:w:1:x:n8n"
  executionId := "x"
  idempotencyKey := "failure-1"
  errorCode := "LOST"
  retryable := false
  unknownOutcome := true
  safeError := []
  outcome := by decide

def sampleApproval : ApprovalRequest := ⟨"a", sampleJob, "approval-1", "REPLAY", "again", 1000⟩

def sampleReplay : DeadLetterReplayRequest where
  tenantId := "a"
  approvalId := "codestra-approval:a:codestra-automation-job:a:e:w:1:approval-1"
  expectedVersion := 1
  originalEffectFingerprint := digest (.obj [("tenant_id", .str "a"), ("job_id", .str sampleJob), ("workflow_key", .str "w"),
    ("error_code", .str "LOST")])

/-- A job is claimed and fails with an unknown outcome; its dead letter is replayed under an approval. -/
def sampleRun (maxAttempts : Nat) (h : 1 ≤ maxAttempts) : List Call :=
  [.enqueueEvent sampleEnvelope (sampleRoute maxAttempts h) "crm" "t1" 0, .claim (sampleClaim "t1") "n8n" 1,
    .fail sampleJob sampleFailure "n8n" "t2" 2 2, .requestApproval sampleApproval "n8n" "alice" 3,
    .approveForTest "a" "codestra-approval:a:codestra-automation-job:a:e:w:1:approval-1" "bob" 4,
    .replayDeadLetter "codestra-dead-letter:a:codestra-automation-job:a:e:w:1" sampleReplay "n8n-operations-automation" "t3" 5 5,
    .claim (sampleClaim "t3") "n8n" 6]

/-- The count and the maximum of the job whose dead letter is replayed, when it is replayed. -/
def sampleSpent (maxAttempts : Nat) (h : 1 ≤ maxAttempts) : Option (Nat × Nat) :=
  let s := after sampleLibrary ((sampleRun maxAttempts h).take 5)
  (s.deadLetters.get ("a", "codestra-dead-letter:a:codestra-automation-job:a:e:w:1")).bind fun dead =>
    (s.jobs.get ("a", dead.jobId)).map fun job => (job.attemptCount, job.maxAttempts)

theorem sample_spent : sampleSpent 2 (by decide) = some (1, 2) := by decide +kernel

theorem sample_fresh (maxAttempts : Nat) (h : 1 ≤ maxAttempts) : Fresh (sampleRun maxAttempts h) := by
  have hdraws : draws (sampleRun maxAttempts h) = ["t1", "t2", "t3"] := rfl
  refine ⟨?_, ?_⟩
  · rw [hdraws]
    decide
  · have hinj : ∀ token ∈ ["t1", "t2", "t3"], ∀ token' ∈ ["t1", "t2", "t3"], tokenDigest token = tokenDigest token' →
        token = token' := by decide +kernel
    intro token htoken token' htoken' heq
    exact hinj token htoken token' htoken' heq

theorem sample_replayable : ∃ dead job, Replayable (after sampleLibrary ((sampleRun 1 le_rfl).take 5))
    "codestra-dead-letter:a:codestra-automation-job:a:e:w:1" sampleReplay "n8n-operations-automation" 5 dead job ∧
    job.maxAttempts ≤ job.attemptCount ∧ dead.jobId = sampleJob ∧ job.workflowKey = "w" ∧ job.workflowVersion = 1 ∧
    job.expectedClientId = "n8n" := by
  have hstate : ((after sampleLibrary ((sampleRun 1 le_rfl).take 5)).deadLetters.get ("a",
      "codestra-dead-letter:a:codestra-automation-job:a:e:w:1")).any (fun dead =>
        ((after sampleLibrary ((sampleRun 1 le_rfl).take 5)).jobs.get ("a", dead.jobId)).any fun job =>
          ((after sampleLibrary ((sampleRun 1 le_rfl).take 5)).approvals.get ("a", sampleReplay.approvalId)).any fun approval =>
            (approval.2.admits dead 5 ∧ dead.resourceVersion = 1 ∧ dead.originalEffectFingerprint =
              sampleReplay.originalEffectFingerprint ∧ dead.state = .opened) ∧ job.maxAttempts ≤ job.attemptCount ∧
              dead.jobId = sampleJob ∧ job.workflowKey = "w" ∧ job.workflowVersion = 1 ∧ job.expectedClientId = "n8n") = true := by
    decide +kernel
  obtain ⟨dead, hdead, hstate⟩ := (Option.any_eq_true _ _).1 hstate
  obtain ⟨job, hjob, hstate⟩ := (Option.any_eq_true _ _).1 hstate
  obtain ⟨approval, happroval, hstate⟩ := (Option.any_eq_true _ _).1 hstate
  obtain ⟨⟨hadmits, hversion, hfingerprint, hopened⟩, hjob'⟩ := of_decide_eq_true hstate
  exact ⟨dead, job, ⟨rfl, hdead, ⟨_, _, happroval, hadmits⟩, hversion, hfingerprint, hopened, hjob⟩, hjob'⟩

/-- With one attempt, the replayed job is claimed a second time. -/
theorem replayed_job_exceeds : Fresh (sampleRun 1 (by decide)) ∧ ¬ LeaseSafe sampleLibrary (sampleRun 1 (by decide)) := by
  refine ⟨sample_fresh 1 _, fun h => ?_⟩
  obtain ⟨dead, job, hreplayable, hspent, hid, hkey, hversion, hclient⟩ := sample_replayable
  obtain ⟨leaseTokenSha256, hget⟩ := claimed_replay ((sample_fresh 1 le_rfl).take ⟨[_], rfl⟩) rfl hreplayable "x" 6
  rw [hid, hkey, hversion, hclient] at hget
  have hbound := h.attempts _ (List.prefix_refl _) _ _ hget
  dsimp only [Job.claimed, Job.replayed, Job.reopened] at hbound
  omega

theorem sample_always : Always (call sampleLibrary) Spared {} (sampleRun 2 (by decide)) := by
  have hsplit : sampleRun 2 (by decide) = (sampleRun 2 (by decide)).take 5 ++ (sampleRun 2 (by decide)).drop 5 :=
    (List.take_append_drop 5 _).symm
  rw [hsplit, always_append]
  refine ⟨⟨trivial, trivial, trivial, trivial, trivial, trivial⟩, ?_, trivial, trivial⟩
  intro dead job hreplay
  have hspent := sample_spent
  unfold sampleSpent after at hspent
  dsimp only at hspent
  generalize hs : runFrom (call sampleLibrary) {} ((sampleRun 2 (by decide)).take 5) = s at hreplay hspent
  have hfound : s.deadLetters.get ("a", "codestra-dead-letter:a:codestra-automation-job:a:e:w:1") = some dead := hreplay.found
  have hjob : s.jobs.get ("a", dead.jobId) = some job := hreplay.job
  rw [hfound, Option.bind_some, hjob, Option.map_some, Option.some.injEq, Prod.mk.injEq] at hspent
  omega

/-- With two, it is claimed within its maximum. -/
theorem replayed_job_safe : LeaseSafe sampleLibrary (sampleRun 2 (by decide)) :=
  lease_safe sampleLibrary _ (sample_fresh 2 _) sample_always

end Middleware.Automation

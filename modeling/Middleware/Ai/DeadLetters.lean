/-
Dead letters. `finish` replaces the evidence of an earlier failure, `recover_expired` inserts evidence only where there
is none: after a manual retry the row of the first failure is still there, used up, and a lease that runs out leaves it
as it is. A job is dead-lettered with fresh evidence exactly when no recovery meets such a row.
-/
import Middleware.Ai.Cancellation

namespace Middleware.Ai

open Ledger Lib

def Db.letters (db : Db) (id : Uuid) : List DeadLetter := db.deadLetters.filter fun d => decide (d.jobId = id)

/-- A dead letter that describes the failure its job ended with. -/
structure Describes (d : DeadLetter) (j : Job) : Prop where
  fresh : d.manualRetryRequiresNewApproval = true
  failedAt : j.completedAt = some d.failedAt
  attemptCount : d.attemptCount = j.attemptCount
  maxAttempts : d.maxAttempts = j.maxAttempts
  errorCode : d.finalErrorCode = (orElse j.failureCode (some "attempts_exhausted")).getD ""

/-- The evidence of a dead-lettered job: a row describes the failure, an approval decided after it re-queues the job
below the limit, and one decided before does not. -/
structure Evidence (db : Db) (id : Uuid) (j : Job) : Prop where
  described : ∃ d ∈ db.deadLetters, d.jobId = id ∧ Describes d j
  retryable : ∀ failed, j.completedAt = some failed → j.maxAttempts < 10 → ∀ a ∈ db.approvals, a.jobId = id →
    a.state = .approved → ∀ t, a.decidedAt = some t → failed < t →
    ∀ now, ∃ db', retryDeadLetter id a.id j.organizationId j.workspaceId now db = .ok (.retryWait, db')
  stale : ∀ failed, j.completedAt = some failed → ∀ a ∈ db.approvals, ∀ t, a.decidedAt = some t → t ≤ failed →
    ∀ org ws now r, retryDeadLetter id a.id org ws now db ≠ .ok r

/-- A recovery dead-letters no job that has a dead letter from before a manual retry. -/
def Step.meetsNoLetter (s : Step) (db : Db) : Prop :=
  match s.op with
  | .recoverExpired organizationId workspaceId =>
    ∀ id j, db.job id = some j → exhausted organizationId workspaceId s.now j = true → ∀ d ∈ db.deadLetters, d.jobId ≠ id
  | _ => True

/-! ## Letters and rows in a transaction -/

/-- The operations that write dead letters. -/
def Op.writesLetters : Op → Bool
  | .finish .. | .recoverExpired .. | .retryDeadLetter .. => true
  | _ => false

/-- The states a job may still be attempted in. -/
def live : List JobState := [.queued, .retryWait, .leased]

/-- A dead-lettered job is left as it failed. -/
structure SameFailure (j j' : Job) : Prop where
  state : j.state = .deadLetter
  completedAt : j'.completedAt = j.completedAt
  attemptCount : j'.attemptCount = j.attemptCount
  maxAttempts : j'.maxAttempts = j.maxAttempts
  failureCode : j'.failureCode = j.failureCode

/-- What a transaction does to the letters of a job, together with the job's row. -/
inductive LetterStep (db : Db) (s : Step) (id : Uuid) (db' : Db) : Prop
  | kept (letters : db'.letters id = db.letters id)
      (rows : ∀ j', db'.job id = some j' → db.job id = none ∧ j'.state = .queued ∨ ∃ j, db.job id = some j ∧
        (j'.state = .deadLetter → SameFailure j j') ∧ (Coherent j → j'.state ∈ live → j.state ∈ live))
  | finished (e : Ending) (j : Job) (row : db.job id = some j)
      (row' : db'.job id = some (finishRow e .deadLetter s.now j))
      (letters : db'.letters id = upsertLetter (finishLetter e s.now j) (db.letters id))
  | recovered (org ws : Option Uuid) (op : s.op = .recoverExpired org ws) (j : Job) (row : db.job id = some j)
      (exhausted : exhausted org ws s.now j = true) (row' : db'.job id = some (recoverDead org ws s.now j))
      (letters : db'.letters id = insertLetter (db.letters id) (recoverLetter s.now j))
  | retried (j : Job) (row : db.job id = some j) (row' : db'.job id = some (retriedRow s.now j))
      (letters : db'.letters id = (db.letters id).map usedLetter)

section Step

variable {db : Db} {s : Step} {id : Uuid} {j j' : Job}

theorem SameFailure.of_eq (h : j'.state = .deadLetter) (hst : j'.state = j.state) (hc : j'.completedAt = j.completedAt)
    (ha : j'.attemptCount = j.attemptCount) (hm : j'.maxAttempts = j.maxAttempts)
    (hf : j'.failureCode = j.failureCode) : SameFailure j j' :=
  ⟨hst.symm.trans h, hc, ha, hm, hf⟩

theorem finishState_success {e : Ending} (he : e.failed = false) {completion : JobState}
    (hc : completion = .completed ∨ completion = .approvalRequired) :
    finishState e completion j ≠ .deadLetter ∧ finishState e completion j ∉ live := by
  have hne : completion ≠ .deadLetter ∧ completion ∉ live := by rcases hc with rfl | rfl <;> decide
  unfold finishState
  split
  · decide
  · rw [he]
    exact hne

/-- Apart from `finish`, the recovery and the manual retry, no change dead-letters or revives a job. -/
theorem change_quiet (hop : s.op.writesLetters = false) (h : Change db s j j') :
    (j'.state = .deadLetter → SameFailure j j') ∧ (Coherent j → j'.state ∈ live → j.state ∈ live) := by
  cases h with
  | same => exact ⟨fun h => .of_eq h rfl rfl rfl rfl rfl, fun _ h => h⟩
  | claimed c locked active op admitted candidate returned =>
    simp only [claimable, Bool.and_eq_true, Bool.or_eq_true, beq_iff_eq] at candidate
    refine ⟨fun h => absurd h (by simp [claimRow]), fun _ _ => ?_⟩
    rcases candidate.1.1.1.1.1.1 with h | h <;> simp [h, live]
  | renewed => exact ⟨fun h => .of_eq h rfl rfl rfl rfl rfl, fun _ h => h⟩
  | streamed => exact ⟨fun h => .of_eq h rfl rfl rfl rfl rfl, fun _ h => h⟩
  | finished l e completion op ends id holds success =>
    have hne : s.op ≠ .finish l e := fun h => by simp [h, Op.writesLetters] at hop
    obtain ⟨hd, hl⟩ := finishState_success (j := j) (ends.resolve_left hne) success
    exact ⟨fun h => absurd h hd, fun _ h => absurd h hl⟩
  | confirmed => exact ⟨fun h => absurd h (by simp), fun _ h => absurd h (by simp [live])⟩
  | recoveredCancelled org ws op => simp [op, Op.writesLetters] at hop
  | recoveredRetry org ws op => simp [op, Op.writesLetters] at hop
  | recoveredDead org ws op => simp [op, Op.writesLetters] at hop
  | expired => exact ⟨fun h => absurd h (by simp), fun _ h => absurd h (by simp [live])⟩
  | retried approvalId org ws op => simp [op, Op.writesLetters] at hop
  | consoleCancelled org ws op scope state =>
    by_cases hidle : j.state = .queued ∨ j.state = .retryWait
    · have hst := consoleRow_idle s.now hidle
      exact ⟨fun h => absurd h (by simp [hst]), fun _ h => absurd h (by simp [hst, live])⟩
    · have hst := consoleRow_busy s.now hidle
      rw [hst]
      exact ⟨fun h => absurd (h ▸ state) (by decide), fun _ h => h⟩
  | orchestrationCancelled org ws op scope state =>
    by_cases hidle : j.state ∈ [JobState.queued, .available, .retryWait, .approvalRequired]
    · have hst := orchestrationRow_idle s.now hidle
      exact ⟨fun h => absurd h (by simp [hst]), fun _ h => absurd h (by simp [hst, live])⟩
    · have hst := orchestrationRow_busy s.now hidle
      exact ⟨fun h => absurd h (by simp [hst]), fun _ h => absurd h (by simp [hst, live])⟩
  | decided org ws actorId approved reason op pending =>
    cases approved <;> exact ⟨fun h => absurd h (by simp), fun _ h => absurd h (by simp [live])⟩

theorem LetterStep.same : LetterStep db s id db :=
  .kept rfl fun j' hj' => .inr ⟨j', hj', fun h => .of_eq h rfl rfl rfl rfl rfl, fun _ h => h⟩

theorem LetterStep.quiet (hk : Keyed db) (hop : s.op.writesLetters = false) (id : Uuid)
    (h : (s.exec db).deadLetters = db.deadLetters) : LetterStep db s id (s.exec db) := by
  refine .kept (by rw [Db.letters, Db.letters, h]) fun j' hj' => ?_
  rcases exec_row_back hk s hj' with ⟨j, hj, hc⟩ | ⟨hnone, j, -, -, rfl⟩
  · exact .inr ⟨j, hj, change_quiet hop hc⟩
  · exact .inl ⟨hnone, rfl⟩

theorem upsertLetter_filter (d : DeadLetter) (letters : List DeadLetter) (id : Uuid) :
    ((upsertLetter d letters).filter fun x => decide (x.jobId = id)) =
      if d.jobId = id then upsertLetter d (letters.filter fun x => decide (x.jobId = id))
      else letters.filter fun x => decide (x.jobId = id) := by
  by_cases hid : d.jobId = id
  · have hany : ((letters.filter fun x => decide (x.jobId = id)).any fun x => x.jobId == d.jobId) =
        letters.any fun x => x.jobId == d.jobId := by
      rw [List.any_filter]
      congr 1
      funext x
      by_cases hx : x.jobId = d.jobId
      · simp [hx, hid]
      · simp [hx]
    unfold upsertLetter
    rw [hany]
    split
    · rw [filter_map_at DeadLetter.jobId (replaceEvidence d) (fun _ h => h), if_pos hid.symm]
      refine List.map_congr_left fun x hx => (if_pos ?_).symm
      exact (of_decide_eq_true (List.mem_filter.1 hx).2).trans hid.symm
    · simp [List.filter_append, hid]
  · unfold upsertLetter
    split
    · rw [filter_map_at DeadLetter.jobId (replaceEvidence d) (fun _ h => h), if_neg (Ne.symm hid)]
    · simp [List.filter_append, hid]

theorem exhausted_of_state {org ws : Option Uuid} {now : Time} (h : j.state ≠ .leased) :
    exhausted org ws now j = false := by
  rw [exhausted, beq_eq_false_iff_ne.2 h]
  rfl

/-- The first two updates of a recovery leave an exhausted row alone and make no other one exhausted. -/
theorem exhausted_first (org ws : Option Uuid) (now : Time) (j : Job) :
    exhausted org ws now (recoverRetry org ws now (recoverCancelled org ws now j)) = exhausted org ws now j ∧
      (exhausted org ws now j = true → recoverRetry org ws now (recoverCancelled org ws now j) = j) := by
  by_cases hc : j.state = .cancelRequested ∧ leaseExpired now j ∧ j.inScope org ws
  · have hrow : recoverCancelled org ws now j =
        { j with state := .cancelled, leaseOwner := none, leaseExpiresAt := none, completedAt := some now } := if_pos hc
    have hnot : exhausted org ws now j = false := exhausted_of_state (by simp [hc.1])
    rw [hrow, recoverRetry, if_neg (by simp), hnot]
    exact ⟨exhausted_of_state (by simp), fun h => by cases h⟩
  · rw [show recoverCancelled org ws now j = j from if_neg hc]
    by_cases hr : j.state = .leased ∧ leaseExpired now j ∧ j.attemptCount < j.maxAttempts ∧ beforeDeadline now j ∧
        j.inScope org ws
    · have hrow : recoverRetry org ws now j =
          { j with state := .retryWait, leaseOwner := none, leaseExpiresAt := none, nextAttemptAt := now } := if_pos hr
      have hnot : exhausted org ws now j = false := by simp [exhausted, hr.2.2.1]
      rw [hrow, hnot]
      exact ⟨exhausted_of_state (by simp), fun h => by cases h⟩
    · rw [show recoverRetry org ws now j = j from if_neg hr]
      exact ⟨rfl, fun _ => rfl⟩

theorem recoverExpired_letters (hk : Keyed db) (org ws : Option Uuid) (now : Time) (id : Uuid) :
    (recoverExpired org ws now db).letters id =
      (((db.job id).toList.filter (exhausted org ws now)).map (recoverLetter now)).foldl insertLetter (db.letters id) := by
  have hids : ∀ x : Job, (recoverRetry org ws now (recoverCancelled org ws now x)).id = x.id := by
    intro x
    unfold recoverRetry recoverCancelled
    split <;> split <;> rfl
  have hjobs : ((db.jobs.map (recoverCancelled org ws now)).map (recoverRetry org ws now)).filter
      (fun x => decide (x.id = id)) =
      (db.job id).toList.map fun x => recoverRetry org ws now (recoverCancelled org ws now x) := by
    have hcomp : (fun x : Job => decide (x.id = id)) ∘ (recoverRetry org ws now ∘ recoverCancelled org ws now) =
        fun x => decide (x.id = id) := funext fun x => by simp [hids x]
    rw [List.map_map, List.filter_map, hcomp, filter_key hk id]
    rfl
  have hnew : (((((db.jobs.map (recoverCancelled org ws now)).map (recoverRetry org ws now)).filter
      (exhausted org ws now)).map (recoverLetter now)).filter fun d => decide (d.jobId = id)) =
      ((db.job id).toList.filter (exhausted org ws now)).map (recoverLetter now) := by
    have hcomp : (fun d : DeadLetter => decide (d.jobId = id)) ∘ recoverLetter now = fun x => decide (x.id = id) := rfl
    rw [List.filter_map, hcomp, List.filter_comm, hjobs]
    cases db.job id with
    | none => rfl
    | some j =>
      obtain ⟨hex, hrow⟩ := exhausted_first org ws now j
      cases hx : exhausted org ws now j with
      | true => simp [hx, hrow hx]
      | false => simp [hex, hx]
  have hletters := inserted_filter DeadLetter.jobId (fun i => i)
    ((((db.jobs.map (recoverCancelled org ws now)).map (recoverRetry org ws now)).filter
      (exhausted org ws now)).map (recoverLetter now)) db.deadLetters id
  rw [hnew] at hletters
  exact hletters

theorem LetterStep.frame {db' : Db} (hrow : db'.job id = db.job id) (h : db'.letters id = db.letters id) :
    LetterStep db s id db' :=
  .kept h fun j' hj' => .inr ⟨j', hrow ▸ hj', fun h => .of_eq h rfl rfl rfl rfl rfl, fun _ h => h⟩

theorem exec_letters (hk : Keyed db) (s : Step) (id : Uuid) : LetterStep db s id (s.exec db) := by
  have heffect := exec_effect s db
  have hquiet := fun hop => LetterStep.quiet (s := s) hk hop id
  generalize s.exec db = db' at heffect hquiet
  cases heffect with
  | nothing => exact .same
  | finished l e completion results approvals j op ends success asks row holds =>
    by_cases hi : id = l.jobId
    · subst hi
      have hrow' : (finishedDb l e (finishState e completion j) s.now j
          { db with results := results, approvals := approvals }).job l.jobId =
          some (finishRow e (finishState e completion j) s.now j) :=
        job_updateJob_self (f := finishRow e (finishState e completion j) s.now) (fun _ h => h) row
      by_cases hd : finishState e completion j = .deadLetter
      · refine .finished e j row (hd ▸ hrow') ?_
        have hup := upsertLetter_filter (finishLetter e s.now j) db.deadLetters l.jobId
        rw [if_pos (show (finishLetter e s.now j).jobId = l.jobId from job_id row)] at hup
        refine Eq.trans ?_ hup
        simp only [Db.letters, finishedDb, if_pos hd]
      · refine .kept (by simp only [Db.letters, finishedDb, if_neg hd]) fun j' hj' => ?_
        rw [hrow', Option.some.injEq] at hj'
        subst hj'
        refine .inr ⟨j, row, fun h => absurd h hd, fun hco hlive => ?_⟩
        -- only an attempt that was not cancelled is repeated, so the job was leased
        rcases holds_state holds with h | h
        · simp [h, live]
        · have hst : finishState e completion j = .cancelled := if_pos (hco.requested h)
          exact absurd hlive (by simp [finishRow, hst, live])
    · have hup := upsertLetter_filter (finishLetter e s.now j) db.deadLetters id
      rw [if_neg (show ¬(finishLetter e s.now j).jobId = id from fun h => hi (h.symm.trans (job_id row)))] at hup
      refine .frame (job_updateJob_ne hi fun _ h => h) ?_
      simp only [Db.letters, finishedDb]
      split
      · exact hup
      · rfl
  | recovered org ws op =>
    have hletters := recoverExpired_letters hk org ws s.now id
    have hjob : ∀ j, db.job id = some j → (recoverExpired org ws s.now db).job id = some (recoverRow org ws s.now j) :=
      fun j hj => job_mapped (recoverExpired_jobs _ _ _ _) (recoverRow_id _ _ _) hj
    cases hj : db.job id with
    | none =>
      refine .frame ?_ (by rw [hletters, hj]; rfl)
      unfold Db.job at hj ⊢
      rw [recoverExpired_jobs, find_map_row (recoverRow_id _ _ _), hj]
      rfl
    | some j =>
      have hj' := hjob j hj
      cases hx : exhausted org ws s.now j with
      | true =>
        have hrow := (exhausted_first org ws s.now j).2 hx
        rw [recoverRow, hrow] at hj'
        exact .recovered org ws op j hj hx hj' (by rw [hletters, hj]; simp [hx])
      | false =>
        refine .kept (by rw [hletters, hj]; simp [hx]) fun x hx' => .inr ⟨j, hj, ?_⟩
        cases hj'.symm.trans hx'
        rcases recoverRow_cases org ws s.now j with h | ⟨hst, -, h⟩ | ⟨hst, -, -, -, -, h⟩ | ⟨hd, -⟩
        · rw [h]
          exact ⟨fun h => .of_eq h rfl rfl rfl rfl rfl, fun _ h => h⟩
        · rw [h]
          exact ⟨fun h => absurd h (by simp), fun _ h => absurd h (by simp [live])⟩
        · rw [h]
          exact ⟨fun h => absurd h (by simp), fun _ _ => by simp [hst, live]⟩
        · rw [hx] at hd
          cases hd
  | retried i approvalId org ws j d op row letter licensed state below =>
    by_cases hi : id = i
    · subst hi
      refine .retried j row (job_updateJob_self (f := retriedRow s.now) (fun _ h => h) row) ?_
      exact (filter_map_at DeadLetter.jobId usedLetter (fun _ h => h) db.deadLetters id).trans (if_pos rfl)
    · refine .frame (job_updateJob_ne (f := retriedRow s.now) hi fun _ h => h) ?_
      exact (filter_map_at DeadLetter.jobId usedLetter (fun _ h => h) db.deadLetters id).trans (if_neg hi)
  | insertedJob j op => exact hquiet (by rw [op]; rfl) rfl
  | claimed c locked active j op => exact hquiet (by rw [op]; rfl) rfl
  | renewed l seconds j op => exact hquiet (by rw [op]; rfl) rfl
  | streamed l sequence content limit j op => exact hquiet (by rw [op]; rfl) rfl
  | confirmed l j attempts op => exact hquiet (by rw [op]; rfl) rfl
  | expired org ws op => exact hquiet (by rw [op]; rfl) rfl
  | consoleCancelled i org ws j op => exact hquiet (by rw [op]; rfl) rfl
  | orchestrationCancelled i org ws j op => exact hquiet (by rw [op]; rfl) rfl
  | decided i org ws actorId approved reason approvals op => exact hquiet (by rw [op]; rfl) rfl
  | insertedApproval a op => exact hquiet (by rw [op]; rfl) rfl

/-! ## Evidence along a run -/

theorem mem_letters {d : DeadLetter} : d ∈ db.letters id ↔ d ∈ db.deadLetters ∧ d.jobId = id := by
  simp [Db.letters]

theorem mem_upsertLetter {letters : List DeadLetter} {d x : DeadLetter} (hl : ∀ y ∈ letters, y.jobId = d.jobId)
    (h : x ∈ upsertLetter d letters) : x = d ∨ ∃ y ∈ letters, x = replaceEvidence d y := by
  unfold upsertLetter at h
  split at h
  · obtain ⟨y, hy, rfl⟩ := List.mem_map.1 h
    exact .inr ⟨y, hy, if_pos (hl y hy)⟩
  · rename_i hany
    cases letters with
    | nil => exact .inl (by simpa using h)
    | cons y rest => exact absurd (List.any_eq_true.2 ⟨y, List.mem_cons_self, by simp [hl y List.mem_cons_self]⟩) hany

theorem upsertLetter_ne_nil (d : DeadLetter) (letters : List DeadLetter) : upsertLetter d letters ≠ [] := by
  unfold upsertLetter
  split
  · rename_i hany
    obtain ⟨y, hy, -⟩ := List.any_eq_true.1 hany
    exact fun h => by simp [List.map_eq_nil_iff.1 h] at hy
  · simp

/-- Letters belong to the tenant of their job. -/
def LettersOwned (db : Db) : Prop :=
  ∀ id, ∀ d ∈ db.letters id, ∃ j, db.job id = some j ∧ d.tenantId = j.organizationId ∧ d.workspaceId = j.workspaceId

/-- The letters of a job that is attempted again are used up. -/
def LettersUsed (db : Db) : Prop :=
  ∀ id j, db.job id = some j → j.state ∈ live → ∀ d ∈ db.letters id, d.manualRetryRequiresNewApproval = false

/-- A dead-lettered job has letters, and all of them describe its failure. -/
def LettersDescribe (db : Db) : Prop :=
  ∀ id j, db.job id = some j → j.state = .deadLetter → db.letters id ≠ [] ∧ ∀ d ∈ db.letters id, Describes d j

theorem step_owned (hk : Keyed db) (s : Step) (h : LettersOwned db) : LettersOwned (s.exec db) := by
  intro id d hd
  have hbefore : ∃ j, db.job id = some j ∧ d.tenantId = j.organizationId ∧ d.workspaceId = j.workspaceId := by
    cases exec_letters hk s id with
    | kept letters rows =>
      rw [letters] at hd
      exact h id d hd
    | finished e j row row' letters =>
      rw [letters] at hd
      have hids : ∀ y ∈ db.letters id, y.jobId = (finishLetter e s.now j).jobId :=
        fun y hy => (mem_letters.1 hy).2.trans (job_id row).symm
      rcases mem_upsertLetter hids hd with rfl | ⟨y, hy, rfl⟩
      · exact ⟨j, row, rfl, rfl⟩
      · exact h id y hy
    | recovered org ws op j row exhausted row' letters =>
      rw [letters] at hd
      have hd : d ∈ [recoverLetter s.now j].foldl (insertNew DeadLetter.jobId) (db.letters id) := hd
      rcases mem_inserted hd with hd | hd
      · exact h id d hd
      · rw [List.mem_singleton.1 hd]
        exact ⟨j, row, rfl, rfl⟩
    | retried j row row' letters =>
      rw [letters] at hd
      obtain ⟨y, hy, rfl⟩ := List.mem_map.1 hd
      exact h id y hy
  obtain ⟨j, hj, ht, hw⟩ := hbefore
  obtain ⟨j', hj', hc⟩ := exec_row hk s hj
  obtain ⟨ho', hw', -⟩ := change_frame hc
  exact ⟨j', hj', ht.trans ho'.symm, hw.trans hw'.symm⟩

theorem step_used (hk : Keyed db) (hco : ∀ id j, db.job id = some j → Coherent j) (s : Step) (howned : LettersOwned db)
    (h : LettersUsed db) : LettersUsed (s.exec db) := by
  intro id j' hj' hlive d hd
  cases exec_letters hk s id with
  | kept letters rows =>
    rw [letters] at hd
    rcases rows j' hj' with ⟨hnone, -⟩ | ⟨j, hj, -, hkeep⟩
    · obtain ⟨j, hj, -⟩ := howned id d hd
      rw [hnone] at hj
      cases hj
    · exact h id j hj (hkeep (hco id j hj) hlive) d hd
  | finished e j row row' letters =>
    rw [row', Option.some.injEq] at hj'
    subst hj'
    exact absurd hlive (by simp [finishRow, live])
  | recovered org ws op j row exhausted row' letters =>
    rw [row', recoverDead, if_pos exhausted, Option.some.injEq] at hj'
    subst hj'
    exact absurd hlive (by simp [live])
  | retried j row row' letters =>
    rw [letters] at hd
    obtain ⟨y, -, rfl⟩ := List.mem_map.1 hd
    rfl

theorem Describes.of_same {d : DeadLetter} (hs : SameFailure j j') (h : Describes d j) : Describes d j' :=
  ⟨h.fresh, by rw [hs.completedAt, h.failedAt], by rw [hs.attemptCount, h.attemptCount],
    by rw [hs.maxAttempts, h.maxAttempts], by rw [hs.failureCode, h.errorCode]⟩

theorem step_describe (hk : Keyed db) (s : Step) (hs : s.meetsNoLetter db) (h : LettersDescribe db) :
    LettersDescribe (s.exec db) := by
  intro id j' hj' hdead
  cases exec_letters hk s id with
  | kept letters rows =>
    rw [letters]
    rcases rows j' hj' with ⟨-, hq⟩ | ⟨j, hj, hsame, -⟩
    · rw [hdead] at hq
      cases hq
    · have hs := hsame hdead
      obtain ⟨hne, hall⟩ := h id j hj hs.state
      exact ⟨hne, fun d hd => (hall d hd).of_same hs⟩
  | finished e j row row' letters =>
    rw [row', Option.some.injEq] at hj'
    subst hj'
    rw [letters]
    have hids : ∀ y ∈ db.letters id, y.jobId = (finishLetter e s.now j).jobId :=
      fun y hy => (mem_letters.1 hy).2.trans (job_id row).symm
    refine ⟨upsertLetter_ne_nil _ _, fun d hd => ?_⟩
    rcases mem_upsertLetter hids hd with rfl | ⟨y, -, rfl⟩
    · exact ⟨rfl, rfl, rfl, rfl, rfl⟩
    · exact ⟨rfl, rfl, rfl, rfl, rfl⟩
  | recovered org ws op j row exhausted row' letters =>
    rw [row', recoverDead, if_pos exhausted, Option.some.injEq] at hj'
    subst hj'
    simp only [Step.meetsNoLetter, op] at hs
    have hnil : db.letters id = [] := by
      refine List.filter_eq_nil_iff.2 fun d hd hid => hs id j row exhausted d hd (of_decide_eq_true hid)
    rw [letters, hnil]
    refine ⟨by simp [insertLetter], fun d hd => ?_⟩
    have hd : d = recoverLetter s.now j := by simpa [insertLetter] using hd
    subst hd
    exact ⟨rfl, rfl, rfl, rfl, rfl⟩
  | retried j row row' letters =>
    rw [row', Option.some.injEq] at hj'
    subst hj'
    cases hdead

theorem evidence_of (howned : LettersOwned db) (hdesc : LettersDescribe db) (hids : Approved db.approvals)
    (hj : db.job id = some j) (hdead : j.state = .deadLetter) : Evidence db id j := by
  obtain ⟨hne, hall⟩ := hdesc id j hj hdead
  obtain ⟨d, hd⟩ := List.exists_mem_of_ne_nil _ hne
  refine ⟨⟨d, (mem_letters.1 hd).1, (mem_letters.1 hd).2, hall d hd⟩, ?_, ?_⟩
  · intro failed hfailed hmax a ha haj hstate t ht hlt now
    obtain ⟨x, hx, htenant, hws⟩ := howned id d hd
    rw [hj] at hx
    cases hx
    have hd' := hall d hd
    have hfail : d.failedAt = failed := Option.some.inj (hd'.failedAt.symm.trans hfailed)
    have hlic : retryLicensed db id a.id j.organizationId j.workspaceId d = true := by
      have hany : db.approvals.any (licenses d a.id) = true :=
        List.any_eq_true.2 ⟨a, ha, by simp [licenses, (mem_letters.1 hd).2, haj, hstate, ht, hfail, hlt]⟩
      simp [retryLicensed, (mem_letters.1 hd).2, htenant, hws, hd'.fresh, hany]
    obtain ⟨x, hx⟩ := Option.isSome_iff_exists.1 (List.find?_isSome.2 ⟨d, (mem_letters.1 hd).1, hlic⟩)
    have hg : ¬(j.state ≠ .deadLetter ∨ 10 ≤ j.maxAttempts) := by
      rw [not_or, not_not]
      exact ⟨hdead, by omega⟩
    refine ⟨retriedDb id now db, ?_⟩
    simp only [retryDeadLetter, hx, hj, if_neg hg]
    rfl
  · intro failed hfailed a ha t ht hle org ws now r hr
    obtain ⟨-, d, -, hd, hlic, -⟩ := retryDeadLetter_ok hr
    simp only [retryLicensed, Bool.and_eq_true, beq_iff_eq] at hlic
    obtain ⟨b, hb, hlicense⟩ := List.any_eq_true.1 hlic.2
    simp only [licenses, Bool.and_eq_true, beq_iff_eq, Option.any_eq_true, decide_eq_true_eq] at hlicense
    obtain ⟨⟨⟨-, hba⟩, -⟩, t', ht', hlt⟩ := hlicense
    -- the approval that licenses the retry is the one named
    have hfind := find_of_mem hids hb
    rw [hba, find_of_mem hids ha, Option.some.injEq] at hfind
    subst hfind
    have hfail := (hall d (mem_letters.2 ⟨hd, hlic.1.1.1.1⟩)).failedAt
    rw [hfailed, Option.some.injEq] at hfail
    rw [ht, Option.some.injEq] at ht'
    rw [hfail, ht'] at hle
    exact absurd hlt (not_lt.2 hle)

theorem meetsNoLetter_of (hk : Keyed db) (s : Step) (hused : LettersUsed db)
    (h : ∀ id j, (s.exec db).job id = some j → j.state = .deadLetter → Evidence (s.exec db) id j) :
    s.meetsNoLetter db := by
  unfold Step.meetsNoLetter
  split
  · rename_i org ws hop
    intro id j hj hex d hd hid
    have hleased : j.state = .leased := by
      by_contra hne
      rw [exhausted_of_state hne] at hex
      cases hex
    have hmem : d ∈ db.letters id := mem_letters.2 ⟨hd, hid⟩
    have hletters : (s.exec db).letters id = db.letters id ∧ ∃ j', (s.exec db).job id = some j' ∧ j'.state = .deadLetter := by
      have hexec : s.exec db = recoverExpired org ws s.now db := by
        simp only [Step.exec, Step.effect, hop]
        rfl
      have hrow := (exhausted_first org ws s.now j).2 hex
      have hjob := job_mapped (recoverExpired_jobs org ws s.now db) (recoverRow_id _ _ _) hj
      rw [recoverRow, hrow, recoverDead, if_pos hex] at hjob
      rw [hexec]
      refine ⟨?_, _, hjob, rfl⟩
      rw [recoverExpired_letters hk, hj]
      have hany : ((db.letters id).any fun x => x.jobId == (recoverLetter s.now j).jobId) = true :=
        List.any_eq_true.2 ⟨d, hmem, by simp [hid, recoverLetter, job_id hj]⟩
      simp only [Option.toList_some, List.filter_cons, hex, if_pos, List.filter_nil, List.map_cons, List.map_nil,
        List.foldl_cons, List.foldl_nil, insertLetter, hany]
    obtain ⟨hsame, j', hj', hdead⟩ := hletters
    obtain ⟨x, hx, hxid, hdesc⟩ := (h id j' hj' hdead).described
    have hx' : x ∈ (s.exec db).letters id := mem_letters.2 ⟨hx, hxid⟩
    rw [hsame] at hx'
    have hstale := hused id j hj (by simp [hleased, live]) x hx'
    rw [hdesc.fresh] at hstale
    cases hstale
  · trivial

end Step

/-! ## Runs -/

theorem run_letters {registrations : Dict String Registration} (steps : List Step) :
    LettersOwned (run registrations steps) ∧ LettersUsed (run registrations steps) := by
  induction steps using List.reverseRecOn with
  | nil => exact ⟨fun id d hd => (by cases hd), fun id j hj => (by cases hj)⟩
  | append_singleton steps s ih =>
    rw [run_concat]
    exact ⟨step_owned (run_keyed steps) s ih.1, step_used (run_keyed steps) (run_coherent steps) s ih.1 ih.2⟩

theorem run_describe {registrations : Dict String Registration} (steps : List Step)
    (h : ∀ (done : List Step) s (rest : List Step), steps = done ++ s :: rest → s.meetsNoLetter (run registrations done)) :
    LettersDescribe (run registrations steps) := by
  induction steps using List.reverseRecOn with
  | nil => exact fun id j hj => by cases hj
  | append_singleton steps s ih =>
    rw [run_concat]
    have hbefore := ih fun done x rest hsteps => h done x (rest ++ [s]) (by simp [hsteps])
    exact step_describe (run_keyed steps) s (h steps s [] rfl) hbefore

/-- In a run every dead-lettered job has its evidence, in every state reached, exactly when no recovery dead-letters a
job that has a letter from before a manual retry. -/
theorem evidence_iff (registrations : Dict String Registration) (steps : List Step) :
    (∀ done rest, steps = done ++ rest → ∀ id j, (run registrations done).job id = some j → j.state = .deadLetter →
        Evidence (run registrations done) id j) ↔
      ∀ done s rest, steps = done ++ s :: rest → s.meetsNoLetter (run registrations done) := by
  constructor
  · rintro h done s rest rfl
    have hafter := h (done ++ [s]) rest (by simp)
    rw [run_concat] at hafter
    exact meetsNoLetter_of (run_keyed done) s (run_letters done).2 hafter
  · rintro h done rest rfl id j hj hdead
    have hok : ∀ done' s rest', done = done' ++ s :: rest' → s.meetsNoLetter (run registrations done') := by
      rintro done' s rest' rfl
      exact h done' s (rest' ++ rest) (by simp)
    exact evidence_of (run_letters done).1 (run_describe done hok) (run_approved done) hj hdead

/-! ## Dead-lettered twice -/

namespace Synthetic

/-- The job fails, is retried after an approval, and the second attempt dies with its lease. -/
def deadTwice : List Step :=
  [⟨.insertJob job, 0⟩, claimed 1, ⟨.finish (worker 1) { failed := true, errorCode := some "boom", correlationId := "c" }, 2⟩,
    ⟨.insertApproval { id := "approval", jobId := "job", organizationId := "org", workspaceId := "ws" }, 3⟩,
    ⟨.retryDeadLetter "job" "approval" "org" "ws", 4⟩, claimed 5, ⟨.recoverExpired none none, 100⟩]

end Synthetic

/-- The dead letter of the second failure is the used-up one of the first. -/
theorem second_failure_unrecorded : ¬ ∀ done rest, Synthetic.deadTwice = done ++ rest → ∀ id j,
    (run ∅ done).job id = some j → j.state = .deadLetter → Evidence (run ∅ done) id j := by
  intro h
  have hcheck : ((run ∅ Synthetic.deadTwice).job "job").map (·.state) = some .deadLetter ∧
      ((run ∅ Synthetic.deadTwice).deadLetters.all fun d => !d.manualRetryRequiresNewApproval) = true := by
    decide +kernel
  obtain ⟨j, hj, hstate⟩ := Option.map_eq_some_iff.1 hcheck.1
  obtain ⟨d, hd, -, hdesc⟩ := (h Synthetic.deadTwice [] (List.append_nil _).symm "job" j hj hstate).described
  have hused := List.all_eq_true.1 hcheck.2 d hd
  rw [hdesc.fresh] at hused
  cases hused

end Middleware.Ai

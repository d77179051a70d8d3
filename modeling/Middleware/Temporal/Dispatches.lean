/-
A call is sent at most once per attempt. The claim of the newest attempt elects the process that may call the adapter,
and a claimed attempt is never claimed again; a rejected command is left alone for ever. But the rejection looks at the
newest attempt, whoever claimed it: while a process that claimed an attempt has yet to call the adapter, another one can
cancel the command, and the call is sent after that. It is not sent in the runs in which no command is rejected while a
live execution of it is between its claim and its call (`Idle`).
-/
import Middleware.Lib.Origin
import Middleware.Temporal.Effects

namespace Middleware.Temporal

open Ledger Postgres Lib

/-! ## What is kept of a command -/

section Kept

variable {s s' : Tables} {k : Key} {n : Nat}

/-- The attempt `n` was claimed or closed, or another one was opened after it. -/
def Spent (s : Tables) (k : Key) (n : Nat) : Prop :=
  ∃ a, s.newestAttempt k = some a ∧ (n < a.attemptNumber ∨ n = a.attemptNumber ∧ a.resultPayload ≠ none)

/-- The command was cancelled with its newest attempt rejected before its dispatch. -/
def Rejected (s : Tables) (k : Key) : Prop :=
  stateOf s k = some .cancelled ∧ ∃ a, s.newestAttempt k = some a ∧ AttemptRow.rejected a = true

/-- A dispatching command has a dispatching attempt. -/
def Running (s : Tables) : Prop :=
  ∀ k, stateOf s k = some .dispatching → ∃ a, s.newestAttempt k = some a ∧ a.state = .dispatching

theorem Effect.spent (h : Effect k s s') (hs : Spent s k n) : Spent s' k n := by
  obtain ⟨a, ha, hn⟩ := hs
  have hmap : ∀ f : AttemptRow → AttemptRow, (∀ a, (f a).attemptNumber = a.attemptNumber) →
      (∀ a, a.resultPayload ≠ none → (f a).resultPayload ≠ none) → s'.newestAttempt k = (s.newestAttempt k).map f →
      Spent s' k n := by
    intro f hnum hpay hnew
    rw [ha] at hnew
    refine ⟨f a, hnew, ?_⟩
    rw [hnum]
    exact hn.imp_right fun h => ⟨h.1, hpay a h.2⟩
  cases h with
  | same hl => exact ⟨a, (newest_of_ledger hl).trans ha, hn⟩
  | submitted hnone hstate hnew => exact ⟨a, hnew.trans ha, hn⟩
  | claimed a' hfound hrun hfree hcommand hnew =>
    cases ha.symm.trans hfound
    refine ⟨_, hnew, hn.imp_right fun h => ⟨h.1, ?_⟩⟩
    simp [claimedAttempt]
  | rejected a' now hstate hfound hclaim hstate' hnew =>
    cases ha.symm.trans hfound
    exact ⟨_, hnew, hn⟩
  | opened a' old hstate hallowed hstate' hnew hnum hrun =>
    refine ⟨a', hnew, .inl ?_⟩
    rw [Tables.maxAttempt, ha] at hnum
    simp only [Option.map_some, Option.getD_some] at hnum
    omega
  | advanced old new hstate hallowed hstate' hmoved f hnew hnum hpay => exact hmap f hnum hpay hnew
  | reconciled new hstate hstate' hmoved f hnew hnum hpay => exact hmap f hnum (fun a _ => hpay a) hnew

theorem Effect.frozen (h : Effect k s s') (hs : Rejected s k) : ledgerOf s' k = ledgerOf s k := by
  obtain ⟨hcancelled, a, ha, hrej⟩ := hs
  cases h with
  | same hl => exact hl
  | submitted hnone hstate hnew =>
    rw [hcancelled] at hnone
    cases hnone
  | claimed a' hfound hrun hfree hcommand hnew =>
    cases ha.symm.trans hfound
    simp [AttemptRow.rejected, hrun] at hrej
  | rejected a' now hstate hfound hclaim hstate' hnew =>
    rw [hcancelled] at hstate
    cases hstate
  | opened a' old hstate hallowed hstate' hnew hnum hrun =>
    rw [hcancelled] at hstate
    cases hstate
    simp [CommandState.allowedTransitions] at hallowed
  | advanced old new hstate hallowed hstate' hmoved f hnew hnum hpay =>
    rw [hcancelled] at hstate
    cases hstate
    simp [CommandState.allowedTransitions] at hallowed
  | reconciled new hstate hstate' hmoved f hnew hnum hpay =>
    rw [hcancelled] at hstate
    cases hstate

theorem Rejected.of_ledger (hs : Rejected s k) (hl : ledgerOf s' k = ledgerOf s k) : Rejected s' k := by
  obtain ⟨hc, a, ha, hr⟩ := hs
  exact ⟨(state_of_ledger hl).trans hc, a, (newest_of_ledger hl).trans ha, hr⟩

theorem running_kept (h : ∀ k, Effect k s s') (hs : Running s) : Running s' := by
  intro k hk
  cases h k with
  | same hl =>
    obtain ⟨a, ha, hrun⟩ := hs k ((state_of_ledger hl).symm.trans hk)
    exact ⟨a, (newest_of_ledger hl).trans ha, hrun⟩
  | submitted hnone hstate hnew =>
    rw [hk] at hstate
    cases hstate
  | claimed a hfound hrun hfree hcommand hnew => exact ⟨_, hnew, hrun⟩
  | rejected a now hstate hfound hclaim hstate' hnew =>
    rw [hk] at hstate'
    cases hstate'
  | opened a old hstate hallowed hstate' hnew hnum hrun => exact ⟨a, hnew, hrun⟩
  | advanced old new hstate hallowed hstate' hmoved f hnew hnum hpay =>
    rw [hk] at hstate'
    exact absurd (Option.some.inj hstate').symm hmoved
  | reconciled new hstate hstate' hmoved f hnew hnum hpay =>
    rw [hk] at hstate'
    exact absurd (Option.some.inj hstate').symm hmoved

end Kept

/-! ## The two activities' calls -/

section Answers

variable {jsonb : Obj → Option Obj} {i : Input} {before after : Tables} {r : CommandExecutionRequest} {n : Nat}
  {reply : Except Failure ActivityResult}

theorem claim_answer (h : exec jsonb i (.claim r) before = (.ok (some n), after)) :
    ¬Spent before r.key n ∧ Spent after r.key n ∧
      ∃ a, before.newestAttempt r.key = some a ∧ a.state = .dispatching := by
  have hrun : (Except.ok (claimCallDispatch r.key before).1, (claimCallDispatch r.key before).2) =
      ((.ok (some n), after) : Except Failure (Option Nat) × Tables) := by
    rcases transaction_cases i (fun s => (.ok (claimCallDispatch r.key s).1, (claimCallDispatch r.key s).2)) before with
      ⟨e, he, -⟩ | heq
    · have := congrArg Prod.fst h
      rw [exec, he] at this
      cases this
    · exact heq.symm.trans h
  unfold claimCallDispatch at hrun
  split at hrun
  swap
  · cases hrun
  rename_i a ha
  split at hrun
  swap
  · cases hrun
  rename_i hfree
  cases hrun
  refine ⟨?_, ⟨claimedAttempt a, ?_, .inr ⟨rfl, by simp [claimedAttempt]⟩⟩, a, ha, hfree.1⟩
  · rintro ⟨a', ha', hlt | ⟨-, hpay⟩⟩
    · cases ha.symm.trans ha'
      omega
    · cases ha.symm.trans ha'
      exact hpay hfree.2
  · rw [newest_update (f := claimedAttempt) rfl (fun _ => rfl) fun _ => rfl, if_pos rfl, ha]
    rfl

theorem rejectDispatch_cases (k : Key) (now : Time) (s : Tables) :
    (rejectDispatch k now s).2 = s ∨ Rejectable s k ∧ Rejected (rejectDispatch k now s).2 k := by
  unfold rejectDispatch
  split
  swap
  · exact .inl rfl
  rename_i row a hrow ha
  split
  · exact .inl rfl
  split
  swap
  · exact .inl rfl
  rename_i hown
  simp only [Bool.and_eq_true, beq_iff_eq] at hown
  refine .inr ⟨⟨row, a, hrow, ha, hown⟩, ?_, rejectedAttempt now a, ?_, ?_⟩
  · rw [stateOf, command_updated (f := rejectedCommand now) (fun _ => rfl) rfl, hrow]
    simp [rejectedCommand]
  · rw [newest_update (f := rejectedAttempt now) rfl (fun _ => rfl) fun _ => rfl, if_pos rfl, ha]
    rfl
  · simp [AttemptRow.rejected, rejectedAttempt, hown.2]

/-- The transaction of the call was not rolled back from outside. -/
def Commits (i : Input) : Prop := ∀ e, i.fault ≠ some (.rolledBack e)

/-- A rejection changes the ledger only of a dispatching command with a claimed attempt, and leaves it rejected. -/
theorem reject_cases (h : exec jsonb i (.reject r) before = (reply, after)) :
    after = before ∨ Commits i ∧ Rejectable before r.key ∧ Rejected after r.key := by
  have hafter : i.transaction (rejectDispatch r.key i.now) before = (reply, after) := h
  unfold Input.transaction at hafter
  split at hafter
  · cases hafter
    exact .inl rfl
  · rename_i e hf
    cases hafter
    refine (rejectDispatch_cases r.key i.now before).imp_right fun hr => ⟨fun e' he => ?_, hr⟩
    rw [hf] at he
    cases he
  · rename_i hf
    have heq : (rejectDispatch r.key i.now before).2 = after := congrArg Prod.snd hafter
    rw [← heq]
    refine (rejectDispatch_cases r.key i.now before).imp_right fun hr => ⟨fun e' he => ?_, hr⟩
    rw [hf] at he
    cases he

end Answers

/-! ## What an execution promises -/

/-- Whether a call is the adapter's. -/
def Call.isExecute : Call → Bool
  | .execute _ => true
  | _ => false

/-- A process calls the adapter once, and for a call only after it claimed an attempt. -/
def promise : System.Discipline Call.Answer Failure Job where
  rely _ _ := True
  call _ h op := ∀ r, op = .execute r → (∀ v ∈ h, v.op.isExecute = false) ∧
    (r.command.target = callTarget → ∃ n, ⟨.claim r, .ok (some n)⟩ ∈ h)
  done _ _ := True

section Promise

variable {j : Job} {h : List Answered} {r : CommandExecutionRequest}

abbrev Keeps {α : Type} (j : Job) (p : Coro α) (h : List Answered) : Prop :=
  p.wp promise.rely (promise.call j) h (fun _ _ => True) fun _ _ => True

theorem allowed {op : Call} (hop : op.isExecute = false) : promise.call j h op := by
  rintro r rfl
  cases hop

theorem recordCallPreDispatchRejection_keeps : Keeps j (recordCallPreDispatchRejection r) h := by
  simp only [Keeps, recordCallPreDispatchRejection, ask, Prog.wp_bind, Prog.wp_ask]
  refine ⟨allowed rfl, fun _ _ => ?_, fun _ _ => trivial⟩
  split
  · trivial
  · refine ⟨allowed rfl, ?_⟩
    rintro (_ | _) _ <;> trivial

theorem persistRejection_keeps (n : Nat) : Keeps j (persistRejection r n) h := by
  induction n generalizing h with
  | zero => trivial
  | succ n ih =>
    rw [Keeps, persistRejection, Prog.wp_tryCatch]
    refine Prog.wp_mono (fun _ _ hG => hG) (fun _ _ hQ => hQ) ?_ _ _ recordCallPreDispatchRejection_keeps
    rintro h' e -
    split
    · simp only [ask, Prog.wp_bind, Prog.wp_ask]
      exact ⟨allowed rfl, fun _ _ => ih, fun _ _ => trivial⟩
    · trivial

theorem raised_keeps (e : Failure) : Keeps j
    (match e with
      | .preDispatchRejected => persistRejection r 3
      | .outcomeUnknown message => throw (.application "ProviderOutcomeUnknown" message)
      | .adapter message => throw (.application "ProviderAdapterError" message)
      | e => throw e) h := by
  cases e with
  | preDispatchRejected => exact persistRejection_keeps 3
  | _ => trivial

theorem executeAdapter_keeps (hfirst : ∀ v ∈ h, v.op.isExecute = false)
    (hclaim : r.command.target = callTarget → ∃ n, ⟨.claim r, .ok (some n)⟩ ∈ h) : Keeps j (executeAdapter r) h := by
  simp only [Keeps, executeAdapter, ask, Prog.wp_tryCatch, Prog.wp_bind, Prog.wp_ask]
  refine ⟨?_, fun _ _ => ⟨allowed rfl, fun _ _ => trivial, fun e _ => raised_keeps e⟩, fun e _ => raised_keeps e⟩
  rintro r' ⟨⟩
  exact ⟨hfirst, hclaim⟩

theorem executeCommand_keeps (targets : List String) : Keeps j (executeCommand targets r) [] := by
  unfold executeCommand
  split
  · simp only [Keeps, ask, Prog.wp_bind, Prog.wp_ask]
    refine ⟨allowed rfl, fun _ _ => ?_, fun _ _ => trivial⟩
    split
    · trivial
    · simp only [Prog.wp_bind, Prog.wp_ask]
      refine ⟨allowed rfl, fun found _ => ?_, fun _ _ => trivial⟩
      cases found with
      | some n =>
        refine executeAdapter_keeps ?_ fun _ => ⟨n, List.mem_cons_self⟩
        intro v hv
        simp only [List.mem_cons, List.not_mem_nil, or_false] at hv
        rcases hv with rfl | rfl <;> rfl
      | none =>
        simp only [Prog.wp_bind, Prog.wp_ask]
        refine ⟨allowed rfl, fun found _ => ?_, fun _ _ => trivial⟩
        cases found with
        | some cancelled => trivial
        | none =>
          refine ⟨allowed rfl, ?_⟩
          rintro (_ | _) _ <;> trivial
  · rename_i htarget
    split
    · trivial
    · exact executeAdapter_keeps (by simp) fun h => absurd h htarget

theorem obeys (j : Job) : System.Obeys promise j j.coroutine [] := by
  cases j with
  | executeCommand targets r =>
    simp only [System.Obeys, Job.coroutine, Prog.wp_discard]
    exact executeCommand_keeps targets
  | recordCallPreDispatchRejection r =>
    simp only [System.Obeys, Job.coroutine, Prog.wp_discard]
    exact recordCallPreDispatchRejection_keeps
  | submit r | transition t | reconcile r =>
    simp only [System.Obeys, Job.coroutine, Prog.wp_discard, ask, Prog.wp_ask]
    exact ⟨allowed rfl, fun _ _ => trivial, fun _ _ => trivial⟩

end Promise

/-! ## Runs -/

variable (jsonb : Obj → Option Obj)

theorem sound : (activities jsonb).Sound Running promise.rely where
  keeps i op s hs := running_kept (exec_effect jsonb i op s) hs
  answers _ _ _ _ := trivial

theorem run_good (actions : List Step) :
    (activities jsonb).Good Running promise {} (run jsonb actions) := by
  refine System.run_good (sound jsonb) obeys ?_ actions
  intro k hk
  cases hk

/-- An execution of the command by a process that claimed the attempt `n`. -/
def Executes (older : List LogEntry) (e : LogEntry) (k : Key) (n : Nat) : Prop :=
  ∃ r, e.op = .execute r ∧ r.command.target = callTarget ∧ r.key = k ∧ ⟨.claim r, .ok (some n)⟩ ∈ hist older e.pid

/-- A rejection that cancelled the command. -/
def Rejects (e : LogEntry) (k : Key) : Prop :=
  (∃ r, e.op = .reject r ∧ r.key = k) ∧ e.after ≠ e.before

/-- No live process holds a claim of an attempt of the command and has yet to call the adapter. -/
def Idle (w : Run) (k : Key) : Prop :=
  ∀ pid p r n, w.procs[pid]? = some p → p.alive = true → ⟨.claim r, .ok (some n)⟩ ∈ hist w.log pid → r.key = k →
    ∃ v ∈ hist w.log pid, v.op.isExecute = true

/-- A rejection that would cancel its command runs and commits only while no execution of the command is idle. -/
def Orderly (jsonb : Obj → Option Obj) (actions : List Step) : Prop :=
  ∀ before i pid after job r kont, actions = before ++ .resume pid i :: after →
    (run jsonb before).procs[pid]? = some ⟨job, .call (.reject r) kont, true⟩ → Commits i →
    Rejectable (run jsonb before).shared r.key → Idle (run jsonb before) r.key

variable {r : CommandExecutionRequest}

section Runs

variable {jsonb : Obj → Option Obj} {jobs : List Job} {log newer older : List LogEntry} {e : LogEntry} {s : Tables} {k : Key}

abbrev Legal (jsonb : Obj → Option Obj) (jobs : List Job) (log : List LogEntry) (s : Tables) : Prop :=
  (activities jsonb).Legal Running promise {} jobs log s

theorem legal_exec (hl : Legal jsonb jobs log s) (he : e ∈ log) :
    Running e.before ∧ ∃ i, exec jsonb i e.op e.before = (e.reply, e.after) := by
  obtain ⟨newer, older, rfl⟩ := List.append_of_mem he
  exact ⟨(hl.lawful newer e older rfl).inv, (hl.lawful newer e older rfl).exec⟩

theorem legal_effect (hl : Legal jsonb jobs log s) (he : e ∈ log) (k : Key) : Effect k e.before e.after := by
  obtain ⟨-, i, hi⟩ := legal_exec hl he
  have h := exec_effect jsonb i e.op e.before k
  rwa [hi] at h

theorem claim_entry (hl : Legal jsonb jobs log s) {pid : Nat} {n : Nat}
    (hv : ⟨.claim r, .ok (some n)⟩ ∈ hist log pid) :
    ∃ newer : List LogEntry, ∃ c, ∃ older : List LogEntry, log = newer ++ c :: older ∧ c.pid = pid ∧ c.op.isExecute = false ∧ ¬Spent c.before r.key n ∧
      Spent c.after r.key n ∧ ∃ a, c.before.newestAttempt r.key = some a ∧ a.state = .dispatching := by
  obtain ⟨newer, c, older, rfl, hpid, hev, -⟩ := hl.of_hist hv
  obtain ⟨-, i, hi⟩ := legal_exec hl (e := c) (by simp)
  have hans : ¬Spent c.before r.key n ∧ Spent c.after r.key n ∧
      ∃ a, c.before.newestAttempt r.key = some a ∧ a.state = .dispatching := by
    obtain ⟨⟨op, reply⟩, pid', before, after⟩ := c
    cases hev
    exact claim_answer hi
  refine ⟨newer, c, older, rfl, hpid, ?_, hans⟩
  have hop : c.op = .claim r := congrArg Ev.op hev
  rw [hop]
  rfl

theorem distinct_executions (hl : Legal jsonb jobs log s) {mid : List LogEntry} {e₁ e₂ : LogEntry} {n₁ n₂ : Nat}
    (hlog : log = newer ++ e₂ :: (mid ++ e₁ :: older)) (h₁ : Executes older e₁ k n₁)
    (h₂ : Executes (mid ++ e₁ :: older) e₂ k n₂) : n₁ ≠ n₂ := by
  rintro rfl
  subst hlog
  obtain ⟨r₁, hop₁, -, rfl, hc₁⟩ := h₁
  obtain ⟨r₂, hop₂, -, hk, hc₂⟩ := h₂
  obtain ⟨hlaw, hl'⟩ := hl.split
  obtain ⟨j, -, hG⟩ := hlaw.job
  have hfirst := (hG r₂ hop₂).1
  have hne : e₁.pid ≠ e₂.pid := by
    intro hpid
    have := hfirst e₁.toEv (mem_hist.2 ⟨e₁, by simp, hpid, rfl⟩)
    rw [hop₁] at this
    cases this
  -- two claims of one attempt, at two places of the log
  obtain ⟨l₁, c₂, o₂, hsplit₂, hp₂, -, hn₂, hs₂, -⟩ := claim_entry hl' hc₂
  obtain ⟨m₁, c₁, o₁, hsplit₁, hp₁, -, hn₁, hs₁, -⟩ := claim_entry hl'.split.2 hc₁
  rw [hk] at hn₂ hs₂
  have hkeep : ∀ {newer older : List LogEntry} {c : LogEntry} {s : Tables}, Legal jsonb jobs (newer ++ c :: older) s →
      Spent c.after r₁.key n₁ → ∀ e ∈ newer, Spent e.before r₁.key n₁ := by
    intro newer older c s hl hspent e he
    have hstays := System.Chain.stays (P := fun s => Spent s r₁.key n₁) (System.Chain.split hl.chain).1 hspent fun e' he' hb =>
      (legal_effect hl (List.mem_append_left _ he') r₁.key).spent hb
    exact (hstays.2 e he).1
  have heq : (mid ++ e₁ :: m₁) ++ c₁ :: o₁ = l₁ ++ c₂ :: o₂ := by rw [← hsplit₂, hsplit₁]; simp
  have hlc₁ : Legal jsonb jobs ((mid ++ e₁ :: m₁) ++ c₁ :: o₁) e₂.before := by rw [heq, ← hsplit₂]; exact hl'
  rcases split_cases heq with ⟨c, hc, rfl⟩ | ⟨-, rfl, -⟩ | ⟨c, rfl, rfl⟩
  · exact hn₂ (hkeep hlc₁ hs₁ c₂ (by rw [hc]; simp))
  · exact hne (hp₁.symm.trans hp₂)
  · have hlc₂ : Legal jsonb jobs (((mid ++ e₁ :: m₁) ++ c₁ :: c) ++ c₂ :: o₂) e₂.before := by simpa using hlc₁
    exact hn₁ (hkeep hlc₂ hs₂ c₁ (by simp))

theorem frozen_after (hl : Legal jsonb jobs (newer ++ e :: older) s) (hr : Rejected e.after k) :
    ∀ e' ∈ newer, Rejected e'.before k ∧ ledgerOf e'.after k = ledgerOf e.after k := by
  have hstays := System.Chain.stays (P := fun s => Rejected s k ∧ ledgerOf s k = ledgerOf e.after k)
    (System.Chain.split hl.chain).1 ⟨hr, rfl⟩ fun e' he' hb =>
      have hl' := (legal_effect hl (List.mem_append_left _ he') k).frozen hb.1
      ⟨hb.1.of_ledger hl', hl'.trans hb.2⟩
  exact fun e' he' => ⟨(hstays.2 e' he').1.1, (hstays.2 e' he').2.2⟩

theorem rejects_rejected (hl : Legal jsonb jobs log s) (he : e ∈ log) (hr : Rejects e k) :
    Rejectable e.before k ∧ Rejected e.after k := by
  obtain ⟨⟨r, hop, rfl⟩, hne⟩ := hr
  obtain ⟨-, i, hi⟩ := legal_exec hl he
  obtain ⟨⟨op, reply⟩, pid, before, after⟩ := e
  cases hop
  rcases reject_cases hi with h | ⟨-, h⟩
  · exact absurd h hne
  · exact h

theorem reject_idempotent (hl : Legal jsonb jobs log s) (he : e ∈ log) (hop : e.op = .reject r)
    (hr : Rejected e.before r.key) : e.after = e.before := by
  by_contra hne
  obtain ⟨⟨row, a, hrow, -, hst, -⟩, -⟩ := rejects_rejected hl he ⟨⟨r, hop, rfl⟩, hne⟩
  have hc := hr.1
  rw [stateOf, hrow, Option.map_some, hst] at hc
  cases hc

theorem claim_before {mid rest : List LogEntry} {q : LogEntry} {pid : Nat} {n : Nat}
    (hl : Legal jsonb jobs (mid ++ q :: rest) s) (hq : Rejects q r.key)
    (hclaim : ⟨.claim r, .ok (some n)⟩ ∈ hist (mid ++ q :: rest) pid) : ⟨.claim r, .ok (some n)⟩ ∈ hist rest pid := by
  obtain ⟨c, hc, hpid, hev⟩ := mem_hist.1 hclaim
  have hopc : c.op = .claim r := congrArg Ev.op hev
  rcases List.mem_append.1 hc with hmid | htail
  · obtain ⟨-, i, hi⟩ := legal_exec hl hc
    have hans : ∃ a, c.before.newestAttempt r.key = some a ∧ a.state = .dispatching := by
      obtain ⟨⟨op, reply⟩, pid', before, after⟩ := c
      cases hev
      exact (claim_answer hi).2.2
    obtain ⟨-, a, ha, hrej⟩ := (frozen_after hl (rejects_rejected hl (by simp) hq).2 c hmid).1
    obtain ⟨a', ha', hrun⟩ := hans
    cases ha.symm.trans ha'
    simp [AttemptRow.rejected, hrun] at hrej
  · rcases List.mem_cons.1 htail with rfl | hrest
    · obtain ⟨⟨rq, hop, -⟩, -⟩ := hq
      rw [hop] at hopc
      cases hopc
    · exact mem_hist.2 ⟨c, hrest, hpid, hev⟩

theorem not_after_rejection {actions : List Step} (orderly : Orderly jsonb actions)
    (hlog : (run jsonb actions).log = newer ++ e :: older) (hop : e.op = .execute r) (htarget : r.command.target = callTarget) :
    ∀ q ∈ older, ¬Rejects q r.key := by
  intro q hq hrej
  obtain ⟨mid, rest, rfl⟩ := List.append_of_mem hq
  have hl := (run_good jsonb actions).legal
  rw [hlog] at hl
  obtain ⟨hlaw, hl'⟩ := hl.split
  obtain ⟨j, -, hG⟩ := hlaw.job
  obtain ⟨hfirst, hclaims⟩ := hG r hop
  obtain ⟨n, hclaim⟩ := hclaims htarget
  have hbefore := claim_before hl' hrej hclaim
  obtain ⟨hrejectable, -⟩ := rejects_rejected hl' hq hrej
  obtain ⟨⟨rq, hopq, hkq⟩, hne⟩ := hrej
  -- the pool at the rejection
  have hlog' : ((activities jsonb).run ⟨{}, [], []⟩ actions).log = (newer ++ e :: mid) ++ q :: rest := by
    rw [← run, hlog]
    simp
  obtain ⟨before, i, after, job, kont, rfl, hrest, hshared, hproc, hexec⟩ :=
    (activities jsonb).run_origin (e := q) rfl hlog' (Nat.zero_le _)
  obtain ⟨⟨op, reply⟩, pid, qb, qa⟩ := q
  cases hopq
  have hcommits : Commits i := by
    have hexec' : exec jsonb i (.reject rq) qb = (reply, qa) := hexec
    rcases reject_cases hexec' with h | ⟨h, -⟩
    · exact absurd h hne
    · exact h
  have hidle : Idle (run jsonb before) rq.key := by
    apply orderly before i pid after job rq kont rfl hproc hcommits
    rw [run, hshared, hkq]
    exact hrejectable
  have hclaimed : ⟨.claim r, .ok (some n)⟩ ∈ hist (run jsonb before).log e.pid := by
    rw [run, hrest]
    exact hbefore
  obtain ⟨p, hp⟩ : ∃ p, (run jsonb before).procs[e.pid]? = some p := by
    rw [← Option.isSome_iff_exists, isSome_getElem?]
    by_contra hge
    rw [(run_good jsonb before).legal.hist_fresh (by simpa using hge)] at hclaimed
    cases hclaimed
  -- the process that is to call the adapter is alive
  have halive : p.alive = true := by
    apply (activities jsonb).alive_of_later hp (.resume pid i :: after)
    have hle := (hist_suffix (List.suffix_cons ⟨⟨.reject rq, reply⟩, pid, qb, qa⟩ rest) e.pid).length_le
    rw [run, ← System.run_append, hlog', hrest, hist_append, hist_append, hist_cons_self]
    simp only [List.length_append, List.length_cons]
    omega
  obtain ⟨v, hv, hexecuted⟩ := hidle e.pid p r n hp halive hclaimed hkq.symm
  have hv' : v ∈ hist (mid ++ ⟨⟨.reject rq, reply⟩, pid, qb, qa⟩ :: rest) e.pid := by
    rw [run, hrest] at hv
    apply (hist_suffix _ e.pid).subset hv
    exact (List.suffix_cons _ rest).trans (List.suffix_append mid _)
  rw [hfirst v hv'] at hexecuted
  cases hexecuted

/-! ## Calls are sent once -/

/-- What the claims of attempts ensure of a run's calls. -/
structure SentOnce (log : List LogEntry) : Prop where
  /-- A process calls the adapter with an attempt that it claimed. -/
  claimed : ∀ (newer : List LogEntry) e (older : List LogEntry) r,
    log = newer ++ e :: older → e.op = .execute r → r.command.target = callTarget →
    ∃ n, Executes older e r.key n
  /-- No two calls of the adapter have the same attempt. -/
  distinct : ∀ (newer : List LogEntry) e₂ (mid : List LogEntry) e₁ (older : List LogEntry) k n₁ n₂,
    log = newer ++ e₂ :: (mid ++ e₁ :: older) → Executes older e₁ k n₁ →
    Executes (mid ++ e₁ :: older) e₂ k n₂ → n₁ ≠ n₂
  /-- A rejection changes nothing unless the newest attempt is a claimed dispatching one. -/
  owned : ∀ e ∈ log, ∀ r, e.op = .reject r → e.after ≠ e.before →
    ∃ a, e.before.newestAttempt r.key = some a ∧ a.state = .dispatching ∧ isDispatchClaim a.resultPayload = true
  /-- The first rejection is the last change of the command, and another one changes nothing at all. -/
  final : ∀ (newer : List LogEntry) q (older : List LogEntry) k, log = newer ++ q :: older → Rejects q k → ∀ e ∈ newer,
    ledgerOf e.after k = ledgerOf q.after k ∧ ∀ r, e.op = .reject r → r.key = k → e.after = e.before

/-- The adapter is not called for a command that was cancelled by a rejection. -/
def NoneAfterRejection (log : List LogEntry) : Prop :=
  ∀ newer e older r, log = newer ++ e :: older → e.op = .execute r → r.command.target = callTarget →
    ∀ q ∈ older, ¬Rejects q r.key

theorem sentOnce (hl : Legal jsonb jobs log s) : SentOnce log := by
  constructor
  · rintro newer e older r rfl hop htarget
    obtain ⟨j, -, hG⟩ := (hl.lawful newer e older rfl).job
    obtain ⟨n, hclaim⟩ := (hG r hop).2 htarget
    exact ⟨n, r, hop, htarget, rfl, hclaim⟩
  · intro newer e₂ mid e₁ older k n₁ n₂ hlog h₁ h₂
    exact distinct_executions hl hlog h₁ h₂
  · intro e he r hop hne
    obtain ⟨⟨row, a, hrow, ha, hst, hclaim⟩, -⟩ := rejects_rejected hl he ⟨⟨r, hop, rfl⟩, hne⟩
    obtain ⟨a', ha', hrun⟩ := (legal_exec hl he).1 r.key (by rw [stateOf, hrow, Option.map_some, hst])
    cases ha.symm.trans ha'
    exact ⟨a, ha, hrun, hclaim⟩
  · rintro newer q older k rfl hq e he
    obtain ⟨hrej, hledger⟩ := frozen_after hl (rejects_rejected hl (by simp) hq).2 e he
    refine ⟨hledger, fun r hop hk => ?_⟩
    subst hk
    exact reject_idempotent hl (List.mem_append_left _ he) hop hrej

/-- Whatever the interleaving, the crashes and the answers, an attempt of a call is sent at most once and a rejection is
final; in an orderly run no call is sent after its rejection. -/
theorem calls_sent_once (jsonb : Obj → Option Obj) (actions : List Step) :
    SentOnce (run jsonb actions).log ∧ (Orderly jsonb actions → NoneAfterRejection (run jsonb actions).log) := by
  constructor
  · exact sentOnce (run_good jsonb actions).legal
  · intro orderly newer e older r hlog hop htarget
    exact not_after_rejection orderly hlog hop htarget

end Runs

/-! ## A call sent after its cancellation -/

namespace TwoWorkers

def request : CommandExecutionRequest where
  command :=
    { commandId := "7d0f", commandType := originate, commandVersion := "1", target := callTarget, tenantId := "T",
      requestedBy := "ops", correlationId := "c", idempotencyKey := "k", capability := "calls", payload := [] }
  authenticatedClientId := "client"

def now : Input := { now := 0 }

def submission : Submission := { command := request.command, authenticatedClientId := request.authenticatedClientId }

def submit : List Step := [.spawn (.submit submission) now, .resume 0 now]

/-- The process `pid` moves the command. -/
def move (pid : Nat) (newState : CommandState) : List Step :=
  [.spawn (.transition
      { tenantId := "T", commandId := "7d0f", newState := newState, actorId := "dispatcher", reason := "step" }) now,
    .resume pid now]

/-- The process `pid` loads the command and claims the newest attempt. -/
def claim (pid : Nat) : List Step :=
  [.spawn (.executeCommand [callTarget] request) now, .resume pid now, .resume pid now]

/-- The adapter refuses before it sends anything, and the refusal is persisted. -/
def refused (pid : Nat) : List Step :=
  [.resume pid now, .resume pid { now := 0, executed := .error .preDispatchRejected }, .resume pid now, .resume pid now]

/-- Two workers hold the claims of two attempts; the first is refused by the adapter and cancels the command, and the second
calls the adapter after that. -/
def later : List Step :=
  move 1 .queued ++ move 2 .dispatching ++ claim 3 ++ move 4 .failed ++ move 5 .queued ++ move 6 .dispatching ++ claim 7 ++
    refused 3 ++ [.resume 7 now]

def actions : List Step := submit ++ later

def executes : Call → Option CommandExecutionRequest
  | .execute r => some r
  | _ => none

def rejects : Call → Option CommandExecutionRequest
  | .reject r => some r
  | _ => none

def isRequest : CommandExecutionRequest → Bool
  | ⟨⟨id, type, version, target, tenant, by', correlation, key, capability, []⟩, client, false⟩ =>
    decide ([id, type, version, target, tenant, by', correlation, key, capability, client] =
      ["7d0f", originate, "1", callTarget, "T", "ops", "c", "k", "calls", "client"])
  | _ => false

theorem isRequest_eq (h : isRequest r = true) : r = request := by
  unfold isRequest at h
  split at h
  · simp only [List.cons.injEq, and_true, decide_eq_true_eq] at h
    obtain ⟨rfl, rfl, rfl, rfl, rfl, rfl, rfl, rfl, rfl, rfl⟩ := h
    rfl
  · cases h

/-- The calls with the load of the stored request answered at once: its digest is not computed again. -/
def loaded (i : Input) (op : Call) (s : Tables) : Except Failure op.Answer × Tables :=
  match op with
  | .load r => if isRequest r then i.transaction (fun s => (.ok (), s)) s else exec some i (.load r) s
  | op => exec some i op s

theorem loaded_agrees : (activities some).Agrees loaded (Intact request) := by
  intro i op s hs
  refine ⟨?_, exec_intact some i op hs⟩
  cases op with
  | load r =>
    show (if isRequest r then _ else _) = _
    split
    · rename_i hr
      rw [isRequest_eq hr]
      have hload := load_intact hs (by simp [request]) rfl
      show _ = i.transaction (fun s => (loadDurableExecutionRequest request s, s)) s
      unfold Input.transaction
      simp only [hload]
    · rfl
  | _ => rfl

theorem submitted_intact : Intact request (run some submit).shared := by
  have hone : (run some submit).shared.commands.length = 1 := by decide +kernel
  have hshared : (run some submit).shared = (PostgresCommandStore.submit submission none 0 {}).2 := rfl
  rw [hshared] at hone ⊢
  rcases submit_cases_rows submission none 0 {} with h | ⟨outbox, -, h⟩
  · rw [h] at hone
    cases hone
  · rw [h]
    refine ⟨PostgresCommandStore.submittedRow submission 0, ?_, rfl, ?_⟩
    · simp [Tables.command, CommandRow.key, PostgresCommandStore.submittedRow, submission]
    · simp only [PostgresCommandStore.submittedRow, submission]

end TwoWorkers

/-- The call of the second worker comes right after the rejection that cancelled the command. -/
theorem sent_after_cancellation : ¬ NoneAfterRejection (run some TwoWorkers.actions).log := by
  intro h
  have hrun : run some TwoWorkers.actions =
      System.run { activities some with exec := TwoWorkers.loaded } (run some TwoWorkers.submit) TwoWorkers.later := by
    rw [System.run_congr TwoWorkers.loaded_agrees TwoWorkers.submitted_intact]
    exact (activities some).run_append ⟨{}, [], []⟩ TwoWorkers.submit TwoWorkers.later
  have hview : ((run some TwoWorkers.actions).log.take 2).map
      (fun e => ((TwoWorkers.executes e.op).map fun r => (r.command.target, r.key),
        (TwoWorkers.rejects e.op).map (·.key), stateOf e.before ("T", "7d0f"), stateOf e.after ("T", "7d0f"))) =
      [(some (callTarget, ("T", "7d0f")), none, some .cancelled, some .cancelled),
        (none, some ("T", "7d0f"), some .dispatching, some .cancelled)] := by
    rw [hrun]
    decide +kernel
  match hlog : (run some TwoWorkers.actions).log with
  | [] | [_] =>
    rw [hlog] at hview
    simp at hview
  | ⟨⟨op, _⟩, _, _, _⟩ :: q :: older =>
    rw [hlog] at hview
    simp only [List.take_succ_cons, List.take_zero, List.map_cons, List.map_nil, List.cons.injEq, Prod.mk.injEq, and_true] at hview
    obtain ⟨⟨hexec, -⟩, -, hrej, hbefore, hafter⟩ := hview
    cases op with
    | execute r =>
      simp only [TwoWorkers.executes, Option.map_some, Option.some.injEq, Prod.mk.injEq] at hexec
      have hkey : r.key = ("T", "7d0f") := Prod.ext hexec.2.1 hexec.2.2
      refine h [] _ _ r hlog rfl hexec.1 q List.mem_cons_self ⟨?_, fun heq => ?_⟩
      · obtain ⟨⟨op, _⟩, _, _, _⟩ := q
        cases op with
        | reject rq => exact ⟨rq, rfl, (Option.some.inj hrej).trans hkey.symm⟩
        | _ => simp [TwoWorkers.rejects] at hrej
      · rw [heq, hbefore] at hafter
        cases hafter
    | _ => simp [TwoWorkers.executes] at hexec

end Middleware.Temporal

/-
One execution per attempt number. A worker learns the number of the attempt it opened by asking for the
newest one afterwards, so the number is its own only when nobody opened another attempt in between
(`Undisturbed`). In every such run no two executions of a command carry the same number, and a write
that closes or advances an attempt succeeds only for the attempt its worker opened, or, when the worker
recovers a running command and opened none, for the attempt that was the newest when it looked.
-/
import Middleware.Platform.Log

namespace Middleware.Platform

open Ledger Lib

/-! ## The properties -/

/-- No two executions of the command carry the same attempt number. -/
def DistinctAttempts (log : Log) (k : Key) : Prop :=
  ∀ newer e₂ mid e₁ older a₁ c₁ x₁ a₂ c₂ x₂, log = newer ++ e₂ :: (mid ++ e₁ :: older) →
    e₁.op = .execute a₁ c₁ x₁ → e₂.op = .execute a₂ c₂ x₂ → (x₁.tenantId, x₁.commandId) = k →
    (x₂.tenantId, x₂.commandId) = k → x₁.attempt ≠ x₂.attempt

/-- The process opened the attempt `n` of the command itself. -/
def OwnNumber (k : Key) (older : Log) (pid : Nat) (n : Int) : Prop :=
  ∃ o ∈ older, o.pid = pid ∧ ∃ v v', Wrote o k v v' ∧ v.state = .queued ∧ v'.state = .dispatching ∧
    (v'.attempts : Int) = n

/-- The process opened no attempt: it read the command as running, and `n` was the newest attempt when it
looked. -/
def Recovers (k : Key) (older : Log) (pid : Nat) (n : Int) : Prop :=
  (∀ o ∈ older, o.pid = pid → ¬ Opens o k) ∧
  (∃ g ∈ older, g.pid = pid ∧ ∃ o, reads g.toEv = some o ∧
    o.state ∈ [CommandState.dispatching, .accepted, .readbackPending]) ∧
  ∃ z ∈ older, z.pid = pid ∧ ∃ v, view z.before k = some v ∧ tokenOf z.toEv = some v.attempts ∧ (v.attempts : Int) = n

/-- A worker's finalizing write that succeeds is one `P` allows. -/
def FinalizesOnly (P : Log → Nat → Int → Prop) (jobs : List Job) (log : Log) (k : Key) : Prop :=
  ∀ newer e older t n j, log = newer ++ e :: older → jobs[e.pid]? = some j → j.worker = true →
    e.op = .transition t → e.ok = true → t.key = k → t.expectedAttempt = some n →
    t.newState ∈ [CommandState.accepted, .failed, .reconciliationRequired, .completed] → P older e.pid n

/-- Nobody opens an attempt of the command between a worker's own opening and its reading of the number. -/
def Undisturbed (log : Log) (k : Key) : Prop :=
  ∀ newer z mid o older, log = newer ++ z :: (mid ++ o :: older) → z.pid = o.pid → (tokenOf z.toEv).isSome = true →
    Opens o k → ∀ y ∈ mid, ¬ Opens y k

/-! ## Every undisturbed run -/

section Proof

variable {jobs : List Job} {s : MemoryCommandStore} {k : Key} {newer older : Log} {e : LogEntry} {j : Job} {n : Nat}

theorem own_number (hl : Legal jobs (newer ++ e :: older) s) (hu : Undisturbed (newer ++ e :: older) k)
    (hj : jobs[e.pid]? = some j) (hs : j.scope (hist older e.pid) = some k)
    (ho : (track (hist older e.pid)).opened = true) (ht : (track (hist older e.pid)).token = some n) :
    ∃ mid o rest v v', older = mid ++ o :: rest ∧ o.pid = e.pid ∧ Wrote o k v v' ∧ v.state = .queued ∧
      v'.state = .dispatching ∧ v'.attempts = n := by
  obtain ⟨h₁, w, h₂, hh, hz, hno⟩ := token_split ht
  rw [track_opened, hh, List.any_append, List.any_cons] at ho
  have hz' : opens w = false := by
    obtain ⟨t, c, rfl⟩ := tokenOf_eq hz
    rfl
  have h₁' : h₁.any opens = false := List.any_eq_false.2 fun u hu => by simp [hno u hu]
  rw [h₁', hz', Bool.false_or, Bool.false_or, List.any_eq_true] at ho
  obtain ⟨u, hu', huo⟩ := ho
  obtain ⟨h₃, h₄, rfl⟩ := List.append_of_mem hu'
  obtain ⟨l₁, z, l₂, rfl, hzp, rfl, -, hl₂⟩ := hist_split hh
  obtain ⟨mid, o, rest, rfl, hop, rfl, -, -⟩ := hist_split hl₂
  have hopens : Opens o k := own_opening
    (show Legal jobs (newer ++ e :: ((l₁ ++ z :: mid) ++ o :: rest)) s by simpa using hl) hop hj (by simpa using hs) huo
  have hquiet := hu (newer ++ e :: l₁) z mid o rest (by simp) (hzp.trans hop.symm) (by rw [hz]; rfl) hopens
  obtain ⟨-, v, v', -, -, -, -, hw, hq, hd, -⟩ := hopens.transition
  obtain ⟨u, hu, hn, -⟩ := token_read hl hzp hj hs hz
  have hst : Stretch o.after mid z.before := (legal_stretch hl.split.2.split.2).split.1
  refine ⟨l₁ ++ z :: mid, o, rest, v, v', by simp, hop, hw, hq, hd, ?_⟩
  rw [← hn]
  exact (hst.attempts_eq hw.after hu hquiet).symm

theorem distinct_attempts {log : Log} (hl : Legal jobs log s) (hu : Undisturbed log k) : DistinctAttempts log k := by
  rintro newer e₂ mid e₁ older a₁ c₁ x₁ a₂ c₂ x₂ rfl hop₁ hop₂ hk₁ hk₂ hn
  have hl₁ : Legal jobs ((newer ++ e₂ :: mid) ++ e₁ :: older) s := by simpa using hl
  obtain ⟨-, -, j₁, hj₁, hG₁⟩ := legal_entry hl₁
  obtain ⟨-, -, j₂, hj₂, hG₂⟩ := legal_entry hl
  rw [hop₁] at hG₁
  rw [hop₂] at hG₂
  obtain ⟨-, hs₁, ho₁, ht₁, -⟩ := execute_by hG₁
  obtain ⟨-, hs₂, ho₂, ht₂, hx₂⟩ := execute_by hG₂
  rw [hk₁] at hs₁
  rw [hk₂] at hs₂
  obtain ⟨m₁, o₁, r₁, v₁, v₁', hm₁, hp₁, hw₁, -, hd₁, hn₁⟩ := own_number hl₁ (by simpa using hu) hj₁ hs₁ ho₁ ht₁
  obtain ⟨m₂, o₂, r₂, v₂, v₂', hm₂, hp₂, hw₂, -, hd₂, hn₂⟩ := own_number hl hu hj₂ hs₂ ho₂ ht₂
  have hst := legal_stretch hl.split.2
  have heq : (mid ++ e₁ :: m₁) ++ o₁ :: r₁ = m₂ ++ o₂ :: r₂ := by rw [← hm₂, hm₁]; simp
  rcases split_cases heq with ⟨c, hc, rfl⟩ | ⟨-, rfl, -⟩ | ⟨c, rfl, rfl⟩
  · rw [hm₂] at hst
    have := hst.opens_later hw₁ hw₂ hd₂
    omega
  · -- one opening, so one worker, which executes once
    rw [track_executed, List.any_eq_false] at hx₂
    refine hx₂ e₁.toEv (mem_hist.2 ⟨e₁, by simp, hp₁.symm.trans hp₂, rfl⟩) ?_
    have hok := (legal_entry hl₁).2.1
    obtain ⟨⟨c, reply⟩, pid, _, _⟩ := e₁
    cases hop₁
    obtain ⟨i, hok⟩ := hok
    cases hok
    rfl
  · rw [hm₁] at hst
    have hst' : Stretch {} ((mid ++ e₁ :: m₁) ++ o₁ :: (c ++ o₂ :: r₂)) e₂.before := by simpa using hst
    have := hst'.opens_later hw₂ hw₁ hd₁
    omega

theorem finalizes_only {log : Log} (hl : Legal jobs log s) (hu : Undisturbed log k) :
    FinalizesOnly (fun older pid n => OwnNumber k older pid n ∨ Recovers k older pid n) jobs log k := by
  rintro newer e older t n j rfl hj hwk hop hok rfl hexp hst
  obtain ⟨-, -, j', hj', hG⟩ := legal_entry hl
  cases hj.symm.trans hj'
  rw [hop] at hG
  rcases transition_by hG with ⟨-, hs, hb⟩ | ⟨r, rfl, -⟩
  swap
  · cases hwk
  have hfin : ∃ m : Nat, n = m ∧ Fenced (track (hist older e.pid)) m := by
    have hcases : Finalizes (track (hist older e.pid)) t := by
      simp only [List.mem_cons, List.not_mem_nil, or_false] at hst
      rcases hst with h | h | h | h <;> simp only [busTransition, h] at hb
      · exact hb
      · rcases hb with hb | ⟨-, hb⟩
        · exact hb
        · rw [hexp] at hb; cases hb
      · exact hb
      · exact hb.1
    obtain ⟨m, hm, hf⟩ := hcases
    exact ⟨m, Option.some.inj (hexp.symm.trans hm), hf⟩
  obtain ⟨m, rfl, htok, hown⟩ := hfin
  rcases hown with ho | ⟨ho, o, hread, hrun⟩
  · obtain ⟨mid, o, rest, v, v', rfl, hp, hw, hq, hd, hn⟩ := own_number hl hu hj hs ho htok
    exact .inl ⟨o, by simp, hp, v, v', hw, hq, hd, by rw [hn]⟩
  · refine .inr ⟨fun x hx hp hopens => ?_, ?_, ?_⟩
    · obtain ⟨-, -, -, -, -, -, hx', -⟩ := hopens.transition
      rw [track_opened, List.any_eq_false] at ho
      exact ho x.toEv (mem_hist.2 ⟨x, hx, hp, rfl⟩) hx'
    · rw [track_read] at hread
      obtain ⟨u, hu', huo⟩ := List.exists_of_findSome?_eq_some hread
      obtain ⟨g, hg, hgp, rfl⟩ := mem_hist.1 hu'
      exact ⟨g, hg, hgp, o, huo, hrun⟩
    · obtain ⟨h₁, w, h₂, hh, hz, -⟩ := token_split htok
      obtain ⟨mid, z, rest, rfl, hzp, rfl, -, -⟩ := hist_split hh
      obtain ⟨v, hv, hn, -⟩ := token_read hl hzp hj hs hz
      exact ⟨z, by simp, hzp, v, hv, by rw [hz, hn], by rw [hn]⟩

/-- In every undisturbed run no two executions of a command carry one number, and a finalizing write
succeeds for the attempt its worker opened or, in recovery, for the newest one it found. -/
theorem one_execute_per_attempt (actions : List Step) (k : Key) (undisturbed : Undisturbed (run actions).log k) :
    DistinctAttempts (run actions).log k ∧
      FinalizesOnly (fun older pid n => OwnNumber k older pid n ∨ Recovers k older pid n)
        (run actions).jobs (run actions).log k :=
  ⟨distinct_attempts (run_legal actions) undisturbed, finalizes_only (run_legal actions) undisturbed⟩

end Proof

/-! ## Three runs -/

/-- A log with one opening is undisturbed. -/
theorem undisturbed_of_single {log : Log} {k : Key} (h : log.countP (fun e => opens e.toEv) ≤ 1) :
    Undisturbed log k := by
  rintro newer z mid o older rfl hp hz ho y hy hyo
  obtain ⟨-, -, -, -, -, -, ho, -⟩ := ho.transition
  obtain ⟨-, -, -, -, -, -, hyo, -⟩ := hyo.transition
  obtain ⟨m₁, m₂, rfl⟩ := List.append_of_mem hy
  simp only [List.countP_append, List.countP_cons, ho, hyo, if_true] at h
  omega

def executesAttempt (e : LogEntry) : Option (Key × Nat) :=
  match e.op with
  | .execute _ _ x => some ((x.tenantId, x.commandId), x.attempt)
  | _ => none

/-- An acceptance of attempt `n`. -/
def acceptsAttempt (k : Key) (n : Nat) (e : LogEntry) : Bool :=
  match e.op with
  | .transition t => t.key == k && t.newState == .accepted && t.expectedAttempt == some n
  | _ => false

theorem executesAttempt_eq {e : LogEntry} {k : Key} {n : Nat} (h : executesAttempt e = some (k, n)) :
    ∃ a c x, e.op = .execute a c x ∧ (x.tenantId, x.commandId) = k ∧ x.attempt = n := by
  unfold executesAttempt at h
  split at h
  · rename_i a c x hop
    cases h
    exact ⟨a, c, x, hop, rfl, rfl⟩
  · cases h

namespace Synthetic

/-- Worker `a` opens an attempt and is suspended before it asks for the number. An operator sends the
command to reconciliation, the reconciler finds no effect and requeues it, and worker `b` opens and
executes the second attempt. Then `a` goes on, is told 2, and executes as attempt 2 too. -/
def lateNumber : List Step :=
  [start submit] ++ drive 0 input 2 ++ [start (dispatch "a")] ++ drive 1 input 5 ++ [start (operator .reconcile 1)] ++
    drive 2 input 1 ++ [start reconciler] ++ drive 3 { input with readback := .ok { status := .notFound } } 8 ++
    [start (dispatch "b")] ++ drive 4 input 6 ++ drive 1 input 2

/-- Worker `a` dies in its execution; worker `b` finds the command running and finishes the attempt. -/
def recovery : List Step :=
  [start submit] ++ drive 0 input 2 ++ [start (dispatch "a")] ++ drive 1 input 7 ++
    [.kill 1, start (dispatch "b")] ++ drive 2 input 7

end Synthetic

/-- Without the condition a number is executed twice, and in recovery a worker accepts an attempt that it did
not open. -/
theorem shared_number_and_recovery :
    ¬ DistinctAttempts (run Synthetic.lateNumber).log Synthetic.key ∧
      ¬ FinalizesOnly (OwnNumber Synthetic.key) (run Synthetic.recovery).jobs (run Synthetic.recovery).log
        Synthetic.key := by
  refine ⟨fun h => ?_, fun h => ?_⟩
  · -- the two executions are the entries 0 and 3 of the log
    have hcheck : ((run Synthetic.lateNumber).log[0]?.bind executesAttempt) = some (Synthetic.key, 2) ∧
        ((run Synthetic.lateNumber).log[0 + 1 + 2]?.bind executesAttempt) = some (Synthetic.key, 2) := by
      decide +kernel
    generalize (run Synthetic.lateNumber).log = log at *
    obtain ⟨e₂, he₂, h₂⟩ := Option.bind_eq_some_iff.1 hcheck.1
    obtain ⟨e₁, he₁, h₁⟩ := Option.bind_eq_some_iff.1 hcheck.2
    obtain ⟨a₂, c₂, x₂, hop₂, hk₂, hn₂⟩ := executesAttempt_eq h₂
    obtain ⟨a₁, c₁, x₁, hop₁, hk₁, hn₁⟩ := executesAttempt_eq h₁
    exact h _ e₂ _ e₁ _ a₁ c₁ x₁ a₂ c₂ x₂ (split_at log 0 2 he₂ he₁) hop₁ hop₂ hk₁ hk₂ (hn₁.trans hn₂.symm)
  · -- worker `b` accepts in the entry 4 of the log
    have hcheck : ((run Synthetic.recovery).log[4]?.any fun e =>
          e.pid == 2 && e.ok && acceptsAttempt Synthetic.key 1 e) ∧
        ((run Synthetic.recovery).log.drop 5).all fun o => !(o.pid == 2 && opens o.toEv) := by
      decide +kernel
    have hj : (run Synthetic.recovery).jobs[2]? = some (Synthetic.dispatch "b") := rfl
    generalize (run Synthetic.recovery).log = log at *
    generalize (run Synthetic.recovery).jobs = jobs at *
    obtain ⟨he, hall⟩ := hcheck
    obtain ⟨e, he, hop⟩ := (Option.any_eq_true _ _).1 he
    obtain ⟨hpe, hop⟩ := Bool.and_eq_true_iff.1 hop
    obtain ⟨hp, hok⟩ := Bool.and_eq_true_iff.1 hpe
    have hp : e.pid = 2 := beq_iff_eq.1 hp
    unfold acceptsAttempt at hop
    split at hop
    · rename_i t ht
      simp only [Bool.and_eq_true, beq_iff_eq] at hop
      obtain ⟨⟨hk, hst⟩, hexp⟩ := hop
      obtain ⟨o, ho, hop, v, v', hw, -, hd, -⟩ := h _ e _ t 1 _ (split_one log 4 he) (hp ▸ hj) rfl ht hok hk hexp
        (by rw [hst]; decide)
      have := List.all_eq_true.1 hall o ho
      obtain ⟨-, -, -, -, -, -, hopens, -⟩ := Opens.transition ⟨v, v', hw, hd⟩
      rw [hop, hp, hopens] at this
      cases this
    · cases hop

/-- The recovering run is undisturbed, and its two workers share one attempt lawfully. -/
theorem one_execute_per_attempt_recovery :
    ((run Synthetic.recovery).log.filterMap executesAttempt) = [(Synthetic.key, 1)] ∧
      (view (run Synthetic.recovery).shared Synthetic.key).map (·.state) = some .completed ∧
      DistinctAttempts (run Synthetic.recovery).log Synthetic.key ∧
      FinalizesOnly (fun older pid n => OwnNumber Synthetic.key older pid n ∨ Recovers Synthetic.key older pid n)
        (run Synthetic.recovery).jobs (run Synthetic.recovery).log Synthetic.key :=
  ⟨by decide +kernel, by decide +kernel,
    one_execute_per_attempt _ _ (undisturbed_of_single (by decide +kernel))⟩

end Middleware.Platform

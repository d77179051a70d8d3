/-
Where an entry of a log comes from. An entry of a call that suspends was made by an action that resumed its process;
the pool before that action has the log below the entry and the process suspended at the call. A killed process makes no
further entry.
-/
import Middleware.Lib.Pool

namespace Middleware.Lib

variable {Op : Type} {Ans : Op → Type} {ε α σ ι Job : Type}

/-- The history of a process grows with the log. -/
theorem hist_suffix {older log : List (Entry Ans ε σ)} (h : older <:+ log) (pid : Nat) :
    hist older pid <:+ hist log pid := by
  obtain ⟨newer, rfl⟩ := h
  exact ⟨hist newer pid, (hist_append newer older pid).symm⟩

namespace System

variable (sys : System Ans ε α σ ι Job) (w : Pool Ans ε α σ Job)

theorem run_append (acts acts' : List (Action ι Job)) :
    sys.run w (acts ++ acts') = sys.run (sys.run w acts) acts' := List.foldl_append ..

theorem run_concat (acts : List (Action ι Job)) (a : Action ι Job) :
    sys.run w (acts ++ [a]) = sys.step (sys.run w acts) a := by
  rw [run_append]
  rfl

variable {w : Pool Ans ε α σ Job}

section Congr

variable {sys} {exec' : (i : ι) → (op : Op) → σ → Except ε (Ans op) × σ} {I : σ → Prop}

/-- Two executions of calls that agree while an invariant holds. -/
def Agrees (sys : System Ans ε α σ ι Job) (exec' : (i : ι) → (op : Op) → σ → Except ε (Ans op) × σ) (I : σ → Prop) : Prop :=
  ∀ i op s, I s → exec' i op s = sys.exec i op s ∧ I (sys.exec i op s).2

theorem settle_congr (h : Agrees sys exec' I) (i : ι) (pid : Nat) :
    ∀ (p : Prog Ans ε α) (s : σ) (log : List (Entry Ans ε σ)), I s →
      System.settle { sys with exec := exec' } i pid p s log = sys.settle i pid p s log ∧ I (sys.settle i pid p s log).2.1
  | .pure _, _, _, hs => ⟨rfl, hs⟩
  | .throw _, _, _, hs => ⟨rfl, hs⟩
  | .call op k, s, log, hs => by
    obtain ⟨heq, hI⟩ := h i op s hs
    unfold settle
    simp only [heq]
    split
    · exact settle_congr h i pid _ _ _ hI
    · exact ⟨rfl, hs⟩

theorem step_congr (h : Agrees sys exec' I) (hw : I w.shared) (a : Action ι Job) :
    System.step { sys with exec := exec' } w a = sys.step w a ∧ I (sys.step w a).shared := by
  cases a with
  | spawn job i =>
    obtain ⟨heq, hI⟩ := settle_congr h i w.procs.length (sys.prog job) w.shared w.log hw
    unfold step
    simp only
    rw [heq]
    exact ⟨rfl, hI⟩
  | resume pid i =>
    unfold step
    simp only
    split
    · rename_i job op k hp
      obtain ⟨heq, hI⟩ := h i op w.shared hw
      unfold chunk
      simp only
      rw [heq]
      obtain ⟨heq', hI'⟩ := settle_congr h i pid (k (sys.exec i op w.shared).1) (sys.exec i op w.shared).2
        (⟨⟨op, (sys.exec i op w.shared).1⟩, pid, w.shared, (sys.exec i op w.shared).2⟩ :: w.log) hI
      rw [heq']
      exact ⟨rfl, hI'⟩
    · exact ⟨rfl, hw⟩
  | kill pid =>
    refine ⟨rfl, ?_⟩
    unfold step
    simp only
    split
    · exact hw
    · exact hw

/-- A run may be followed with the other execution from a state that has the invariant. -/
theorem run_congr (h : Agrees sys exec' I) (hw : I w.shared) (acts : List (Action ι Job)) :
    System.run { sys with exec := exec' } w acts = sys.run w acts := by
  induction acts generalizing w with
  | nil => rfl
  | cons a acts ih =>
    obtain ⟨heq, hI⟩ := step_congr h hw a
    show System.run { sys with exec := exec' } (System.step { sys with exec := exec' } w a) acts = sys.run (sys.step w a) acts
    rw [heq]
    exact ih hI

end Congr

/-- Settling adds `sync` calls of the process. -/
theorem settle_log (i : ι) (pid : Nat) : ∀ (p : Prog Ans ε α) (s : σ) (log : List (Entry Ans ε σ)),
    ∃ new, (sys.settle i pid p s log).2.2 = new ++ log ∧ ∀ e ∈ new, sys.sync e.op = true ∧ e.pid = pid
  | .pure _, _, _ => ⟨[], rfl, by simp⟩
  | .throw _, _, _ => ⟨[], rfl, by simp⟩
  | .call op k, s, log => by
    unfold settle
    split
    · rename_i hs
      obtain ⟨new, hnew, hall⟩ := settle_log i pid (k (sys.exec i op s).1) (sys.exec i op s).2
        (⟨⟨op, (sys.exec i op s).1⟩, pid, s, (sys.exec i op s).2⟩ :: log)
      refine ⟨new ++ [⟨⟨op, (sys.exec i op s).1⟩, pid, s, (sys.exec i op s).2⟩], by rw [hnew]; simp, fun e he => ?_⟩
      rcases List.mem_append.1 he with he | he
      · exact hall e he
      · rw [List.mem_singleton] at he
        subst he
        exact ⟨hs, rfl⟩
    · exact ⟨[], rfl, by simp⟩

/-- What a step adds to the log: `sync` calls above the call of a resumed process, or `sync` calls only. -/
theorem step_log (w : Pool Ans ε α σ Job) (a : Action ι Job) :
    (∃ new, (sys.step w a).log = new ++ w.log ∧ (∀ e ∈ new, sys.sync e.op = true) ∧
      ∀ e ∈ new, e.pid = w.procs.length) ∨
    ∃ new pid i job op k, a = .resume pid i ∧ w.procs[pid]? = some ⟨job, .call op k, true⟩ ∧
      (sys.step w a).log = new ++
        ⟨⟨op, (sys.exec i op w.shared).1⟩, pid, w.shared, (sys.exec i op w.shared).2⟩ :: w.log ∧
      ∀ e ∈ new, sys.sync e.op = true ∧ e.pid = pid := by
  cases a with
  | spawn job i =>
    obtain ⟨new, hnew, hall⟩ := sys.settle_log i w.procs.length (sys.prog job) w.shared w.log
    exact .inl ⟨new, hnew, fun e he => (hall e he).1, fun e he => (hall e he).2⟩
  | resume pid i =>
    by_cases h : ∃ job op k, w.procs[pid]? = some ⟨job, .call op k, true⟩
    · obtain ⟨job, op, k, hp⟩ := h
      obtain ⟨new, hnew, hall⟩ := sys.settle_log i pid (k (sys.exec i op w.shared).1) (sys.exec i op w.shared).2
        (⟨⟨op, (sys.exec i op w.shared).1⟩, pid, w.shared, (sys.exec i op w.shared).2⟩ :: w.log)
      refine .inr ⟨new, pid, i, job, op, k, rfl, hp, ?_, hall⟩
      rw [step, hp]
      exact hnew
    · refine .inl ⟨[], ?_, by simp, by simp⟩
      simp only [step]
      split
      · rename_i job op k hp
        exact absurd ⟨job, op, k, hp⟩ h
      · rfl
  | kill pid =>
    refine .inl ⟨[], ?_, by simp, by simp⟩
    simp only [step]
    split <;> rfl

theorem run_origin {e : Entry Ans ε σ} (hsync : sys.sync e.op = false)
    {newer older : List (Entry Ans ε σ)} {acts : List (Action ι Job)} (h : (sys.run w acts).log = newer ++ e :: older)
    (hw : w.log.length ≤ older.length) :
    ∃ before i after job k, acts = before ++ Action.resume e.pid i :: after ∧ (sys.run w before).log = older ∧
      (sys.run w before).shared = e.before ∧ (sys.run w before).procs[e.pid]? = some ⟨job, .call e.op k, true⟩ ∧
      sys.exec i e.op e.before = (e.reply, e.after) := by
  induction acts using List.reverseRecOn generalizing newer with
  | nil =>
    have hlen := congrArg List.length h
    simp only [run, List.foldl_nil, List.length_append, List.length_cons] at hlen
    omega
  | append_singleton acts a ih =>
    rw [run_concat] at h
    have hlater : ∀ {newer}, (sys.run w acts).log = newer ++ e :: older →
        ∃ before i after job k, acts ++ [a] = before ++ Action.resume e.pid i :: after ∧ (sys.run w before).log = older ∧
          (sys.run w before).shared = e.before ∧
          (sys.run w before).procs[e.pid]? = some ⟨job, .call e.op k, true⟩ ∧
          sys.exec i e.op e.before = (e.reply, e.after) := by
      intro newer hlog
      obtain ⟨before, i, after, job, k, rfl, hrest⟩ := ih hlog
      exact ⟨before, i, after ++ [a], job, k, by simp, hrest⟩
    rcases sys.step_log (sys.run w acts) a with ⟨new, hnew, hall, -⟩ | ⟨new, pid, i, job, op, k, rfl, hp, hnew, hall⟩
    · rw [hnew] at h
      -- the entry is none of the `sync` calls, so it was in the log before
      rcases List.append_eq_append_iff.1 h with ⟨c, rfl, hc⟩ | ⟨c, rfl, hc⟩
      · exact hlater hc
      · cases c with
        | nil => exact @hlater [] (by simpa using hc.symm)
        | cons x c =>
          obtain ⟨rfl, -⟩ := List.cons.inj hc
          have := hall e (by simp)
          rw [hsync] at this
          cases this
    · rw [hnew] at h
      rcases split_cases h with ⟨c, hc, rfl⟩ | ⟨rfl, rfl, rfl⟩ | ⟨c, rfl, hc⟩
      · have := (hall e (by rw [hc]; simp)).1
        rw [hsync] at this
        cases this
      · exact ⟨acts, i, [], job, k, rfl, rfl, rfl, hp, rfl⟩
      · exact hlater hc

variable {p : Proc Ans ε α Job} {pid : Nat}

/-- A step keeps a killed process killed and its history as it is. -/
theorem step_dead (hp : w.procs[pid]? = some p)
    (hdead : p.alive = false) (a : Action ι Job) :
    (∃ p', (sys.step w a).procs[pid]? = some p' ∧ p'.alive = false) ∧ hist (sys.step w a).log pid = hist w.log pid := by
  have hlt : pid < w.procs.length := (List.getElem?_eq_some_iff.1 hp).1
  constructor
  · cases a with
    | spawn job i =>
      refine ⟨p, ?_, hdead⟩
      simp only [step]
      rw [List.getElem?_append_left hlt, hp]
    | resume pid' i =>
      simp only [step]
      split
      · rename_i job op k hp'
        have hne : pid' ≠ pid := by
          rintro rfl
          cases hp.symm.trans hp'
          cases hdead
        refine ⟨p, ?_, hdead⟩
        rw [List.getElem?_set_ne hne, hp]
      · exact ⟨p, hp, hdead⟩
    | kill pid' =>
      simp only [step]
      split
      · rename_i p' hp'
        by_cases hne : pid' = pid
        · subst hne
          exact ⟨{ p' with alive := false }, by simp [hlt], rfl⟩
        · refine ⟨p, ?_, hdead⟩
          rw [List.getElem?_set_ne hne, hp]
      · exact ⟨p, hp, hdead⟩
  · rcases sys.step_log w a with ⟨new, hnew, -, hpid⟩ | ⟨new, pid', i, job, op, k, rfl, hp', hnew, hall⟩
    · have hnone : hist new pid = [] := by
        rw [List.eq_nil_iff_forall_not_mem]
        intro v hv
        obtain ⟨e, he, rfl, -⟩ := mem_hist.1 hv
        have := hpid e he
        omega
      rw [hnew, hist_append, hnone, List.nil_append]
    · have hne : pid' ≠ pid := by
        rintro rfl
        cases hp.symm.trans hp'
        cases hdead
      have hnone : hist new pid = [] := by
        rw [List.eq_nil_iff_forall_not_mem]
        intro v hv
        obtain ⟨e, he, rfl, -⟩ := mem_hist.1 hv
        exact hne (hall e he).2.symm
      rw [hnew, hist_append, hnone, List.nil_append, hist_cons_ne _ _ hne]

theorem dead_silent (hp : w.procs[pid]? = some p)
    (hdead : p.alive = false) (acts : List (Action ι Job)) : hist (sys.run w acts).log pid = hist w.log pid := by
  induction acts generalizing w p with
  | nil => rfl
  | cons a acts ih =>
    obtain ⟨⟨p', hp', hdead'⟩, hhist⟩ := sys.step_dead hp hdead a
    exact (ih hp' hdead').trans hhist

/-- A process that makes another call is alive. -/
theorem alive_of_later (hp : w.procs[pid]? = some p)
    (acts : List (Action ι Job)) (h : (hist w.log pid).length < (hist (sys.run w acts).log pid).length) :
    p.alive = true := by
  by_contra hdead
  rw [sys.dead_silent hp (by simpa using hdead)] at h
  omega

end System

end Middleware.Lib

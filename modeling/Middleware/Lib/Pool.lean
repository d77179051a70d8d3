/-
A pool of cooperative processes over one shared state. A process runs a program of calls
(`Prog`); between two suspension points it runs alone: resuming it makes the call it was suspended
at and every call marked `sync` after it, up to the next suspension point. Nothing is fair and
nothing is timed: a run is any list of actions that start, resume and kill processes, each with
its own input `ι` from the environment.

The pool keeps a log of every executed call with the shared state before and after it (newest
first). `Legal` says what every log is: consecutive states are chained, every entry is an execution
of its call in a state that satisfies the invariant, every call satisfies what `Prog.wp` guarantees of
the process's own earlier calls, and a `sync` call directly follows a call of the same process.
Properties of all interleavings are proven about legal logs, by induction on the log.
-/
import Middleware.Lib.Prog

namespace Middleware.Lib

/-- What a pool runs: how a call acts on the shared state, which calls do not suspend, and the
program of each kind of job. -/
structure System {Op : Type} (Ans : Op → Type) (ε α σ ι Job : Type) where
  exec : ι → (op : Op) → σ → Except ε (Ans op) × σ
  sync : Op → Bool
  prog : Job → Prog Ans ε α

/-- One executed call: who made it, and the shared state around it. -/
structure Entry {Op : Type} (Ans : Op → Type) (ε σ : Type) extends Ev Ans ε where
  pid : Nat
  before : σ
  after : σ

/-- A process: its job and what is left of its program; a killed process never runs again. -/
structure Proc {Op : Type} (Ans : Op → Type) (ε α Job : Type) where
  job : Job
  prog : Prog Ans ε α
  alive : Bool := true

structure Pool {Op : Type} (Ans : Op → Type) (ε α σ Job : Type) where
  shared : σ
  procs : List (Proc Ans ε α Job) := []
  log : List (Entry Ans ε σ) := []

inductive Action (ι Job : Type) where
  | spawn (job : Job) (input : ι)
  | resume (pid : Nat) (input : ι)
  | kill (pid : Nat)

variable {Op : Type} {Ans : Op → Type} {ε α σ ι Job : Type}

/-- Whether a call was answered and did not raise. -/
def Ev.ok (v : Ev Ans ε) : Bool :=
  match v.reply with
  | .ok _ => true
  | .error _ => false

/-! ## The calls of one process -/

/-- Two positions in one list: the second is behind, at or before the first. -/
theorem split_cases {β : Type} {x y : β} {a b l r : List β} (h : a ++ x :: b = l ++ y :: r) :
    (∃ c, a = l ++ y :: c ∧ r = c ++ x :: b) ∨ (a = l ∧ x = y ∧ b = r) ∨ (∃ c, l = a ++ x :: c ∧ b = c ++ y :: r) := by
  rcases List.append_eq_append_iff.1 h with ⟨c, rfl, hc⟩ | ⟨c, rfl, hc⟩
  · cases c with
    | nil => cases hc; exact .inr (.inl ⟨by simp, rfl, rfl⟩)
    | cons z c => cases hc; exact .inr (.inr ⟨c, rfl, rfl⟩)
  · cases c with
    | nil => cases hc; exact .inr (.inl ⟨by simp, rfl, rfl⟩)
    | cons z c => cases hc; exact .inl ⟨c, rfl, rfl⟩

/-- The calls a process made, newest first. -/
def hist (log : List (Entry Ans ε σ)) (pid : Nat) : List (Ev Ans ε) :=
  (log.filter (·.pid == pid)).map (·.toEv)

@[simp] theorem hist_nil (pid : Nat) : hist ([] : List (Entry Ans ε σ)) pid = [] := rfl

variable (e : Entry Ans ε σ) (log : List (Entry Ans ε σ))

theorem hist_cons_self :
    hist (e :: log) e.pid = e.toEv :: hist log e.pid := by
  simp [hist]

variable {pid : Nat}

theorem hist_cons_ne (h : e.pid ≠ pid) :
    hist (e :: log) pid = hist log pid := by
  simp [hist, h]

theorem hist_append (l₁ l₂ : List (Entry Ans ε σ)) (pid : Nat) :
    hist (l₁ ++ l₂) pid = hist l₁ pid ++ hist l₂ pid := by
  simp [hist]

theorem mem_hist {log : List (Entry Ans ε σ)} {v : Ev Ans ε} :
    v ∈ hist log pid ↔ ∃ e ∈ log, e.pid = pid ∧ e.toEv = v := by
  simp [hist, and_assoc]

/-- A position in the history of a process is a position in the log. -/
theorem hist_split {pid : Nat} {v : Ev Ans ε} {h₁ h₂ : List (Ev Ans ε)} :
    ∀ {log : List (Entry Ans ε σ)}, hist log pid = h₁ ++ v :: h₂ →
    ∃ l₁ e l₂, log = l₁ ++ e :: l₂ ∧ e.pid = pid ∧ e.toEv = v ∧ hist l₁ pid = h₁ ∧ hist l₂ pid = h₂
  | [], hh => by simp at hh
  | e :: log, hh => by
    by_cases hp : e.pid = pid
    · subst hp
      rw [hist_cons_self] at hh
      cases h₁ with
      | nil =>
        cases hh
        exact ⟨[], e, log, rfl, rfl, rfl, rfl, rfl⟩
      | cons u h₁ =>
        obtain ⟨hu, ht⟩ := List.cons.inj hh
        obtain ⟨l₁, e', l₂, rfl, he', hv, hl₁, hl₂⟩ := hist_split ht
        exact ⟨e :: l₁, e', l₂, rfl, he', hv, by rw [hist_cons_self, hl₁, hu], hl₂⟩
    · rw [hist_cons_ne e log hp] at hh
      obtain ⟨l₁, e', l₂, rfl, he', hv, hl₁, hl₂⟩ := hist_split hh
      exact ⟨e :: l₁, e', l₂, rfl, he', hv, by rw [hist_cons_ne e l₁ hp, hl₁], hl₂⟩

namespace System

variable (sys : System Ans ε α σ ι Job)

/-- Run the `sync` calls of a program up to its next suspension point. -/
def settle (i : ι) (pid : Nat) :
    Prog Ans ε α → σ → List (Entry Ans ε σ) → Prog Ans ε α × σ × List (Entry Ans ε σ)
  | .call op k, s, log =>
    if sys.sync op then
      settle i pid (k (sys.exec i op s).1) (sys.exec i op s).2
        (⟨⟨op, (sys.exec i op s).1⟩, pid, s, (sys.exec i op s).2⟩ :: log)
    else (.call op k, s, log)
  | p, s, log => (p, s, log)

/-- Make the call a program is suspended at, then settle. -/
def chunk (i : ι) (pid : Nat) (op : Op) (k : Except ε (Ans op) → Prog Ans ε α) (s : σ)
    (log : List (Entry Ans ε σ)) : Prog Ans ε α × σ × List (Entry Ans ε σ) :=
  sys.settle i pid (k (sys.exec i op s).1) (sys.exec i op s).2
    (⟨⟨op, (sys.exec i op s).1⟩, pid, s, (sys.exec i op s).2⟩ :: log)

def step (w : Pool Ans ε α σ Job) : Action ι Job → Pool Ans ε α σ Job
  | .spawn job i =>
    let r := sys.settle i w.procs.length (sys.prog job) w.shared w.log
    ⟨r.2.1, w.procs ++ [⟨job, r.1, true⟩], r.2.2⟩
  | .resume pid i =>
    match w.procs[pid]? with
    | some ⟨job, .call op k, true⟩ =>
      let r := sys.chunk i pid op k w.shared w.log
      ⟨r.2.1, w.procs.set pid ⟨job, r.1, true⟩, r.2.2⟩
    | _ => w
  | .kill pid =>
    match w.procs[pid]? with
    | some p => { w with procs := w.procs.set pid { p with alive := false } }
    | none => w

def run (w : Pool Ans ε α σ Job) (acts : List (Action ι Job)) : Pool Ans ε α σ Job :=
  acts.foldl sys.step w

/-! ## Chains of states -/

/-- The log leads from `s₀` to `s`. -/
def Chain (s₀ : σ) : List (Entry Ans ε σ) → σ → Prop
  | [], s => s = s₀
  | e :: log, s => e.after = s ∧ Chain s₀ log e.before

theorem Chain.split {s₀ : σ} : ∀ {newer : List (Entry Ans ε σ)} {e : Entry Ans ε σ} {older : List (Entry Ans ε σ)}
    {s : σ}, Chain s₀ (newer ++ e :: older) s → Chain e.after newer s ∧ Chain s₀ older e.before
  | [], _, _, _, h => ⟨h.1.symm, h.2⟩
  | _ :: newer, e, older, _, h =>
    have hs := Chain.split (show Chain s₀ (newer ++ e :: older) _ from h.2)
    ⟨⟨h.1, hs.1⟩, hs.2⟩

variable {P : σ → Prop} {s₀ : σ}

/-- What every entry keeps is kept along the log. -/
theorem Chain.stays : ∀ {log : List (Entry Ans ε σ)} {s : σ}, Chain s₀ log s → P s₀ →
    (∀ e ∈ log, P e.before → P e.after) → P s ∧ ∀ e ∈ log, P e.before ∧ P e.after
  | [], s, h, h0, _ => ⟨by rw [h]; exact h0, by simp⟩
  | e :: log, s, h, h0, hp => by
    obtain ⟨hb, hall⟩ := Chain.stays h.2 h0 fun e' he' => hp e' (List.mem_cons_of_mem _ he')
    have ha := hp e List.mem_cons_self hb
    refine ⟨h.1 ▸ ha, fun e' he' => ?_⟩
    rcases List.mem_cons.1 he' with rfl | he'
    · exact ⟨hb, ha⟩
    · exact hall e' he'

/-- What holds in the end and not at first came true at some entry for the last time. -/
theorem Chain.last_flip : ∀ {log : List (Entry Ans ε σ)} {s : σ}, Chain s₀ log s →
    ¬ P s₀ → P s → ∃ newer q, ∃ older : List (Entry Ans ε σ), log = newer ++ q :: older ∧ ¬ P q.before ∧ P q.after ∧
      ∀ e ∈ newer, P e.before ∧ P e.after
  | [], s, h, h0, hs => absurd (h ▸ hs) h0
  | e :: log, s, h, h0, hs => by
    by_cases hb : P e.before
    · obtain ⟨newer, q, older, rfl, hq, hq', hall⟩ := Chain.last_flip h.2 h0 hb
      refine ⟨e :: newer, q, older, rfl, hq, hq', fun e' he' => ?_⟩
      rcases List.mem_cons.1 he' with rfl | he'
      · exact ⟨hb, h.1.symm ▸ hs⟩
      · exact hall e' he'
    · exact ⟨[], e, log, rfl, hb, h.1.symm ▸ hs, by simp⟩

/-- What entries add only when they make `P` true is added at most once, as nothing makes `P` false again. -/
theorem Chain.once {β : Type} {added : Entry Ans ε σ → List β} :
    ∀ {log : List (Entry Ans ε σ)} {s : σ}, Chain s₀ log s → (∀ e ∈ log, P e.before → P e.after) →
    (∀ e ∈ log, added e = [] ∨ ¬ P e.before ∧ P e.after ∧ (added e).length ≤ 1) →
    (log.flatMap added).length ≤ 1 ∧ (¬ P s → log.flatMap added = [])
  | [], _, _, _, _ => by simp
  | e :: log, s, h, hp, ha => by
    obtain ⟨hle, hnil⟩ := Chain.once h.2 (fun e' he' => hp e' (List.mem_cons_of_mem _ he'))
      fun e' he' => ha e' (List.mem_cons_of_mem _ he')
    rw [List.flatMap_cons]
    rcases ha e List.mem_cons_self with hnone | ⟨hb, hafter, hone⟩
    · rw [hnone, List.nil_append]
      refine ⟨hle, fun hs => hnil fun hb => hs ?_⟩
      rw [← h.1]
      exact hp e List.mem_cons_self hb
    · rw [hnil hb, List.append_nil]
      exact ⟨hone, fun hs => absurd (h.1 ▸ hafter) hs⟩

/-! ## Legal logs -/

/-- What the processes of a pool promise: the answers they rely on, what they guarantee of each call at
the history it is made with, and what is true of their history when they are over. -/
structure Discipline {Op : Type} (Ans : Op → Type) (ε Job : Type) where
  rely : (op : Op) → Except ε (Ans op) → Prop
  call : Job → List (Ev Ans ε) → Op → Prop
  done : Job → List (Ev Ans ε) → Prop

/-- An invariant of the shared state that every call keeps and under which answers can be relied on. -/
structure Sound (I : σ → Prop) (rely : (op : Op) → Except ε (Ans op) → Prop) : Prop where
  keeps : ∀ i op s, I s → I (sys.exec i op s).2
  answers : ∀ i op s, I s → rely op (sys.exec i op s).1

/-- What is known of a log entry from the older entries `older`: the process that made the call
and its discipline, that the entry is an execution, and that a `sync` call is not preceded by a
call of another process. -/
structure Lawful (I : σ → Prop) (D : Discipline Ans ε Job) (jobs : List Job)
    (older : List (Entry Ans ε σ)) (e : Entry Ans ε σ) : Prop where
  job : ∃ j, jobs[e.pid]? = some j ∧ D.call j (hist older e.pid) e.op
  inv : I e.before
  exec : ∃ i, sys.exec i e.op e.before = (e.reply, e.after)
  sync : sys.sync e.op = true → hist older e.pid = [] ∨ ∃ e' l, older = e' :: l ∧ e'.pid = e.pid

/-- A log every entry of which is lawful and whose states are chained from `s₀` to `s`. -/
structure Legal (I : σ → Prop) (D : Discipline Ans ε Job) (s₀ : σ) (jobs : List Job)
    (log : List (Entry Ans ε σ)) (s : σ) : Prop where
  chain : Chain s₀ log s
  inv : I s
  lawful : ∀ newer e older, log = newer ++ e :: older → sys.Lawful I D jobs older e

variable {sys} {I : σ → Prop} {D : Discipline Ans ε Job} {s₀ s : σ} {jobs : List Job}
  {log : List (Entry Ans ε σ)}

theorem Legal.nil (h : I s₀) : sys.Legal I D s₀ jobs [] s₀ := ⟨rfl, h, by simp⟩

theorem Legal.cons {e : Entry Ans ε σ} (h : sys.Legal I D s₀ jobs log e.before)
    (he : sys.Lawful I D jobs log e) (hi : I e.after) : sys.Legal I D s₀ jobs (e :: log) e.after := by
  refine ⟨⟨rfl, h.chain⟩, hi, fun newer e' older heq => ?_⟩
  cases newer with
  | nil => cases heq; exact he
  | cons n newer => cases heq; exact h.lawful newer e' older rfl

/-- The log up to an entry is legal, and so is the log with it. -/
theorem Legal.split {newer older : List (Entry Ans ε σ)} {e : Entry Ans ε σ}
    (h : sys.Legal I D s₀ jobs (newer ++ e :: older) s) :
    sys.Lawful I D jobs older e ∧ sys.Legal I D s₀ jobs older e.before := by
  have he := h.lawful newer e older rfl
  refine ⟨he, (Chain.split h.chain).2, he.inv, fun newer' e' older' heq => ?_⟩
  exact h.lawful (newer ++ e :: newer') e' older' (by rw [heq]; simp)

/-- What holds at the start and is kept by every lawful entry holds of every legal log and its state. -/
theorem Legal.induction {P : List (Entry Ans ε σ) → σ → Prop} (h0 : P [] s₀)
    (hstep : ∀ older e, sys.Legal I D s₀ jobs older e.before → sys.Lawful I D jobs older e → P older e.before →
      P (e :: older) e.after) : ∀ {log : List (Entry Ans ε σ)} {s : σ}, sys.Legal I D s₀ jobs log s → P log s
  | [], s, h => by
    have hs : s = s₀ := h.chain
    rw [hs]
    exact h0
  | e :: log, s, h => by
    have hsplit : sys.Legal I D s₀ jobs ([] ++ e :: log) s := h
    obtain ⟨hlaw, hlegal⟩ := hsplit.split
    have hs : e.after = s := h.chain.1
    rw [← hs]
    exact hstep log e hlegal hlaw (Legal.induction h0 hstep hlegal)

theorem Lawful.mono {jobs' : List Job} {e : Entry Ans ε σ} (h : sys.Lawful I D jobs log e)
    (hj : jobs <+: jobs') : sys.Lawful I D jobs' log e := by
  obtain ⟨j, hj', hG⟩ := h.job
  obtain ⟨t, rfl⟩ := hj
  refine ⟨⟨j, ?_, hG⟩, h.inv, h.exec, h.sync⟩
  have hlt : e.pid < jobs.length := (List.getElem?_eq_some_iff.1 hj').1
  rw [List.getElem?_append_left hlt]; exact hj'

theorem Legal.mono {jobs' : List Job} (h : sys.Legal I D s₀ jobs log s) (hj : jobs <+: jobs') :
    sys.Legal I D s₀ jobs' log s :=
  ⟨h.chain, h.inv, fun newer e older heq => (h.lawful newer e older heq).mono hj⟩

/-- No process outside the table appears in a legal log. -/
theorem Legal.hist_fresh (h : sys.Legal I D s₀ jobs log s) (hp : jobs.length ≤ pid) :
    hist log pid = [] := by
  rw [List.eq_nil_iff_forall_not_mem]
  intro v hv
  obtain ⟨e, he, rfl, -⟩ := mem_hist.1 hv
  obtain ⟨newer, older, rfl⟩ := List.append_of_mem he
  obtain ⟨j, hj, -⟩ := (h.lawful newer e older rfl).job
  have := (List.getElem?_eq_some_iff.1 hj).1
  omega

/-- A call in the history of a process is an entry of the log, with the entries before it. -/
theorem Legal.of_hist (h : sys.Legal I D s₀ jobs log s) {v : Ev Ans ε} (hv : v ∈ hist log pid) :
    ∃ newer e, ∃ older : List (Entry Ans ε σ), log = newer ++ e :: older ∧ e.pid = pid ∧ e.toEv = v ∧ Chain e.after newer s := by
  obtain ⟨e, he, hpid, hev⟩ := mem_hist.1 hv
  obtain ⟨newer, older, rfl⟩ := List.append_of_mem he
  exact ⟨newer, e, older, rfl, hpid, hev, (Chain.split h.chain).1⟩

/-! ## Every run has a legal log -/

/-- A program that keeps the discipline of its job from the history `h` on. -/
abbrev Obeys (D : Discipline Ans ε Job) (j : Job) (p : Prog Ans ε α) (h : List (Ev Ans ε)) : Prop :=
  p.wp D.rely (D.call j) h (fun h _ => D.done j h) (fun h _ => D.done j h)

/-- A program suspended at a call that suspends, or over. -/
def Settled (sys : System Ans ε α σ ι Job) : Prog Ans ε α → Prop
  | .call op _ => sys.sync op = false
  | _ => True

/-- Settling extends a legal log legally, leaves the other processes' histories alone, and what is
left of the program obeys its discipline from a suspension point. -/
theorem settle_legal (hs : sys.Sound I D.rely) (i : ι) (pid : Nat) (j : Job) (hj : jobs[pid]? = some j) :
    ∀ (p : Prog Ans ε α) (s : σ) (log : List (Entry Ans ε σ)),
    sys.Legal I D s₀ jobs log s → Obeys D j p (hist log pid) →
    (hist log pid = [] ∨ ∃ e l, log = e :: l ∧ e.pid = pid) →
    sys.Legal I D s₀ jobs (sys.settle i pid p s log).2.2 (sys.settle i pid p s log).2.1 ∧
      Obeys D j (sys.settle i pid p s log).1 (hist (sys.settle i pid p s log).2.2 pid) ∧
      sys.Settled (sys.settle i pid p s log).1 ∧
      (∀ q, q ≠ pid → hist (sys.settle i pid p s log).2.2 q = hist log q) ∧
      log <:+ (sys.settle i pid p s log).2.2
  | .pure _, _, _, hl, hp, _ => ⟨hl, hp, trivial, fun _ _ => rfl, List.suffix_rfl⟩
  | .throw _, _, _, hl, hp, _ => ⟨hl, hp, trivial, fun _ _ => rfl, List.suffix_rfl⟩
  | .call op k, s, log, hl, hp, hc => by
    unfold settle
    split
    · set e : Entry Ans ε σ := ⟨⟨op, (sys.exec i op s).1⟩, pid, s, (sys.exec i op s).2⟩ with he
      have hle : sys.Legal I D s₀ jobs (e :: log) e.after :=
        Legal.cons hl ⟨⟨j, hj, hp.1⟩, hl.inv, ⟨i, rfl⟩, fun _ => hc⟩ (hs.keeps i op s hl.inv)
      have hist_e : hist (e :: log) pid = e.toEv :: hist log pid := hist_cons_self e log
      obtain ⟨h1, h2, h3, h4, h5⟩ := settle_legal hs i pid j hj (k (sys.exec i op s).1) (sys.exec i op s).2
        (e :: log) hle (by rw [hist_e]; exact hp.2 _ (hs.answers i op s hl.inv)) (.inr ⟨e, log, rfl, rfl⟩)
      refine ⟨h1, h2, h3, fun q hq => ?_, (List.suffix_cons e log).trans h5⟩
      rw [h4 q hq, hist_cons_ne e log (fun h => hq h.symm)]
    · rename_i hs
      exact ⟨hl, hp, by simpa [Settled] using hs, fun _ _ => rfl, List.suffix_rfl⟩

/-- The invariant of every run: a legal log, and every process obeying its discipline from a
suspension point. -/
structure Good (sys : System Ans ε α σ ι Job) (I : σ → Prop) (D : Discipline Ans ε Job) (s₀ : σ)
    (w : Pool Ans ε α σ Job) : Prop where
  legal : sys.Legal I D s₀ (w.procs.map (·.job)) w.log w.shared
  procs : ∀ (pid : Nat) (p : Proc Ans ε α Job), w.procs[pid]? = some p →
    Obeys D p.job p.prog (hist w.log pid) ∧ sys.Settled p.prog

theorem jobs_set (procs : List (Proc Ans ε α Job)) (pid : Nat) {p p' : Proc Ans ε α Job}
    (hp : procs[pid]? = some p) (hj : p'.job = p.job) :
    (procs.set pid p').map (·.job) = procs.map (·.job) := by
  obtain ⟨hlt, rfl⟩ := List.getElem?_eq_some_iff.1 hp
  rw [List.map_set, hj]
  exact List.ext_getElem (by simp) fun n _ _ => by
    rw [List.getElem_set]; split <;> rename_i h
    · subst h; simp
    · rfl

variable {w : Pool Ans ε α σ Job}

/-- Replacing one process keeps the invariant when the new one obeys its discipline. -/
theorem Good.set {p : Proc Ans ε α Job}
    (hw : sys.Good I D s₀ w) (p' : Proc Ans ε α Job) (hp : w.procs[pid]? = some p) (hj : p'.job = p.job)
    {s' : σ} {log' : List (Entry Ans ε σ)} (hl : sys.Legal I D s₀ (w.procs.map (·.job)) log' s')
    (ho : Obeys D p'.job p'.prog (hist log' pid) ∧ sys.Settled p'.prog)
    (hq : ∀ q, q ≠ pid → hist log' q = hist w.log q) :
    sys.Good I D s₀ ⟨s', w.procs.set pid p', log'⟩ := by
  refine ⟨by rw [jobs_set w.procs pid hp hj]; exact hl, fun q r hr => ?_⟩
  by_cases h : pid = q
  · subst h
    rw [List.getElem?_set_self (List.getElem?_eq_some_iff.1 hp).1, Option.some.injEq] at hr
    subst hr; exact ho
  · rw [List.getElem?_set_ne h] at hr
    rw [hq q (fun h' => h h'.symm)]
    exact hw.procs q r hr

theorem step_good (hs : sys.Sound I D.rely) (hG : ∀ j, Obeys D j (sys.prog j) [])
    (hw : sys.Good I D s₀ w) (a : Action ι Job) :
    sys.Good I D s₀ (sys.step w a) ∧ w.log <:+ (sys.step w a).log := by
  cases a with
  | spawn job i =>
    have hfresh : hist w.log w.procs.length = [] := hw.legal.hist_fresh (by simp)
    have hl := hw.legal.mono (List.prefix_append (w.procs.map (·.job)) [job])
    obtain ⟨h1, h2, h3, h4, h5⟩ := settle_legal hs i w.procs.length job (by simp)
      (sys.prog job) w.shared w.log hl (by rw [hfresh]; exact hG job) (.inl hfresh)
    refine ⟨⟨by simpa [step] using h1, fun pid p hp => ?_⟩, h5⟩
    simp only [step] at hp ⊢
    rw [List.getElem?_append] at hp
    split at hp
    · rw [h4 pid (by omega)]; exact hw.procs pid p hp
    · have hpid : pid = w.procs.length := by
        have := (List.getElem?_eq_some_iff.1 hp).1; simp at this; omega
      subst hpid
      simp only [Nat.sub_self, List.getElem?_cons_zero, Option.some.injEq] at hp
      subst hp; exact ⟨h2, h3⟩
  | resume pid i =>
    simp only [step]
    split
    · rename_i job op k hp
      obtain ⟨hob, hset⟩ := hw.procs pid _ hp
      have hjob : (w.procs.map (·.job))[pid]? = some job := by simp [hp]
      set e : Entry Ans ε σ :=
        ⟨⟨op, (sys.exec i op w.shared).1⟩, pid, w.shared, (sys.exec i op w.shared).2⟩ with he
      -- the process was suspended, so the first call of the chunk is not a `sync` one
      have hle : sys.Legal I D s₀ (w.procs.map (·.job)) (e :: w.log) e.after :=
        Legal.cons hw.legal ⟨⟨job, hjob, hob.1⟩, hw.legal.inv, ⟨i, rfl⟩,
          fun h => by simp [Settled] at hset; simp [he, hset] at h⟩ (hs.keeps i op w.shared hw.legal.inv)
      obtain ⟨h1, h2, h3, h4, h5⟩ := settle_legal hs i pid job hjob (k (sys.exec i op w.shared).1) e.after
        (e :: w.log) hle
        (by rw [hist_cons_self e w.log]; exact hob.2 _ (hs.answers i op w.shared hw.legal.inv))
        (.inr ⟨e, w.log, rfl, rfl⟩)
      refine ⟨hw.set ⟨job, (sys.chunk i pid op k w.shared w.log).1, true⟩ hp rfl h1 ⟨h2, h3⟩ fun q hq => ?_,
        (List.suffix_cons e w.log).trans h5⟩
      rw [← hist_cons_ne e w.log (fun h => hq h.symm)]; exact h4 q hq
    · exact ⟨hw, List.suffix_rfl⟩
  | kill pid =>
    simp only [step]
    split
    · rename_i p hp
      exact ⟨hw.set { p with alive := false } hp rfl hw.legal (hw.procs pid p hp) fun _ _ => rfl, List.suffix_rfl⟩
    · exact ⟨hw, List.suffix_rfl⟩

/-- Whatever the interleaving, the answers and the crashes, a run from the empty pool has a legal
log and its processes obey their disciplines. -/
theorem run_good (hs : sys.Sound I D.rely) (hG : ∀ j, Obeys D j (sys.prog j) []) (h0 : I s₀)
    (acts : List (Action ι Job)) : sys.Good I D s₀ (sys.run ⟨s₀, [], []⟩ acts) := by
  have hw : sys.Good I D s₀ ⟨s₀, [], []⟩ := ⟨Legal.nil h0, by simp⟩
  revert hw
  generalize (⟨s₀, [], []⟩ : Pool Ans ε α σ Job) = w
  intro hw
  induction acts generalizing w with
  | nil => exact hw
  | cons a acts ih => exact ih _ (step_good hs hG hw a).1

/-! ## Runs of any calls -/

/-- The discipline that promises nothing. -/
def Discipline.any : Discipline Ans ε Job where
  rely _ _ := True
  call _ _ _ := True
  done _ _ := True

theorem obeys_any (j : Job) : ∀ (p : Prog Ans ε α) (h : List (Ev Ans ε)), Obeys Discipline.any j p h
  | .pure _, _ => trivial
  | .throw _, _ => trivial
  | .call _ k, _ => ⟨trivial, fun r _ => obeys_any j (k r) _⟩

/-- Whatever the programs, a run under an invariant that every call keeps has a legal log. -/
theorem run_legal (hI : ∀ i op s, I s → I (sys.exec i op s).2) (h0 : I s₀) (acts : List (Action ι Job)) :
    sys.Legal I Discipline.any s₀ ((sys.run ⟨s₀, [], []⟩ acts).procs.map (·.job)) (sys.run ⟨s₀, [], []⟩ acts).log
      (sys.run ⟨s₀, [], []⟩ acts).shared :=
  (run_good ⟨hI, fun _ _ _ _ => trivial⟩ (fun j => obeys_any j (sys.prog j) []) h0 acts).legal

theorem run_jobs (sys : System Ans ε α σ ι Job) {acts : List (Action ι Job)} :
    ∀ {w : Pool Ans ε α σ Job} {j : Job}, j ∈ (sys.run w acts).procs.map (·.job) →
    j ∈ w.procs.map (·.job) ∨ ∃ i, .spawn j i ∈ acts := by
  induction acts with
  | nil => exact fun h => .inl h
  | cons a acts ih =>
    intro w j hj
    have hstep : j ∈ (sys.step w a).procs.map (·.job) → j ∈ w.procs.map (·.job) ∨ ∃ i, a = .spawn j i := by
      intro h
      cases a with
      | spawn job i =>
        simp only [step, List.map_append, List.mem_append, List.map_cons, List.map_nil, List.mem_singleton] at h
        rcases h with h | rfl
        · exact .inl h
        · exact .inr ⟨i, rfl⟩
      | resume pid i =>
        simp only [step] at h
        split at h
        · rename_i job op k hp
          have hjobs := jobs_set w.procs pid hp
            (rfl : (Proc.mk job (sys.chunk i pid op k w.shared w.log).1 true).job = job)
          exact .inl (hjobs ▸ h)
        · exact .inl h
      | kill pid =>
        simp only [step] at h
        split at h
        · rename_i p hp
          exact .inl (jobs_set w.procs pid hp (rfl : (Proc.mk p.job p.prog false).job = p.job) ▸ h)
        · exact .inl h
    rcases ih hj with h | ⟨i, h⟩
    · rcases hstep h with h | ⟨i, rfl⟩
      · exact .inl h
      · exact .inr ⟨i, List.mem_cons_self⟩
    · exact .inr ⟨i, List.mem_cons_of_mem _ h⟩

end System

end Middleware.Lib

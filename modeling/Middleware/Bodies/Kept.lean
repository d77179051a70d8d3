/-
Bodies are kept for their rows. While no body is being discarded that a delivery is about to commit (`Apart`), every
committed row has its body, and every other body is recorded as pending. The order of the two windows does not matter: a
cleaner that looked a record up before a delivery came, and removes the body after it, leaves a row without its body.
-/
import Middleware.Bodies.Orders

namespace Middleware.Bodies

open Lib

/-! ## The windows -/

/-- A live process is suspended at the call. -/
def Suspended (w : Run) (pid : Nat) (op : Call) : Prop := ∃ job k, w.procs[pid]? = some ⟨job, .call op k, true⟩

/-- A call between a delivery's look at the body and the end of its transaction. -/
def Call.Persists (r : Reference) : Call → Prop
  | .mkstemp r' | .writeTemporary _ r' | .replace _ r' => r' = r
  | .writePending record => record.reference = r
  | .persistVerified d => d.reference = r
  | _ => False

/-- A process decided to discard the body and is not through with it. -/
def Discarding (w : Run) (r : Reference) : Prop :=
  ∃ pid, Suspended w pid (.remove r) ∨
    Suspended w pid (.unlinkPending r) ∧ (hist w.log pid).head? = some ⟨.remove r, .ok ()⟩

/-- A delivery looked for the body and has yet to commit. -/
def Persisting (w : Run) (r : Reference) : Prop := ∃ pid op, Suspended w pid op ∧ op.Persists r

/-- No body is being discarded and persisted at once. -/
def Apart (w : Run) : Prop := ∀ r, Discarding w r → ¬Persisting w r

/-! ## The invariant -/

/-- What holds where a process is suspended. -/
def Pre (s : Store) (h : List Answered) : Call → Prop
  | .writePending record => h.head? = some ⟨.bodyExists record.reference, .ok true⟩ → record.reference ∈ s.bodies
  | .replace _ r => Journaled s r ∨ Referenced s r
  | .persistVerified d => d.reference ∈ s.bodies
  | .remove r => ¬Referenced s r
  | .unlinkPending r => h.head? = some ⟨.remove r, .ok ()⟩ ∧ r ∉ s.bodies ∨
      h.head? ≠ some ⟨.remove r, .ok ()⟩ ∧ Referenced s r
  | _ => True

/-- Committed rows have their bodies, and every other body is recorded as pending. -/
structure Kept (s : Store) : Prop where
  committed : ∀ r, Referenced s r → r ∈ s.bodies
  recorded : ∀ r ∈ s.bodies, Referenced s r ∨ Journaled s r

/-- The invariant of a run of the known deliveries. -/
structure Inv (K : Delivery → Prop) (w : Run) : Prop where
  known : Known K w.shared
  jobs : ∀ job ∈ w.procs.map (·.job), ∀ d, job.delivery = some d → K d
  reads : ∀ pid file record, ⟨.read file, .ok record⟩ ∈ hist w.log pid → ∃ d, K d ∧ record = d.record record.createdAt
  kept : Kept w.shared
  calls : ∀ pid op, Suspended w pid op → op.Knows K ∧ Pre w.shared (hist w.log pid) op

section Stores

variable {K : Delivery → Prop} {s s' : Store} {r : Reference} {op : Call}

theorem journaled_write (hK : Distinct K) (hs : Known K s) {record : PendingBodyRecord}
    (hrecord : ∃ d, K d ∧ record = d.record record.createdAt) (h : Journaled s r) : Journaled (writePendingRecord record s) r := by
  obtain ⟨old, hold, rfl⟩ := h
  obtain ⟨d, hd, hrec⟩ := hrecord
  obtain ⟨d', hd', hof⟩ := hs.records old hold
  by_cases hsame : samePath old.reference record.reference = true
  · refine ⟨record, by simp [writePendingRecord], ?_⟩
    rw [hof, hrec] at hsame ⊢
    exact (reference_of_same hK hd' hd hsame).symm
  · exact ⟨old, by simp [writePendingRecord, hold, hsame], rfl⟩

/-- The record of a body is taken away only under its own reference. -/
theorem journaled_unlink (hK : Distinct K) (hs : Known K s) {r' : Reference} (hr' : ∃ d, K d ∧ r' = d.reference)
    (h : Journaled s r) : Journaled (unlinkPending r' s) r ∨ r' = r := by
  obtain ⟨old, hold, rfl⟩ := h
  obtain ⟨d, hd, rfl⟩ := hr'
  obtain ⟨d', hd', hof⟩ := hs.records old hold
  by_cases hsame : samePath old.reference d.reference = true
  · right
    rw [hof] at hsame ⊢
    exact (reference_of_same hK hd' hd hsame).symm
  · exact .inl ⟨old, by simp [unlinkPending, hold, hsame], rfl⟩

theorem Effect.known (h : Effect K s op s') (hop : op.Knows K) (hs : Known K s) : Known K s' := by
  cases h with
  | same | created | replaced | dropped | removed => exact ⟨hs.rows, hs.keyed, hs.keys, hs.records⟩
  | journaled record =>
    refine ⟨hs.rows, hs.keyed, hs.keys, fun record' hrecord' => ?_⟩
    simp only [writePendingRecord, List.mem_append, List.mem_filter, List.mem_singleton] at hrecord'
    rcases hrecord' with ⟨hold, -⟩ | rfl
    · exact hs.records record' hold
    · exact hop
  | cleared r =>
    refine ⟨hs.rows, hs.keyed, hs.keys, fun record hrecord => ?_⟩
    exact hs.records record (List.mem_of_mem_filter hrecord)
  | persisted d s' h => exact h.known

theorem Effect.referenced (h : Effect K s op s') (hr : Referenced s r) : Referenced s' r := by
  cases h with
  | same | created | replaced | dropped | removed | journaled | cleared => exact hr
  | persisted d s' h => exact h.mono r hr

theorem Effect.body (h : Effect K s op s') (hr : r ∈ s.bodies) : r ∈ s'.bodies ∨ op = .remove r := by
  cases h with
  | same | created | dropped | journaled | cleared => exact .inl hr
  | replaced temporary r' =>
    left
    simp only [replaceBody, List.mem_cons, List.mem_filter, decide_eq_true_eq]
    by_cases h : r = r'
    · exact .inl h
    · exact .inr ⟨hr, h⟩
  | removed r' =>
    by_cases h : r = r'
    · exact .inr (by rw [h])
    · exact .inl (by simp [removeBody, hr, h])
  | persisted d s' h => exact .inl (by rw [h.frame.1]; exact hr)

theorem Effect.body_new (h : Effect K s op s') (hr : r ∈ s'.bodies) : r ∈ s.bodies ∨ ∃ temporary, op = .replace temporary r := by
  cases h with
  | same | created | dropped | journaled | cleared => exact .inl hr
  | replaced temporary r' =>
    simp only [replaceBody, List.mem_cons, List.mem_filter] at hr
    rcases hr with rfl | ⟨hr, -⟩
    · exact .inr ⟨temporary, rfl⟩
    · exact .inl hr
  | removed r' => exact .inl (List.mem_of_mem_filter hr)
  | persisted d s' h => exact .inl (by rw [h.frame.1] at hr; exact hr)

/-- A row that refers to the body comes from a transaction. -/
theorem Effect.referenced_new (h : Effect K s op s') (hr : Referenced s' r) :
    Referenced s r ∨ ∃ d, op = .persistVerified d ∧ d.reference = r := by
  cases h with
  | same | created | replaced | dropped | removed | journaled | cleared => exact .inl hr
  | persisted d s' h => exact (h.rows r hr).imp_right fun hr => ⟨d, rfl, hr.symm⟩

theorem Effect.journal (hK : Distinct K) (hs : Known K s) (hop : op.Knows K) (h : Effect K s op s') (hr : Journaled s r) :
    Journaled s' r ∨ op = .unlinkPending r := by
  cases h with
  | same | created | replaced | dropped | removed => exact .inl hr
  | journaled record => exact .inl (journaled_write hK hs hop hr)
  | cleared r' =>
    rcases journaled_unlink hK hs hop hr with h | rfl
    · exact .inl h
    · exact .inr rfl
  | persisted d s' h =>
    obtain ⟨record, hrecord, href⟩ := hr
    exact .inl ⟨record, by rw [h.frame.2.1]; exact hrecord, href⟩

/-- A call made where its precondition holds keeps the bodies of the rows. -/
theorem Effect.kept (hK : Distinct K) (hs : Known K s) (hop : op.Knows K) (h : Effect K s op s') {hist : List Answered}
    (hpre : Pre s hist op) (hkept : Kept s) : Kept s' := by
  constructor
  · intro r hr
    rcases h.referenced_new hr with hr | ⟨d, rfl, rfl⟩
    · rcases h.body (hkept.committed r hr) with hb | rfl
      · exact hb
      · exact absurd hr hpre
    · rcases h.body hpre with hb | heq
      · exact hb
      · cases heq
  · intro r hr
    have hold : Referenced s r ∨ Journaled s r := by
      rcases h.body_new hr with hr | ⟨temporary, rfl⟩
      · exact hkept.recorded r hr
      · exact hpre.symm
    rcases hold with hold | hold
    · exact .inl (h.referenced hold)
    rcases h.journal hK hs hop hold with hj | rfl
    · exact .inr hj
    · left
      apply h.referenced
      rcases hpre with ⟨-, hgone⟩ | ⟨-, href⟩
      · rcases h.body_new hr with hb | ⟨temporary, heq⟩
        · exact absurd hb hgone
        · cases heq
      · exact href

end Stores

/-! ## The steps of a pool -/

section Steps

variable {K : Delivery → Prop} {w : Run} {pid : Nat}

/-- What holds where another process is suspended goes on holding while the windows are apart. -/
theorem pre_stable (hK : Distinct K) (hinv : Inv K w) (hapart : Apart w) {pid' : Nat} {op op' : Call} {s' : Store}
    (hp : Suspended w pid op) (hp' : Suspended w pid' op') (h : Effect K w.shared op s') :
    Pre s' (hist w.log pid') op' := by
  obtain ⟨hknows, hpre⟩ := hinv.calls pid op hp
  obtain ⟨-, hpre'⟩ := hinv.calls pid' op' hp'
  cases op' with
  | writePending record =>
    intro hhead
    rcases h.body (hpre' hhead) with hb | rfl
    · exact hb
    · exact absurd ⟨pid', _, hp', rfl⟩ (hapart _ ⟨pid, .inl hp⟩)
  | replace temporary r =>
    rcases hpre' with hj | href
    · rcases h.journal hK hinv.known hknows hj with hj | rfl
      · exact .inl hj
      · rcases hpre with ⟨hhead, -⟩ | ⟨-, href⟩
        · exact absurd ⟨pid', _, hp', rfl⟩ (hapart _ ⟨pid, .inr ⟨hp, hhead⟩⟩)
        · exact .inr (h.referenced href)
    · exact .inr (h.referenced href)
  | persistVerified d =>
    rcases h.body hpre' with hb | rfl
    · exact hb
    · exact absurd ⟨pid', _, hp', rfl⟩ (hapart _ ⟨pid, .inl hp⟩)
  | remove r =>
    intro href
    rcases h.referenced_new href with href | ⟨d, rfl, hd⟩
    · exact hpre' href
    · exact hapart r ⟨pid', .inl hp'⟩ ⟨pid, _, hp, hd⟩
  | unlinkPending r =>
    rcases hpre' with ⟨hhead, hgone⟩ | ⟨hhead, href⟩
    · refine .inl ⟨hhead, fun hb => ?_⟩
      rcases h.body_new hb with hb | ⟨temporary, rfl⟩
      · exact hgone hb
      · exact hapart r ⟨pid', .inr ⟨hp', hhead⟩⟩ ⟨pid, _, hp, rfl⟩
    · exact .inr ⟨hhead, h.referenced href⟩
  | _ => trivial

variable {job : Job}

theorem pre_next (hinv : Inv K w) {op op' : Call} {reply : Except Failure op.Answer} {s' : Store}
    (hp : Suspended w pid op) (hjob : ∀ d, job.delivery = some d → K d) (h : Effect K w.shared op s') (hpost : Post s' op reply)
    (hread : ∀ file record, ⟨.read file, .ok record⟩ ∈ (⟨op, reply⟩ :: hist w.log pid : List Answered) →
      ∃ d, K d ∧ record = d.record record.createdAt)
    (hfollows : Follows job (⟨op, reply⟩ :: hist w.log pid) op') :
    op'.Knows K ∧ Pre s' (⟨op, reply⟩ :: hist w.log pid) op' := by
  obtain ⟨hknows, hpre⟩ := hinv.calls pid op hp
  cases op' with
  | referenceState record =>
    obtain ⟨file, hfile⟩ := hfollows
    exact ⟨hread file record hfile, trivial⟩
  | writePending record =>
    obtain ⟨d, hd, hrecord⟩ := hfollows
    refine ⟨⟨d, hjob d hd, hrecord⟩, fun hhead => ?_⟩
    cases Option.some.inj hhead
    exact hpost
  | replace temporary r =>
    obtain ⟨-, d, createdAt, hd, rfl, hhead⟩ := hfollows
    cases Option.some.inj hhead
    exact ⟨trivial, .inl hpost⟩
  | persistVerified d =>
    obtain ⟨hd, ⟨createdAt, older, hhist⟩ | ⟨temporary, hhead⟩⟩ := hfollows
    · obtain ⟨hv, hrest⟩ := List.cons.inj hhist
      cases hv
      refine ⟨hjob d hd, ?_⟩
      rcases h.body (hpre (by rw [hrest]; rfl)) with hb | heq
      · exact hb
      · cases heq
    · cases Option.some.inj hhead
      exact ⟨hjob d hd, hpost⟩
  | remove r =>
    rcases hfollows with ⟨record, state, hhead, hne, rfl⟩ | ⟨d, hd, rfl, hhead⟩
    · cases Option.some.inj hhead
      obtain ⟨d, hd, hrecord⟩ := hknows
      refine ⟨⟨d, hd, by rw [hrecord]; rfl⟩, ?_⟩
      cases state with
      | accepted => exact absurd rfl hne
      | rejected | unreferenced => exact hpost
    · cases Option.some.inj hhead
      exact ⟨⟨d, hjob d hd, rfl⟩, hpost⟩
  | unlinkPending r =>
    rcases hfollows with hhead | ⟨record, hhead, rfl⟩ | ⟨d, a, hd, rfl, hhead⟩
    · cases Option.some.inj hhead
      exact ⟨hknows, .inl ⟨rfl, hpost⟩⟩
    · cases Option.some.inj hhead
      obtain ⟨d, hd, hrecord⟩ := hknows
      exact ⟨⟨d, hd, by rw [hrecord]; rfl⟩, .inr ⟨by simp, hpost⟩⟩
    · cases Option.some.inj hhead
      exact ⟨⟨d, hjob d hd, rfl⟩, .inr ⟨by simp, hpost⟩⟩
  | _ => exact ⟨trivial, trivial⟩

/-- Every call is awaited, so a step makes one call. -/
theorem settle_eq (i : Input) (pid : Nat) (p : Coro Unit) (s : Store) (log : List LogEntry) :
    ingress.settle i pid p s log = (p, s, log) := by
  cases p <;> rfl

theorem good_follows (hgood : ingress.Good (fun _ => True) promise {} w) {op : Call} {alive : Bool}
    {k : Except Failure op.Answer → Coro Unit} (hp : w.procs[pid]? = some ⟨job, .call op k, alive⟩) :
    Follows job (hist w.log pid) op :=
  (hgood.procs pid _ hp).1.1

theorem spawn_inv (hinv : Inv K w) {i : Input} (hgood : ingress.Good (fun _ => True) promise {} (ingress.step w (.spawn job i)))
    (hfresh : hist w.log w.procs.length = []) (hjob : ∀ d, job.delivery = some d → K d) :
    Inv K (ingress.step w (.spawn job i)) := by
  have hstep : ingress.step w (.spawn job i) = ⟨w.shared, w.procs ++ [⟨job, ingress.prog job, true⟩], w.log⟩ := by
    simp only [System.step, settle_eq]
  rw [hstep] at hgood ⊢
  refine ⟨hinv.known, ?_, hinv.reads, hinv.kept, ?_⟩
  · intro job' hjob' d hd
    simp only [List.map_append, List.map_cons, List.map_nil, List.mem_append, List.mem_singleton] at hjob'
    rcases hjob' with hold | rfl
    · exact hinv.jobs job' hold d hd
    · exact hjob d hd
  · rintro pid op ⟨job', k, hp⟩
    by_cases hlt : pid < w.procs.length
    · refine hinv.calls pid op ⟨job', k, ?_⟩
      rwa [List.getElem?_append_left hlt] at hp
    · have hpid : pid = w.procs.length := by
        have := (List.getElem?_eq_some_iff.1 hp).1
        simp at this
        omega
      subst hpid
      have hfollows := good_follows hgood hp
      have hjob' : job' = job := by
        simp only [List.getElem?_concat_length, Option.some.injEq, Proc.mk.injEq] at hp
        exact hp.1.symm
      subst hjob'
      simp only [hfresh] at hfollows ⊢
      -- a process that made no call has nothing to discard and nothing to commit
      cases op with
      | referenceState record =>
        obtain ⟨file, hfile⟩ := hfollows
        cases hfile
      | writePending record =>
        obtain ⟨d, hd, hrecord⟩ := hfollows
        exact ⟨⟨d, hjob d hd, hrecord⟩, fun hhead => by cases hhead⟩
      | replace temporary r =>
        obtain ⟨hh, -⟩ := hfollows
        cases hh
      | persistVerified d =>
        rcases hfollows.2 with ⟨createdAt, older, hhist⟩ | ⟨temporary, hhead⟩
        · cases hhist
        · cases hhead
      | remove r =>
        rcases hfollows with ⟨record, state, hhead, -⟩ | ⟨d, -, -, hhead⟩ <;> cases hhead
      | unlinkPending r =>
        rcases hfollows with hhead | ⟨record, hhead, -⟩ | ⟨d, a, -, -, hhead⟩ <;> cases hhead
      | _ => exact ⟨trivial, trivial⟩

theorem resume_inv (hK : Distinct K) (hinv : Inv K w) (hapart : Apart w) {i : Input} {op : Call}
    {k : Except Failure op.Answer → Coro Unit} (hp : w.procs[pid]? = some ⟨job, .call op k, true⟩)
    (hgood : ingress.Good (fun _ => True) promise {} (ingress.step w (.resume pid i))) :
    Inv K (ingress.step w (.resume pid i)) := by
  have hstep : ingress.step w (.resume pid i) = ⟨(exec i op w.shared).2,
      w.procs.set pid ⟨job, k (exec i op w.shared).1, true⟩,
      ⟨⟨op, (exec i op w.shared).1⟩, pid, w.shared, (exec i op w.shared).2⟩ :: w.log⟩ := by
    simp only [System.step, hp, System.chunk, settle_eq]
    rfl
  rw [hstep] at hgood ⊢
  have hsuspended : Suspended w pid op := ⟨job, k, hp⟩
  obtain ⟨hknows, hpre⟩ := hinv.calls pid op hsuspended
  have heffect := exec_effect hinv.known i hknows
  have hpost := exec_post hK hinv.known i hknows
  have hjob : ∀ d, job.delivery = some d → K d := fun d hd =>
    hinv.jobs job (List.mem_map.2 ⟨_, List.mem_of_getElem? hp, rfl⟩) d hd
  have hreads : ∀ file record, ⟨.read file, .ok record⟩ ∈ (⟨op, (exec i op w.shared).1⟩ :: hist w.log pid : List Answered) →
      ∃ d, K d ∧ record = d.record record.createdAt := by
    intro file record hmem
    rcases List.mem_cons.1 hmem with heq | hmem
    · generalize hr : (exec i op w.shared).1 = reply at heq hpost
      cases heq
      exact (heffect.known hknows hinv.known).records record hpost
    · exact hinv.reads pid file record hmem
  refine ⟨heffect.known hknows hinv.known, ?_, ?_, heffect.kept hK hinv.known hknows hpre hinv.kept, ?_⟩
  · have hjobs : (w.procs.set pid ⟨job, k (exec i op w.shared).1, true⟩).map (·.job) = w.procs.map (·.job) :=
      System.jobs_set w.procs pid hp rfl
    simp only [hjobs]
    exact hinv.jobs
  · intro pid' file record hmem
    by_cases hpid : pid = pid'
    · subst hpid
      rw [hist_cons_self] at hmem
      exact hreads file record hmem
    · rw [hist_cons_ne _ _ hpid] at hmem
      exact hinv.reads pid' file record hmem
  · rintro pid' op' ⟨job', k', hp'⟩
    by_cases hpid : pid = pid'
    · subst hpid
      have hfollows := good_follows hgood hp'
      have hjob' : job' = job := by
        simp only [List.getElem?_set_self (List.getElem?_eq_some_iff.1 hp).1, Option.some.injEq, Proc.mk.injEq] at hp'
        exact hp'.1.symm
      subst hjob'
      rw [hist_cons_self] at hfollows ⊢
      exact pre_next hinv hsuspended hjob heffect hpost hreads hfollows
    · have hold : Suspended w pid' op' := by
        refine ⟨job', k', ?_⟩
        simp only [List.getElem?_set_ne hpid] at hp'
        exact hp'
      rw [hist_cons_ne _ _ hpid]
      exact ⟨(hinv.calls pid' op' hold).1, pre_stable hK hinv hapart hsuspended hold heffect⟩

theorem kill_inv (hinv : Inv K w) : Inv K (ingress.step w (.kill pid)) := by
  simp only [System.step]
  split
  · rename_i p hp
    refine ⟨hinv.known, ?_, hinv.reads, hinv.kept, ?_⟩
    · have hjobs : (w.procs.set pid { p with alive := false }).map (·.job) = w.procs.map (·.job) :=
        System.jobs_set w.procs pid hp rfl
      simp only [hjobs]
      exact hinv.jobs
    · rintro pid' op ⟨job, k, hp'⟩
      by_cases hpid : pid = pid'
      · subst hpid
        rw [List.getElem?_set_self (List.getElem?_eq_some_iff.1 hp).1] at hp'
        simp at hp'
      · rw [List.getElem?_set_ne hpid] at hp'
        exact hinv.calls pid' op ⟨job, k, hp'⟩
  · exact hinv

end Steps

/-! ## Runs -/

def Delivered (actions : List Step) (d : Delivery) : Prop := ∃ enabled i, .spawn (.accept enabled d) i ∈ actions

/-- The deliveries are told apart by the files of their records, and at no time is a body discarded and persisted at once. -/
structure Orderly (actions : List Step) : Prop where
  distinct : Distinct (Delivered actions)
  apart : ∀ before after, actions = before ++ after → Apart (run before)

theorem run_concat (actions : List Step) (a : Step) : run (actions ++ [a]) = ingress.step (run actions) a := by
  simp only [run, System.run, List.foldl_append, List.foldl_cons, List.foldl_nil]

theorem run_inv {K : Delivery → Prop} (hK : Distinct K) (actions : List Step) (hd : ∀ d, Delivered actions d → K d)
    (hapart : ∀ before after, actions = before ++ after → Apart (run before)) : Inv K (run actions) := by
  induction actions using List.reverseRecOn with
  | nil =>
    refine ⟨⟨by simp [run, System.run], by simp [run, System.run], by simp [run, System.run], by simp [run, System.run]⟩,
      by simp [run, System.run], by simp [run, System.run], ⟨?_, by simp [run, System.run]⟩, ?_⟩
    · rintro r ⟨row, hrow, -⟩
      cases hrow
    · rintro pid op ⟨job, k, hp⟩
      cases hp
  | append_singleton actions a ih =>
    have hinv : Inv K (run actions) := by
      apply ih
      · rintro d ⟨enabled, i, hmem⟩
        exact hd d ⟨enabled, i, List.mem_append_left _ hmem⟩
      · intro before after h
        exact hapart before (after ++ [a]) (by rw [h, List.append_assoc])
    have hgood := run_good actions
    have hgood' := run_good (actions ++ [a])
    rw [run_concat] at hgood' ⊢
    cases a with
    | spawn job i =>
      apply spawn_inv hinv hgood' (hgood.legal.hist_fresh (by simp))
      intro d hjob
      cases job with
      | accept enabled d' =>
        cases Option.some.inj hjob
        exact hd _ ⟨enabled, i, by simp⟩
      | reconcilePendingBodies _ _ => cases hjob
    | resume pid i =>
      by_cases h : ∃ job op k, (run actions).procs[pid]? = some ⟨job, .call op k, true⟩
      · obtain ⟨job, op, k, hp⟩ := h
        exact resume_inv hK hinv (hapart actions [.resume pid i] rfl) hp hgood'
      · have hsame : ingress.step (run actions) (.resume pid i) = run actions := by
          simp only [System.step]
          split
          · rename_i job op k hp
            exact absurd ⟨job, op, k, hp⟩ h
          · rfl
        rw [hsame]
        exact hinv
    | kill pid => exact kill_inv hinv

end Middleware.Bodies

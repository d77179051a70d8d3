/-
Facts about the logs of the platform. Every run has a legal log (`run_legal`); what the properties of
the platform use of it is collected here: which job made a call and on which command, how the view
of a command moves along a stretch of the log, and what a read answered.
-/
import Middleware.Platform.Guarantee

namespace Middleware.Platform

open Ledger Lib

abbrev LogEntry := Entry Call.Answer Exc MemoryCommandStore

/-- A legal log of the platform from the empty store to `s`. -/
abbrev Legal (jobs : List Job) (log : Log) (s : MemoryCommandStore) : Prop :=
  platform.Legal WF discipline {} jobs log s

abbrev Run.jobs (w : Run) : List Job := w.procs.map (·.job)

variable (actions : List Step)

theorem run_good : platform.Good WF discipline {} (run actions) :=
  System.run_good platform_sound obeys WF.empty actions

theorem run_legal : Legal (run actions).jobs (run actions).log (run actions).shared :=
  (run_good actions).legal

/-- However the callers, the workers, the reconcilers and the operators interleave, reading the timeline of an operation never
finds its events out of order. -/
theorem timeline_monotonic (tenantId : String) (operationId : Uuid) (limit : Nat) :
    ∃ r, perform (timeline tenantId operationId limit) (run actions).shared = (r, (run actions).shared) ∧
      ∀ text, r ≠ .error (.commandConflict text) := by
  by_cases h : (tenantId, operationId) ∈ (run actions).shared.commands
  · obtain ⟨events, hread⟩ := timeline_ok (run_legal actions).inv limit h
    exact ⟨_, hread, fun text => by rintro ⟨⟩⟩
  · have hnone := AList.lookup_eq_none.2 h
    refine ⟨.error (.commandNotFound "command operation was not found"), ?_, fun text => by rintro ⟨⟩⟩
    simp only [timeline, MemoryCommandStore.listEvents, MemoryCommandStore.get, perform_bind, perform_get, hnone, perform_throw]

/-! ## Stretches -/

/-- A stretch of executed calls from `s` to `s'`. -/
structure Stretch (s : MemoryCommandStore) (log : Log) (s' : MemoryCommandStore) : Prop where
  chain : System.Chain s log s'
  steps : ∀ e ∈ log, WF e.before ∧ Executed e

variable {mid : Log}

section Stretch

variable {jobs : List Job} {s s' : MemoryCommandStore} {log newer older : Log} {e : LogEntry} {k : Key} {v v' : View}

theorem legal_stretch (hl : Legal jobs log s) : Stretch {} log s := by
  refine ⟨hl.chain, fun e he => ?_⟩
  obtain ⟨newer, older, rfl⟩ := List.append_of_mem he
  have := hl.split.1
  exact ⟨this.inv, this.exec⟩

theorem Stretch.split (h : Stretch s (newer ++ e :: older) s') :
    Stretch e.after newer s' ∧ Stretch s older e.before := by
  refine ⟨⟨(System.Chain.split h.chain).1, fun e' he' => h.steps e' (by simp [he'])⟩,
    ⟨(System.Chain.split h.chain).2, fun e' he' => h.steps e' (by simp [he'])⟩⟩

/-- A command that exists stays as it is or is written. -/
theorem view_step (hw : WF e.before) (he : Executed e) (hv : view e.before k = some v) :
    view e.after k = some v ∨ ∃ v', Wrote e k v v' := by
  rcases touched hw he k with h | ⟨_, _, _, _, hf, _⟩ | ⟨h⟩
  · exact .inl (by rw [h, hv])
  · rw [hv] at hf; cases hf
  · rename_i u v'
    have : u = v := Option.some.inj (h.before.symm.trans hv)
    subst this
    exact .inr ⟨v', h⟩

/-- A step to `dispatching` of a command. -/
def Opens (e : LogEntry) (k : Key) : Prop := ∃ v v', Wrote e k v v' ∧ v'.state = .dispatching

/-- Along a stretch attempts and versions only grow, and nothing gets back to `persisted`. -/
theorem Stretch.grows (h : Stretch s log s') (hv : view s k = some v) : ∃ v', view s' k = some v' ∧
    v.attempts ≤ v'.attempts ∧ v.operation.resourceVersion ≤ v'.operation.resourceVersion ∧
    (v'.state = .persisted → v.state = .persisted) := by
  refine (System.Chain.stays (P := fun s' => ∃ v', view s' k = some v' ∧ v.attempts ≤ v'.attempts ∧
    v.operation.resourceVersion ≤ v'.operation.resourceVersion ∧ (v'.state = .persisted → v.state = .persisted))
    h.chain ⟨v, hv, le_rfl, le_rfl, id⟩ ?_).1
  rintro e he ⟨u, hu, ha, hr, hp⟩
  rcases view_step (h.steps e he).1 (h.steps e he).2 hu with h' | ⟨u', hw⟩
  · exact ⟨u, h', ha, hr, hp⟩
  · refine ⟨u', hw.after, ?_, ?_, fun h => absurd h hw.change.not_persisted⟩
    · rcases hw.change.attempts with ⟨-, -, h⟩ | ⟨-, h⟩ <;> omega
    · rcases hw.change.version with ⟨h, -⟩ | h <;> omega

theorem Stretch.opens_later {o o' : LogEntry} {v v' u u' : View}
    (h : Stretch s (newer ++ o' :: (mid ++ o :: older)) s') (hw : Wrote o k v v') (hw' : Wrote o' k u u')
    (hd : u'.state = .dispatching) : v'.attempts < u'.attempts := by
  obtain ⟨x, hx, hle, -⟩ := h.split.2.split.1.grows hw.after
  cases Option.some.inj (hx.symm.trans hw'.before)
  rcases hw'.change.attempts with ⟨-, -, ha⟩ | ⟨hne, -⟩
  · omega
  · exact absurd hd hne

theorem Stretch.attempts_eq (h : Stretch s log s') (hv : view s k = some v) (hv' : view s' k = some v')
    (hno : ∀ e ∈ log, ¬ Opens e k) : v'.attempts = v.attempts := by
  obtain ⟨u, hu, ha⟩ := (System.Chain.stays (P := fun s' => ∃ v', view s' k = some v' ∧ v'.attempts = v.attempts)
    h.chain ⟨v, hv, rfl⟩ (by
      rintro e he ⟨u, hu, ha⟩
      rcases view_step (h.steps e he).1 (h.steps e he).2 hu with h' | ⟨u', hw⟩
      · exact ⟨u, h', ha⟩
      · rcases hw.change.attempts with ⟨-, hd, -⟩ | ⟨-, h⟩
        · exact absurd ⟨u, u', hw, hd⟩ (hno e he)
        · exact ⟨u', hw.after, h.trans ha⟩)).1
  rw [← Option.some.inj (hu.symm.trans hv')]
  exact ha

end Stretch

/-! ## Reads and writes -/

variable {tenantId : String} {commandId : Uuid} {t : Transition}

section Entries

variable {e : LogEntry}

theorem latestAttempt_reads (he : Executed e) {n : Nat}
    (hv : e.toEv = ⟨.latestAttempt tenantId commandId, .ok n⟩) :
    ∃ v, view e.before (tenantId, commandId) = some v ∧ v.attempts = n ∧ e.after = e.before := by
  obtain ⟨⟨c, reply⟩, pid, s, s'⟩ := e
  cases hv
  obtain ⟨i, he⟩ := he
  simp only [exec, latestAttempt_view] at he ⊢
  cases hv : view s (tenantId, commandId) with
  | none => rw [hv] at he; cases he
  | some v =>
    rw [hv] at he
    simp only [Prod.mk.injEq, Except.ok.injEq] at he
    exact ⟨v, rfl, he.1, he.2.symm⟩

theorem get_reads (he : Executed e) {o : CommandOperation}
    (hv : e.toEv = ⟨.get tenantId commandId, .ok o⟩) :
    ∃ v, view e.before (tenantId, commandId) = some v ∧ v.operation = o ∧ e.after = e.before := by
  obtain ⟨⟨c, reply⟩, pid, s, s'⟩ := e
  cases hv
  obtain ⟨i, he⟩ := he
  simp only [exec, get_view] at he ⊢
  cases hv : view s (tenantId, commandId) with
  | none => rw [hv] at he; cases he
  | some v =>
    rw [hv] at he
    simp only [Prod.mk.injEq, Except.ok.injEq] at he
    exact ⟨v, rfl, he.1, he.2.symm⟩

theorem transition_entry (hw : WF e.before) (he : Executed e) (hop : e.op = .transition t) :
    (e.ok = false ∧ e.after = e.before) ∨
      ∃ v v' now, Wrote e t.key v v' ∧ v'.operation = t.updated v.operation now := by
  obtain ⟨⟨c, reply⟩, pid, s, s'⟩ := e
  cases hop
  obtain ⟨i, he⟩ := he
  simp only [exec] at he hw
  rcases transition_view hw t i.now with ⟨x, h⟩ | ⟨v, v', s'', h, hv, hch, hu, hall, -⟩
  · rw [h] at he; cases he; exact .inl ⟨rfl, rfl⟩
  · rw [h] at he; cases he
    exact .inr ⟨v, v', i.now, ⟨rfl, rfl, hv, by rw [hall]; simp, hch⟩, hu⟩

theorem reconcile_entry (hw : WF e.before) (he : Executed e) {r : Reconciliation} (hop : e.op = .reconcile r) :
    (e.ok = false ∧ e.after = e.before) ∨
      ∃ v v' now, Wrote e r.key v v' ∧ v'.operation = r.updated v.operation now := by
  obtain ⟨⟨c, reply⟩, pid, s, s'⟩ := e
  cases hop
  obtain ⟨i, he⟩ := he
  simp only [exec] at he hw
  rcases reconcile_view hw r i.now with ⟨x, h⟩ | ⟨v, v', s'', h, hv, hch, hu, hall, -⟩
  · rw [h] at he; cases he; exact .inl ⟨rfl, rfl⟩
  · rw [h] at he; cases he
    exact .inr ⟨v, v', i.now, ⟨rfl, rfl, hv, by rw [hall]; simp, hch⟩, hu⟩

end Entries

/-! ## Openings -/

section Opening

variable {e : LogEntry} {k : Key} {v v' : View}

theorem moves_of_ok (hop : e.op = .transition t) (hok : e.ok = true) :
    moves e.toEv = some t.newState := by
  obtain ⟨⟨c, reply⟩, pid, s, s'⟩ := e
  cases hop
  cases reply with
  | ok => rfl
  | error => cases hok

theorem Opens.transition (h : Opens e k) : ∃ t v v', e.op = .transition t ∧ t.newState = .dispatching ∧ t.key = k ∧
    opens e.toEv = true ∧ Wrote e k v v' ∧ v.state = .queued ∧ v'.state = .dispatching ∧
    v'.attempts = v.attempts + 1 := by
  obtain ⟨v, v', hw, hs⟩ := h
  obtain ⟨t, hop, ht⟩ := hw.change.dispatching hs
  have hk := hw.key
  rw [hop] at hk
  rcases hw.change.attempts with ⟨hq, -, ha⟩ | ⟨hne, -⟩
  · exact ⟨t, v, v', hop, ht, Option.some.inj hk, by rw [opens, moves_of_ok hop hw.ok, ht]; rfl, hw, hq, hs, ha⟩
  · exact absurd hs hne

theorem opens_entry (hw : WF e.before) (he : Executed e) (ho : opens e.toEv = true) :
    ∃ t, e.op = .transition t ∧ Opens e t.key := by
  obtain ⟨⟨c, reply⟩, pid, s, s'⟩ := e
  have hm : moves ⟨c, reply⟩ = some .dispatching := by simpa [opens] using ho
  cases c with
  | transition t =>
    cases reply with
    | error => cases hm
    | ok o =>
      have ht : t.newState = .dispatching := Option.some.inj hm
      rcases transition_entry hw he rfl with ⟨h, -⟩ | ⟨v, v', now, hwr, hu⟩
      · cases h
      · exact ⟨t, rfl, v, v', hwr, by rw [View.state, hu]; exact ht⟩
  | _ => cases hm

end Opening

/-! ## Who made a call -/

/-- Whether a job runs the dispatcher. -/
def Job.worker : Job → Bool
  | .dispatch .. | .bus .. => true
  | _ => false

/-- The command a job works on, once it is known. -/
def Job.scope : Job → List Answered → Option Key
  | .dispatch _ tenantId commandId _ _, _ => some (tenantId, commandId)
  | .bus .., h | .reconciler _, h => (track h).row.map (·.2)
  | .mutate m, _ => some m.key
  | .submit .., _ => none

section Jobs

variable {j : Job} {h : List Answered}

/-- Whether a call is one a dispatcher or a reconciler makes on its command. -/
def Call.onCommand : Call → Bool
  | .get .. | .loadEnvelope .. | .latestAttempt .. | .transition _ | .reconcile _ | .acquire _ | .execute ..
  | .executed .. | .classifyError .. | .sourceResolve .. | .sourceRelease .. => true
  | _ => false

theorem guarantee_cases {c : Call} (hG : guarantee j h c) (hc : c.onCommand = true) :
    (∃ K, j.worker = true ∧ j.scope h = some K ∧ BusCall K h c) ∨
      ∃ r id K, j = .reconciler r ∧ (track h).row = some (id, K) ∧ j.scope h = some K ∧ ReconcilerCall r id K h c := by
  cases j with
  | submit => cases c <;> first | exact hG.elim | cases hc
  | dispatch => exact .inl ⟨_, rfl, rfl, hG⟩
  | bus b d =>
    simp only [guarantee] at hG
    cases hr : (track h).row with
    | none => rw [hr] at hG; obtain ⟨-, rfl⟩ := hG; cases hc
    | some row =>
      rw [hr] at hG
      refine .inl ⟨row.2, rfl, by simp [Job.scope, hr], ?_⟩
      cases c <;> first | exact hG | cases hc
  | reconciler r =>
    simp only [guarantee] at hG
    cases hr : (track h).row with
    | none => rw [hr] at hG; obtain ⟨-, rfl⟩ := hG; cases hc
    | some row =>
      rw [hr] at hG
      exact .inr ⟨r, row.1, row.2, rfl, rfl, by simp [Job.scope, hr], hG⟩
  | mutate m => obtain ⟨-, rfl⟩ := hG; cases hc

theorem transition_by (hG : guarantee j h (.transition t)) :
    (j.worker = true ∧ j.scope h = some t.key ∧ busTransition (track h) t) ∨
      ∃ r, j = .reconciler r ∧ j.scope h = some t.key ∧ reconcilerTransition r (track h) t := by
  rcases guarantee_cases hG rfl with
    ⟨K, hj, hs, rfl, ht⟩ | ⟨r, id, K, hj, -, hs, rfl, ht⟩
  · exact .inl ⟨hj, hs, ht⟩
  · exact .inr ⟨r, hj, hs, ht⟩

theorem reconcile_by {q : Reconciliation} (hG : guarantee j h (.reconcile q)) :
    ∃ r, j = .reconciler r ∧ j.scope h = some q.key ∧ reconcilerVerdict (track h) q := by
  rcases guarantee_cases hG rfl with
    ⟨K, hj, hs, hf⟩ | ⟨r, id, K, hj, -, hs, rfl, ht⟩
  · exact hf.elim
  · exact ⟨r, hj, hs, ht⟩

theorem mutate_by {m : Mutation} (hG : guarantee j h (.mutateOperation m)) : j = .mutate m := by
  cases j with
  | submit => exact hG.elim
  | dispatch => exact hG.elim
  | bus =>
    simp only [guarantee] at hG
    split at hG
    · cases hG.2
    · exact hG.elim
  | reconciler =>
    simp only [guarantee] at hG
    split at hG
    · cases hG.2
    · exact hG.elim
  | mutate => cases hG.2; rfl

variable {k : Key}

/-- A reconciler writes its own command, which it read as awaiting reconciliation and has not requeued. -/
theorem reconciler_writes {r : Reconciler} {c : Call} (hG : guarantee (.reconciler r) h c)
    (hk : c.key = some k) : (Job.reconciler r).scope h = some k ∧ (track h).requeued = false ∧
      ∃ o, (track h).read = some o ∧ o.state = .reconciliationRequired := by
  cases c with
  | transition t =>
    cases hk
    rcases transition_by hG with ⟨hw, -⟩ | ⟨r', -, hs, hq, o, ho, hst, -⟩
    · cases hw
    · exact ⟨hs, hq, o, ho, hst⟩
  | reconcile q =>
    cases hk
    obtain ⟨r', -, hs, hq, -, o, ho, hst, -⟩ := reconcile_by hG
    exact ⟨hs, hq, o, ho, hst⟩
  | mutateOperation m => cases mutate_by hG
  | _ => cases hk

/-- An execution is a worker's, on its own command, in an attempt it opened and under the number it holds. -/
theorem execute_by {adapterId : String} {c : CommandEnvelope} {x : AdapterContext}
    (hG : guarantee j h (.execute adapterId c x)) :
    j.worker = true ∧ j.scope h = some (x.tenantId, x.commandId) ∧ (track h).opened = true ∧
      (track h).token = some x.attempt ∧ (track h).executed = false := by
  rcases guarantee_cases hG rfl with
    ⟨K, hj, hs, rfl, ht⟩ | ⟨r, id, K, hj, -, hs, hf⟩
  · exact ⟨hj, hs, ht⟩
  · exact hf.elim

variable {v : Answered}

/-- The calls that can end an attempt are made before it ended. -/
theorem ends_by (hG : guarantee j h v.op) (hv : (endsAttempt v).isSome = true) :
    (track h).ending = none := by
  have hwork : ∀ {c : Call}, guarantee j h c → c.onCommand = true →
      (∀ K, BusCall K h c → (track h).ending = none) → (∀ r id K, ¬ ReconcilerCall r id K h c) →
      (track h).ending = none := by
    intro c hG hc hbus hrec
    rcases guarantee_cases hG hc with ⟨K, -, -, hb⟩ | ⟨r, id, K, -, -, -, hr⟩
    · exact hbus K hb
    · exact (hrec r id K hr).elim
  obtain ⟨c, reply⟩ := v
  cases c with
  | acquire a => exact hwork hG rfl (fun _ hb => hb.2.1) fun _ _ _ => id
  | executed a b => exact hwork hG rfl (fun _ hb => hb.2) fun _ _ _ => id
  | classifyError a b => exact hwork hG rfl (fun _ hb => hb.2) fun _ _ _ => id
  | _ => cases hv

theorem latestAttempt_by (hG : guarantee j h (.latestAttempt tenantId commandId)) :
    j.scope h = some (tenantId, commandId) := by
  rcases guarantee_cases hG rfl with
    ⟨K, hj, hs, rfl⟩ | ⟨r, id, K, hj, -, hs, rfl⟩
  · exact hs
  · exact hs

theorem get_by (hG : guarantee j h (.get tenantId commandId)) :
    j.scope h = some (tenantId, commandId) := by
  rcases guarantee_cases hG rfl with
    ⟨K, hj, hs, rfl⟩ | ⟨r, id, K, hj, -, hs, rfl⟩
  · exact hs
  · exact hs

theorem row_kept_by {row : Nat × Key} (hG : guarantee j h v.op) (hr : (track h).row = some row) :
    (track (v :: h)).row = some row := by
  have hne : h ≠ [] := by rintro rfl; cases hr
  have hc : claims v = none := by
    obtain ⟨c, reply⟩ := v
    cases j with
    | submit => cases c <;> first | rfl | exact hG.elim
    | dispatch => cases c <;> first | rfl | exact hG.elim
    | bus =>
      simp only [guarantee, hr] at hG
      cases c <;> first | rfl | exact hG.elim
    | reconciler =>
      simp only [guarantee, hr] at hG
      cases c <;> first | rfl | exact hG.elim
    | mutate => exact absurd hG.1 hne
  rw [track_cons, ← hr]
  simp [Track.next, hc]

theorem scope_kept {K : Key} (hG : guarantee j h v.op) (hs : j.scope h = some K) :
    j.scope (v :: h) = some K := by
  cases j with
  | bus =>
    obtain ⟨row, hr, rfl⟩ := Option.map_eq_some_iff.1 hs
    exact Option.map_eq_some_iff.2 ⟨row, row_kept_by hG hr, rfl⟩
  | reconciler =>
    obtain ⟨row, hr, rfl⟩ := Option.map_eq_some_iff.1 hs
    exact Option.map_eq_some_iff.2 ⟨row, row_kept_by hG hr, rfl⟩
  | _ => exact hs

variable {jobs : List Job} {log newer older : Log} {e : LogEntry} {s : MemoryCommandStore} {pid : Nat}

theorem legal_entry (hl : Legal jobs (newer ++ e :: older) s) : WF e.before ∧ Executed e ∧
    ∃ j, jobs[e.pid]? = some j ∧ guarantee j (hist older e.pid) e.op :=
  ⟨hl.split.1.inv, hl.split.1.exec, hl.split.1.job⟩

/-- A property of histories that a job's calls keep is kept along the log. -/
theorem kept_along {P : List Answered → Prop} (hj : jobs[pid]? = some j)
    (hP : ∀ h v, guarantee j h v.op → P h → P (v :: h)) : ∀ {newer : Log} {s : MemoryCommandStore},
    Legal jobs (newer ++ older) s → P (hist older pid) → P (hist (newer ++ older) pid)
  | [], _, _, h => h
  | e :: newer, s, hl, h => by
    obtain ⟨hlaw, hl'⟩ := System.Legal.split (show Legal jobs ([] ++ e :: (newer ++ older)) s from hl)
    have ih := kept_along hj hP hl' h
    rw [List.cons_append]
    by_cases hp : e.pid = pid
    · subst hp
      rw [hist_cons_self]
      obtain ⟨j', hj', hG⟩ := hlaw.job
      cases hj.symm.trans hj'
      exact hP _ _ hG ih
    · rw [hist_cons_ne _ _ hp]
      exact ih

theorem scope_along {K : Key} (hl : Legal jobs (newer ++ older) s) (hj : jobs[pid]? = some j)
    (hs : j.scope (hist older pid) = some K) : j.scope (hist (newer ++ older) pid) = some K :=
  kept_along hj (fun _ _ => scope_kept) hl hs

theorem scope_eq {e' : LogEntry} {K K' : Key} {j' : Job} (hl : Legal jobs (newer ++ e :: (mid ++ e' :: older)) s)
    (hp : e'.pid = e.pid) (hj : jobs[e.pid]? = some j) (hj' : jobs[e'.pid]? = some j')
    (hs : j.scope (hist (mid ++ e' :: older) e.pid) = some K) (hs' : j'.scope (hist older e'.pid) = some K') : K = K' := by
  have hl' := hl.split.2
  rw [hp] at hj' hs'
  cases hj.symm.trans hj'
  have hl'' : Legal jobs ((mid ++ [e']) ++ older) e.before := by simpa using hl'
  have := scope_along hl'' hj hs'
  rw [show mid ++ [e'] ++ older = mid ++ e' :: older by simp] at this
  exact Option.some.inj (hs.symm.trans this)

theorem own_opening {o : LogEntry} (hl : Legal jobs (newer ++ e :: (mid ++ o :: older)) s)
    (hp : o.pid = e.pid) (hj : jobs[e.pid]? = some j) (hs : j.scope (hist (mid ++ o :: older) e.pid) = some k)
    (ho : opens o.toEv = true) : Opens o k := by
  obtain ⟨hw, he, j', hj', hG⟩ := legal_entry hl.split.2
  obtain ⟨t, hot, hopens⟩ := opens_entry hw he ho
  rw [hot] at hG
  have hs' : j'.scope (hist older o.pid) = some t.key := by
    rcases transition_by hG with ⟨-, hs, -⟩ | ⟨r, -, hs, -⟩
    · exact hs
    · exact hs
  rw [scope_eq hl hp hj hj' hs hs']
  exact hopens

/-- The number a process holds was the number of attempts when it was read. -/
theorem token_read {newer older : Log} {q z : LogEntry} {n : Nat}
    (hl : Legal jobs (newer ++ q :: (mid ++ z :: older)) s) (hp : z.pid = q.pid) (hj : jobs[q.pid]? = some j)
    (hs : j.scope (hist (mid ++ z :: older) q.pid) = some k) (hz : tokenOf z.toEv = some n) :
    ∃ v, view z.before k = some v ∧ v.attempts = n ∧ z.after = z.before := by
  obtain ⟨tenantId, commandId, hz⟩ := tokenOf_eq hz
  obtain ⟨-, he, j', hj', hG⟩ := legal_entry hl.split.2
  rw [show z.op = .latestAttempt tenantId commandId from congrArg Ev.op hz] at hG
  rw [scope_eq hl hp hj hj' hs (latestAttempt_by hG)]
  exact latestAttempt_reads he hz

theorem opens_of_check (hl : Legal jobs log s) (he : e ∈ log) (hc : opens e.toEv && e.op.key == some k) : Opens e k := by
  obtain ⟨newer, older, rfl⟩ := List.append_of_mem he
  obtain ⟨hw, hx, -⟩ := legal_entry hl
  obtain ⟨ho, hk⟩ := Bool.and_eq_true_iff.1 hc
  obtain ⟨t, hop, h⟩ := opens_entry hw hx ho
  have hk : some t.key = some k := by simpa [hop, Call.key] using hk
  exact Option.some.inj hk ▸ h

end Jobs

/-! ## Looking into a log -/

def stateAfter (e : LogEntry) (k : Key) : Option CommandState := (view e.after k).map (·.state)

def stateBefore (e : LogEntry) (k : Key) : Option CommandState := (view e.before k).map (·.state)

theorem split_one {β : Type} (l : List β) (i : Nat) {x : β} (h : l[i]? = some x) :
    l = l.take i ++ x :: l.drop (i + 1) := by
  obtain ⟨hi, rfl⟩ := List.getElem?_eq_some_iff.1 h
  rw [← List.drop_eq_getElem_cons hi, List.take_append_drop]

theorem split_at {β : Type} (l : List β) (i j : Nat) {x y : β} (hx : l[i]? = some x) (hy : l[i + 1 + j]? = some y) :
    l = l.take i ++ x :: ((l.drop (i + 1)).take j ++ y :: l.drop (i + 1 + j + 1)) := by
  have hy' := split_one (l.drop (i + 1)) j (by rw [List.getElem?_drop]; exact hy)
  rw [List.drop_drop] at hy'
  rw [Nat.add_assoc (i + 1) j 1, ← hy']
  exact split_one l i hx

end Middleware.Platform

/-
Verdicts against the version that was read. The reconciler reads the operation, asks the provider and
then writes: a verdict behind the version it read, a requeue behind the attempt number, or a dead
letter behind nothing. A transition does not take a new version, so the version alone does not tell
that the command was requeued, dispatched and parked again in between.

`verdict_fresh_iff` says what does tell: nobody else wrote the command between the read and the write
exactly when, just before the write, it still awaits reconciliation, at the version that was read plus
the reconciler's own verdicts, and with no new attempt.
-/
import Middleware.Platform.Log

namespace Middleware.Platform

open Ledger Lib

/-! ## The property -/

/-- The last read of the operation by the process was the entry `g`. -/
def LastRead (mid : Log) (g : LogEntry) (pid : Nat) : Prop :=
  g.pid = pid ∧ (reads g.toEv).isSome = true ∧ ∀ x ∈ mid, x.pid = pid → reads x.toEv = none

/-- Nobody but the process wrote the command. -/
def Untouched (mid : Log) (pid : Nat) (k : Key) : Prop := ∀ x ∈ mid, x.pid ≠ pid → ∀ v v', ¬ Wrote x k v v'

def ownVerdicts (mid : Log) (pid : Nat) : Nat := (hist mid pid).countP fun u => (judges u).isSome

/-- Just before the write the command still awaits reconciliation, at the version that was read and the
process's own verdicts later, and no attempt was opened. -/
def Unchanged (mid : Log) (pid : Nat) (u v : View) : Prop :=
  v.state = .reconciliationRequired ∧
    v.operation.resourceVersion = u.operation.resourceVersion + ownVerdicts mid pid ∧ v.attempts = u.attempts

/-- Every ledger write of a reconciler that succeeds comes after nobody else's since its read, and one that
raises changes nothing. -/
structure VerdictFresh (jobs : List Job) (log : Log) (k : Key) : Prop where
  fresh : ∀ newer e mid g rest r, log = newer ++ e :: (mid ++ g :: rest) → jobs[e.pid]? = some (.reconciler r) →
    e.op.key = some k → e.ok = true → LastRead mid g e.pid → Untouched mid e.pid k
  raised : ∀ newer e older r, log = newer ++ e :: older → jobs[e.pid]? = some (.reconciler r) →
    e.op.key = some k → e.ok = false → e.after = e.before

/-- Every ledger write of a reconciler that succeeds finds the command as it was read. -/
def FindsUnchanged (jobs : List Job) (log : Log) (k : Key) : Prop :=
  ∀ newer e mid g rest r u v, log = newer ++ e :: (mid ++ g :: rest) → jobs[e.pid]? = some (.reconciler r) →
    e.op.key = some k → e.ok = true → LastRead mid g e.pid → view g.before k = some u → view e.before k = some v →
    Unchanged mid e.pid u v

/-! ## Stretches of a parked command -/

section Parked

variable {jobs : List Job} {s s' : MemoryCommandStore} {k : Key} {mid : Log} {pid : Nat} {u v : View}

/-- The process's verdicts are on the command. -/
def VerdictsOn (mid : Log) (pid : Nat) (k : Key) : Prop :=
  ∀ x ∈ mid, x.pid = pid → (judges x.toEv).isSome = true → ∃ w w', Wrote x k w w' ∧
    w'.operation.resourceVersion = w.operation.resourceVersion + 1

theorem ownVerdicts_cons (x : LogEntry) (mid : Log) (pid : Nat) :
    ownVerdicts (x :: mid) pid =
      ownVerdicts mid pid + if x.pid = pid ∧ (judges x.toEv).isSome = true then 1 else 0 := by
  unfold ownVerdicts
  by_cases hp : x.pid = pid
  · subst hp
    rw [hist_cons_self, List.countP_cons]
    simp
  · rw [hist_cons_ne _ _ hp]
    simp [hp]

theorem ownVerdicts_append (a b : Log) (pid : Nat) :
    ownVerdicts (a ++ b) pid = ownVerdicts a pid + ownVerdicts b pid := by
  rw [ownVerdicts, hist_append, List.countP_append]
  rfl

theorem Stretch.version_ge : ∀ {mid : Log} {s' : MemoryCommandStore} {v : View}, Stretch s mid s' →
    VerdictsOn mid pid k → view s k = some u → view s' k = some v →
    u.operation.resourceVersion + ownVerdicts mid pid ≤ v.operation.resourceVersion
  | [], s', v, h, _, hu, hv => by
    rw [h.chain, hu] at hv
    cases hv
    simp [ownVerdicts]
  | x :: mid, s', v, h, hown, hu, hv => by
    have hst := Stretch.split (show Stretch s ([] ++ x :: mid) s' from h)
    obtain ⟨w, hw, -⟩ := hst.2.grows hu
    have ih := Stretch.version_ge hst.2 (fun y hy => hown y (List.mem_cons_of_mem _ hy)) hu hw
    have hx := h.steps x List.mem_cons_self
    have hv : view x.after k = some v := by rw [h.chain.1]; exact hv
    rw [ownVerdicts_cons]
    split
    · rename_i hj
      obtain ⟨w₁, w₁', hwr, hver⟩ := hown x List.mem_cons_self hj.1 hj.2
      cases Option.some.inj (hwr.before.symm.trans hw)
      cases Option.some.inj (hwr.after.symm.trans hv)
      omega
    · rcases view_step hx.1 hx.2 hw with h' | ⟨w', hwr⟩
      · cases Option.some.inj (h'.symm.trans hv); omega
      · cases Option.some.inj (hwr.after.symm.trans hv)
        rcases hwr.change.version with ⟨h, -⟩ | h <;> omega

/-- The command left reconciliation and cannot come back without a new attempt or a mutation. -/
def Left (z : View) : Prop := z.state = .queued ∨ z.state.absorbing = true

theorem left_of_edge {z z' : View} (hz : z.state = .reconciliationRequired ∨ Left z)
    (hedge : z'.state ∈ z.state.allowedTransitions) (hd : z'.state ≠ .dispatching) : Left z' := by
  unfold Left at *
  revert hedge hd
  rcases hz with hz | hz | hz
  · rw [hz]; cases z'.state <;> decide
  · rw [hz]; cases z'.state <;> decide
  · revert hz; cases z.state <;> cases z'.state <;> decide

theorem left_of_verdict {z z' : View} {r : Reconciliation} (h : Change (.reconcile r) z z') :
    ¬ Left z ∧ (z'.state = .reconciliationRequired ∨ Left z') := by
  obtain ⟨hz, hz', -, -⟩ := h.verdict
  refine ⟨by rw [Left, hz]; decide, ?_⟩
  rcases hz' with hz' | hz'
  · exact .inr (.inr (by rw [hz']; rfl))
  · exact .inl hz'

/-- Who finds the command as it was read is not after anybody else's write. -/
theorem untouched_of_unchanged (h : Stretch s mid s') (hown : VerdictsOn mid pid k) (hu : view s k = some u)
    (hr : u.state = .reconciliationRequired) (hv : view s' k = some v) (hun : Unchanged mid pid u v) :
    Untouched mid pid k := by
  obtain ⟨hvr, hver, hatt⟩ := hun
  have hno : ∀ x ∈ mid, ¬ Opens x k := by
    intro x hx ho
    obtain ⟨a, b, rfl⟩ := List.append_of_mem hx
    obtain ⟨-, w, w', -, -, -, -, hw, -, -, hn⟩ := ho.transition
    obtain ⟨z, hz, hle, -⟩ := h.split.2.grows hu
    cases Option.some.inj (hz.symm.trans hw.before)
    obtain ⟨z', hz', hle', -⟩ := h.split.1.grows hw.after
    cases Option.some.inj (hz'.symm.trans hv)
    omega
  -- the version leaves no room for a verdict or a mutation of somebody else
  have hkind : ∀ x ∈ mid, ∀ w w', Wrote x k w w' →
      (x.pid = pid ∧ ∃ r, x.op = .reconcile r) ∨
        w'.state ∈ w.state.allowedTransitions ∧ w'.state ≠ .dispatching := by
    intro x hx w w' hw
    by_cases hj : x.pid = pid ∧ (judges x.toEv).isSome = true
    · obtain ⟨r, o, hro⟩ := judges_eq hj.2
      exact .inl ⟨hj.1, r, congrArg Ev.op hro⟩
    · rcases hw.change.version with ⟨-, hedge⟩ | hbump
      · exact .inr ⟨hedge, fun hd => hno x hx ⟨w, w', hw, hd⟩⟩
      · obtain ⟨a, b, rfl⟩ := List.append_of_mem hx
        have h₁ := h.split.2.version_ge (fun y hy => hown y (by simp [hy])) hu hw.before
        have h₂ := h.split.1.version_ge (fun y hy => hown y (by simp [hy])) hw.after hv
        rw [ownVerdicts_append, ownVerdicts_cons, if_neg hj] at hver
        omega
  have hstay : ∀ x ∈ mid, ∀ w w', Wrote x k w w' → (w.state = .reconciliationRequired ∨ Left w) →
      (w'.state = .reconciliationRequired ∨ Left w') ∧ (Left w → Left w') := by
    intro x hx w w' hw hs
    rcases hkind x hx w w' hw with ⟨-, r, hr⟩ | ⟨hedge, hd⟩
    · have hl := left_of_verdict (hr ▸ hw.change)
      exact ⟨hl.2, fun h => absurd h hl.1⟩
    · exact ⟨.inr (left_of_edge hs hedge hd), fun _ => left_of_edge hs hedge hd⟩
  intro x hx hp w w' hw
  obtain ⟨a, b, rfl⟩ := List.append_of_mem hx
  -- up to the foreign write the command is parked or left, and from it on it stays left
  have hbefore : w.state = .reconciliationRequired ∨ Left w := by
    obtain ⟨z, hz, hs⟩ := (System.Chain.stays
      (P := fun s => ∃ z, view s k = some z ∧ (z.state = .reconciliationRequired ∨ Left z))
      h.split.2.chain ⟨u, hu, .inl hr⟩ (by
        rintro y hy ⟨z, hz, hs⟩
        have hy' := h.split.2.steps y hy
        rcases view_step hy'.1 hy'.2 hz with h' | ⟨z', hwz⟩
        · exact ⟨z, h', hs⟩
        · exact ⟨z', hwz.after, (hstay y (by simp [hy]) z z' hwz hs).1⟩)).1
    cases Option.some.inj (hz.symm.trans hw.before)
    exact hs
  have hleft : Left w' := by
    rcases hkind x hx w w' hw with ⟨h, -⟩ | ⟨hedge, hd⟩
    · exact absurd h hp
    · exact left_of_edge hbefore hedge hd
  obtain ⟨z, hz, hs⟩ := (System.Chain.stays (P := fun s => ∃ z, view s k = some z ∧ Left z)
    h.split.1.chain ⟨w', hw.after, hleft⟩ (by
      rintro y hy ⟨z, hz, hs⟩
      have hy' := h.split.1.steps y hy
      rcases view_step hy'.1 hy'.2 hz with h' | ⟨z', hwz⟩
      · exact ⟨z, h', hs⟩
      · exact ⟨z', hwz.after, (hstay y (by simp [hy]) z z' hwz (.inr hs)).2 hs⟩)).1
  cases Option.some.inj (hz.symm.trans hv)
  rw [Left, hvr] at hs
  revert hs
  decide

/-- What a reconciler's own writes do: a verdict, or an end. -/
def OwnWrites (mid : Log) (pid : Nat) (k : Key) : Prop :=
  ∀ x ∈ mid, x.pid = pid → ∀ w w', Wrote x k w w' → (judges x.toEv).isSome = true ∨ w'.state.absorbing = true

/-- Who is not after anybody else's write finds the command as it was read, or over. -/
theorem unchanged_of_untouched : ∀ {mid : Log} {s' : MemoryCommandStore} {v : View}, Stretch s mid s' →
    VerdictsOn mid pid k → OwnWrites mid pid k → Untouched mid pid k → view s k = some u →
    u.state = .reconciliationRequired → view s' k = some v → Unchanged mid pid u v ∨ v.state.absorbing = true
  | [], s', v, h, _, _, _, hu, hr, hv => by
    rw [h.chain, hu] at hv
    cases hv
    exact .inl ⟨hr, rfl, rfl⟩
  | x :: mid, s', v, h, hown, hend, hunt, hu, hr, hv => by
    have hst := Stretch.split (show Stretch s ([] ++ x :: mid) s' from h)
    obtain ⟨w, hw, -⟩ := hst.2.grows hu
    have hx := h.steps x List.mem_cons_self
    have hv : view x.after k = some v := by rw [h.chain.1]; exact hv
    have ih := unchanged_of_untouched hst.2 (fun y hy => hown y (List.mem_cons_of_mem _ hy))
      (fun y hy => hend y (List.mem_cons_of_mem _ hy)) (fun y hy => hunt y (List.mem_cons_of_mem _ hy)) hu hr hw
    rcases view_step hx.1 hx.2 hw with h' | ⟨w', hwr⟩
    · cases Option.some.inj (h'.symm.trans hv)
      rcases ih with ⟨h₁, h₂, h₃⟩ | ih
      · refine .inl ⟨h₁, ?_, h₃⟩
        rw [ownVerdicts_cons, if_neg, h₂]
        · rfl
        · rintro ⟨hp, hj⟩
          obtain ⟨z, z', hz, hver⟩ := hown x List.mem_cons_self hp hj
          cases Option.some.inj (hz.before.symm.trans hw)
          cases Option.some.inj (hz.after.symm.trans h')
          omega
      · exact .inr ih
    · cases Option.some.inj (hwr.after.symm.trans hv)
      have hp : x.pid = pid := by_contra fun hp => hunt x List.mem_cons_self hp w v hwr
      rcases hend x List.mem_cons_self hp w v hwr with hj | habs
      · obtain ⟨r, o, hro⟩ := judges_eq hj
        obtain ⟨hwst, hst', hver, hatt⟩ := Change.verdict (r := r) (by
          rw [← show x.op = .reconcile r from congrArg Ev.op hro]; exact hwr.change)
        rcases hst' with hc | hp'
        · exact .inr (by rw [hc]; rfl)
        · rcases ih with ⟨-, h₂, h₃⟩ | ih
          · refine .inl ⟨hp', ?_, hatt.trans h₃⟩
            rw [ownVerdicts_cons, if_pos ⟨hp, hj⟩]
            omega
          · rw [hwst] at ih; cases ih
      · exact .inr habs

end Parked

/-! ## Every run -/

section Proof

variable {jobs : List Job} {s : MemoryCommandStore} {k : Key} {newer mid rest : Log} {e g x : LogEntry} {r : Reconciler}

theorem same_command {k' : Key} (hl : Legal jobs (newer ++ e :: (mid ++ x :: rest)) s)
    (hj : jobs[e.pid]? = some (.reconciler r)) (hk : e.op.key = some k) (hp : x.pid = e.pid)
    (hx : ∀ h, guarantee (.reconciler r) h x.op → (Job.reconciler r).scope h = some k') : k = k' := by
  obtain ⟨-, -, j, hje, hG⟩ := legal_entry hl
  obtain ⟨-, -, j', hjx, hGx⟩ := legal_entry hl.split.2
  cases hj.symm.trans hje
  have hjx' := hjx
  rw [hp] at hjx'
  cases hj.symm.trans hjx'
  exact scope_eq hl hp hj hjx (reconciler_writes hG hk).1 (hx _ hGx)

theorem verdicts_on (hl : Legal jobs (newer ++ e :: (mid ++ rest)) s) (hj : jobs[e.pid]? = some (.reconciler r))
    (hk : e.op.key = some k) : VerdictsOn mid e.pid k := by
  intro x hx hp hjud
  obtain ⟨q, o, hqo⟩ := judges_eq hjud
  have hop : x.op = .reconcile q := congrArg Ev.op hqo
  obtain ⟨a, b, rfl⟩ := List.append_of_mem hx
  have hlx : Legal jobs (newer ++ e :: (a ++ x :: (b ++ rest))) s := by simpa using hl
  have hkey : k = q.key := same_command hlx hj hk hp fun h hG => by
    rw [hop] at hG
    obtain ⟨-, -, hs, -⟩ := reconcile_by hG
    exact hs
  obtain ⟨hwx, hex, -⟩ := legal_entry hlx.split.2
  rcases reconcile_entry hwx hex hop with ⟨hf, -⟩ | ⟨v, v', now, hwr, -⟩
  · rw [show x.ok = true by rw [Ev.ok, hqo]] at hf; cases hf
  · rw [hkey]
    exact ⟨v, v', hwr, (Change.verdict (hop ▸ hwr.change)).2.2.1⟩

/-- Before a reconciler's write its own writes were verdicts, or ended the command. -/
theorem own_writes (hl : Legal jobs (newer ++ e :: (mid ++ rest)) s) (hj : jobs[e.pid]? = some (.reconciler r))
    (hk : e.op.key = some k) : OwnWrites mid e.pid k := by
  intro x hx hp w w' hwr
  obtain ⟨-, -, j, hje, hG⟩ := legal_entry hl
  cases hj.symm.trans hje
  have hreq := (reconciler_writes hG hk).2.1
  obtain ⟨a, b, rfl⟩ := List.append_of_mem hx
  have hlx : Legal jobs (newer ++ e :: (a ++ x :: (b ++ rest))) s := by simpa using hl
  obtain ⟨hwx, hex, jx, hjx, hGx⟩ := legal_entry hlx.split.2
  rw [hp] at hjx
  cases hj.symm.trans hjx
  cases hop : x.op with
  | transition t =>
    rw [hop] at hGx
    have hstate : w'.state = t.newState := by
      obtain ⟨v, v', now, hwr', hu⟩ := (transition_entry hwx hex hop).resolve_left fun h => by
        rw [hwr.ok] at h; cases h.1
      have hkey : t.key = k := by have := hwr.key; rw [hop] at this; exact Option.some.inj this
      cases Option.some.inj (hwr.after.symm.trans (hkey ▸ hwr'.after))
      rw [View.state, hu]
      rfl
    rcases transition_by hGx with ⟨hwk, -⟩ | ⟨r', -, -, -, o, -, -, ht⟩
    · cases hwk
    · split at ht
      · -- it would have requeued before the write
        rename_i hst
        rw [track_requeued, List.any_eq_false] at hreq
        refine absurd ?_ (hreq x.toEv (mem_hist.2 ⟨x, by simp, hp, rfl⟩))
        rw [requeues, moves_of_ok hop hwr.ok, hst]
        rfl
      · rename_i hst
        exact .inr (by rw [hstate, hst]; rfl)
      · exact ht.elim
  | reconcile q =>
    left
    have hok := hwr.ok
    obtain ⟨⟨c, reply⟩, pid, _, _⟩ := x
    cases hop
    cases reply with
    | ok => rfl
    | error => cases hok
  | mutateOperation m => rw [hop] at hGx; cases mutate_by hGx
  | _ => have := hwr.key; rw [hop] at this; cases this

theorem parked_when_read (hl : Legal jobs (newer ++ e :: (mid ++ g :: rest)) s)
    (hj : jobs[e.pid]? = some (.reconciler r)) (hk : e.op.key = some k) (hr : LastRead mid g e.pid) :
    ∃ u, view g.before k = some u ∧ g.after = g.before ∧ u.state = .reconciliationRequired := by
  obtain ⟨hgp, hgr, hgno⟩ := hr
  obtain ⟨-, -, j, hje, hG⟩ := legal_entry hl
  cases hj.symm.trans hje
  obtain ⟨-, -, o, ho, host⟩ := reconciler_writes hG hk
  obtain ⟨o', ho'⟩ := Option.isSome_iff_exists.1 hgr
  obtain ⟨tenantId, commandId, hget⟩ := reads_eq ho'
  have hop : g.op = .get tenantId commandId := congrArg Ev.op hget
  have hoo : o = o' := by
    rw [track_read, hist_append, List.findSome?_append] at ho
    rw [← hgp, hist_cons_self, List.findSome?_cons, ho', hgp] at ho
    rw [List.findSome?_eq_none_iff.2 fun u hu => ?_] at ho
    · exact (Option.some.inj ho).symm
    · obtain ⟨y, hy, hyp, rfl⟩ := mem_hist.1 hu
      exact hgno y hy hyp
  have hkey : k = (tenantId, commandId) := same_command hl hj hk hgp fun h hG => by rw [hop] at hG; exact get_by hG
  obtain ⟨u, hu, huo, hga⟩ := get_reads (legal_entry hl.split.2).2.1 hget
  rw [hkey]
  exact ⟨u, hu, hga, by rw [View.state, huo, ← hoo]; exact host⟩

/-- A reconciler's write raised and changed nothing, or wrote the command. -/
theorem reconciler_entry {older : Log} (hl : Legal jobs (newer ++ e :: older) s)
    (hj : jobs[e.pid]? = some (.reconciler r)) (hk : e.op.key = some k) :
    (e.ok = false ∧ e.after = e.before) ∨ ∃ v v', Wrote e k v v' := by
  obtain ⟨hw, he, j, hje, hG⟩ := legal_entry hl
  cases hj.symm.trans hje
  cases hop : e.op with
  | transition t =>
    have hkey : t.key = k := by rw [hop] at hk; exact Option.some.inj hk
    rcases transition_entry hw he hop with h | ⟨v, v', now, hwr, -⟩
    · exact .inl h
    · exact .inr ⟨v, v', hkey ▸ hwr⟩
  | reconcile q =>
    have hkey : q.key = k := by rw [hop] at hk; exact Option.some.inj hk
    rcases reconcile_entry hw he hop with h | ⟨v, v', now, hwr, -⟩
    · exact .inl h
    · exact .inr ⟨v, v', hkey ▸ hwr⟩
  | mutateOperation m => rw [hop] at hG; cases mutate_by hG
  | _ => rw [hop] at hk; cases hk

/-- In every run the verdicts of reconcilers are fresh exactly when each of their writes that succeeds finds
the command as it was read. -/
theorem verdict_fresh_iff (actions : List Step) (k : Key) :
    VerdictFresh (run actions).jobs (run actions).log k ↔ FindsUnchanged (run actions).jobs (run actions).log k := by
  have hl := run_legal actions
  generalize (run actions).log = log at hl
  generalize (run actions).jobs = jobs at hl
  generalize (run actions).shared = s at hl
  constructor
  · rintro h newer e mid g rest r u v rfl hj hk hok hr hu hv
    have hunt := h.fresh newer e mid g rest r rfl hj hk hok hr
    obtain ⟨u', hu', hga, hpark⟩ := parked_when_read hl hj hk hr
    cases Option.some.inj (hu.symm.trans hu')
    have hst : Stretch g.after mid e.before := (legal_stretch hl.split.2).split.1
    refine (unchanged_of_untouched hst (verdicts_on hl hj hk) (own_writes hl hj hk) hunt (hga ▸ hu) hpark hv).resolve_right
      fun habs => ?_
    -- the write succeeded, so the command was not over
    rcases reconciler_entry hl hj hk with ⟨hf, -⟩ | ⟨w, w', hwr⟩
    · rw [hok] at hf; cases hf
    · cases Option.some.inj (hwr.before.symm.trans hv)
      rw [hwr.change.not_absorbing] at habs
      cases habs
  · rintro h
    refine ⟨?_, ?_⟩
    · rintro newer e mid g rest r rfl hj hk hok hr
      obtain ⟨u, hu, hga, hpark⟩ := parked_when_read hl hj hk hr
      have hst : Stretch g.after mid e.before := (legal_stretch hl.split.2).split.1
      obtain ⟨v, hv, -⟩ := hst.grows (hga ▸ hu)
      exact untouched_of_unchanged hst (verdicts_on hl hj hk) (hga ▸ hu) hpark hv
        (h newer e mid g rest r u v rfl hj hk hok hr hu hv)
    · rintro newer e older r rfl hj hk hf
      rcases reconciler_entry hl hj hk with ⟨-, h⟩ | ⟨w, w', hwr⟩
      · exact h
      · rw [hwr.ok] at hf; cases hf

end Proof

/-! ## A stale verdict -/

namespace Synthetic

/-- A first reconciler reads the parked command and its lease runs out. A second one finds no effect and
requeues, and a worker parks the second attempt. Then the first one goes on and records its match: the
version is the one it read. -/
def staleVerdict : List Step :=
  let unknown := { input with executed := .ok { outcome := .unknown } }
  [start submit] ++ drive 0 input 2 ++ [start (bus "a")] ++ drive 1 unknown 9 ++
    [start reconciler 100] ++ drive 2 (later 100) 2 ++
    [start reconciler 200] ++ drive 3 (later 200 { input with readback := .ok { status := .notFound } }) 7 ++
    [start (bus "b") 200] ++ drive 4 (later 200 unknown) 8 ++ drive 2 (later 200) 4

end Synthetic

/-- The verdict of the first reconciler is recorded although another attempt was opened since its read. -/
theorem stale_verdict_recorded :
    ¬ VerdictFresh (run Synthetic.staleVerdict).jobs (run Synthetic.staleVerdict).log Synthetic.key := by
  intro h
  have hl := run_legal Synthetic.staleVerdict
  have hjob : ((run Synthetic.staleVerdict).jobs[2]?.any fun j : Job => match j with
      | .reconciler _ => true
      | _ => false) = true := by
    decide +kernel
  -- the verdict is the entry 0 of the log, the read the entry 29, the foreign opening the entry 12
  have hcheck : ((run Synthetic.staleVerdict).log[0]?.any fun e : LogEntry =>
        e.pid == 2 && e.ok && e.op.key == some Synthetic.key) ∧
      ((run Synthetic.staleVerdict).log[0 + 1 + 28]?.any fun g : LogEntry => g.pid == 2 && (reads g.toEv).isSome) ∧
      ((((run Synthetic.staleVerdict).log.drop (0 + 1)).take 28).all fun x =>
        x.pid != 2 || (reads x.toEv).isNone) ∧
      (((run Synthetic.staleVerdict).log.drop (0 + 1)).take 28).any fun x =>
        x.pid == 4 && (opens x.toEv && x.op.key == some Synthetic.key) := by
    decide +kernel
  generalize (run Synthetic.staleVerdict).log = log at *
  generalize (run Synthetic.staleVerdict).jobs = jobs at *
  obtain ⟨j, hj, hjob⟩ := (Option.any_eq_true _ _).1 hjob
  obtain ⟨r, rfl⟩ : ∃ r, j = .reconciler r := by
    cases j with
    | reconciler r => exact ⟨r, rfl⟩
    | _ => cases hjob
  obtain ⟨h₁, h₂, h₃, h₄⟩ := hcheck
  obtain ⟨e, he, h₁⟩ := (Option.any_eq_true _ _).1 h₁
  obtain ⟨g, hg, h₂⟩ := (Option.any_eq_true _ _).1 h₂
  obtain ⟨x, hx, h₄⟩ := List.any_eq_true.1 h₄
  simp only [Bool.and_eq_true, beq_iff_eq] at h₁ h₂
  obtain ⟨hxp, hxo⟩ := Bool.and_eq_true_iff.1 h₄
  obtain ⟨v, v', hw, -⟩ := opens_of_check hl (List.mem_of_mem_drop (List.mem_of_mem_take hx)) hxo
  refine h.fresh _ e _ g _ r (split_at log 0 28 he hg) (h₁.1.1 ▸ hj) h₁.2 h₁.1.2
    ⟨h₂.1.trans h₁.1.1.symm, h₂.2, fun y hy hp => ?_⟩ x hx (by rw [h₁.1.1, beq_iff_eq.1 hxp]; decide) v v' hw
  have := List.all_eq_true.1 h₃ y hy
  simpa [hp, h₁.1.1] using this

end Middleware.Platform

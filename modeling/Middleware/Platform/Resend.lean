/-
No blind resend: every execution belongs to an attempt its worker opened, and between two consecutive
attempts of a command it was queued again for a reason that concerns the first of them: the attempt
ended retryably, a read-back behind it found no effect, or an operator retried the failed command.

Two writes of the dispatcher are not fenced by the attempt: "claimed by execution bus", decided on a
reading that may be old, and "scheduled for a known-safe retry", written after the attempt was closed.
`Orderly` says when these two are in time; a run whose writes are orderly has no blind resend.
-/
import Middleware.Platform.Log

namespace Middleware.Platform

open Ledger Lib

/-! ## The property -/

/-- `q` queued the command again for a reason that concerns the attempt `e₁` opened; `since` is the log
between them. -/
inductive Justified (jobs : List Job) (k : Key) (e₁ : LogEntry) (since : Log) (q : LogEntry) : Prop
  /-- The worker of the attempt, after it ended retryably. -/
  | retryable (j : Job) (hj : jobs[q.pid]? = some j) (worker : j.worker = true) (own : q.pid = e₁.pid) (x : LogEntry)
      (mem : x ∈ since) (by' : x.pid = e₁.pid) (ended : endsAttempt x.toEv = some true)
  /-- A reconciler, after a read-back found nothing on an adapter that may execute again. -/
  | absent (r : Reconciler) (hj : jobs[q.pid]? = some (.reconciler r)) (x : LogEntry) (mem : x ∈ since)
      (by' : x.pid = q.pid) (adapterId : String) (rb : ReadbackResult) (read : readsBack x.toEv = some (adapterId, rb))
      (status : rb.status = .notFound) (advertised : AdapterCapabilities)
      (registered : r.registry.advertised.lookup adapterId = some advertised) (safe : advertised.safeReexecution = true)
  | operator (m : Mutation) (op : q.op = .mutateOperation m) (retry : m.action = .retry) (v : View)
      (before : view q.before k = some v) (failed : v.state = .failed)

/-- The command was queued by the call. -/
def Queues (q : LogEntry) (k : Key) : Prop := ∃ v v', Wrote q k v v' ∧ v'.state = .queued

/-- An execution has its own opening: the worker opened an attempt of the command before it and
executed nothing else. -/
def OwnAttempt (older : Log) (e : LogEntry) (k : Key) : Prop :=
  (∃ mid o rest, older = mid ++ o :: rest ∧ o.pid = e.pid ∧
    ∃ v v', Wrote o k v v' ∧ v.state = .queued ∧ v'.state = .dispatching) ∧
  ∀ x ∈ older, x.pid = e.pid → executes x.toEv = false

/-- Every execution has its own opening; between two consecutive openings the command was queued for a
reason that concerns the first one, and when that attempt ended without a licence to retry, not by a
worker. -/
structure NoBlindResend (jobs : List Job) (log : Log) (k : Key) : Prop where
  own : ∀ newer e older adapterId c x, log = newer ++ e :: older → e.op = .execute adapterId c x →
    (x.tenantId, x.commandId) = k → OwnAttempt older e k
  justified : ∀ newer e₂ mid e₁ older, log = newer ++ e₂ :: (mid ++ e₁ :: older) → Opens e₁ k → Opens e₂ k →
    (∀ x ∈ mid, ¬ Opens x k) → ∃ rest q since, mid = rest ++ q :: since ∧ Queues q k ∧
      Justified jobs k e₁ since q ∧
      ((∃ x ∈ mid, x.pid = e₁.pid ∧ endsAttempt x.toEv = some false) →
        ∀ j, jobs[q.pid]? = some j → j.worker = false)

/-! ## Orderly writes -/

/-- The last opening of the command before was by the process. -/
def LastOpened (k : Key) (older : Log) (pid : Nat) : Prop :=
  ∃ mid e rest, older = mid ++ e :: rest ∧ Opens e k ∧ (∀ x ∈ mid, ¬ Opens x k) ∧ e.pid = pid

/-- The two unfenced writes of the dispatcher are in time: a claimed command is still persisted, and a
retry is scheduled by the worker of the newest attempt. -/
def Orderly (k : Key) (older : Log) (q : LogEntry) : Prop :=
  ∀ t v v', q.op = .transition t → t.newState = .queued → Wrote q k v v' →
    (t.reason = claimedReason → v.state = .persisted) ∧ (t.reason = retryReason → LastOpened k older q.pid)

/-! ## Every run of orderly writes -/

variable {newer : Log} {older : Log}

section Proof

variable {jobs : List Job} {s : MemoryCommandStore} {k : Key}

theorem own_attempt {e : LogEntry} (hl : Legal jobs (newer ++ e :: older) s) {adapterId : String}
    {c : CommandEnvelope} {x : AdapterContext} (hop : e.op = .execute adapterId c x) :
    OwnAttempt older e (x.tenantId, x.commandId) := by
  obtain ⟨-, -, j, hj, hG⟩ := legal_entry hl
  rw [hop] at hG
  obtain ⟨-, hscope, hopen, -, hexec⟩ := execute_by hG
  rw [track_opened, List.any_eq_true] at hopen
  obtain ⟨u, hu, huo⟩ := hopen
  obtain ⟨h₁, h₂, hh⟩ := List.append_of_mem hu
  obtain ⟨mid, o, rest, rfl, hpid, rfl, -, -⟩ := hist_split hh
  refine ⟨⟨mid, o, rest, rfl, hpid, ?_⟩, fun y hy hp => ?_⟩
  · obtain ⟨-, v, v', -, -, -, -, hw, hq, hd, -⟩ := (own_opening hl hpid hj hscope huo).transition
    exact ⟨v, v', hw, hq, hd⟩
  · rw [track_executed, List.any_eq_false] at hexec
    have := hexec y.toEv (mem_hist.2 ⟨y, hy, hp, rfl⟩)
    simpa using this

theorem ends_once {mid : Log} {x y : LogEntry}
    (hl : Legal jobs (newer ++ y :: (mid ++ x :: older)) s) (hp : x.pid = y.pid)
    (hx : (endsAttempt x.toEv).isSome = true) : endsAttempt y.toEv = none := by
  obtain ⟨-, -, j, -, hG⟩ := legal_entry hl
  have hsome : (track (hist (mid ++ x :: older) y.pid)).ending.isSome = true := by
    rw [track_ending, List.findSome?_isSome_iff]
    exact ⟨x.toEv, mem_hist.2 ⟨x, by simp, hp, rfl⟩, hx⟩
  by_contra hy
  rw [ends_by hG (Option.isSome_iff_ne_none.2 hy)] at hsome
  cases hsome

theorem ends_unique {log : Log} {x y : LogEntry} {a b : Bool} (hl : Legal jobs log s) (hx : x ∈ log) (hy : y ∈ log)
    (hp : x.pid = y.pid) (ha : endsAttempt x.toEv = some a) (hb : endsAttempt y.toEv = some b) : a = b := by
  obtain ⟨n, o, rfl⟩ := List.append_of_mem hx
  obtain ⟨n', o', heq⟩ := List.append_of_mem hy
  rcases split_cases heq with ⟨c, rfl, rfl⟩ | ⟨-, rfl, -⟩ | ⟨c, rfl, rfl⟩
  · rw [ends_once (by simpa using hl) hp (by rw [ha]; rfl)] at hb; cases hb
  · exact Option.some.inj (ha.symm.trans hb)
  · rw [ends_once hl hp.symm (by rw [hb]; rfl)] at ha; cases ha

theorem ended_since {since : Log} {q e₁ : LogEntry} {b : Bool}
    (hl : Legal jobs (newer ++ q :: (since ++ e₁ :: older)) s) (ho : Opens e₁ k) (hp : q.pid = e₁.pid)
    (he : (track (hist (since ++ e₁ :: older) q.pid)).ending = some b) :
    ∃ x ∈ since, x.pid = e₁.pid ∧ endsAttempt x.toEv = some b := by
  obtain ⟨t, -, -, hop, ht, -, -, -⟩ := ho.transition
  obtain ⟨-, -, j, -, hG⟩ := legal_entry hl.split.2
  rw [hop] at hG
  -- when the attempt was opened the worker had ended none
  have hnone : (track (hist older e₁.pid)).ending = none := by
    rcases transition_by hG with ⟨-, -, hb⟩ | ⟨r, -, -, -, o, -, -, hr⟩
    · simp only [busTransition, ht] at hb; exact hb.2.1
    · rw [ht] at hr; exact hr.elim
  have hev : endsAttempt e₁.toEv = none := by
    obtain ⟨⟨c, reply⟩, pid, _, _⟩ := e₁
    cases hop
    rfl
  rw [track_ending] at he hnone
  obtain ⟨u, hu, hub⟩ := List.exists_of_findSome?_eq_some he
  rw [hp, hist_append, hist_cons_self, List.mem_append, List.mem_cons] at hu
  rcases hu with hu | rfl | hu
  · obtain ⟨x, hx, hxp, rfl⟩ := mem_hist.1 hu
    exact ⟨x, hx, hxp, hub⟩
  · rw [hev] at hub; cases hub
  · rw [List.findSome?_eq_none_iff.1 hnone u hu] at hub; cases hub

/-- A read-back behind the number of the newest attempt came after that attempt was opened. -/
theorem read_since {since : Log} {q e₁ : LogEntry} {a : String × ReadbackResult} {j : Job}
    {v₁' : View} (hl : Legal jobs (newer ++ q :: (since ++ e₁ :: older)) s) (ho : Opens e₁ k)
    (hj : jobs[q.pid]? = some j) (hs : j.scope (hist (since ++ e₁ :: older) q.pid) = some k)
    (ha : (track (hist (since ++ e₁ :: older) q.pid)).answer = some a)
    (hv : view e₁.after k = some v₁')
    (ht : (track (hist (since ++ e₁ :: older) q.pid)).token = some v₁'.attempts) :
    ∃ x ∈ since, x.pid = q.pid ∧ readsBack x.toEv = some a := by
  obtain ⟨t, v₁, v₁'', hop, -, -, -, hw, -, -, hatt⟩ := ho.transition
  cases Option.some.inj (hw.after.symm.trans hv)
  obtain ⟨h₁, u, h₂, hh, hu, htok⟩ := answer_split ha ht
  obtain ⟨h₃, w, h₄, rfl, hz, -⟩ := token_split htok
  obtain ⟨l₁, y, l₂, hlog, hyp, rfl, -, hl₂⟩ := hist_split hh
  obtain ⟨l₃, z, l₄, rfl, hzp, rfl, -, -⟩ := hist_split hl₂
  rcases split_cases hlog with ⟨c, rfl, -⟩ | ⟨rfl, rfl, -⟩ | ⟨c, rfl, rfl⟩
  · exact ⟨y, by simp, hyp, hu⟩
  · obtain ⟨⟨c, reply⟩, pid, _, _⟩ := e₁
    cases hop
    cases hu
  · -- the number would have been read before the attempt was opened, when there were fewer
    have hl' : Legal jobs (newer ++ q :: ((since ++ e₁ :: (c ++ y :: l₃)) ++ z :: l₄)) s := by simpa using hl
    have hs' : j.scope (hist ((since ++ e₁ :: (c ++ y :: l₃)) ++ z :: l₄) q.pid) = some k := by simpa using hs
    obtain ⟨v, hvz, hn, hza⟩ := token_read hl' hzp hj hs' hz
    have hst : Stretch z.after (c ++ y :: l₃) e₁.before := by
      have := (legal_stretch hl.split.2).split.2
      rw [show c ++ y :: (l₃ ++ z :: l₄) = (c ++ y :: l₃) ++ z :: l₄ by simp] at this
      exact this.split.1
    obtain ⟨v', hv', hle, -⟩ := hst.grows (hza ▸ hvz)
    cases Option.some.inj (hw.before.symm.trans hv')
    omega

/-- Between two consecutive openings an orderly run queued the command for the first one's sake. -/
theorem requeue_justified {mid : Log} {e₁ e₂ : LogEntry}
    (hl : Legal jobs (newer ++ e₂ :: (mid ++ e₁ :: older)) s) (h₁ : Opens e₁ k) (h₂ : Opens e₂ k)
    (hno : ∀ x ∈ mid, ¬ Opens x k)
    (hord : ∀ rest q since, mid = rest ++ q :: since → Orderly k (since ++ e₁ :: older) q) :
    ∃ rest q since, mid = rest ++ q :: since ∧ Queues q k ∧ Justified jobs k e₁ since q := by
  obtain ⟨-, v₁, v₁', hop₁, -, -, -, hw₁, -, hd₁, -⟩ := h₁.transition
  obtain ⟨-, v₂, v₂', -, -, -, -, hw₂, hq₂, -, -⟩ := h₂.transition
  have hst : Stretch e₁.after mid e₂.before := (legal_stretch hl).split.2.split.1
  -- the step into `queued` from which the second attempt started
  obtain ⟨rest, q, since, rfl, hq, ⟨v', hv', hv'q⟩, -⟩ := System.Chain.last_flip
    (P := fun s => ∃ v, view s k = some v ∧ v.state = .queued) hst.chain
    (by rintro ⟨v, hv, hs⟩; cases Option.some.inj (hw₁.after.symm.trans hv); rw [hd₁] at hs; cases hs)
    ⟨v₂, hw₂.before, hq₂⟩
  have hsince : Stretch e₁.after since q.before := hst.split.2
  obtain ⟨v, hv, -, -, hpers⟩ := hsince.grows hw₁.after
  have hpers : v.state ≠ .persisted := fun h => by rw [hd₁] at hpers; cases hpers h
  have hatt : v.attempts = v₁'.attempts := hsince.attempts_eq hw₁.after hv fun x hx => hno x (by simp [hx])
  have hlq : Legal jobs ((newer ++ e₂ :: rest) ++ q :: (since ++ e₁ :: older)) s := by simpa using hl
  obtain ⟨hwq, heq, j, hj, hG⟩ := legal_entry hlq
  have hwrote : Wrote q k v v' := by
    rcases view_step hwq heq hv with h | ⟨u, hw⟩
    · exact absurd ⟨v, hv, Option.some.inj (h.symm.trans hv') ▸ hv'q⟩ hq
    · cases Option.some.inj (hw.after.symm.trans hv'); exact hw
  refine ⟨rest, q, since, rfl, ⟨v, v', hwrote, hv'q⟩, ?_⟩
  rcases hwrote.change.into_queued hv'q with ⟨t, hop, ht, hfrom, hfence⟩ | ⟨m, hop, hm, hf⟩
  · have hkey : t.key = k := by have := hwrote.key; rw [hop] at this; exact Option.some.inj this
    obtain ⟨hclaimed, hretry⟩ := hord rest q since rfl t v v' hop ht hwrote
    rw [hop] at hG
    rcases transition_by hG with ⟨hw, hs, hb⟩ | ⟨r, rfl, hs, -, o, -, -, hr⟩
    · simp only [busTransition, ht] at hb
      rcases hb with hb | ⟨hb, -, hend⟩
      · exact absurd (hclaimed hb) hpers
      · -- the newest opening is the first one, so it was this worker's
        obtain ⟨mid', e, older', heq', ho, hno', hpid⟩ := hretry hb
        have hp : q.pid = e₁.pid := by
          rcases split_cases heq' with ⟨c, rfl, -⟩ | ⟨-, rfl, -⟩ | ⟨c, rfl, -⟩
          · exact absurd ho (hno e (by simp))
          · exact hpid.symm
          · exact absurd h₁ (hno' e₁ (by simp))
        obtain ⟨x, hx, hxp, hxe⟩ := ended_since hlq h₁ hp hend
        exact .retryable j hj hw hp x hx hxp hxe
    · simp only [ht] at hr
      obtain ⟨-, n, rb, ownership, advertised, hn, htok, -, hadv, hsafe, hans, hstat⟩ := hr
      have hn' : v₁'.attempts = n := by have := hfence n hn; omega
      rw [hkey] at hs
      obtain ⟨x, hx, hxp, hxr⟩ := read_since hlq h₁ hj hs hans hw₁.after (hn' ▸ htok)
      exact .absent r hj x hx hxp ownership.adapterId rb hxr hstat advertised hadv hsafe
  · exact .operator m hop hm v hv hf

/-- In every run whose unfenced writes are orderly there is no blind resend. -/
theorem no_blind_resend (actions : List Step) (k : Key)
    (orderly : ∀ newer q older, (run actions).log = newer ++ q :: older → Orderly k older q) :
    NoBlindResend (run actions).jobs (run actions).log k := by
  have hl := run_legal actions
  generalize (run actions).log = log at hl orderly
  generalize (run actions).jobs = jobs at hl
  generalize (run actions).shared = s at hl
  refine ⟨?_, ?_⟩
  · rintro newer e older adapterId c x rfl hop rfl
    exact own_attempt hl hop
  · rintro newer e₂ mid e₁ older rfl h₁ h₂ hno
    obtain ⟨rest, q, since, rfl, hq, hjust⟩ := requeue_justified hl h₁ h₂ hno fun rest q since hm =>
      orderly (newer ++ e₂ :: rest) q (since ++ e₁ :: older) (by rw [hm]; simp)
    refine ⟨rest, q, since, rfl, hq, hjust, ?_⟩
    rintro ⟨x, hx, hxp, hxe⟩ j hj
    cases hjust with
    | retryable j' hj' worker own y hy hyp hye =>
      -- the attempt would have ended in two ways
      cases ends_unique hl (List.mem_append_right _ (List.mem_cons_of_mem _ (List.mem_append_left _ hx))) (by simp [hy])
        (hxp.trans hyp.symm) hxe hye
    | absent r hj' => rw [hj] at hj'; cases hj'; rfl
    | operator m hop =>
      have hlq : Legal jobs ((newer ++ e₂ :: rest) ++ q :: (since ++ e₁ :: older)) s := by simpa using hl
      obtain ⟨-, -, j', hj', hG⟩ := legal_entry hlq
      cases hj.symm.trans hj'
      rw [hop] at hG
      rw [mutate_by hG]
      rfl

end Proof

/-! ## Two runs -/

def Call.mutates : Call → Bool
  | .mutateOperation _ => true
  | _ => false

/-- Whether the call is a successful transition of the command to `queued` that is out of order: for an
old claim, or for a retry. -/
def disorders (k : Key) (q : LogEntry) : Bool :=
  match q.op with
  | .transition t => t.newState = .queued && (t.reason = retryReason || stateBefore q k ≠ some .persisted)
  | _ => false

theorem orderly_of_check {log : Log} {q : LogEntry} {k : Key} (hc : log.any (disorders k) = false)
    (h : log = newer ++ q :: older) : Orderly k older q := by
  intro t v v' hop ht hw
  have hq := List.any_eq_false.1 hc q (by rw [h]; simp)
  simp only [disorders, hop, ht, stateBefore, hw.before] at hq
  refine ⟨fun _ => by_contra fun hp => hq (by simp [hp]), fun hr => absurd (by simp [hr]) hq⟩

namespace Synthetic

/-- Worker `a` reads the command as persisted and waits for the adapter's readiness; worker `b` runs an
attempt whose outcome is unknown and parks the command; then `a` goes on, claims the parked command
and executes it again. -/
def staleClaim : List Step :=
  [start submit] ++ drive 0 input 2 ++ [start (dispatch "a")] ++ drive 1 input 2 ++ [start (dispatch "b")] ++
    drive 2 { input with executed := .ok { outcome := .unknown } } 9 ++ drive 1 input 6

end Synthetic

/-- The run of the stale claim resends blindly: the second attempt was queued by worker `a`, which did not
open the first one. -/
theorem blind_resend_of_stale_claim :
    ¬ NoBlindResend (run Synthetic.staleClaim).jobs (run Synthetic.staleClaim).log Synthetic.key := by
  intro h
  have hl := run_legal Synthetic.staleClaim
  have hj : (run Synthetic.staleClaim).jobs[1]? = some (Synthetic.dispatch "a") := rfl
  -- the two openings are the entries 4 and 14 of the log
  have hcheck : ((run Synthetic.staleClaim).log[4]?.any fun e : LogEntry => opens e.toEv && e.op.key == some Synthetic.key) ∧
      ((run Synthetic.staleClaim).log[4 + 1 + 9]?.any fun e : LogEntry =>
        opens e.toEv && e.op.key == some Synthetic.key && e.pid == 2) ∧
      (((run Synthetic.staleClaim).log.drop 5).take 9).all fun q => !opens q.toEv &&
        (stateAfter q Synthetic.key != some .queued || q.pid == 1 && !q.op.mutates) := by
    decide +kernel
  generalize (run Synthetic.staleClaim).log = log at *
  generalize (run Synthetic.staleClaim).jobs = jobs at *
  obtain ⟨h₂, h₁, hmid⟩ := hcheck
  obtain ⟨e₂, he₂, h₂⟩ := (Option.any_eq_true _ _).1 h₂
  obtain ⟨e₁, he₁, h₁⟩ := (Option.any_eq_true _ _).1 h₁
  obtain ⟨h₁, hp₁⟩ := Bool.and_eq_true_iff.1 h₁
  have hq : ∀ q ∈ (log.drop 5).take 9, opens q.toEv = false ∧
      (stateAfter q Synthetic.key = some .queued → q.pid = 1 ∧ q.op.mutates = false) := fun q hq => by
    have := List.all_eq_true.1 hmid q hq
    simp only [Bool.and_eq_true, Bool.or_eq_true, Bool.not_eq_true', bne_iff_ne, ne_eq, beq_iff_eq] at this
    exact ⟨this.1, fun hs => this.2.resolve_left (not_not.2 hs)⟩
  obtain ⟨rest, q, since, hm, ⟨v, v', hw, hs⟩, hjust, -⟩ := h.justified _ e₂ _ e₁ _ (split_at log 4 9 he₂ he₁)
    (opens_of_check hl (List.mem_of_getElem? he₁) h₁) (opens_of_check hl (List.mem_of_getElem? he₂) h₂)
    fun x hx ho => by
      obtain ⟨-, -, -, -, -, -, ho, -⟩ := ho.transition
      rw [(hq x hx).1] at ho; cases ho
  obtain ⟨hp, hmut⟩ := (hq q (by rw [hm]; simp)).2 (by rw [stateAfter, hw.after]; exact congrArg some hs)
  cases hjust with
  | retryable _ _ _ own => rw [hp, beq_iff_eq.1 hp₁] at own; cases own
  | absent r hr => rw [hp, hj] at hr; cases hr
  | operator m hop => rw [hop] at hmut; cases hmut

namespace Synthetic

/-- An attempt is rejected, an operator retries the failed command, and another worker runs it. -/
def operatorRetry : List Step :=
  [start submit] ++ drive 0 input 2 ++ [start (dispatch "a")] ++
    drive 1 { input with executed := .ok { outcome := .rejected } } 11 ++
    [start (operator .retry 1)] ++ drive 2 input 1 ++ [start (dispatch "b")] ++ drive 3 input 12

end Synthetic

theorem no_blind_resend_operatorRetry :
    ((run Synthetic.operatorRetry).log.filter fun e => opens e.toEv).length = 2 ∧
      NoBlindResend (run Synthetic.operatorRetry).jobs (run Synthetic.operatorRetry).log Synthetic.key :=
  ⟨by decide +kernel, no_blind_resend _ _ fun _ _ _ => orderly_of_check (by decide +kernel)⟩

end Middleware.Platform

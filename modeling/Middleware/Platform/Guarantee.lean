/-
What the platform's coroutines guarantee of every call they make, whatever the answers: the programs are
walked through once with the rules of `Prog.wp`, and the rest of the development only uses the
guarantees. They are stated over the registers of `Track` and the key of the command the coroutine
works on.
-/
import Middleware.Platform.Track

namespace Middleware.Platform

open Ledger Lib
open Lib.Prog (wp wp_bind wp_ask wp_pure wp_throw wp_mono wp_tryCatch wp_discard wp_invariant)

/-! ## The guarantees of the dispatcher -/

/-- A write that closes or advances an attempt: it carries the number the worker holds, of the attempt it
opened itself or, when it opened none, of the one it found when it recovers a running command. -/
structure Fenced (T : Track) (n : Nat) : Prop where
  token : T.token = some n
  own : T.opened = true ∨
    T.opened = false ∧ ∃ o, T.read = some o ∧ o.state ∈ [CommandState.dispatching, .accepted, .readbackPending]

def Finalizes (T : Track) (t : Transition) : Prop :=
  ∃ n : Nat, t.expectedAttempt = some (n : Int) ∧ Fenced T n

/-- What the dispatcher guarantees of a transition. -/
def busTransition (T : Track) (t : Transition) : Prop :=
  match t.newState with
  | .queued => t.reason = claimedReason ∨ t.reason = retryReason ∧ T.opened = true ∧ T.ending = some true
  | .dispatching => T.opened = false ∧ T.ending = none ∧ T.executed = false
  | .completed => Finalizes T t ∧ ∃ adapterId rb o, T.answer = some (adapterId, rb) ∧ rb.status = .matched ∧
      t.readbackEvidence = some (readbackEvidence rb o)
  | .accepted | .readbackPending | .reconciliationRequired => Finalizes T t
  | .failed => Finalizes T t ∨ T.opened = false ∧ t.expectedAttempt = none
  | .deadLettered => True
  | .persisted | .cancelled => False

/-- What the dispatcher guarantees of each call on the command `K`. -/
def busGuarantee (K : Key) (T : Track) : Call → Prop
  | .get tenantId commandId | .latestAttempt tenantId commandId | .loadEnvelope tenantId commandId =>
    (tenantId, commandId) = K
  | .transition t => t.key = K ∧ busTransition T t
  | .execute _ _ context =>
    (context.tenantId, context.commandId) = K ∧ T.opened = true ∧ T.token = some context.attempt ∧ T.executed = false
  | .acquire _ => T.opened = true ∧ T.ending = none ∧ T.executed = false
  | .executed _ _ | .classifyError _ _ => T.opened = true ∧ T.ending = none
  | .recordDeadLetter _ | .capabilities _ | .readiness _ _ | .status _ _ _ | .readback _ _ _ | .evaluate _ _ _
  | .breakerAdmit _ => True
  | _ => False

abbrev BusCall (K : Key) (h : List Answered) (c : Call) : Prop := busGuarantee K (track h) c

variable {K : Key} {d : AdapterDispatch} {o : CommandOperation} {h : List Answered}

/-- The worker holds the number of the attempt it opened. -/
structure Holds (T : Track) (n : Nat) : Prop where
  opened : T.opened = true
  token : T.token = some n

theorem Holds.fenced {T : Track} {n : Nat} (hh : Holds T n) : Fenced T n := ⟨hh.token, .inl hh.opened⟩

/-- The operation belongs to the command the coroutine works on. -/
abbrev Of (K : Key) (o : CommandOperation) : Prop := (o.tenantId, o.commandId) = K

/-! ## Walking through the dispatcher -/

/-- From here the dispatcher keeps its guarantees, and a normal return leaves the command over. -/
abbrev Concludes {α : Type} (K : Key) (p : Coro α) (h : List Answered) : Prop :=
  wp rely (BusCall K) p h (fun h _ => (track h).concluded = true) fun _ _ => True

theorem wp_outcomeOf {α : Type} {G : List Answered → Call → Prop} {Q : List Answered → Except Exc α → Prop}
    {E : List Answered → Exc → Prop} {p : Coro α} :
    wp rely G (outcomeOf p) h Q E ↔ wp rely G p h (fun h a => Q h (.ok a)) (fun h e => Q h (.error e)) := by
  unfold outcomeOf
  rw [wp_tryCatch, wp_bind]
  rfl

variable {envelope : CommandEnvelope} {adapterId : String} {trace : Option Obj} {context : AdapterContext} {n : Nat}

theorem wp_fail {reason : String} {attempt : Option Nat} {retryable : Bool} (hk : Of K o)
    (hp : (track h).opened = false ∧ attempt = none ∧ retryable = false ∨
      ∃ n, Holds (track h) n ∧ attempt = some n ∧ (retryable = true → (track h).ending = some true)) :
    wp rely (BusCall K) (d.fail o reason attempt retryable) h (fun h _ => retryable = false → (track h).concluded = true)
      fun _ _ => True := by
  unfold AdapterDispatch.fail
  simp only [wp_bind, wp_ask, implies_true, and_true]
  refine ⟨hk, fun o' ho' => ?_⟩
  split
  · split
    · rename_i hr
      exact fun hn => by rw [hr] at hn; cases hn
    · split
      · simp only [wp_bind, wp_ask, implies_true, and_true]
        exact ⟨⟨hk, .inl rfl⟩, fun _ _ => ⟨⟨hk, trivial⟩, fun _ _ => ⟨trivial, fun _ _ _ => rfl⟩⟩⟩
      · simp only [wp_bind, wp_ask, implies_true, and_true]
        exact ⟨⟨hk, trivial⟩, fun _ _ => ⟨trivial, fun _ _ _ => rfl⟩⟩
  · simp only [wp_bind, wp_ask, implies_true, and_true]
    refine ⟨⟨hk, ?_⟩, fun o'' ho'' => ?_⟩
    · rcases hp with ⟨h1, h2, -⟩ | ⟨n, hh, h3, -⟩
      · exact .inr ⟨h1, by rw [h2]; rfl⟩
      · exact .inl ⟨n, by rw [h3]; rfl, ⟨hh.token, .inl hh.opened⟩⟩
    · split
      · rename_i hr
        simp only [wp_bind, wp_ask, implies_true, and_true]
        refine ⟨⟨hk, .inr ⟨rfl, ?_⟩⟩, fun _ _ hn => by rw [hr] at hn; cases hn⟩
        rcases hp with ⟨-, -, h3⟩ | ⟨n, hh, -, h4⟩
        · rw [h3] at hr; cases hr
        · exact ⟨hh.opened, h4 hr⟩
      · simp only [wp_bind, wp_ask, implies_true, and_true]
        exact ⟨trivial, fun _ _ _ => rfl⟩

theorem concludes_refuse {α : Type} {reason : String} {attempt : Option Nat} {a : α} (hk : Of K o)
    (hp : (track h).opened = false ∧ attempt = none ∨ ∃ n, Holds (track h) n ∧ attempt = some n) :
    Concludes K (do d.fail o reason attempt; return a) h := by
  rw [Concludes, wp_bind]
  refine wp_mono (fun _ _ hc => hc) (fun _ _ hover => hover rfl) (fun _ _ _ => trivial) _ _ (wp_fail hk ?_)
  rcases hp with ⟨ho, ha⟩ | ⟨n, hh, ha⟩
  · exact .inl ⟨ho, ha, rfl⟩
  · exact .inr ⟨n, hh, ha, by simp⟩

theorem concludes_raise {α : Type} {reason : String} {retryable : Bool} {e : Exc} (hk : Of K o) (hh : Holds (track h) n)
    (he : retryable = true → (track h).ending = some true) :
    Concludes K (do d.fail o reason n retryable; (throw e : Coro α)) h := by
  rw [Concludes, wp_bind]
  exact wp_mono (fun _ _ hc => hc) (fun _ _ _ => trivial) (fun _ _ _ => trivial) _ _ (wp_fail hk (.inr ⟨n, hh, rfl, he⟩))

/-- The status surface never proves a match, and never proves that nothing is there. -/
theorem wp_statusReadback {G : List Answered → Call → Prop} {Q : List Answered → Option ReadbackResult → Prop}
    {E : List Answered → Exc → Prop} {pending : Bool}
    (hG : ∀ h, G h (.capabilities adapterId) ∧ G h (.status adapterId o context))
    (hQ : ∀ h' r, track h' = track h → (∀ rb, r = some rb → rb.status ≠ .matched ∧ rb.status ≠ .notFound) → Q h' r)
    (hE : ∀ h' e, track h' = track h → E h' e) :
    wp rely G (statusReadback adapterId o context pending) h Q E := by
  unfold statusReadback
  simp only [wp_bind, wp_ask]
  refine ⟨(hG _).1, fun caps _ => ?_, fun e _ => hE _ e rfl⟩
  split
  · exact hQ _ _ rfl (by simp)
  · simp only [wp_bind, wp_ask]
    refine ⟨(hG _).2, fun status _ => ?_, fun e _ => hE _ e rfl⟩
    split
    · exact hQ _ _ rfl (by simp)
    · split
      · exact hQ _ _ rfl (by simp)
      · split
        · exact hQ _ _ rfl (by simp)
        · exact hQ _ _ rfl (by simp)

theorem wp_busObserve {Q : List Answered → ReadbackResult → Prop} {E : List Answered → Exc → Prop}
    (hQ : ∀ h' rb a, track h' = { track h with answer := a } → (rb.status = .matched → a = some (adapterId, rb)) → Q h' rb) :
    wp rely (BusCall K) (AdapterDispatch.observe adapterId o context) h Q E := by
  unfold AdapterDispatch.observe
  simp only [wp_bind, wp_outcomeOf]
  refine wp_statusReadback (fun _ => ⟨trivial, trivial⟩) (fun h' r ht hr => ?_) (fun h' e ht => ?_)
  · cases r with
    | some rb => exact hQ _ _ _ ht fun hm => absurd hm (hr rb rfl).1
    | none =>
      simp only [wp_ask]
      refine ⟨trivial, fun rb _ => hQ _ _ (some (adapterId, rb)) ?_ fun _ => rfl, fun e _ => hQ _ _ (track h).answer ?_ (by simp)⟩
      · rw [track_cons, ht]; rfl
      · rw [track_cons, ht]; rfl
  · exact hQ _ _ _ ht (by simp)

theorem concludes_readback (hk : Of K o) (hf : Fenced (track h) n) :
    Concludes K (d.readback o adapterId context n) h := by
  unfold AdapterDispatch.readback
  simp only [Concludes, wp_bind, wp_ask, implies_true, and_true]
  refine ⟨⟨hk, n, rfl, hf⟩, fun o' _ => ?_⟩
  refine wp_busObserve fun h' rb a ht ha => ?_
  have hf' : Fenced (track h') n := by rw [ht]; exact ⟨hf.token, hf.own⟩
  split
  · rename_i hm
    simp only [wp_bind, wp_ask, implies_true, and_true]
    exact ⟨⟨hk, ⟨n, rfl, hf'⟩, adapterId, rb, o', by rw [ht]; exact ha hm, hm, rfl⟩, fun _ _ => rfl⟩
  · simp only [wp_bind, wp_ask, implies_true, and_true]
    exact ⟨⟨hk, .inl ⟨n, rfl, hf'⟩⟩, fun _ _ => rfl⟩
  · simp only [wp_bind, wp_ask, wp_throw, implies_true, and_true]
    exact ⟨hk, n, rfl, hf'⟩

theorem concludes_recover (hk : Of K o) (hr : (track h).read = some o) (ho : (track h).opened = false)
    (hs : o.state ∈ [CommandState.dispatching, .accepted, .readbackPending]) :
    Concludes K (d.recover o envelope adapterId trace) h := by
  unfold AdapterDispatch.recover
  simp only [Concludes, wp_bind, wp_ask, implies_true, and_true]
  refine ⟨hk, fun n _ => ?_⟩
  have hf : Fenced (track (⟨.latestAttempt o.tenantId o.commandId, .ok n⟩ :: h)) n := ⟨rfl, .inr ⟨ho, o, hr, hs⟩⟩
  split
  · simp only [wp_bind, wp_ask, implies_true, and_true]
    refine ⟨⟨hk, n, rfl, hf⟩, fun o' ho' => ?_⟩
    obtain ⟨h1, h2, -⟩ := ho'
    exact concludes_readback (by rw [Of, h1, h2]; exact hk) ⟨hf.token, hf.own⟩
  · simp only [wp_bind, wp_pure]
    exact concludes_readback hk hf

theorem concludes_finalize {result : AdapterResult} (hk : Of K o) (hh : Holds (track h) n)
    (he : result.outcome = .transient → (track h).ending = some true) :
    Concludes K (d.finalize o adapterId n context result) h := by
  have hack : ∀ {reason}, Concludes K (do
      let operation ← ask (.transition (d.transition o.tenantId o.commandId .accepted reason n result.providerOperationId))
      let answer ← d.readback operation adapterId context n
      return (⟨o.commandId, some n, answer.1, true, some result, some answer.2⟩ : DispatchOutcome)) h := by
    intro reason
    simp only [Concludes, wp_bind, wp_ask, wp_pure, implies_true, and_true]
    refine ⟨⟨hk, n, rfl, hh.fenced⟩, fun o' ho' => ?_⟩
    obtain ⟨h1, h2, -⟩ := ho'
    exact concludes_readback (by rw [Of, h1, h2]; exact hk) ⟨hh.token, .inl hh.opened⟩
  have hpark : ∀ {reason : String}, Concludes K (do
      let _ ← ask (.transition (d.transition o.tenantId o.commandId .reconciliationRequired reason n
        result.providerOperationId))
      (throw (.unknownOutcome reason) : Coro DispatchOutcome)) h := by
    intro reason
    simp only [Concludes, wp_bind, wp_ask, wp_throw, implies_true, and_true]
    exact ⟨hk, n, rfl, hh.fenced⟩
  unfold AdapterDispatch.finalize
  split
  · exact hack
  · exact hack
  · exact concludes_refuse hk (.inr ⟨n, hh, rfl⟩)
  · rename_i ht
    split
    · simp only [Concludes, wp_bind, wp_ask, wp_throw, implies_true, and_true]
      exact ⟨⟨hk, .inl ⟨n, rfl, hh.fenced⟩⟩, fun _ _ => ⟨⟨hk, trivial⟩, fun _ _ => trivial⟩⟩
    · exact concludes_raise hk hh fun _ => he ht
  · exact concludes_refuse hk (.inr ⟨n, hh, rfl⟩)
  · exact hpark
  · exact hpark

/-- The result an exception stands for is transient exactly when its class is retryable. -/
theorem classified_transient {e : Exc} {klass : ErrorClass} :
    (AdapterDispatch.classified e klass).outcome = .transient ↔ klass.retryable = true := by
  cases klass <;> simp [AdapterDispatch.classified, ErrorClass.retryable]

theorem concludes_conclude {answer : Except Exc AdapterResult} (hk : Of K o) (hh : Holds (track h) n)
    (hok : ∀ r, answer = .ok r → r.outcome = .transient → (track h).ending = some true)
    (hfull : ∀ m, answer = .error (.bulkheadFull m) → (track h).ending = some true)
    (herr : ∀ e, answer = .error e → (∀ m, e ≠ .bulkheadFull m) → e ≠ .timeout → (track h).ending = none) :
    Concludes K (d.conclude o adapterId n context answer) h := by
  unfold AdapterDispatch.conclude
  split
  · exact concludes_finalize hk hh (hok _ rfl)
  · exact concludes_raise hk hh fun _ => hfull _ rfl
  · exact concludes_finalize hk hh (by simp)
  · rename_i e hb ht
    have hn := herr e rfl (fun m hm => hb m (by rw [hm])) (fun hm => ht (by rw [hm]))
    simp only [Concludes, wp_bind, wp_ask, implies_true, and_true]
    refine ⟨⟨hh.opened, hn⟩, fun klass _ => ?_⟩
    exact concludes_finalize hk ⟨hh.opened, hh.token⟩ (fun hc => congrArg some (classified_transient.1 hc))

theorem endsAttempt_error {e : Exc} {context : AdapterContext} (hb : ∀ m, e ≠ .bulkheadFull m) (ht : e ≠ .timeout) :
    endsAttempt ⟨.executed adapterId context, .error e⟩ = none := by
  cases e <;> first | rfl | exact absurd rfl ht | exact absurd rfl (hb _)

theorem concludes_executeAttempt (hk : Of K o) (ho : (track h).opened = true) (hx : (track h).executed = false)
    (hn : (track h).ending = none) : Concludes K (d.executeAttempt o envelope adapterId trace) h := by
  unfold AdapterDispatch.executeAttempt
  simp only [Concludes, wp_bind, wp_ask, wp_outcomeOf, implies_true, and_true]
  refine ⟨hk, fun n _ => ⟨⟨ho, hn, hx⟩, fun _ _ => ⟨⟨hk, ho, rfl, hx⟩, fun _ _ =>
    ⟨⟨ho, hn⟩, fun result _ => ?_, fun e _ => ?_⟩, fun e _ => ?_⟩, fun e _ => ?_⟩⟩
  · refine concludes_conclude hk ⟨ho, rfl⟩ (fun r hr ht => ?_) (by simp) (by simp)
    cases hr
    exact congrArg some (decide_eq_true ht)
  · refine concludes_conclude hk ?_ (by simp) (fun m hm => ?_) (fun e' he' hb ht => ?_)
    · exact ⟨ho, rfl⟩
    · cases hm; rfl
    · cases he'
      rw [track_cons, Track.next, endsAttempt_error hb ht]
      exact hn
  · rename_i hr
    exact hr.elim
  · rename_i hr
    obtain ⟨m, rfl⟩ := hr
    exact concludes_conclude hk ⟨ho, rfl⟩ (by simp) (fun _ _ => rfl)
      (fun e he hb _ => absurd (Except.error.inj he).symm (hb m))

theorem wp_admitted {Q : List Answered → Bool → Prop} {outboxAttempt : Nat} (hk : Of K o) (ho : (track h).opened = false)
    (hQ : ∀ h', track h' = track h → Q h' true) (hfalse : ∀ h', (track h').concluded = true → Q h' false) :
    wp rely (BusCall K) (d.admitted o envelope adapterId outboxAttempt trace) h Q fun _ _ => True := by
  unfold AdapterDispatch.admitted
  simp only [wp_bind, wp_ask, wp_outcomeOf, implies_true, and_true]
  refine ⟨trivial, fun readiness _ => ⟨trivial, fun decision _ => ?_⟩, fun _ _ => trivial⟩
  split
  · split
    · trivial
    · rw [wp_bind]
      exact wp_mono (fun _ _ hc => hc) (fun _ _ hover => hfalse _ (hover rfl)) (fun _ _ _ => trivial) _ _
        (wp_fail hk (.inl ⟨ho, rfl, rfl⟩))
  · simp only [wp_bind, wp_ask, wp_outcomeOf]
    refine ⟨trivial, fun _ _ => hQ _ rfl, fun e _ => ?_⟩
    split
    · trivial
    · trivial
    · rename_i h; cases h

theorem concludes_openAttempt {tenantId : String} {commandId : Uuid} (hk : (tenantId, commandId) = K)
    (ho : (track h).opened = false) (hx : (track h).executed = false) (hn : (track h).ending = none) :
    Concludes K (d.openAttempt tenantId commandId o envelope adapterId trace) h := by
  have hopen : ∀ h', (track h').opened = false → (track h').executed = false → (track h').ending = none →
      Concludes K (do
        let operation ← ask (.transition (d.transition tenantId commandId .dispatching
          ("attempt via adapter " ++ adapterId)))
        d.executeAttempt operation envelope adapterId trace) h' := by
    intro h' ho hx hn
    simp only [Concludes, wp_bind, wp_ask, implies_true, and_true]
    refine ⟨⟨hk, ho, hn, hx⟩, fun o' ho' => ?_⟩
    obtain ⟨h1, h2, -⟩ := ho'
    exact concludes_executeAttempt (by rw [Of, h1, h2]; exact hk) rfl hx hn
  unfold AdapterDispatch.openAttempt
  split
  · rw [Concludes, wp_bind, wp_ask]
    refine ⟨⟨hk, .inl rfl⟩, fun a _ => ?_, fun _ _ => trivial⟩
    exact hopen _ ho hx hn
  · exact hopen h ho hx hn

/-- Every call of `dispatch` keeps the guarantees, and a normal return leaves the command over. -/
theorem concludes_dispatch {tenantId : String} {commandId : Uuid} {outboxAttempt : Nat} (hk : (tenantId, commandId) = K)
    (ho : (track h).opened = false) (hx : (track h).executed = false) (hn : (track h).ending = none) :
    Concludes K (d.dispatch tenantId commandId outboxAttempt trace) h := by
  unfold AdapterDispatch.dispatch
  simp only [Concludes, wp_bind, wp_ask, wp_outcomeOf]
  refine ⟨hk, fun o hr => ?_, fun e _ => ?_⟩
  · have hko : Of K o := by rw [Of, hr.1, hr.2]; exact hk
    split
    · rename_i hs
      simp only [List.mem_cons, List.not_mem_nil, or_false] at hs
      rcases hs with hs | hs | hs | hs <;> exact congrArg CommandState.terminal hs
    · unfold AdapterDispatch.dispatchLive
      simp only [wp_bind, wp_ask, implies_true, and_true]
      refine ⟨hk, fun envelope _ => ?_⟩
      split
      · exact concludes_refuse hko (.inl ⟨ho, rfl⟩)
      · unfold registeredAdapter
        split
        · simp only [wp_bind, wp_ask, wp_pure, implies_true, and_true]
          refine ⟨trivial, fun capabilities _ => ?_⟩
          split
          · exact concludes_refuse hko (.inl ⟨ho, rfl⟩)
          · split
            · rename_i hs
              exact concludes_recover hko rfl ho hs
            · rw [wp_bind]
              refine wp_admitted hko ho (fun h' ht => ?_) (fun h' hover => hover)
              exact concludes_openAttempt hk (by rw [ht]; exact ho) (by rw [ht]; exact hx) (by rw [ht]; exact hn)
        · trivial
  · split
    · rfl
    · trivial
    · rename_i h; cases h

/-! ## The guarantees of the reconciler -/

/-- What the reconciler guarantees of a transition: it has not requeued the command yet, requeues only what a
read-back behind its attempt number did not find and only on an adapter that may execute again, and
dead-letters only what it read as awaiting reconciliation. -/
def reconcilerTransition (r : Reconciler) (T : Track) (t : Transition) : Prop :=
  T.requeued = false ∧ ∃ o, T.read = some o ∧ o.state = .reconciliationRequired ∧
    match t.newState with
    | .queued => T.verdicts = 0 ∧ ∃ (n : Nat) (rb : ReadbackResult) (ownership : Ownership)
        (advertised : AdapterCapabilities), t.expectedAttempt = some (n : Int) ∧ T.token = some n ∧
        r.registry.ownership o.commandType = some ownership ∧
        r.registry.advertised.lookup ownership.adapterId = some advertised ∧ advertised.safeReexecution = true ∧
        T.answer = some (ownership.adapterId, rb) ∧ rb.status = .notFound
    | .deadLettered => True
    | _ => False

/-- What the reconciler guarantees of a verdict: it is the first since the operation was read, against the
version that was read, and a match was answered by the adapter. -/
def reconcilerVerdict (T : Track) (q : Reconciliation) : Prop :=
  T.requeued = false ∧ T.verdicts = 0 ∧ ∃ o, T.read = some o ∧ o.state = .reconciliationRequired ∧
    q.expectedVersion = some (o.resourceVersion : Int) ∧
    (q.matched = true → ∃ adapterId rb, T.answer = some (adapterId, rb) ∧ rb.status = .matched ∧
      q.evidence = readbackEvidence rb o)

/-- What the reconciler guarantees of each call on the command `K` for the row `id`. -/
def reconcilerGuarantee (r : Reconciler) (id : Nat) (K : Key) (T : Track) : Call → Prop
  | .get tenantId commandId | .latestAttempt tenantId commandId | .loadEnvelope tenantId commandId =>
    (tenantId, commandId) = K
  | .transition t => t.key = K ∧ reconcilerTransition r T t
  | .reconcile q => q.key = K ∧ reconcilerVerdict T q
  | .sourceResolve claim _ action _ =>
    claim.outboxId = id ∧ if action = .retry then T.requeued = true else T.concluded = true
  | .sourceRelease claim _ _ => claim.outboxId = id
  | .recordDeadLetter _ | .capabilities _ | .status _ _ _ | .reconcileHook _ _ _ => True
  | _ => False

abbrev ReconcilerCall (r : Reconciler) (id : Nat) (K : Key) (h : List Answered) (c : Call) : Prop :=
  reconcilerGuarantee r id K (track h) c

/-- A command that was requeued has had its row resolved. -/
abbrev Resolved (T : Track) : Prop := T.requeued = true → T.settled = true

theorem Resolved.idle {T : Track} (h : T.requeued = false) : Resolved T := fun hr => by rw [h] at hr; cases hr

/-! ## Walking through the reconciler -/

section Reconciler

variable {r : Reconciler} {claim : ReconciliationClaim} {rb : ReadbackResult}

abbrev ReconciliationClaim.key (claim : ReconciliationClaim) : Key := (claim.tenantId, claim.commandId)

abbrev ClaimCall (r : Reconciler) (claim : ReconciliationClaim) (h : List Answered) (c : Call) : Prop :=
  ReconcilerCall r claim.outboxId claim.key h c

/-- From here the reconciler keeps its guarantees, and whatever comes of it the row is resolved when the command
was requeued. -/
abbrev Resolves {α : Type} (r : Reconciler) (claim : ReconciliationClaim) (p : Coro α) (h : List Answered) : Prop :=
  wp rely (ClaimCall r claim) p h (fun h _ => Resolved (track h)) fun h _ => Resolved (track h)

theorem wp_reconcilerObserve {Q : List Answered → ReadbackResult → Prop} {E : List Answered → Exc → Prop}
    (hQ : ∀ h' rb a, track h' = { track h with answer := a } →
      (rb.status = .matched ∨ rb.status = .notFound → a = some (adapterId, rb)) → Q h' rb) :
    wp rely (ClaimCall r claim) (Reconciler.observe adapterId o context) h Q E := by
  unfold Reconciler.observe
  simp only [wp_bind, wp_outcomeOf]
  refine wp_statusReadback (fun _ => ⟨trivial, trivial⟩) (fun h' r ht hr => ?_) (fun h' e ht => ?_)
  · cases r with
    | some rb =>
      refine hQ _ _ _ ht fun hm => ?_
      rcases hm with hm | hm
      · exact absurd hm (hr rb rfl).1
      · exact absurd hm (hr rb rfl).2
    | none =>
      simp only [wp_ask]
      refine ⟨trivial, fun rb _ => hQ _ _ (some (adapterId, rb)) ?_ fun _ => rfl,
        fun e _ => hQ _ _ (track h).answer ?_ (by simp)⟩
      · rw [track_cons, ht]; rfl
      · rw [track_cons, ht]; rfl
  · exact hQ _ _ _ ht (by simp)

theorem wp_fencedReconcile {Q : List Answered → Bool → Prop} {matched : Bool} {reason : String} {providerOperationId : Option String} {evidence : Obj} (hr : (track h).read = some o)
    (hs : o.state = .reconciliationRequired) (hv : (track h).verdicts = 0) (hq : (track h).requeued = false)
    (hm : matched = true → ∃ adapterId rb, (track h).answer = some (adapterId, rb) ∧ rb.status = .matched ∧
      evidence = readbackEvidence rb o)
    (hQ : ∀ h', track h' = { track h with verdicts := 1, concluded := matched } → Q h' true)
    (hfalse : ∀ h', Resolved (track h') → Q h' false) :
    wp rely (ClaimCall r claim) (r.fencedReconcile claim o matched reason providerOperationId evidence) h Q
      fun h _ => Resolved (track h) := by
  unfold Reconciler.fencedReconcile
  simp only [wp_bind, wp_ask, wp_outcomeOf]
  refine ⟨⟨rfl, hq, hv, o, hr, hs, rfl, hm⟩, fun a _ => hQ _ ?_, fun e _ => ?_⟩
  · show (track h).next _ = _
    simp only [Track.next, hv]
    rfl
  · split
    · rename_i h; cases h
    · simp only [wp_bind, Reconciler.release, wp_ask]
      exact ⟨rfl, fun _ _ => hfalse _ (.idle hq), fun e _ => .idle hq⟩
    · exact .idle hq

theorem resolves_release {reason : String} {decision : ReconciliationDecision} (hq : (track h).requeued = false) :
    Resolves r claim (do r.release claim reason; return decision) h := by
  simp only [Resolves, wp_bind, Reconciler.release, wp_ask]
  exact ⟨rfl, fun _ _ => .idle hq, fun _ _ => .idle hq⟩

theorem resolves_close {action : Resolution} {reason : String} {decision : ReconciliationDecision} (ha : action ≠ .retry)
    (hover : (track h).concluded = true) (hq : (track h).requeued = false) :
    Resolves r claim (do r.resolve claim action reason; return decision) h := by
  simp only [Resolves, wp_bind, Reconciler.resolve, wp_ask]
  exact ⟨⟨rfl, by rw [if_neg ha]; exact hover⟩, fun _ _ => .idle hq, fun _ _ => .idle hq⟩

/-- Dead-lettering a command that awaits reconciliation, and closing its row. -/
theorem resolves_bury {reason : String} {decision : ReconciliationDecision} (hr : (track h).read = some o)
    (hs : o.state = .reconciliationRequired) (hq : (track h).requeued = false) :
    Resolves r claim (do
      let _ ← ask (.transition (r.transition claim .deadLettered reason))
      r.resolve claim .deadLetter reason
      return decision) h := by
  simp only [Resolves, wp_bind, Reconciler.resolve, wp_ask]
  exact ⟨⟨rfl, hq, o, hr, hs, trivial⟩, fun _ _ => ⟨⟨rfl, rfl⟩, fun _ _ => .idle hq, fun _ _ => .idle hq⟩, fun _ _ => .idle hq⟩

theorem resolves_retryOrGiveUp {exhausted : Bool} (hr : (track h).read = some o) (hs : o.state = .reconciliationRequired)
    (hq : (track h).requeued = false) : Resolves r claim (r.retryOrGiveUp claim adapterId rb exhausted) h := by
  unfold Reconciler.retryOrGiveUp
  split
  · simp only [Resolves, wp_bind, Reconciler.resolve, wp_ask]
    exact ⟨⟨rfl, hq, o, hr, hs, trivial⟩, fun _ _ => ⟨trivial, fun _ _ => ⟨⟨rfl, rfl⟩, fun _ _ _ => rfl, fun _ _ _ => rfl⟩,
      fun _ _ => .idle hq⟩, fun _ _ => .idle hq⟩
  · exact resolves_release hq

theorem resolves_conclude {ownership : Ownership} {advertised : AdapterCapabilities} (hr : (track h).read = some o)
    (hs : o.state = .reconciliationRequired) (hv : (track h).verdicts = 0) (hq : (track h).requeued = false)
    (hown : r.registry.ownership o.commandType = some ownership)
    (hadv : r.registry.advertised.lookup ownership.adapterId = some advertised) (htok : (track h).token = some n)
    (hans : rb.status = .matched ∨ rb.status = .notFound → (track h).answer = some (ownership.adapterId, rb)) :
    Resolves r claim (r.conclude claim o ownership.adapterId advertised n rb) h := by
  unfold Reconciler.conclude
  split
  · rename_i hm
    rw [Resolves, wp_bind]
    refine wp_fencedReconcile hr hs hv hq (fun _ => ⟨_, rb, hans (.inl hm), hm, rfl⟩) (fun h' ht => ?_) (fun h' hd => hd)
    exact resolves_close (by decide) (by rw [ht]) (by rw [ht]; exact hq)
  · rename_i hm
    split
    · rw [Resolves, wp_bind]
      refine wp_fencedReconcile hr hs hv hq (by simp) (fun h' ht => ?_) (fun h' hd => hd)
      exact resolves_bury (by rw [ht]; exact hr) hs (by rw [ht]; exact hq)
    · rename_i hsafe
      dsimp only
      split
      · simp only [Resolves, wp_bind, Reconciler.resolve, wp_ask]
        exact ⟨⟨rfl, hq, o, hr, hs, hv, n, rb, ownership, advertised, rfl, htok, hown, hadv, by simpa using hsafe,
          hans (.inr hm), hm⟩, fun _ _ => ⟨⟨rfl, rfl⟩, fun _ _ _ => rfl, fun _ _ _ => rfl⟩, fun _ _ => .idle hq⟩
      · exact resolves_retryOrGiveUp hr hs hq
  · rw [Resolves, wp_bind]
    refine wp_fencedReconcile hr hs hv hq (by simp) (fun h' ht => ?_) (fun h' hd => hd)
    exact resolves_retryOrGiveUp (by rw [ht]; exact hr) hs (by rw [ht]; exact hq)
  · exact resolves_retryOrGiveUp hr hs hq
  · exact resolves_retryOrGiveUp hr hs hq

theorem resolves_reconcileParked (hr : (track h).read = some o) (hs : o.state = .reconciliationRequired)
    (hv : (track h).verdicts = 0) (hq : (track h).requeued = false) : Resolves r claim (r.reconcileParked claim o) h := by
  unfold Reconciler.reconcileParked
  split
  · exact resolves_release hq
  · rename_i ownership hown
    unfold registeredAdapter
    split
    · rename_i advertised hadv
      simp only [Resolves, wp_bind, wp_ask, wp_pure]
      refine ⟨rfl, fun n _ => ⟨rfl, fun envelope _ => ⟨trivial, fun capabilities _ => ?_, fun _ _ => .idle hq⟩,
        fun _ _ => .idle hq⟩, fun _ _ => .idle hq⟩
      split
      · exact resolves_bury hr hs hq
      · rw [wp_bind]
        refine wp_reconcilerObserve fun h' rb a ht ha => ?_
        exact resolves_conclude (by rw [ht]; exact hr) hs (by rw [ht]; exact hv) (by rw [ht]; exact hq) hown hadv
          (by rw [ht]; rfl) (fun hm => by rw [ht]; exact ha hm)
    · exact .idle hq

theorem resolves_reconcile (hq : (track h).requeued = false) : Resolves r claim (r.reconcile claim) h := by
  unfold Reconciler.reconcile
  simp only [Resolves, wp_bind, wp_ask, wp_outcomeOf]
  refine ⟨rfl, fun o _ => ?_, fun e _ => ?_⟩
  · cases hs : o.state with
    | reconciliationRequired => exact resolves_reconcileParked rfl hs rfl hq
    | completed => exact resolves_close (by simp) (congrArg CommandState.terminal hs) hq
    | failed => exact resolves_close (by simp) (congrArg CommandState.terminal hs) hq
    | deadLettered => exact resolves_close (by simp) (congrArg CommandState.terminal hs) hq
    | cancelled => exact resolves_close (by simp) (congrArg CommandState.terminal hs) hq
    | _ => exact resolves_release hq
  · split
    · exact resolves_close (by simp) rfl hq
    · exact .idle hq
    · rename_i h; cases h

end Reconciler

/-! ## The discipline of the platform -/

def guarantee : Job → List Answered → Call → Prop
  | .submit .., _, .evaluateCommand .. => True
  | .submit .., _, .backlog _ => True
  | .submit .., _, .evaluate .. => True
  | .submit .., _, .submit _ => True
  | .submit .., _, _ => False
  | .dispatch _ tenantId commandId _ _, h, c => BusCall (tenantId, commandId) h c
  | .bus b _, h, c =>
    match (track h).row with
    | none => h = [] ∧ c = .busClaim b
    | some (id, K) =>
      match c with
      | .busSettle b' id' outcome => b' = b ∧ id' = id ∧ (outcome = .completed → (track h).concluded = true)
      | c => BusCall K h c
  | .reconciler r, h, c =>
    match (track h).row with
    | none => h = [] ∧ c = .sourceClaim r.reconcilerId r.leaseSeconds
    | some (id, K) => ReconcilerCall r id K h c
  | .mutate m, h, c => h = [] ∧ c = .mutateOperation m

/-- What is true of a job's history when it is over: a pass of the bus settled the row it claimed, and a pass of
the reconciler resolved the row of the command it requeued. -/
def finished : Job → List Answered → Prop
  | .bus .., h => (track h).row.isSome = true → (track h).settled = true
  | .reconciler _, h => Resolved (track h)
  | _, _ => True

def discipline : System.Discipline Call.Answer Exc Job := ⟨rely, guarantee, finished⟩

theorem obeys_submit (k : CommandKernel) (c : CommandEnvelope) (p : KernelPrincipal) (scope : String)
    (trace : Option Obj) : System.Obeys discipline (.submit k c p scope trace)
      (Job.coroutine (.submit k c p scope trace)) [] := by
  show wp rely (guarantee (.submit k c p scope trace)) (discard (k.submit c p scope trace)) []
    (fun _ _ => True) (fun _ _ => True)
  rw [wp_discard]
  unfold CommandKernel.submit
  split
  · trivial
  · split
    · trivial
    · simp only [wp_bind, wp_ask]
      refine ⟨trivial, fun decision _ => ?_, fun _ _ => trivial⟩
      split
      · trivial
      · simp only [wp_bind, wp_ask, wp_outcomeOf]
        -- how the backlog was read makes no difference to the calls
        refine ⟨trivial, fun n _ => ?_, fun _ _ => ?_⟩ <;>
        · refine ⟨trivial, fun safety _ => ?_, fun _ _ => trivial⟩
          split
          · split <;> trivial
          · rw [wp_bind]
            unfold CommandKernel.raise
            split
            · simp only [wp_pure, wp_ask]
              exact ⟨trivial, fun _ _ => trivial, fun _ _ => trivial⟩
            · trivial

/-- Inside `dispatch` a worker neither claims nor settles. -/
theorem row_kept {K : Key} {row : Option (Nat × Key)} (h : List Answered) (c : Call) (reply : Except Exc c.Answer)
    (hr : (track h).row = row) (hG : BusCall K h c) : (track (⟨c, reply⟩ :: h)).row = row := by
  subst hr
  cases c <;> first | rfl | exact hG.elim

theorem obeys_bus (b : MemoryExecutionBus) (d : AdapterDispatch) :
    System.Obeys discipline (.bus b d) (Job.coroutine (.bus b d)) [] := by
  show wp rely (guarantee (.bus b d)) (discard (b.runOnce d)) [] (fun h _ => finished (.bus b d) h)
    (fun h _ => finished (.bus b d) h)
  rw [wp_discard]
  unfold MemoryExecutionBus.runOnce
  simp only [wp_bind, wp_ask]
  refine ⟨⟨rfl, rfl⟩, fun record _ => ?_, fun e _ => (by rintro ⟨⟩)⟩
  cases record with
  | none => exact fun h => by cases h
  | some record =>
    set h₀ : List Answered := [⟨.busClaim b, .ok (some record)⟩] with hh₀
    set K : Key := (record.tenantId, record.payload.commandId) with hK
    have hwalk : wp rely (BusCall K) (d.handle record) h₀ (fun h _ => (track h).concluded = true) (fun _ _ => True) := by
      unfold AdapterDispatch.handle
      split
      · trivial
      · rw [wp_discard]
        exact concludes_dispatch rfl rfl rfl rfl
    have hwalk := wp_invariant (P := fun h => (track h).row = some (record.id, K))
      (fun h c reply hr hG _ => row_kept h c reply hr hG) _ _ rfl hwalk
    have hsettle : ∀ h (outcome : Settlement), (track h).row = some (record.id, K) →
        (outcome = .completed → (track h).concluded = true) → wp rely (guarantee (.bus b d))
          (do ask (.busSettle b record.id outcome); return true) h (fun h _ => finished (.bus b d) h)
          (fun h _ => finished (.bus b d) h) := by
      intro h outcome hr hover
      simp only [wp_bind, wp_ask, wp_pure]
      refine ⟨?_, fun _ _ _ => rfl, fun _ _ _ => rfl⟩
      simp only [guarantee, hr]
      exact ⟨trivial, trivial, hover⟩
    simp only [wp_bind, wp_outcomeOf]
    refine wp_mono ?_ ?_ ?_ _ _ hwalk
    · rintro h c ⟨hr, hG⟩
      simp only [guarantee, hr]
      cases c <;> first | exact hG | exact hG.elim
    · rintro h a ⟨hr, hover⟩
      simpa only [wp_bind] using hsettle h (settlement (.ok a)) hr fun _ => hover
    · rintro h e ⟨hr, -⟩
      have hne : settlement (.error e) ≠ .completed := by cases e <;> simp [settlement]
      simpa only [wp_bind] using hsettle h _ hr fun he => absurd he hne

theorem row_kept_reconciler {r : Reconciler} {id : Nat} {K : Key} {row : Option (Nat × Key)} (h : List Answered)
    (c : Call) (reply : Except Exc c.Answer) (hr : (track h).row = row) (hG : ReconcilerCall r id K h c) :
    (track (⟨c, reply⟩ :: h)).row = row := by
  subst hr
  cases c <;> first | rfl | exact hG.elim

theorem obeys_reconciler (r : Reconciler) :
    System.Obeys discipline (.reconciler r) (Job.coroutine (.reconciler r)) [] := by
  show wp rely (guarantee (.reconciler r)) (discard r.runOnce) [] (fun h _ => Resolved (track h))
    (fun h _ => Resolved (track h))
  rw [wp_discard]
  unfold Reconciler.runOnce
  simp only [wp_bind, wp_ask]
  refine ⟨⟨rfl, rfl⟩, fun claim _ => ?_, fun e _ => (by rintro ⟨⟩)⟩
  cases claim with
  | none => exact fun h => by cases h
  | some claim =>
    simp only [wp_bind, wp_pure]
    have hrec : Resolves r claim (r.reconcile claim) [⟨.sourceClaim r.reconcilerId r.leaseSeconds, .ok (some claim)⟩] :=
      resolves_reconcile rfl
    have hwalk := wp_invariant (P := fun h => (track h).row = some (claim.outboxId, claim.key))
      (fun h c reply hr hG _ => row_kept_reconciler h c reply hr hG) _ _ rfl hrec
    refine wp_mono ?_ (fun h a hd => hd.2) (fun h a hd => hd.2) _ _ hwalk
    rintro h c ⟨hr, hG⟩
    simpa only [guarantee, hr] using hG

theorem obeys (j : Job) : System.Obeys discipline j (platform.prog j) [] := by
  cases j with
  | submit k c p scope trace => exact obeys_submit k c p scope trace
  | dispatch d tenantId commandId outboxAttempt trace =>
    show wp rely (BusCall (tenantId, commandId)) (discard (d.dispatch tenantId commandId outboxAttempt trace)) []
      (fun _ _ => True) (fun _ _ => True)
    rw [wp_discard]
    exact wp_mono (fun _ _ hc => hc) (fun _ _ _ => trivial) (fun _ _ _ => trivial) _ _ (concludes_dispatch rfl rfl rfl rfl)
  | bus b d => exact obeys_bus b d
  | reconciler r => exact obeys_reconciler r
  | mutate m =>
    exact ⟨⟨rfl, rfl⟩, fun reply _ => by cases reply <;> trivial⟩

end Middleware.Platform

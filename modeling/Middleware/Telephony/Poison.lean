/-
Bounded attempts and the end of a claim. `dispatch_one` records a failure only when the guarded block raises an
`Exception`, and a row whose lease ran out is claimed again without a look at its attempts. So attempts are bounded in
exactly the runs in which no claim takes over an exhausted row, and a run that claimed a row and ended leaves it out of
submission, or to a later claim, in every run whose steps are `Orderly`.
-/
import Middleware.Telephony.Leases

namespace Middleware.Telephony

open Ledger Lib

/-! ## The conditions -/

/-- A claim that is answered takes no row with an expired lease and without attempts left. -/
def ClaimsInBudget (before : Journal) : Answered → Prop
  | ⟨.claim environment now locked, .ok _⟩ =>
    ∀ r, selectClaimable before environment now locked = some r → r.state = .submitting → r.attemptCount < maxAttempts
  | _ => True

/-- At `now` the stored request of the row is valid, and the row has an operation or names its policy decision. -/
def Dispatchable (lib : Library) (now : Time) (j : Journal) (commandId : Nat) : Prop :=
  ∀ r, j.row commandId = some r → ∃ command, TelephonyCommandRequest.modelValidate lib now r.requestJson = .ok command ∧
    ((j.operation commandId).isSome = true ∨ command.policyDecisionId.isSome = true)

/-- The call failed from outside: the database did, or the task was cancelled. -/
def faulted {α : Type} : Except Raised α → Prop
  | .error e => e = .database ∨ e = .cancelled
  | .ok _ => False

/-- The task was cancelled at the call. -/
def cancelled {α : Type} : Except Raised α → Prop
  | .error e => e.isException = false
  | .ok _ => False

/-- What a step of a run that holds its row must not meet. -/
def Orderly (lib : Library) (before : Journal) : Answered → Prop
  | ⟨.load c now, reply⟩ => Holds before c → Dispatchable lib now before c.commandId ∧ ¬faulted reply
  | ⟨.clientFactory c, reply⟩ => Holds before c → reply.isOk = true
  | ⟨.dispatch c _, reply⟩ => Holds before c → ¬cancelled reply
  | ⟨.persist c _ _, reply⟩ => Holds before c → ¬cancelled reply
  | ⟨.readback c _ _, reply⟩ =>
    Holds before c → ¬cancelled reply ∧ ∀ d, reply = .ok d → (d.lookup "readback_matches").isSome = true
  | ⟨.recordFailure c _, reply⟩ => Holds before c → ¬faulted reply
  | ⟨.cleanup c, reply⟩ => Holds before c → reply.isOk = true
  | ⟨.finalize c _ readback, reply⟩ =>
    Holds before c → ¬faulted reply ∧ ∀ key ∈ ["actual_hash", "readback_matches", "actual"],
      (readback.lookup key).isSome = true
  | _ => True

/-! ## What the calls of a run say about each other -/

def Claimed (h : List Answered) (c : Claim) : Prop :=
  ∃ environment now locked, ⟨.claim environment now locked, .ok (some c)⟩ ∈ h

/-- The process found or persisted an operation of its command. -/
def Submitted (h : List Answered) (c : Claim) : Prop :=
  (∃ now loaded, ⟨.load c now, .ok loaded⟩ ∈ h ∧ loaded.operation.isSome = true) ∨
    ∃ command operation, ⟨.persist c command operation, .ok ()⟩ ∈ h

/-- A call after which the run does not have to touch its row any more, or will not. -/
def Closing (c : Claim) : Answered → Prop
  | ⟨.load c' _, .error _⟩ => c' = c
  | ⟨.clientFactory c', .error _⟩ => c' = c
  | ⟨.dispatch c' _, .error e⟩ => c' = c ∧ e.isException = false
  | ⟨.persist c' _ _, .error e⟩ => c' = c ∧ e.isException = false
  | ⟨.readback c' _ _, .error e⟩ => c' = c ∧ e.isException = false
  | ⟨.readback c' _ _, .ok d⟩ => c' = c ∧ d.lookup "readback_matches" = none
  | ⟨.recordFailure c' _, _⟩ => c' = c
  | ⟨.cleanup c', .error _⟩ => c' = c
  | ⟨.finalize c' _ _, _⟩ => c' = c
  | _ => False

/-- The run reached a closing call. -/
def Closed (h : List Answered) (c : Claim) : Prop := ∃ v ∈ h, Closing c v

/-- What the runs promise, as long as the clock answers: a call for a claim is made by the process that got it, the
finalization after an operation is known, and a process that is over reached a closing call. -/
def promise : System.Discipline Call.Answer Raised Job where
  rely op reply := op = .now → reply.isOk = true
  call _ h op := (∀ c, op.claimOf = some c → Claimed h c) ∧ ∀ c matched d, op = .finalize c matched d → Submitted h c
  done _ h := ∀ c, Claimed h c → Closed h c

/-- The claim is the only one the process got. -/
def Own (h : List Answered) (c : Claim) : Prop := Claimed h c ∧ ∀ c', Claimed h c' → c' = c

section Histories

variable {h : List Answered} {c : Claim} {v : Answered}

theorem Claimed.cons (hc : Claimed h c) : Claimed (v :: h) c := by
  obtain ⟨environment, now, locked, hm⟩ := hc
  exact ⟨environment, now, locked, List.mem_cons_of_mem _ hm⟩

theorem Submitted.cons (hs : Submitted h c) : Submitted (v :: h) c := by
  rcases hs with ⟨now, loaded, hm, ho⟩ | ⟨command, operation, hm⟩
  · exact .inl ⟨now, loaded, List.mem_cons_of_mem _ hm, ho⟩
  · exact .inr ⟨command, operation, List.mem_cons_of_mem _ hm⟩

theorem Closed.cons (hc : Closed h c) : Closed (v :: h) c := by
  obtain ⟨w, hw, hcl⟩ := hc
  exact ⟨w, List.mem_cons_of_mem _ hw, hcl⟩

theorem Closed.here (hv : Closing c v) : Closed (v :: h) c := ⟨v, List.mem_cons_self, hv⟩

def Call.isClaim : Call → Bool
  | .claim .. => true
  | _ => false

theorem Own.cons (ho : Own h c) (hv : v.op.isClaim = false) : Own (v :: h) c := by
  refine ⟨ho.1.cons, fun c' hc' => ho.2 c' ?_⟩
  obtain ⟨environment, now, locked, hm⟩ := hc'
  rcases List.mem_cons.1 hm with rfl | hm
  · cases hv
  · exact ⟨environment, now, locked, hm⟩

theorem Own.closed (ho : Own h c) (hc : Closed h c) : ∀ c', Claimed h c' → Closed h c' := by
  intro c' hc'
  rw [ho.2 c' hc']
  exact hc

end Histories

/-! ## `dispatch_one` keeps the promise -/

section Promise

variable {lib : Library} {c : Claim} {h : List Answered} {loaded : Loaded} {j : Job}

abbrev Keeps {α : Type} (j : Job) (p : Coro α) (h : List Answered) (Q : List Answered → α → Prop)
    (E : List Answered → Raised → Prop) : Prop := p.wp promise.rely (promise.call j) h Q E

theorem allowed {op : Call} (hop : op.claimOf = some c ∨ op.claimOf = none) (hf : ∀ c matched d, op ≠ .finalize c matched d)
    (hc : Claimed h c) : promise.call j h op := by
  refine ⟨fun c' hc' => ?_, fun c' matched d he => absurd he (hf c' matched d)⟩
  rcases hop with hop | hop
  · rw [hop] at hc'
    cases hc'
    exact hc
  · rw [hop] at hc'
    cases hc'

theorem wp_raise {α : Type} {x : Except Raised α} {Q : List Answered → α → Prop} {E : List Answered → Raised → Prop} :
    Keeps j (raise x) h Q E ↔ (∀ a, x = .ok a → Q h a) ∧ ∀ e, x = .error e → E h e := by
  cases x with
  | ok a => simp [raise, Keeps]
  | error e => simp [raise, Keeps]

theorem wp_ensuring {α : Type} {p : Coro α} {last : Coro Unit} {Q : List Answered → α → Prop}
    {E : List Answered → Raised → Prop} :
    Keeps j (ensuring p last) h Q E ↔ Keeps j p h (fun h a => Keeps j last h (fun h _ => Q h a) E)
      (fun h e => Keeps j last h (fun h _ => E h e) E) := by
  simp [ensuring, Keeps]

theorem policy_error {now : Time} {decision : Option PolicyDecision} {command : TelephonyCommandRequest} {e : Raised}
    (h : validatePolicyForDispatch lib now command decision = .error e) : e.isException = true := by
  cases decision with
  | none =>
    cases h
    rfl
  | some decision =>
    simp only [validatePolicyForDispatch] at h
    repeat' split at h
    all_goals cases h
    all_goals rfl

theorem operationOf_keeps {now : Time} (ho : Own h c) (hl : ⟨.load c now, .ok loaded⟩ ∈ h) :
    Keeps j (operationOf lib c loaded) h (fun h _ => Own h c ∧ Submitted h c)
      (fun h e => Own h c ∧ (e.isException = false → Closed h c)) := by
  unfold operationOf
  split
  · rename_i operation hop
    exact ⟨ho, .inl ⟨now, loaded, hl, by rw [hop]; rfl⟩⟩
  · simp only [Keeps, ask, Prog.wp_bind, Prog.wp_ask]
    refine ⟨allowed (.inr rfl) (by simp) ho.1, fun t _ => ?_, fun e he => by cases he rfl⟩
    · have ho₁ : Own (⟨.now, .ok t⟩ :: h) c := ho.cons rfl
      refine wp_raise.2 ⟨fun _ _ => ?_, fun e he => ⟨ho₁, fun hb => ?_⟩⟩
      · refine ⟨allowed (.inl rfl) (by simp) ho₁.1, fun operation _ => ?_, fun e _ => ?_⟩
        · have ho₂ := ho₁.cons (v := ⟨.dispatch c loaded.command, .ok operation⟩) rfl
          refine ⟨allowed (.inl rfl) (by simp) ho₂.1, fun _ _ => ⟨ho₂.cons rfl, ?_⟩, fun e _ => ⟨ho₂.cons rfl, fun hb => ?_⟩⟩
          · exact .inr ⟨_, _, List.mem_cons_self⟩
          · exact .here ⟨rfl, hb⟩
        · exact ⟨ho₁.cons rfl, fun hb => .here ⟨rfl, hb⟩⟩
      · rw [policy_error he] at hb
        cases hb

theorem submitAndRead_keeps {now : Time} (ho : Own h c) (hl : ⟨.load c now, .ok loaded⟩ ∈ h) :
    Keeps j (submitAndRead lib c loaded) h
      (fun h d => Own h c ∧ Submitted h c ∧ (d.2.lookup "readback_matches" = none → Closed h c))
      (fun h e => Own h c ∧ (e.isException = false → Closed h c)) := by
  unfold submitAndRead
  simp only [Keeps, Prog.wp_bind]
  refine Prog.wp_mono (fun _ _ hG => hG) ?_ (fun _ _ hE => hE) _ _ (operationOf_keeps ho hl)
  rintro h' operation ⟨ho', hs'⟩
  simp only [ask, Prog.wp_ask, Prog.wp_pure]
  refine ⟨allowed (.inl rfl) (by simp) ho'.1, fun d _ => ⟨ho'.cons rfl, hs'.cons, fun hd => ?_⟩, fun e _ => ?_⟩
  · exact .here ⟨rfl, hd⟩
  · exact ⟨ho'.cons rfl, fun hb => .here ⟨rfl, hb⟩⟩

/-- Whatever the guarded block raised, the run has reached a closing call when the cleanup begins. -/
theorem recorded_keeps {now : Time} (ho : Own h c) (hl : ⟨.load c now, .ok loaded⟩ ∈ h) :
    Keeps j (tryCatch (submitAndRead lib c loaded) fun exc =>
        if exc.isException then do
          ask (.recordFailure c exc)
          throw exc
        else throw exc) h
      (fun h d => Own h c ∧ Submitted h c ∧ (d.2.lookup "readback_matches" = none → Closed h c))
      (fun h _ => Own h c ∧ Closed h c) := by
  rw [Keeps, Prog.wp_tryCatch]
  refine Prog.wp_mono (fun _ _ hG => hG) (fun _ _ hQ => hQ) ?_ _ _ (submitAndRead_keeps ho hl)
  rintro h' exc ⟨ho', hb⟩
  split
  · simp only [ask, Prog.wp_bind, Prog.wp_ask, Prog.wp_throw]
    refine ⟨allowed (.inl rfl) (by simp) ho'.1, fun _ _ => ⟨ho'.cons rfl, .here rfl⟩, fun _ _ => ⟨ho'.cons rfl, .here rfl⟩⟩
  · rename_i hexc
    exact ⟨ho', hb (by simpa using hexc)⟩

theorem dispatchClaimed_keeps (ho : Own h c) :
    Keeps j (dispatchClaimed lib c) h (fun h _ => Own h c ∧ Closed h c) (fun h _ => Own h c ∧ Closed h c) := by
  unfold dispatchClaimed
  simp only [Keeps, ask, Prog.wp_bind, Prog.wp_ask]
  refine ⟨allowed (.inr rfl) (by simp) ho.1, fun now _ => ?_, fun e he => by cases he rfl⟩
  have ho₁ : Own (⟨.now, .ok now⟩ :: h) c := ho.cons rfl
  refine ⟨allowed (.inl rfl) (by simp) ho₁.1, fun loaded _ => ?_, fun e _ => ⟨ho₁.cons rfl, .here rfl⟩⟩
  have ho₂ := ho₁.cons (v := ⟨.load c now, .ok loaded⟩) rfl
  refine ⟨allowed (.inl rfl) (by simp) ho₂.1, fun _ _ => ?_, fun e _ => ⟨ho₂.cons rfl, .here rfl⟩⟩
  have ho₃ := ho₂.cons (v := ⟨.clientFactory c, .ok ()⟩) rfl
  have hload : ⟨.load c now, .ok loaded⟩ ∈ (⟨.clientFactory c, .ok ()⟩ :: ⟨.load c now, .ok loaded⟩ :: ⟨.now, .ok now⟩ :: h : List Answered) := by
    simp
  refine wp_ensuring.2 (Prog.wp_mono (fun _ _ hG => hG) ?_ ?_ _ _ (recorded_keeps ho₃ hload))
  · rintro h' ⟨operation, readback⟩ ⟨ho', hs', hb⟩
    simp only [Keeps, Prog.wp_ask]
    refine ⟨allowed (.inl rfl) (by simp) ho'.1, fun _ _ => ?_, fun e _ => ⟨ho'.cons rfl, .here rfl⟩⟩
    refine wp_raise.2 ⟨fun readbackMatches _ => ?_, fun e he => ⟨ho'.cons rfl, (hb ?_).cons⟩⟩
    · have hfinal : ∀ reply, Own (⟨.finalize c (truthy readbackMatches) readback, reply⟩ :: ⟨.cleanup c, .ok ()⟩ :: h') c ∧
          Closed (⟨.finalize c (truthy readbackMatches) readback, reply⟩ :: ⟨.cleanup c, .ok ()⟩ :: h') c :=
        fun reply => ⟨(ho'.cons rfl).cons rfl, .here rfl⟩
      refine ⟨⟨?_, ?_⟩, fun _ _ => ?_, fun e _ => hfinal _⟩
      · rintro c' ⟨⟩
        exact ho'.1.cons
      · rintro c' matched d ⟨⟩
        exact hs'.cons
      · exact wp_raise.2 ⟨fun _ _ => hfinal _, fun _ _ => hfinal _⟩
    · unfold member at he
      split at he
      · cases he
      · assumption
  · rintro h' e ⟨ho', hc'⟩
    simp only [Keeps, Prog.wp_ask]
    refine ⟨allowed (.inl rfl) (by simp) ho'.1, fun _ _ => ⟨ho'.cons rfl, hc'.cons⟩, fun _ _ => ⟨ho'.cons rfl, hc'.cons⟩⟩

theorem unclaimed (hn : ∀ v ∈ h, v.op.isClaim = false) : ∀ c, Claimed h c → Closed h c := by
  rintro c ⟨environment, now, locked, hm⟩
  cases hn _ hm

theorem dispatchOne_obeys (environment : String) :
    System.Obeys promise (.dispatchOne environment) ((Job.dispatchOne environment).coroutine lib) [] := by
  have hop : ∀ {h : List Answered} {op : Call}, op.claimOf = none → promise.call (.dispatchOne environment) h op := by
    intro h op hop
    refine ⟨fun c hc => ?_, fun c matched d hd => ?_⟩
    · rw [hop] at hc
      cases hc
    · rw [hd] at hop
      cases hop
  simp only [System.Obeys, Job.coroutine, Prog.wp_discard, Telephony.dispatchOne, ask, Prog.wp_bind, Prog.wp_ask]
  refine ⟨hop rfl, fun now _ => ⟨hop rfl, fun locked _ => ⟨hop rfl, fun found _ => ?_, fun e _ => ?_⟩, fun e _ => ?_⟩,
    fun e _ => ?_⟩
  · cases found with
    | none =>
      rintro c ⟨environment', now', locked', hm⟩
      simp at hm
    | some c =>
      rw [Prog.wp_map]
      have ho : Own [⟨.claim environment now locked, .ok (some c)⟩, ⟨.locks, .ok locked⟩, ⟨.now, .ok now⟩] c := by
        refine ⟨⟨environment, now, locked, List.mem_cons_self⟩, fun c' hc' => ?_⟩
        obtain ⟨environment', now', locked', hm⟩ := hc'
        simp at hm
        exact hm.2
      exact Prog.wp_mono (fun _ _ hG => hG) (fun _ _ hQ => hQ.1.closed hQ.2) (fun _ _ hE => hE.1.closed hE.2) _ _
        (dispatchClaimed_keeps ho)
  · rintro c ⟨environment', now', locked', hm⟩
    simp at hm
  · exact unclaimed (by simp [Call.isClaim])
  · exact unclaimed (by simp [Call.isClaim])

theorem obeys (j : Job) : System.Obeys promise j (j.coroutine lib) [] := by
  cases j with
  | dispatchOne environment => exact dispatchOne_obeys environment
  | heartbeat c =>
    simp only [System.Obeys, Job.coroutine, Prog.wp_discard, ask, Prog.wp_ask]
    refine ⟨⟨by simp [Call.claimOf], by simp⟩, fun _ _ => ?_, fun _ _ => ?_⟩ <;> exact unclaimed (by simp [Call.isClaim])
  | create commandId environment requestJson allowed now =>
    simp only [System.Obeys, Job.coroutine, ask, Prog.wp_ask]
    refine ⟨⟨by simp [Call.claimOf], by simp⟩, fun _ _ => ?_, fun _ _ => ?_⟩ <;> exact unclaimed (by simp [Call.isClaim])

end Promise

/-! ## Attempts -/

/-- The attempts of a command so far. -/
def Journal.attempts (j : Journal) (id : Nat) : Nat := ((j.row id).map (·.attemptCount)).getD 0

/-- The command an answered claim took. -/
def claims (id : Nat) : Answered → Bool
  | ⟨.claim _ _ _, .ok (some c)⟩ => c.commandId == id
  | _ => false

section Attempts

variable {lib : Library} {i : Input} {j j' : Journal} {id : Nat} {r : JournalRow}

theorem row_update {f : JournalRow → JournalRow} {id' : Nat} (hf : ∀ r, r.commandId = id' → (f r).commandId = id') :
    (j.update id' f).row id = (j.row id).map fun r => if id = id' then f r else r :=
  find_map_at hf j.rows

/-- Apart from a claim nothing changes the attempts of a command. -/
theorem Moves.attempts (h : Moves j j') (hi : j'.issued = j.issued) : j'.attempts id = j.attempts id := by
  cases h with
  | idle => rfl
  | insert r hfresh hs ho ha =>
    unfold Journal.attempts Journal.row
    rw [find_append_row]
    cases hrow : j.rows.find? (fun r => decide (r.commandId = id)) with
    | some r₀ => rfl
    | none =>
      by_cases hid : r.commandId = id
      · simp [hid, ha]
      · simp [hid]
  | claim environment now locked r hsel => simp at hi
  | write c r f operations hrow hheld hids hwrites hkept =>
    show (((j.update c.commandId f).row id).map (·.attemptCount)).getD 0 = _
    rw [row_update fun r hr => (hids r).trans hr, Journal.attempts]
    by_cases hid : id = c.commandId
    · subst hid
      simp [hrow, hwrites.attempts]
    · simp [hid]

theorem transaction_issued {α : Type} {tx : Journal → Except Raised α × Journal} (h : (tx j).2.issued = j.issued) :
    (i.transaction tx j).2.issued = j.issued := by
  rcases transaction_cases i tx j with ⟨fault, heq⟩ | heq
  · rw [heq]
  · rw [heq]
    exact h

theorem exec_issued (op : Call) (hop : op.isClaim = false) : (exec lib i op j).2.issued = j.issued := by
  cases op with
  | now | locks | clientFactory c | dispatch c command | readback c command operation | cleanup c => rfl
  | load c now => exact transaction_issued rfl
  | claim environment now locked => cases hop
  | persist c command operation =>
    apply transaction_issued
    unfold persistSubmission
    repeat' split
    all_goals rfl
  | recordFailure c exc =>
    apply transaction_issued
    unfold recordFailure
    repeat' split
    all_goals rfl
  | finalize c matched readback =>
    apply transaction_issued
    unfold finalize
    repeat' split
    all_goals rfl
  | beat c =>
    apply transaction_issued
    unfold renewLease
    repeat' split
    all_goals rfl
  | insert id environment requestJson allowed now =>
    apply transaction_issued
    unfold insertCommand
    split <;> rfl

theorem claims_isClaim {v : Answered} (h : v.op.isClaim = false) : claims id v = false := by
  obtain ⟨op, reply⟩ := v
  cases op <;> first | rfl | cases h

theorem claim_attempts (hw : j.WF) {environment : String} {now : Time} {locked : List Nat} :
    (claimAuthorized environment now locked j).2.attempts id = j.attempts id +
      if claims id ⟨.claim environment now locked, (claimAuthorized environment now locked j).1⟩ then 1 else 0 := by
  unfold claimAuthorized
  split
  · simp [claims]
  · rename_i r hr
    have hrow := hw.row_of_mem (selected_mem hr).1
    show (((j.update r.commandId (·.claimed j.issued now)).row id).map (·.attemptCount)).getD 0 = _
    have hclaimed : (j.update r.commandId (·.claimed j.issued now)).row id =
        (j.row id).map fun r' => if id = r.commandId then r'.claimed j.issued now else r' := row_update fun _ hr => hr
    rw [hclaimed, Journal.attempts]
    by_cases hid : id = r.commandId
    · subst hid
      simp [hrow, claims, JournalRow.claimed]
    · simp [hid, claims, Ne.symm hid]

theorem exec_attempts (hw : j.WF) (op : Call) :
    (exec lib i op j).2.attempts id = j.attempts id + if claims id ⟨op, (exec lib i op j).1⟩ then 1 else 0 := by
  by_cases hop : op.isClaim = true
  · cases op with
    | claim environment now locked =>
      rcases transaction_cases i (claimAuthorized environment now locked) j with ⟨fault, h⟩ | h
      · rw [exec, h]
        rfl
      · rw [exec, h]
        exact claim_attempts hw
    | _ => cases hop
  · have hop' : op.isClaim = false := by simpa using hop
    rw [claims_isClaim hop', (exec_moves lib i op j).attempts (exec_issued op hop')]
    simp

end Attempts

/-! ## Legal logs -/

theorem sound (lib : Library) : (telephony lib).Sound Journal.WF promise.rely where
  keeps i op j hw := (exec_moves lib i op j).wf hw
  answers i op j _ := by
    rintro rfl
    rfl

theorem run_good (lib : Library) (actions : List Step) :
    (telephony lib).Good Journal.WF promise {} (run lib actions) :=
  System.run_good (sound lib) obeys ⟨by simp, by simp, by simp, by simp⟩ actions

section Legal

variable {lib : Library} {jobs : List Job} {log newer older : List LogEntry} {e : LogEntry} {s s₀ : Journal} {c : Claim}

abbrev Legal (lib : Library) (jobs : List Job) (log : List LogEntry) (s : Journal) : Prop :=
  (telephony lib).Legal Journal.WF promise {} jobs log s

/-- Every entry is an execution of its call in a well-formed journal. -/
theorem legal_exec (hl : Legal lib jobs log s) (he : e ∈ log) :
    e.before.WF ∧ ∃ i, exec lib i e.op e.before = (e.reply, e.after) := by
  obtain ⟨newer, older, rfl⟩ := List.append_of_mem he
  exact ⟨(hl.lawful newer e older rfl).inv, (hl.lawful newer e older rfl).exec⟩

theorem legal_moves (hl : Legal lib jobs log s) (he : e ∈ log) : e.before.WF ∧ Moves e.before e.after := by
  obtain ⟨hw, i, hi⟩ := legal_exec hl he
  refine ⟨hw, ?_⟩
  have h := exec_moves lib i e.op e.before
  rwa [hi] at h

theorem legal_attempts (id : Nat) : ∀ {log : List LogEntry} {s : Journal}, Legal lib jobs log s →
    s.attempts id = log.countP fun e => claims id e.toEv
  | [], s, hl => by
    have hs : s = {} := hl.chain
    rw [hs]
    rfl
  | e :: log, s, hl => by
    have hl' : Legal lib jobs ([] ++ e :: log) s := hl
    obtain ⟨hw, i, hi⟩ := legal_exec hl List.mem_cons_self
    have hs : e.after = s := hl.chain.1
    have h : (exec lib i e.op e.before).2.attempts id = _ := exec_attempts hw e.op
    rw [hi] at h
    rw [← hs, List.countP_cons, ← legal_attempts id hl'.split.2]
    exact h

theorem attempts_of_mem (hw : s.WF) {r : JournalRow} (hr : r ∈ s.rows) : s.attempts r.commandId = r.attemptCount := by
  rw [Journal.attempts, hw.row_of_mem hr]
  rfl

theorem budget_left (hw : s.WF) {environment : String} {now : Time} {locked : List Nat} {answer : Option Claim}
    {r : JournalRow} (hb : ClaimsInBudget s ⟨.claim environment now locked, .ok answer⟩)
    (hr : selectClaimable s environment now locked = some r) : r.attemptCount < maxAttempts := by
  obtain ⟨hmem, hcl⟩ := selected_mem hr
  rcases claimable_state hcl with hwait | hsub
  · exact hw.waiting r hmem hwait
  · exact hb r hr hsub

theorem claim_answer {i : Input} {environment : String} {now : Time} {locked : List Nat} {answer : Option Claim}
    {before after : Journal} (h : exec lib i (.claim environment now locked) before = (.ok answer, after)) :
    claimAuthorized environment now locked before = (.ok answer, after) := by
  rcases transaction_cases i (claimAuthorized environment now locked) before with ⟨fault, heq⟩ | heq
  · cases heq.symm.trans h
  · exact heq.symm.trans h

/-- Attempts stay within the budget through an execution exactly when it takes no exhausted row. -/
theorem exec_bounded {i : Input} (hw : e.before.WF) (he : exec lib i e.op e.before = (e.reply, e.after))
    (hbound : ∀ id, e.before.attempts id ≤ maxAttempts) :
    ClaimsInBudget e.before e.toEv ↔ ∀ id, e.after.attempts id ≤ maxAttempts := by
  have hcount : ∀ id, e.after.attempts id = e.before.attempts id + if claims id e.toEv then 1 else 0 := by
    intro id
    have h : (exec lib i e.op e.before).2.attempts id = _ := exec_attempts hw e.op
    rwa [he] at h
  obtain ⟨⟨op, reply⟩, pid, before, after⟩ := e
  dsimp only at hw he hbound hcount ⊢
  by_cases hop : op.isClaim = true
  swap
  · have hop' : op.isClaim = false := by simpa using hop
    have hnone : ∀ id, claims id ⟨op, reply⟩ = false := fun id => claims_isClaim hop'
    constructor
    · intro _ id
      rw [hcount, hnone]
      exact hbound id
    · intro _
      cases op <;> trivial
  cases op <;> try cases hop
  cases reply with
  | error e => exact ⟨fun _ id => by rw [hcount]; exact hbound id, fun _ => trivial⟩
  | ok answer =>
    have hanswer := claim_answer he
    unfold claimAuthorized at hanswer
    constructor
    · intro hb id
      rw [hcount]
      split at hanswer
      · cases hanswer
        exact hbound id
      · rename_i r hr
        cases hanswer
        have hleft := budget_left hw hb hr
        have hat := attempts_of_mem hw (selected_mem hr).1
        by_cases hid : r.commandId = id
        · subst hid
          simp only [claims, beq_self_eq_true, if_true]
          omega
        · have hid' : (r.commandId == id) = false := by simpa using hid
          simp only [claims, hid']
          exact hbound id
    · intro hafter r hr hsub
      rw [hr] at hanswer
      cases hanswer
      have h := hafter r.commandId
      rw [hcount, attempts_of_mem hw (selected_mem hr).1] at h
      simp only [claims, beq_self_eq_true, if_true] at h
      omega

/-- Attempts are bounded in the runs that claim no exhausted row, and only there. -/
theorem bounded_iff (hl : Legal lib jobs log s) : (∀ e ∈ log, ClaimsInBudget e.before e.toEv) ↔
    ∀ e ∈ log, ∀ r ∈ e.after.rows, r.attemptCount ≤ maxAttempts := by
  have hrows : ∀ e ∈ log, (∀ r ∈ e.after.rows, r.attemptCount ≤ maxAttempts) ↔
      ∀ id, e.after.attempts id ≤ maxAttempts := by
    intro e he
    have hw : e.after.WF := (legal_moves hl he).2.wf (legal_moves hl he).1
    constructor
    · intro h id
      unfold Journal.attempts
      cases hrow : e.after.row id with
      | none => exact Nat.zero_le _
      | some r => exact h r (row_mem hrow).1
    · intro h r hr
      rw [← attempts_of_mem hw hr]
      exact h _
  constructor
  · intro hb
    have hstays := System.Chain.stays (P := fun j : Journal => ∀ id, j.attempts id ≤ maxAttempts) hl.chain
      (fun id => Nat.zero_le _) fun e he hbound => by
        obtain ⟨hw, i, hi⟩ := legal_exec hl he
        exact (exec_bounded hw hi hbound).1 (hb e he)
    exact fun e he => (hrows e he).2 (hstays.2 e he).2
  · intro hafter
    have hstays := System.Chain.stays (P := fun j : Journal => ∀ id, j.attempts id ≤ maxAttempts) hl.chain
      (fun id => Nat.zero_le _) fun e he _ => (hrows e he).1 (hafter e he)
    intro e he
    obtain ⟨hw, i, hi⟩ := legal_exec hl he
    exact (exec_bounded hw hi (hstays.2 e he).1).2 (hstays.2 e he).2

end Legal

/-! ## Closing calls -/

section Closing

variable {lib : Library} {i : Input} {before after : Journal} {c : Claim}

theorem transaction_ran {α : Type} {tx : Journal → Except Raised α × Journal} {reply : Except Raised α}
    (h : i.transaction tx before = (reply, after)) (hf : ¬faulted reply) : tx before = (reply, after) := by
  rcases transaction_cases i tx before with ⟨fault, heq⟩ | heq
  · cases heq.symm.trans h
    cases fault <;> exact absurd (by simp [faulted, Fault.raised]) hf
  · exact heq.symm.trans h

theorem load_answers {now : Time} {reply : Except Raised Loaded} (hw : before.WF) (hh : Holds before c)
    (hd : Dispatchable lib now before c.commandId) (hf : ¬faulted reply)
    (h : exec lib i (.load c now) before = (reply, after)) : reply.isOk = true := by
  obtain ⟨r, hrow, -⟩ := hw.row_of_holds hh
  obtain ⟨command, hvalid, hsource⟩ := hd r hrow
  have hload := congrArg Prod.fst (transaction_ran h hf)
  simp only [loadClaimed, hrow, hvalid] at hload
  rw [← hload]
  cases hop : before.operation c.commandId with
  | some existing => rfl
  | none =>
    rw [hop] at hsource
    cases hid : command.policyDecisionId with
    | none => simp [hid] at hsource
    | some id => rfl

theorem not_holds_written {f : JournalRow → JournalRow} {r : JournalRow} (hw : before.WF)
    (hrow : before.row c.commandId = some r) (hafter : after.rows = (before.update c.commandId f).rows)
    (hf : (f r).heldBy c.owner = false) : ¬Holds after c := by
  rintro ⟨r', hr', hid', hheld⟩
  rw [hafter] at hr'
  rcases mem_update hr' with ⟨-, hne⟩ | ⟨r₀, hr₀, hid₀, rfl⟩
  · exact hne hid'
  · rw [hw.unique hrow hr₀ hid₀, hf] at hheld
    cases hheld

theorem recordFailure_releases {exc : Raised} {reply : Except Raised Unit} (hw : before.WF) (hf : ¬faulted reply)
    (h : exec lib i (.recordFailure c exc) before = (reply, after)) : ¬Holds after c := by
  have hrun := transaction_ran h hf
  intro hh
  unfold recordFailure at hrun
  split at hrun
  · rename_i r hrow
    split at hrun
    · cases hrun
      have hfree : (r.failed exc i.now).heldBy c.owner = false := by
        simp [JournalRow.heldBy, JournalRow.failed]
      exact not_holds_written hw hrow rfl hfree hh
    · rename_i hheld
      cases hrun
      obtain ⟨r', hrow', hheld'⟩ := hw.row_of_holds hh
      cases hrow.symm.trans hrow'
      exact hheld hheld'
  · rename_i hrow
    cases hrun
    obtain ⟨r', hrow', -⟩ := hw.row_of_holds hh
    cases hrow.symm.trans hrow'

theorem finalize_releases {matched : Bool} {readback : Obj} {reply : Except Raised Unit} (hw : before.WF)
    (hh : Holds before c) (ho : (before.operation c.commandId).isSome = true) (hf : ¬faulted reply)
    (hkeys : ∀ key ∈ ["actual_hash", "readback_matches", "actual"], (readback.lookup key).isSome = true)
    (h : exec lib i (.finalize c matched readback) before = (reply, after)) : ¬Holds after c := by
  have hrun := transaction_ran h hf
  obtain ⟨r, hrow, hheld⟩ := hw.row_of_holds hh
  obtain ⟨o, ho⟩ := Option.isSome_iff_exists.1 ho
  have hread : ∀ key ∈ ["actual_hash", "readback_matches", "actual"], ∃ v, member readback key = .ok v := by
    intro key hkey
    obtain ⟨v, hv⟩ := Option.isSome_iff_exists.1 (hkeys key hkey)
    exact ⟨v, by simp [member, hv]⟩
  obtain ⟨actualHash, h₁⟩ := hread "actual_hash" (by simp)
  obtain ⟨readbackMatches, h₂⟩ := hread "readback_matches" (by simp)
  obtain ⟨actual, h₃⟩ := hread "actual" (by simp)
  simp only [finalize, hrow, ho, hheld, Bool.not_true, Bool.false_eq_true, if_false, OperationRow.finalized, h₁, h₂, h₃,
    bind, Except.bind, pure, Except.pure] at hrun
  cases hrun
  have hfree : (r.finalized (readbackState matched) i.now).heldBy c.owner = false := by
    simp [JournalRow.heldBy, JournalRow.finalized]
  exact not_holds_written hw hrow rfl hfree

/-- After a closing call of an orderly run the row is past the claim. -/
theorem closing_past {v : Answered} (hw : before.WF) (hs : Since before c) (hv : Closing c v)
    (hok : Orderly lib before v) (ho : ∀ matched d, v.op = .finalize c matched d →
      (before.operation c.commandId).isSome = true) (h : exec lib i v.op before = (v.reply, after)) : Past after c := by
  have hmove : Moves before after := by
    have hm := exec_moves lib i v.op before
    rwa [h] at hm
  by_cases hh : Holds before c
  swap
  · exact hmove.past hw (hs.past hh)
  have hrelease : ¬Holds after c → Past after c := (hmove.since hw hs).past
  obtain ⟨op, reply⟩ := v
  cases op with
  | now | locks | claim environment now locked | beat c' | insert commandId environment requestJson allowed now => cases hv
  | load c' now =>
    cases reply with
    | ok loaded => cases hv
    | error e =>
      cases (hv : c' = c)
      cases load_answers hw hh (hok hh).1 (hok hh).2 h
  | clientFactory c' =>
    cases reply with
    | ok _ => cases hv
    | error e =>
      cases (hv : c' = c)
      cases hok hh
  | dispatch c' command =>
    cases reply with
    | ok _ => cases hv
    | error e =>
      obtain ⟨rfl, he⟩ := hv
      exact absurd he (hok hh)
  | persist c' command operation =>
    cases reply with
    | ok _ => cases hv
    | error e =>
      obtain ⟨rfl, he⟩ := hv
      exact absurd he (hok hh)
  | readback c' command operation =>
    cases reply with
    | ok d =>
      obtain ⟨rfl, hd⟩ := hv
      have hsome := (hok hh).2 d rfl
      rw [hd] at hsome
      cases hsome
    | error e =>
      obtain ⟨rfl, he⟩ := hv
      exact absurd he (hok hh).1
  | recordFailure c' exc =>
    have hc : c' = c := by cases reply <;> exact hv
    subst hc
    exact hrelease (recordFailure_releases hw (hok hh) h)
  | cleanup c' =>
    cases reply with
    | ok _ => cases hv
    | error e =>
      cases (hv : c' = c)
      cases hok hh
  | finalize c' matched readback =>
    have hc : c' = c := by cases reply <;> exact hv
    subst hc
    exact hrelease (finalize_releases hw hh (ho _ _ rfl) (hok hh).1 (hok hh).2 h)

end Closing

/-! ## Every run -/

section Runs

variable {lib : Library} {jobs : List Job} {log newer older : List LogEntry} {e : LogEntry} {s : Journal} {c : Claim}

/-- What a move keeps holds all along a legal log from an entry on. -/
theorem kept_since {P : Journal → Prop} (hP : ∀ {j j' : Journal}, j.WF → Moves j j' → P j → P j')
    (hl : Legal lib jobs (newer ++ e :: older) s) (h : P e.after) : P s :=
  (System.Chain.stays (System.Chain.split hl.chain).1 h fun _ he' hb =>
    have hm := legal_moves hl (List.mem_append_left _ he')
    hP hm.1 hm.2 hb).1

/-- What an executed call of a process established, and every move keeps, holds at the end. -/
theorem established {P : Journal → Prop} (hP : ∀ {j j' : Journal}, j.WF → Moves j j' → P j → P j')
    (hl : Legal lib jobs log s) {pid : Nat} {v : Answered} (hv : v ∈ hist log pid)
    (h : ∀ i before after, exec lib i v.op before = (v.reply, after) → P after) : P s := by
  obtain ⟨newer, e, older, rfl, -, rfl, -⟩ := hl.of_hist hv
  obtain ⟨-, i, hi⟩ := legal_exec hl (e := e) (by simp)
  exact kept_since hP hl (h i e.before e.after hi)

/-- The answer of a claim is the number of the lease the row got. -/
theorem claimed_since (hl : Legal lib jobs log s) {pid : Nat} (hc : Claimed (hist log pid) c) : Since s c := by
  obtain ⟨environment, now, locked, hv⟩ := hc
  refine established Moves.since hl hv fun i before after hi => ?_
  have hanswer := claim_answer hi
  unfold claimAuthorized at hanswer
  split at hanswer
  · cases hanswer
  · cases hanswer
    refine ⟨Nat.lt_succ_self _, fun r' hr' hid hsub => ?_⟩
    rcases mem_update hr' with ⟨-, hne⟩ | ⟨r₀, hr₀, hid₀, rfl⟩
    · exact absurd hid hne
    · exact ⟨_, rfl, Nat.le_refl _⟩

theorem submittedOperation_id {id : Nat} {command : TelephonyCommandRequest} {operation : Obj} {o : OperationRow}
    (h : submittedOperation id command operation = .ok o) : o.commandId = id := by
  simp only [submittedOperation, bind, Except.bind, pure, Except.pure] at h
  repeat' split at h
  all_goals cases h
  all_goals rfl

/-- A process that found or persisted an operation of its command leaves it in the journal. -/
theorem submitted_operation (hl : Legal lib jobs log s) {pid : Nat} (hs : Submitted (hist log pid) c) :
    (s.operation c.commandId).isSome = true := by
  have hkeep : ∀ {j j' : Journal}, j.WF → Moves j j' → (j.operation c.commandId).isSome = true →
      (j'.operation c.commandId).isSome = true := fun _ hm ho => hm.operation ho
  rcases hs with ⟨now, loaded, hv, hop⟩ | ⟨command, operation, hv⟩
  · refine established hkeep hl hv fun i before after hi => ?_
    obtain ⟨hload, rfl⟩ := Prod.mk.inj (transaction_ran hi id)
    unfold loadClaimed at hload
    repeat' split at hload
    all_goals cases hload
    · rename_i existing hex
      rw [hex]
      rfl
    · cases hop
  · refine established hkeep hl hv fun i before after hi => ?_
    have hrun := transaction_ran hi id
    unfold persistSubmission at hrun
    split at hrun
    · cases hrun
    split at hrun
    · cases hrun
    split at hrun
    · cases hrun
    split at hrun
    · split at hrun
      · cases hrun
      · rename_i o ho
        cases hrun
        simp [Journal.operation, List.find?_append, submittedOperation_id ho]
    · split at hrun
      · cases hrun
      · rename_i existing hex hpub
        cases hrun
        have hex' : (before.operation c.commandId).isSome = true := by rw [hex]; rfl
        exact hex'

theorem Closing.claimOf {v : Answered} (h : Closing c v) : v.op.claimOf = some c := by
  obtain ⟨op, reply⟩ := v
  cases op <;> cases reply <;> simp_all [Closing, Call.claimOf]

theorem ended_past (actions : List Step) (orderly : ∀ e ∈ (run lib actions).log, Orderly lib e.before e.toEv)
    {pid : Nat} {p : Proc Call.Answer Raised Unit Job} (hp : (run lib actions).procs[pid]? = some p)
    (hover : p.prog.running = false) (hc : Claimed (hist (run lib actions).log pid) c) :
    Past (run lib actions).shared c := by
  have hgood := run_good lib actions
  have hdone : ∀ c, Claimed (hist (run lib actions).log pid) c → Closed (hist (run lib actions).log pid) c := by
    have hob := (hgood.procs pid p hp).1
    cases hprog : p.prog with
    | pure a => rw [hprog] at hob; exact hob
    | throw e => rw [hprog] at hob; exact hob
    | call op k =>
      rw [hprog] at hover
      cases hover
  obtain ⟨v, hv, hcl⟩ := hdone c hc
  have hl := hgood.legal
  obtain ⟨newer, e, older, hlog, rfl, rfl, -⟩ := hl.of_hist hv
  rw [hlog] at hl
  obtain ⟨hlaw, hlegal⟩ := hl.split
  obtain ⟨j, -, hclaimed, hsubmitted⟩ := hlaw.job
  obtain ⟨i, hi⟩ := hlaw.exec
  refine kept_since Moves.past hl ?_
  refine closing_past hlaw.inv (claimed_since hlegal (hclaimed c hcl.claimOf)) hcl ?_ ?_ hi
  · exact orderly e (by rw [hlog]; simp)
  · intro matched d hop
    exact submitted_operation hlegal (hsubmitted c matched d hop)

/-- In every run of workers, heartbeats and arriving commands: attempts stay within the budget, in the journal and in
the number of claims of each command, exactly when no answered claim takes a row whose lease ran out with its attempts
used up; and when every step is orderly, a `dispatch_one` that claimed a row and returned or raised leaves it out of
submission unless a later claim has it. -/
theorem poison_ends (lib : Library) (actions : List Step) :
    ((∀ e ∈ (run lib actions).log, ClaimsInBudget e.before e.toEv) ↔
      ∀ e ∈ (run lib actions).log, ∀ r ∈ e.after.rows, r.attemptCount ≤ maxAttempts) ∧
    (∀ r ∈ (run lib actions).shared.rows,
      r.attemptCount = (run lib actions).log.countP fun e => claims r.commandId e.toEv) ∧
    ((∀ e ∈ (run lib actions).log, Orderly lib e.before e.toEv) →
      ∀ pid p c, (run lib actions).procs[pid]? = some p → p.prog.running = false →
        Claimed (hist (run lib actions).log pid) c →
        ∀ r ∈ (run lib actions).shared.rows, r.commandId = c.commandId → r.state = .submitting →
          ∃ owner, r.leaseOwner = some owner ∧ c.owner < owner) := by
  have hl := (run_good lib actions).legal
  refine ⟨bounded_iff hl, ?_, ?_⟩
  · intro r hr
    rw [← legal_attempts r.commandId hl]
    exact (attempts_of_mem hl.inv hr).symm
  · intro orderly pid p c hp hover hc
    exact (ended_past actions orderly hp hover hc).2

end Runs

/-! ## An expired command -/

namespace Expired

def command : TelephonyCommandRequest :=
  { commandType := .userApply, aggregatePublicId := "AGT-0001", environment := "staging",
    businessUnitPublicId := "BU-0001", campaignPublicId := "CMP-0001", correlationId := "corr-0001",
    policyDecisionId := some "5a1c7d0f-0000-4000-8000-000000000001", policyDecisionHash := "0",
    requestedAt := some ⟨0, true⟩, expiresAt := some ⟨60, true⟩,
    payload := { agentPublicId := some "AGT-0001", desiredStateVersion := 1 } }

/-- The stored request is the dump of the command. -/
def library : Library := { readFields := fun _ => .ok command, fromisoformat := fun _ => none }

/-- A worker that claims and loads at `now`, with nothing failing outside. -/
def worker (pid : Nat) (now : Time) : List Step :=
  [.spawn (.dispatchOne "staging") { now := now }, .resume pid { now := now }, .resume pid { now := now }]

/-- The command is stored at 0 and expires at 60; the first worker comes at 100, and another one each time the lease
has run out. -/
def actions (workers : Nat) : List Step :=
  ([.spawn (.create 1 "staging" .null true 0) { now := 0 }, .resume 0 { now := 0 }] : List Step) ++
    (List.range workers).flatMap fun n => worker (n + 1) (100 + 120 * n)

end Expired

/-- A worker that claims an expired command raises and leaves it in submission under its lease; the command is claimed
again whenever the lease has run out, a ninth time too. -/
theorem expired_command_loops :
    ((run Expired.library (Expired.actions 1)).shared.rows.map fun r => (r.state, r.attemptCount, r.leaseOwner)) =
      [(.submitting, 1, some 0)] ∧
    ((run Expired.library (Expired.actions 1)).procs.map fun p => (p.prog.running, p.alive)) =
      [(false, true), (false, true)] ∧
    ((run Expired.library (Expired.actions 1)).log.map fun e => claims 1 e.toEv) =
      [false, false, true, false, false, false] ∧
    ((run Expired.library (Expired.actions 9)).shared.rows.map fun r => (r.state, r.attemptCount, r.leaseOwner)) =
      [(.submitting, 9, some 8)] ∧
    maxAttempts = 8 := by
  decide +kernel

end Middleware.Telephony

/-
What a coroutine's own calls tell about it. `track` reads the history of a process (newest call first)
into a few registers: the row it claimed, the operation it read last, whether it opened an attempt, the
attempt number it holds, whether and how its execution ended, the last read-back it got, and whether it
last saw its command over. The guarantees of the bus and of the reconciler are stated over these
registers, and the lemmas below say which call of the history filled each of them.
-/
import Middleware.Platform.Changes

namespace Middleware.Platform

open Ledger Lib

/-- The reason the dispatcher writes when it takes a persisted command. -/
def claimedReason : String := "claimed by execution bus"

/-- The reason the dispatcher writes when it queues a failed command again. -/
def retryReason : String := "scheduled for a known-safe retry"

/-- Whether an error class lets the bus retry on its own. -/
def ErrorClass.retryable : ErrorClass → Bool
  | .retryableBeforeEffect | .providerRateLimited => true
  | _ => false

/-! ## What one answered call means -/

/-- The row a claim was given, with the key of its command. -/
def claims : Answered → Option (Nat × Key)
  | ⟨.busClaim _, .ok (some record)⟩ => some (record.id, (record.tenantId, record.payload.commandId))
  | ⟨.sourceClaim _ _, .ok (some claim)⟩ => some (claim.outboxId, (claim.tenantId, claim.commandId))
  | _ => none

def reads : Answered → Option CommandOperation
  | ⟨.get _ _, .ok o⟩ => some o
  | _ => none

/-- The state a successful transition led to. -/
def moves : Answered → Option CommandState
  | ⟨.transition t, .ok _⟩ => some t.newState
  | _ => none

def opens (v : Answered) : Bool := decide (moves v = some .dispatching)

def requeues (v : Answered) : Bool := decide (moves v = some .queued)

/-- The attempt number a call answered. -/
def tokenOf : Answered → Option Nat
  | ⟨.latestAttempt _ _, .ok n⟩ => some n
  | _ => none

def executes : Answered → Bool
  | ⟨.execute _ _ _, .ok _⟩ => true
  | _ => false

/-- How a call ended an attempt: whether the bus may retry on its own. -/
def endsAttempt : Answered → Option Bool
  | ⟨.acquire _, .error (.bulkheadFull _)⟩ => some true
  | ⟨.executed _ _, .ok r⟩ => some (decide (r.outcome = .transient))
  | ⟨.executed _ _, .error (.bulkheadFull _)⟩ => some true
  | ⟨.executed _ _, .error .timeout⟩ => some false
  | ⟨.classifyError _ _, .ok klass⟩ => some klass.retryable
  | _ => none

def readsBack : Answered → Option (String × ReadbackResult)
  | ⟨.readback adapterId _ _, .ok rb⟩ => some (adapterId, rb)
  | ⟨.reconcileHook adapterId _ _, .ok rb⟩ => some (adapterId, rb)
  | _ => none

/-- The verdict a call recorded. -/
def judges : Answered → Option Bool
  | ⟨.reconcile r, .ok _⟩ => some r.matched
  | _ => none

/-- Whether a call shows its command over; most calls show nothing about it. -/
def shows : Answered → Option Bool
  | ⟨.get _ _, .ok o⟩ => some o.state.terminal
  | ⟨.get _ _, .error _⟩ => some true
  | ⟨.transition t, .ok _⟩ => some t.newState.terminal
  | ⟨.reconcile r, .ok _⟩ => some r.matched
  | _ => none

def settles : Answered → Bool
  | ⟨.busSettle _ _ _, _⟩ => true
  | ⟨.sourceResolve _ _ _ _, _⟩ => true
  | _ => false

/-! ## The registers -/

structure Track where
  row : Option (Nat × Key) := none
  read : Option CommandOperation := none
  opened : Bool := false
  token : Option Nat := none
  executed : Bool := false
  ending : Option Bool := none
  answer : Option (String × ReadbackResult) := none
  verdicts : Nat := 0
  requeued : Bool := false
  concluded : Bool := false
  settled : Bool := false

/-- Update the registers with an answered call. Reading the operation starts the count of verdicts,
opening an attempt drops the number held, a new number drops the last read-back, and queueing the command again
leaves its row to be settled. -/
def Track.next (T : Track) (v : Answered) : Track where
  row := (claims v).or T.row
  read := (reads v).or T.read
  opened := opens v || T.opened
  token := if opens v then none else (tokenOf v).or T.token
  executed := executes v || T.executed
  ending := (endsAttempt v).or T.ending
  answer := if (tokenOf v).isSome then none else (readsBack v).or T.answer
  verdicts := if (reads v).isSome then 0 else if (judges v).isSome then T.verdicts + 1 else T.verdicts
  requeued := requeues v || T.requeued
  concluded := (shows v).getD T.concluded
  settled := settles v || (!requeues v && T.settled)

def track (h : List Answered) : Track := h.foldr (fun v T => T.next v) {}

@[simp] theorem track_cons (v : Answered) (h : List Answered) : track (v :: h) = (track h).next v := rfl

/-! ## Which call filled a register -/

theorem track_read : ∀ h : List Answered, (track h).read = h.findSome? reads
  | [] => rfl
  | v :: h => by
    rw [track_cons, List.findSome?_cons, ← track_read h]
    cases hv : reads v <;> simp [Track.next, hv]

theorem track_ending : ∀ h : List Answered, (track h).ending = h.findSome? endsAttempt
  | [] => rfl
  | v :: h => by
    rw [track_cons, List.findSome?_cons, ← track_ending h]
    cases hv : endsAttempt v <;> simp [Track.next, hv]

theorem track_opened : ∀ h : List Answered, (track h).opened = h.any opens
  | [] => rfl
  | v :: h => by rw [track_cons, List.any_cons, ← track_opened h]; rfl

theorem track_executed : ∀ h : List Answered, (track h).executed = h.any executes
  | [] => rfl
  | v :: h => by rw [track_cons, List.any_cons, ← track_executed h]; rfl

theorem track_requeued : ∀ h : List Answered, (track h).requeued = h.any requeues
  | [] => rfl
  | v :: h => by rw [track_cons, List.any_cons, ← track_requeued h]; rfl

variable {v : Answered}

theorem judges_eq (h : (judges v).isSome = true) : ∃ r o, v = ⟨.reconcile r, .ok o⟩ := by
  obtain ⟨c, reply⟩ := v
  cases c with
  | reconcile r =>
    cases reply with
    | ok o => exact ⟨r, o, rfl⟩
    | error => cases h
  | _ => cases h

theorem tokenOf_eq {n : Nat} (h : tokenOf v = some n) :
    ∃ tenantId commandId, v = ⟨.latestAttempt tenantId commandId, .ok n⟩ := by
  obtain ⟨c, reply⟩ := v
  cases c with
  | latestAttempt tenantId commandId =>
    cases reply with
    | ok m => cases h; exact ⟨tenantId, commandId, rfl⟩
    | error => cases h
  | _ => cases h

theorem reads_eq {o : CommandOperation} (h : reads v = some o) :
    ∃ tenantId commandId, v = ⟨.get tenantId commandId, .ok o⟩ := by
  obtain ⟨c, reply⟩ := v
  cases c with
  | get tenantId commandId =>
    cases reply with
    | ok m => cases h; exact ⟨tenantId, commandId, rfl⟩
    | error => cases h
  | _ => cases h

/-- The number held was answered after the last step to `dispatching`. -/
theorem token_split {n : Nat} : ∀ {h : List Answered}, (track h).token = some n →
    ∃ h₁ v h₂, h = h₁ ++ v :: h₂ ∧ tokenOf v = some n ∧ ∀ u ∈ h₁, opens u = false
  | [], ht => by cases ht
  | v :: h, ht => by
    rw [track_cons] at ht
    simp only [Track.next] at ht
    split at ht
    · cases ht
    · rename_i ho
      cases hv : tokenOf v with
      | some m =>
        rw [hv] at ht
        exact ⟨[], v, h, rfl, hv.trans ht, by simp⟩
      | none =>
        rw [hv] at ht
        obtain ⟨h₁, u, h₂, rfl, hu, hall⟩ := token_split ht
        refine ⟨v :: h₁, u, h₂, rfl, hu, fun w hw => ?_⟩
        rcases List.mem_cons.1 hw with rfl | hw
        · simpa using ho
        · exact hall w hw

variable {a : String × ReadbackResult}

theorem answer_mem : ∀ {h : List Answered}, (track h).answer = some a →
    ∃ v ∈ h, readsBack v = some a
  | [], ha => by cases ha
  | v :: h, ha => by
    rw [track_cons] at ha
    simp only [Track.next] at ha
    split at ha
    · cases ha
    · cases hr : readsBack v with
      | some b =>
        rw [hr] at ha
        exact ⟨v, List.mem_cons_self, hr.trans ha⟩
      | none =>
        rw [hr] at ha
        obtain ⟨u, hu, hua⟩ := answer_mem ha
        exact ⟨u, List.mem_cons_of_mem _ hu, hua⟩

/-- The read-back held was answered after the number held. -/
theorem answer_split {n : Nat} : ∀ {h : List Answered}, (track h).answer = some a →
    (track h).token = some n →
    ∃ h₁ v h₂, h = h₁ ++ v :: h₂ ∧ readsBack v = some a ∧ (track h₂).token = some n
  | [], ha, _ => by cases ha
  | v :: h, ha, ht => by
    rw [track_cons] at ha ht
    simp only [Track.next] at ha ht
    cases hv : tokenOf v with
    | some m => simp [hv] at ha
    | none =>
      have ht : (track h).token = some n := by
        split at ht
        · cases ht
        · simpa [hv] using ht
      simp only [hv, Option.isSome_none, Bool.false_eq_true, if_false] at ha
      cases hr : readsBack v with
      | some b =>
        rw [hr] at ha
        exact ⟨[], v, h, rfl, hr.trans ha, ht⟩
      | none =>
        rw [hr] at ha
        obtain ⟨h₁, u, h₂, rfl, hu, htok⟩ := answer_split ha ht
        exact ⟨v :: h₁, u, h₂, rfl, hu, htok⟩

end Middleware.Platform

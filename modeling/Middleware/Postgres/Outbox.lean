/-
The durable outbox: the statements `OutboxWorker.run_once` (`app/worker.py`) issues against
`PostgresOutboxStore` (`app/storage.py`), and how it settles a claimed row compared with
`MemoryExecutionBus.run_once`.

A row of `middleware_outbox` has the columns of the in-memory intent and a fencing token; the table is listed in
the order of the ids. A statement that raises is rolled back. The attempt events and the reconciliation audit
are left out: nothing here reads them. What the handler does is input: how it ended and whether the
deadline was crossed first.
-/
import Middleware.Platform.Bus

namespace Middleware.Platform

open Ledger

/-- A row of `middleware_outbox`. -/
structure OutboxRow extends MemoryOutboxIntent where
  fencingToken : Nat := 0

abbrev OutboxTable := List OutboxRow

/-- `str.isspace()` of one character. -/
def isSpace (c : Char) : Bool :=
  let n := c.toNat
  (9 ≤ n && n ≤ 13) || (28 ≤ n && n ≤ 32) || n == 133 || n == 160 || n == 5760 || (8192 ≤ n && n ≤ 8202) ||
    n == 8232 || n == 8233 || n == 8239 || n == 8287 || n == 12288

/-- `str.strip()`. -/
def strip (s : String) : String :=
  String.ofList ((s.toList.dropWhile isSpace).reverse.dropWhile isSpace).reverse

def storageError (message : String) : Exc := .other "StorageError" message

def reconciliationError (message : String) : Exc := .other "ReconciliationError" message

namespace PostgresOutboxStore

/-- `UPDATE middleware_outbox ... WHERE id=$1`. -/
def update (id : Nat) (f : OutboxRow → OutboxRow) (t : OutboxTable) : OutboxTable :=
  t.map fun r => if r.id = id then f r else r

/-- `SELECT ... WHERE id=$1`. -/
def row (id : Nat) (t : OutboxTable) : Option OutboxRow := t.find? (·.id = id)

/-- `$1::bigint IS NULL OR fencing_token=$1`. -/
def tokenMatches (fencingToken : Option Nat) (r : OutboxRow) : Bool := fencingToken.all (· == r.fencingToken)

/-- `lease_until IS NOT NULL AND lease_until > now()`. -/
def leaseActive (now : Time) (r : OutboxRow) : Bool := r.leaseUntil.any fun t => decide (now < t)

/-! ## Claim -/

def exhausted (maxAttempts : Nat) (now : Time) (r : OutboxRow) : Bool :=
  r.isOpen && r.reconciliationRequiredAt.isNone && decide (maxAttempts ≤ r.attemptCount) &&
    leaseFree now r.toMemoryOutboxIntent

/-- Rows whose attempts ran out while they were leased are dead-lettered first. -/
def sweep (maxAttempts : Nat) (now : Time) (t : OutboxTable) : OutboxTable :=
  t.map fun r =>
    if exhausted maxAttempts now r then
      { r with
        deadLetteredAt := some now, leaseOwner := none, leaseUntil := none
        lastError := some (r.lastError.getD "maximum attempts exhausted after worker lease expiry") }
    else r

def claimable (maxAttempts : Nat) (now : Time) (r : OutboxRow) : Bool :=
  r.isOpen && r.reconciliationRequiredAt.isNone && decide (r.attemptCount < maxAttempts) &&
    decide (r.nextAttemptAt ≤ now) && leaseFree now r.toMemoryOutboxIntent

def claimRow (workerId : String) (leaseSeconds now : Time) (r : OutboxRow) : OutboxRow :=
  { r with
    leaseOwner := some workerId, leaseUntil := some (now + leaseSeconds)
    attemptCount := r.attemptCount + 1, fencingToken := r.fencingToken + 1 }

def claim (workerId : String) (leaseSeconds : Time) (maxAttempts : Nat) (now : Time) (t : OutboxTable) :
    Except Exc (Option OutboxRow × OutboxTable) :=
  if leaseSeconds ≤ 0 then .error (.valueError "lease_seconds must be positive")
  else if maxAttempts < 1 then .error (.valueError "max_attempts must be positive")
  else
    let t := sweep maxAttempts now t
    match t.find? (claimable maxAttempts now) with
    | none => .ok (none, t)
    | some r => .ok (some (claimRow workerId leaseSeconds now r), update r.id (claimRow workerId leaseSeconds now) t)

def complete (id : Nat) (workerId : String) (fencingToken : Option Nat) (now : Time) (t : OutboxTable) :
    Except Exc OutboxTable :=
  match row id t with
  | none => .error (storageError "outbox lease ownership lost before completion")
  | some r =>
    if r.leaseOwner = some workerId ∧ tokenMatches fencingToken r ∧ r.reconciliationRequiredAt.isNone then
      .ok (update id (fun r =>
        { r with completedAt := some now, leaseOwner := none, leaseUntil := none, lastError := none }) t)
    else .error (storageError "outbox lease ownership lost before completion")

/-! ## Quarantine and renewal -/

def quarantineUnknownOutcome (id : Nat) (workerId error : String) (leaseSeconds : Time) (fencingToken : Option Nat)
    (now : Time) (t : OutboxTable) : Except Exc OutboxTable :=
  if leaseSeconds ≤ 0 then .error (.valueError "lease_seconds must be positive")
  else
    match row id t with
    | none => .error (storageError "outbox lease ownership/fencing lost before reconciliation quarantine")
    | some r =>
      if r.leaseOwner = some workerId ∧ tokenMatches fencingToken r ∧ leaseActive now r ∧ r.completedAt.isNone ∧
          r.deadLetteredAt.isNone ∧ r.reconciliationRequiredAt.isNone then
        .ok (update id (fun r =>
          { r with
            lastError := some (clip 2048 error), reconciliationRequiredAt := some now
            leaseUntil := some (now + leaseSeconds) }) t)
      else .error (storageError "outbox lease ownership/fencing lost before reconciliation quarantine")

def renewActiveDispatch (id : Nat) (workerId : String) (leaseSeconds : Time) (fencingToken : Option Nat) (now : Time)
    (t : OutboxTable) : Except Exc OutboxTable :=
  if leaseSeconds ≤ 0 then .error (.valueError "lease_seconds must be positive")
  else
    match row id t with
    | none => .error (storageError "active dispatch ownership/fencing lost during lease renewal")
    | some r =>
      if r.leaseOwner = some workerId ∧ tokenMatches fencingToken r ∧ r.reconciliationRequiredAt.isSome ∧
          r.completedAt.isNone ∧ r.deadLetteredAt.isNone then
        .ok (update id (fun r => { r with leaseUntil := some (now + leaseSeconds) }) t)
      else .error (storageError "active dispatch ownership/fencing lost during lease renewal")

/-! ## Resolution -/

def resolveRow (action : Resolution) (reason : String) (now : Time) (r : OutboxRow) : OutboxRow :=
  let r := { r with reconciliationRequiredAt := none, leaseOwner := none, leaseUntil := none }
  match action with
  | .retry => { r with nextAttemptAt := now, lastError := some ("reconciliation approved retry: " ++ reason) }
  | .complete => { r with completedAt := some now, lastError := some ("reconciliation confirmed delivery: " ++ reason) }
  | .deadLetter => { r with deadLetteredAt := some now, lastError := some ("reconciliation dead-lettered: " ++ reason) }

/-- Who may resolve a row: its worker while the lease is active, an operator afterwards. -/
def ownershipError (action : Resolution) (worker : Option String) (fencingToken : Option Nat) (now : Time)
    (r : OutboxRow) : Option Exc :=
  if leaseActive now r then
    match worker with
    | none => some (reconciliationError "active dispatch cannot be manually reconciled before lease expiry")
    | some workerId =>
      if r.leaseOwner ≠ some workerId then some (reconciliationError "active dispatch is owned by another worker")
      else if !tokenMatches fencingToken r then some (reconciliationError "active dispatch fencing token is stale")
      else if action = .deadLetter then
        some (reconciliationError "active worker may resolve only complete or known-safe retry")
      else none
  else if worker.isSome then
    some (reconciliationError "worker dispatch lease expired; manual reconciliation is required")
  else none

def resolveReconciliation (id : Nat) (operatorId : String) (action : Resolution) (reason : String) (maxAttempts : Nat)
    (workerId : Option String) (fencingToken : Option Nat) (now : Time) (t : OutboxTable) :
    Except Exc OutboxTable :=
  if maxAttempts < 1 then .error (.valueError "max_attempts must be positive")
  else if (strip operatorId).isEmpty ∨ 160 < (strip operatorId).length then
    .error (.valueError "operator_id must contain 1..160 characters")
  else if (strip reason).isEmpty ∨ 2048 < (strip reason).length then
    .error (.valueError "reason must contain 1..2048 characters")
  else if workerId.any fun w => (strip w).isEmpty || decide (256 < (strip w).length) then
    .error (.valueError "worker_id must contain 1..256 characters")
  else
    match row id t with
    | none => .error (reconciliationError "outbox record does not exist")
    | some r =>
      if r.completedAt.isSome ∨ r.deadLetteredAt.isSome then
        .error (reconciliationError "outbox record is already terminal")
      else if r.reconciliationRequiredAt.isNone then
        .error (reconciliationError "outbox record is not awaiting reconciliation")
      else
        match ownershipError action (workerId.map strip) fencingToken now r with
        | some e => .error e
        | none =>
          if action = .retry ∧ maxAttempts ≤ r.attemptCount then
            .error (reconciliationError "attempt limit is exhausted; choose complete or dead_letter")
          else .ok (update id (resolveRow action (strip reason) now) t)

/-- `fail`: the row of a dispatch that was never handed to provider code. -/
def fail (id : Nat) (workerId error : String) (maxAttempts : Nat) (fencingToken : Option Nat) (now : Time)
    (t : OutboxTable) : Except Exc OutboxTable :=
  if maxAttempts < 1 then .error (.valueError "max_attempts must be positive")
  else
    match row id t with
    | none => .error (storageError "outbox lease ownership/fencing lost before retry transition")
    | some r =>
      if r.leaseOwner = some workerId ∧ tokenMatches fencingToken r ∧ r.reconciliationRequiredAt.isNone then
        .ok (update id (fun r =>
          { r with
            lastError := some (clip 2048 error), leaseOwner := none, leaseUntil := none
            deadLetteredAt := if maxAttempts ≤ r.attemptCount then some now else none
            nextAttemptAt :=
              if maxAttempts ≤ r.attemptCount then r.nextAttemptAt else now + backoff r.attemptCount }) t)
      else .error (storageError "outbox lease ownership/fencing lost before retry transition")

end PostgresOutboxStore

open PostgresOutboxStore

/-! ## The worker -/

/-- The parameters of an `OutboxWorker`, with what its constructor checks. -/
structure OutboxWorker where
  workerId : String
  destinations : List String
  leaseSeconds : Time := 60
  handlerTimeoutSeconds : Time := 45
  maxAttempts : Nat := 8
  leasePositive : 0 < leaseSeconds
  timeoutBelowLease : 0 < handlerTimeoutSeconds ∧ handlerTimeoutSeconds < leaseSeconds
  maxPositive : 1 ≤ maxAttempts

/-- What one pass meets: when its statements run, the gate's decision, how the handler ended, and whether
the deadline was crossed before that. -/
structure Pass where
  claimAt : Time
  quarantineAt : Time
  renewals : List Time := []
  settleAt : Time
  allowed : Option Bool := some true
  outcome : Except Exc Unit
  timedOut : Bool := false

namespace OutboxWorker

def quarantineReason : String :=
  "provider dispatch reserved before handler invocation; external outcome must be explicitly confirmed before " ++
    "automatic release"

/-- The heartbeat; a renewal that raises is retried later. -/
def heartbeat (w : OutboxWorker) (r : OutboxRow) (t : OutboxTable) (now : Time) : OutboxTable :=
  match renewActiveDispatch r.id w.workerId w.leaseSeconds (some r.fencingToken) now t with
  | .ok t => t
  | .error _ => t

def resolve (w : OutboxWorker) (r : OutboxRow) (action : Resolution) (reason : String) (now : Time) (t : OutboxTable) :
    Except Exc Bool × OutboxTable :=
  match resolveReconciliation r.id ("worker:" ++ w.workerId) action reason w.maxAttempts
      (some w.workerId) (some r.fencingToken) now t with
  | .ok t => (.ok true, t)
  | .error e => (.error e, t)

def refuse (w : OutboxWorker) (r : OutboxRow) (error : String) (now : Time) (t : OutboxTable) :
    Except Exc Bool × OutboxTable :=
  match fail r.id w.workerId error w.maxAttempts (some r.fencingToken) now t with
  | .ok t => (.ok true, t)
  | .error e => (.error e, t)

/-- The settlement of a row whose handler ended. -/
def conclude (w : OutboxWorker) (p : Pass) (r : OutboxRow) (t : OutboxTable) : Except Exc Bool × OutboxTable :=
  match p.outcome with
  | .error (.knownSafeRetry message) =>
    if p.timedOut then (.ok true, t)
    else w.resolve r .retry ("handler certified known-safe retry: " ++ message) p.settleAt t
  | .error _ => (.ok true, t)
  | .ok _ =>
    if p.timedOut then (.ok true, t)
    else w.resolve r .complete "handler returned successfully and confirmed delivery outcome" p.settleAt t

/-- `run_once`. -/
def runOnce (w : OutboxWorker) (p : Pass) (t : OutboxTable) : Except Exc Bool × OutboxTable :=
  match claim w.workerId w.leaseSeconds w.maxAttempts p.claimAt t with
  | .error e => (.error e, t)
  | .ok (none, t) => (.ok false, t)
  | .ok (some r, t) =>
    if r.destination ∉ w.destinations then
      w.refuse r ("no handler registered for destination " ++ r.destination) p.quarantineAt t
    else if p.allowed ≠ some true then
      w.refuse r "effect gate denied dispatch" p.quarantineAt t
    else
      match quarantineUnknownOutcome r.id w.workerId quarantineReason w.leaseSeconds
          (some r.fencingToken) p.quarantineAt t with
      | .error e => (.error e, t)
      | .ok t => w.conclude p r (p.renewals.foldl (w.heartbeat r) t)

end OutboxWorker

/-! ## How a settled row stands -/

/-- Where a settlement leaves a row; a rescheduled one with the delay to its next attempt. -/
inductive RowClass where
  | completed
  | deadLettered
  | quarantined
  | rescheduled (delay : Time)
deriving DecidableEq, Repr

def rowClass (now : Time) (i : MemoryOutboxIntent) : RowClass :=
  if i.completedAt.isSome then .completed
  else if i.deadLetteredAt.isSome then .deadLettered
  else if i.reconciliationRequiredAt.isSome then .quarantined
  else .rescheduled (i.nextAttemptAt - now)

/-- The row `MemoryExecutionBus.run_once` leaves when its handler ends with `outcome`. -/
def MemoryExecutionBus.settled (b : MemoryExecutionBus) (p : Pass) (i : MemoryOutboxIntent) : MemoryOutboxIntent :=
  b.settleRow p.settleAt (settlement p.outcome) (b.claimRow p.claimAt i)

/-- The durable worker does not raise and leaves the row it claimed in the class the memory bus does. -/
def Agree (w : OutboxWorker) (b : MemoryExecutionBus) (p : Pass) (t : OutboxTable) (i : OutboxRow) : Prop :=
  (w.runOnce p t).1 = .ok true ∧ ∃ r, row i.id (w.runOnce p t).2 = some r ∧
    rowClass p.settleAt r.toMemoryOutboxIntent = rowClass p.settleAt (b.settled p i.toMemoryOutboxIntent)

/-- A pass in which the handler of row `i` ran and ended before its deadline: the row is the one claimed, its
destination has a handler and the gate allowed it, and the leases held meanwhile. -/
structure Handled (w : OutboxWorker) (p : Pass) (t : OutboxTable) (i : OutboxRow) : Prop where
  keys : (t.map fun r => r.id).Nodup
  claimed : (sweep w.maxAttempts p.claimAt t).find?
    (claimable w.maxAttempts p.claimAt) = some i
  destination : i.destination ∈ w.destinations
  allowed : p.allowed = some true
  inTime : p.timedOut = false
  quarantined : p.quarantineAt < p.claimAt + w.leaseSeconds
  ended : p.settleAt ≤ p.quarantineAt + w.handlerTimeoutSeconds
  renewed : ∀ now ∈ p.renewals, p.quarantineAt ≤ now

/-- What `hostname:pid:hex` looks like: nothing to strip, and short enough for the audit. -/
structure WellNamed (workerId : String) : Prop where
  stripped : strip workerId = workerId
  operator : strip ("worker:" ++ workerId) = "worker:" ++ workerId
  nonempty : workerId.isEmpty = false
  short : workerId.length ≤ 153

/-! ## The claimed row -/

namespace PostgresOutboxStore

variable {t : OutboxTable} {id : Nat} {f : OutboxRow → OutboxRow} {r : OutboxRow}

theorem row_update (hf : ∀ r, (f r).id = r.id) (h : row id t = some r) : row id (update id f t) = some (f r) := by
  unfold row update at *
  rw [List.find?_map]
  have hp : ((fun r : OutboxRow => decide (r.id = id)) ∘ fun r => if r.id = id then f r else r) =
      fun r => decide (r.id = id) := by
    funext r
    simp only [Function.comp]
    split
    · rename_i hr; rw [hf r]
    · rfl
  rw [hp, h]
  have : r.id = id := by simpa using List.find?_some h
  simp [this]

theorem sweep_ids (maxAttempts : Nat) (now : Time) (t : OutboxTable) :
    (sweep maxAttempts now t).map (fun r => r.id) = t.map fun r => r.id := by
  unfold sweep
  rw [List.map_map]
  refine List.map_congr_left fun r _ => ?_
  simp only [Function.comp]
  split <;> rfl

theorem row_of_mem (hk : (t.map fun r => r.id).Nodup) (hr : r ∈ t) : row r.id t = some r := by
  unfold row
  obtain ⟨a, b, rfl⟩ := List.append_of_mem hr
  rw [List.find?_append]
  have ha : a.find? (fun x => decide (x.id = r.id)) = none := by
    rw [List.find?_eq_none]
    intro x hx hid
    simp only [List.map_append, List.map_cons] at hk
    exact (List.disjoint_of_nodup_append hk) (List.mem_map.2 ⟨x, hx, rfl⟩) (by
      rw [of_decide_eq_true hid]; simp)
  rw [ha]
  simp

end PostgresOutboxStore

section Handled

variable {w : OutboxWorker} {p : Pass} {t : OutboxTable} {i : OutboxRow}

/-- The row while its handler runs: leased to the worker beyond the end of the handler, quarantined and open. -/
structure Held (w : OutboxWorker) (p : Pass) (i r : OutboxRow) : Prop where
  id : r.id = i.id
  owner : r.leaseOwner = some w.workerId
  token : r.fencingToken = i.fencingToken + 1
  attempts : r.attemptCount = i.attemptCount + 1
  completed : r.completedAt = none
  dead : r.deadLetteredAt = none
  quarantined : r.reconciliationRequiredAt.isSome = true
  lease : leaseActive p.settleAt r = true

theorem Handled.open (h : Handled w p t i) : i.completedAt = none ∧ i.deadLetteredAt = none ∧
    i.reconciliationRequiredAt = none ∧ i.attemptCount < w.maxAttempts := by
  have := List.find?_some h.claimed
  simp only [claimable, MemoryOutboxIntent.isOpen, Bool.and_eq_true, Option.isNone_iff_eq_none,
    decide_eq_true_eq] at this
  exact ⟨this.1.1.1.1.1.1, this.1.1.1.1.1.2, this.1.1.1.2, this.1.1.2⟩

theorem Handled.claim (h : Handled w p t i) : ∃ t₁,
    claim w.workerId w.leaseSeconds w.maxAttempts p.claimAt t =
      .ok (some (claimRow w.workerId w.leaseSeconds p.claimAt i), t₁) ∧
    row i.id t₁ = some (claimRow w.workerId w.leaseSeconds p.claimAt i) := by
  refine ⟨update i.id (claimRow w.workerId w.leaseSeconds p.claimAt)
    (sweep w.maxAttempts p.claimAt t), ?_, ?_⟩
  · have h1 : ¬ w.leaseSeconds ≤ 0 := not_le.2 w.leasePositive
    have h2 : ¬ w.maxAttempts < 1 := not_lt.2 w.maxPositive
    simp only [PostgresOutboxStore.claim, h1, h2, if_false, h.claimed]
  · refine row_update (fun r => rfl) ?_
    exact row_of_mem (by rw [sweep_ids]; exact h.keys)
      (List.mem_of_find?_eq_some h.claimed)

theorem Handled.quarantine (h : Handled w p t i) {t₁ : OutboxTable}
    (hr : row i.id t₁ =
      some (claimRow w.workerId w.leaseSeconds p.claimAt i)) :
    ∃ t₂ r, quarantineUnknownOutcome i.id w.workerId OutboxWorker.quarantineReason w.leaseSeconds
      (some (i.fencingToken + 1)) p.quarantineAt t₁ = .ok t₂ ∧ row i.id t₂ = some r ∧ Held w p i r := by
  obtain ⟨hc, hd, hq, -⟩ := h.open
  have h1 : ¬ w.leaseSeconds ≤ 0 := not_le.2 w.leasePositive
  have hquar : quarantineUnknownOutcome i.id w.workerId OutboxWorker.quarantineReason w.leaseSeconds
      (some (i.fencingToken + 1)) p.quarantineAt t₁ = .ok (update i.id (fun r =>
        { r with
          lastError := some (clip 2048 OutboxWorker.quarantineReason)
          reconciliationRequiredAt := some p.quarantineAt
          leaseUntil := some (p.quarantineAt + w.leaseSeconds) }) t₁) := by
    have hlease := h.quarantined
    simp only [quarantineUnknownOutcome, h1, if_false, hr]
    simp [claimRow, tokenMatches, leaseActive, hc, hd, hq,
      hlease]
  refine ⟨_, _, hquar, row_update (fun r => rfl) hr, ?_⟩
  have hlease : p.settleAt < p.quarantineAt + w.leaseSeconds :=
    lt_of_le_of_lt h.ended (Int.add_lt_add_left w.timeoutBelowLease.2 _)
  exact ⟨rfl, rfl, rfl, rfl, hc, hd, rfl, decide_eq_true hlease⟩

theorem heartbeat_held (h : Handled w p t i) {t₁ : OutboxTable} {r : OutboxRow} {now : Time} (hn : p.quarantineAt ≤ now)
    (hr : row i.id t₁ = some r) (hh : Held w p i r) :
    ∃ r', row i.id
      (w.heartbeat (claimRow w.workerId w.leaseSeconds p.claimAt i) t₁ now) = some r' ∧
      Held w p i r' := by
  have h1 : ¬ w.leaseSeconds ≤ 0 := not_le.2 w.leasePositive
  have hren : renewActiveDispatch i.id w.workerId w.leaseSeconds (some (i.fencingToken + 1)) now t₁ =
      .ok (update i.id (fun r => { r with leaseUntil := some (now + w.leaseSeconds) }) t₁) := by
    simp only [renewActiveDispatch, h1, if_false, hr]
    rw [if_pos]
    exact ⟨hh.owner, by simp [tokenMatches, hh.token], hh.quarantined, by rw [hh.completed]; rfl,
      by rw [hh.dead]; rfl⟩
  refine ⟨{ r with leaseUntil := some (now + w.leaseSeconds) }, ?_, ?_⟩
  · unfold OutboxWorker.heartbeat
    simp only [claimRow, hren]
    exact row_update (fun r => rfl) hr
  · have hlease : p.settleAt < now + w.leaseSeconds := calc
      p.settleAt ≤ p.quarantineAt + w.handlerTimeoutSeconds := h.ended
      _ ≤ now + w.handlerTimeoutSeconds := Int.add_le_add_right hn _
      _ < now + w.leaseSeconds := Int.add_lt_add_left w.timeoutBelowLease.2 _
    exact ⟨hh.id, hh.owner, hh.token, hh.attempts, hh.completed, hh.dead, hh.quarantined, decide_eq_true hlease⟩

theorem renewals_held (h : Handled w p t i) : ∀ (renewals : List Time) {t₁ : OutboxTable} {r : OutboxRow},
    (∀ now ∈ renewals, p.quarantineAt ≤ now) → row i.id t₁ = some r → Held w p i r →
    ∃ r', row i.id (renewals.foldl
      (w.heartbeat (claimRow w.workerId w.leaseSeconds p.claimAt i)) t₁) = some r' ∧ Held w p i r'
  | [], _, r, _, hr, hh => ⟨r, hr, hh⟩
  | now :: renewals, _, _, hn, hr, hh => by
    obtain ⟨r', hr', hh'⟩ := heartbeat_held h (hn now List.mem_cons_self) hr hh
    exact renewals_held h renewals (fun n hm => hn n (List.mem_cons_of_mem _ hm)) hr' hh'

theorem Handled.runOnce (h : Handled w p t i) : ∃ t₂ r, row i.id t₂ = some r ∧ Held w p i r ∧
    w.runOnce p t = w.conclude p (claimRow w.workerId w.leaseSeconds p.claimAt i) t₂ := by
  obtain ⟨t₁, hclaim, hr₁⟩ := h.claim
  obtain ⟨t₂, r₂, hquar, hr₂, hh₂⟩ := h.quarantine hr₁
  obtain ⟨r, hr, hh⟩ := renewals_held h p.renewals h.renewed hr₂ hh₂
  refine ⟨_, r, hr, hh, ?_⟩
  unfold OutboxWorker.runOnce
  rw [hclaim]
  simp only
  have hd : ¬ (claimRow w.workerId w.leaseSeconds p.claimAt i).destination ∉ w.destinations :=
    not_not.2 h.destination
  rw [if_neg hd, if_neg (not_not.2 h.allowed)]
  simp only [claimRow] at hquar ⊢
  rw [hquar]

/-- The worker's resolution of a row it holds: the checks on names and lease pass, so it goes through unless the
reason is too long or a retry has no attempt left. -/
theorem resolve_held (hname : WellNamed w.workerId) {t₂ : OutboxTable} {r : OutboxRow} (action : Resolution)
    (reason : String) (ha : action ≠ .deadLetter) (hr : row i.id t₂ = some r) (hh : Held w p i r) :
    w.resolve (claimRow w.workerId w.leaseSeconds p.claimAt i) action reason p.settleAt t₂ =
      if (strip reason).isEmpty ∨ 2048 < (strip reason).length then
        (.error (.valueError "reason must contain 1..2048 characters"), t₂)
      else if action = .retry ∧ w.maxAttempts ≤ i.attemptCount + 1 then
        (.error (reconciliationError "attempt limit is exhausted; choose complete or dead_letter"), t₂)
      else (.ok true,
        update i.id (resolveRow action (strip reason) p.settleAt) t₂) := by
  have hc : r.completedAt.isSome = false := by rw [hh.completed]; rfl
  have hd : r.deadLetteredAt.isSome = false := by rw [hh.dead]; rfl
  have hq : r.reconciliationRequiredAt.isNone = false := by
    rw [Option.isNone_eq_false_iff]; exact hh.quarantined
  have hop : ¬ ((strip ("worker:" ++ w.workerId)).isEmpty ∨ 160 < (strip ("worker:" ++ w.workerId)).length) := by
    have hlen : ("worker:" ++ w.workerId).length = 7 + w.workerId.length := by rw [String.length_append]; rfl
    have := hname.short
    rw [hname.operator, hlen]
    rintro (he | hl)
    · rw [String.isEmpty_iff] at he
      rw [he] at hlen
      simp only [String.length_empty] at hlen
      omega
    · omega
  have hw : ((some w.workerId).any fun v => (strip v).isEmpty || decide (256 < (strip v).length)) = false := by
    have := hname.short
    simp only [Option.any_some, hname.stripped, hname.nonempty, Bool.false_or, decide_eq_false_iff_not]
    omega
  have hown : ownershipError action ((some w.workerId).map strip) (some (i.fencingToken + 1))
      p.settleAt r = none := by
    simp only [ownershipError, hh.lease, if_true, Option.map_some, hname.stripped, hh.owner, ne_eq,
      not_true_eq_false, if_false, tokenMatches, hh.token, Option.all_some, BEq.rfl, Bool.not_true,
      Bool.false_eq_true, ha]
  have hmax : ¬ w.maxAttempts < 1 := not_lt.2 w.maxPositive
  simp only [OutboxWorker.resolve, resolveReconciliation, claimRow, hmax,
    if_false, hop, hw, Bool.false_eq_true, hr, hc, hd, or_self, hq, hown, hh.attempts]
  by_cases hlong : (strip reason).isEmpty = true ∨ 2048 < (strip reason).length
  · simp only [hlong, if_true]
  · by_cases hlimit : action = .retry ∧ w.maxAttempts ≤ i.attemptCount + 1
    · simp only [hlong, hlimit, if_true, if_false, and_self]
    · simp only [hlong, hlimit, if_false]

theorem Held.rowClass_eq {r : OutboxRow} (hh : Held w p i r) :
    rowClass p.settleAt r.toMemoryOutboxIntent = .quarantined := by
  simp only [rowClass, hh.completed, hh.dead, hh.quarantined, Option.isSome_none, Bool.false_eq_true, if_false, if_true]

/-- So is a row the memory bus was left to reconcile. -/
theorem Handled.settled_quarantined (h : Handled w p t i) (b : MemoryExecutionBus) {error : String}
    (hs : settlement p.outcome = .quarantined error) :
    rowClass p.settleAt (b.settled p i.toMemoryOutboxIntent) = .quarantined := by
  obtain ⟨hc, hd, -, -⟩ := h.open
  simp only [MemoryExecutionBus.settled, hs, MemoryExecutionBus.settleRow, MemoryExecutionBus.claimRow, rowClass, hc, hd,
    Option.isSome_none, Bool.false_eq_true, if_false, Option.isSome_some, if_true]

/-- A known-safe retry with attempts left is rescheduled by the memory bus after its backoff. -/
theorem Handled.settled_retry (h : Handled w p t i) (b : MemoryExecutionBus) {message : String}
    (hs : settlement p.outcome = .retry message) (hb : ¬ b.maxAttempts ≤ i.attemptCount + 1) :
    rowClass p.settleAt (b.settled p i.toMemoryOutboxIntent) = .rescheduled (backoff (i.attemptCount + 1)) := by
  obtain ⟨hc, hd, -, -⟩ := h.open
  simp only [MemoryExecutionBus.settled, hs, MemoryExecutionBus.settleRow, MemoryExecutionBus.claimRow, rowClass, hc, hd,
    hb, Option.isSome_none, Bool.false_eq_true, if_false, RowClass.rescheduled.injEq]
  rw [Int.add_comm]
  exact Int.add_sub_cancel _ _

theorem backoff_pos (n : Nat) : 0 < backoff n := by
  have : (0 : Int) < 2 ^ min n 10 := Int.pow_pos (by decide)
  exact lt_min (by decide) this

/-- The memory bus and the durable worker agree on a handled row exactly when the handler did not ask for a
known-safe retry: the worker then schedules the next attempt at once, and raises when no attempt is left. -/
theorem agree_iff_not_known_safe_retry (w : OutboxWorker) (b : MemoryExecutionBus) (same : b.maxAttempts = w.maxAttempts)
    (named : WellNamed w.workerId) (p : Pass) (t : OutboxTable) (i : OutboxRow) (handled : Handled w p t i) :
    Agree w b p t i ↔ ∀ message, p.outcome ≠ .error (.knownSafeRetry message) := by
  obtain ⟨t₂, r, hr, hh, hrun⟩ := handled.runOnce
  have kept : ∀ {e : String}, settlement p.outcome = .quarantined e →
      w.conclude p (claimRow w.workerId w.leaseSeconds p.claimAt i) t₂ = (.ok true, t₂) →
      Agree w b p t i := by
    intro e hs hcon
    unfold Agree
    rw [hrun, hcon]
    exact ⟨rfl, r, hr, by rw [hh.rowClass_eq, handled.settled_quarantined b hs]⟩
  match hout : p.outcome with
  | .ok u =>
    have hres := resolve_held named .complete "handler returned successfully and confirmed delivery outcome" (by simp) hr hh
    rw [if_neg (by decide +kernel), if_neg (by simp)] at hres
    unfold Agree
    rw [hrun, OutboxWorker.conclude, hout, handled.inTime, MemoryExecutionBus.settled, hout]
    simp only [Bool.false_eq_true, if_false, hres, settlement]
    refine ⟨fun _ message h => (by cases h), fun _ => ⟨trivial, _, row_update (fun r => rfl) hr, rfl⟩⟩
  | .error (.knownSafeRetry message) =>
    refine ⟨fun hagree => absurd hagree ?_, fun h => absurd rfl (h message)⟩
    have hres := resolve_held named .retry ("handler certified known-safe retry: " ++ message) (by simp) hr hh
    unfold Agree
    rw [hrun, OutboxWorker.conclude, hout, handled.inTime]
    simp only [Bool.false_eq_true, if_false, hres]
    rintro ⟨hok, r', hr', hclass⟩
    split at hok
    · cases hok
    split at hok
    · cases hok
    rename_i hlong hlimit
    rw [if_neg hlong, if_neg hlimit] at hr'
    have hrow := row_update (t := t₂) (f := resolveRow .retry
      (strip ("handler certified known-safe retry: " ++ message)) p.settleAt) (fun r => rfl) hr
    obtain rfl := Option.some.inj (hrow.symm.trans hr')
    have hb : ¬ b.maxAttempts ≤ i.attemptCount + 1 := fun hle => hlimit ⟨trivial, same ▸ hle⟩
    rw [handled.settled_retry b (by rw [hout]; rfl) hb] at hclass
    simp only [resolveRow, rowClass, hh.completed, hh.dead, Option.isSome_none, Bool.false_eq_true,
      if_false, Int.sub_self, RowClass.rescheduled.injEq] at hclass
    exact absurd hclass (ne_of_lt (backoff_pos _))
  | .error (.commandConflict _) | .error (.commandNotFound _) | .error .keyError | .error (.unknownOutcome _)
  | .error (.bulkheadFull _) | .error (.circuitOpen _) | .error .timeout | .error (.runtimeError _)
  | .error (.valueError _) | .error (.other _ _) =>
    refine ⟨fun _ message h => (by cases h), fun _ => kept (by rw [hout]; rfl) (by rw [OutboxWorker.conclude, hout])⟩

end Handled

namespace Synthetic

/-- A worker with the default parameters. -/
def outboxWorker : OutboxWorker where
  workerId := "host:1:0badcafe"
  destinations := [adapterCommandDestination]
  leasePositive := by decide
  timeoutBelowLease := by decide
  maxPositive := by decide

def outboxRow (attemptCount : Nat) : OutboxRow where
  id := 1
  tenantId := "TEST_SYN"
  commandId := "7d0f"
  destination := adapterCommandDestination
  eventType := "platform.command"
  idempotencyKey := "idem-1"
  payload := { commandId := "7d0f" }
  attemptCount := attemptCount

def pass (outcome : Except Exc Unit) : Pass :=
  { claimAt := 10, quarantineAt := 11, renewals := [16], settleAt := 20, outcome }

theorem outboxRow_handled (outcome : Except Exc Unit) {n : Nat} (h : n < 8) :
    Handled outboxWorker (pass outcome) [outboxRow n] (outboxRow n) where
  keys := by simp
  claimed := by
    have hs : exhausted 8 10 (outboxRow n) = false := by
      simp [exhausted, outboxRow, MemoryOutboxIntent.isOpen, Nat.not_le.2 h]
    have hc : claimable 8 10 (outboxRow n) = true := by
      simp [claimable, outboxRow, MemoryOutboxIntent.isOpen, leaseFree, h]
    simp [sweep, pass, outboxWorker, hs, hc]
  destination := List.mem_singleton.2 rfl
  allowed := rfl
  inTime := rfl
  quarantined := (by decide : (11 : Int) < 10 + 60)
  ended := (by decide : (20 : Int) ≤ 11 + 45)
  renewed := (by decide : ∀ now ∈ [(16 : Int)], 11 ≤ now)

theorem outboxWorker_named : WellNamed outboxWorker.workerId where
  stripped := by decide +kernel
  operator := by decide +kernel
  nonempty := by decide +kernel
  short := by decide +kernel

end Synthetic

theorem agree_on_normal_return : WellNamed Synthetic.outboxWorker.workerId ∧
    Handled Synthetic.outboxWorker (Synthetic.pass (.ok ())) [Synthetic.outboxRow 0] (Synthetic.outboxRow 0) ∧
    Agree Synthetic.outboxWorker {} (Synthetic.pass (.ok ())) [Synthetic.outboxRow 0] (Synthetic.outboxRow 0) :=
  ⟨Synthetic.outboxWorker_named, Synthetic.outboxRow_handled _ (by decide),
    (agree_iff_not_known_safe_retry Synthetic.outboxWorker {} rfl Synthetic.outboxWorker_named _ _ _
      (Synthetic.outboxRow_handled _ (by decide))).2 fun _ h => by cases h⟩

/-- On its last attempt a known-safe retry dead-letters the row of the memory bus, while the durable worker raises
and leaves the row quarantined. -/
theorem known_safe_retry_disagrees :
    Handled Synthetic.outboxWorker (Synthetic.pass (.error (.knownSafeRetry "busy"))) [Synthetic.outboxRow 7]
      (Synthetic.outboxRow 7) ∧
    ¬ Agree Synthetic.outboxWorker {} (Synthetic.pass (.error (.knownSafeRetry "busy"))) [Synthetic.outboxRow 7]
      (Synthetic.outboxRow 7) := by
  refine ⟨Synthetic.outboxRow_handled _ (by decide), ?_⟩
  rintro ⟨hok, -⟩
  have hraises : (Synthetic.outboxWorker.runOnce (Synthetic.pass (.error (.knownSafeRetry "busy")))
      [Synthetic.outboxRow 7]).1.isOk = false := by decide +kernel
  rw [hok] at hraises
  cases hraises

end Middleware.Platform

/-
Fencing of the durable outbox: any number of workers and operators issue the statements of `PostgresOutboxStore` in
any order, each at its reading of the clock and each one transaction. A worker presents the token of a claim. `claim`
skips the rows that other transactions have locked; which ones these are is input.

A row is left alone or changed in one of the ways of `RowChange`, each with the guards of its statement.
-/
import Middleware.Lib.Rows
import Middleware.Postgres.Outbox

namespace Middleware.Platform.PostgresOutboxStore

open Ledger Lib

/-- `claim` beside other transactions. -/
def claimUnlocked (locked : List Nat) (workerId : String) (leaseSeconds : Time) (maxAttempts : Nat) (now : Time)
    (t : OutboxTable) : Except Exc (Option OutboxRow × OutboxTable) :=
  if leaseSeconds ≤ 0 then .error (.valueError "lease_seconds must be positive")
  else if maxAttempts < 1 then .error (.valueError "max_attempts must be positive")
  else
    let t := sweep maxAttempts now t
    match t.find? (fun r => claimable maxAttempts now r && !locked.contains r.id) with
    | none => .ok (none, t)
    | some r => .ok (some (claimRow workerId leaseSeconds now r), update r.id (claimRow workerId leaseSeconds now) t)

/-! ## Runs -/

/-- A worker and the token of its claim. -/
structure Fence where
  workerId : String
  fencingToken : Nat
deriving DecidableEq, Repr

inductive OutboxOp where
  | insert (i : MemoryOutboxIntent)
  | claim (workerId : String) (leaseSeconds : Time) (maxAttempts : Nat) (locked : List Nat)
  | quarantine (id : Nat) (f : Fence) (error : String) (leaseSeconds : Time)
  | renew (id : Nat) (f : Fence) (leaseSeconds : Time)
  | resolve (id : Nat) (operatorId : String) (action : Resolution) (reason : String) (maxAttempts : Nat) (f : Option Fence)
  | complete (id : Nat) (f : Fence)
  | fail (id : Nat) (f : Fence) (error : String) (maxAttempts : Nat)

/-- One transaction, at its reading of the clock. -/
structure OutboxStep where
  op : OutboxOp
  now : Time

/-- A new row: neither leased nor settled. -/
def newRow (i : MemoryOutboxIntent) : OutboxRow :=
  { i with
    attemptCount := 0, leaseOwner := none, leaseUntil := none, completedAt := none, deadLetteredAt := none
    reconciliationRequiredAt := none, fencingToken := 0 }

def OutboxStep.effect (s : OutboxStep) (t : OutboxTable) : Except Exc OutboxTable :=
  match s.op with
  | .insert i => if (row i.id t).isSome then .error (.other "IntegrityError" "middleware_outbox_pkey") else .ok (t ++ [newRow i])
  | .claim workerId leaseSeconds maxAttempts locked => do
    return (← claimUnlocked locked workerId leaseSeconds maxAttempts s.now t).2
  | .quarantine id f error leaseSeconds =>
    quarantineUnknownOutcome id f.workerId error leaseSeconds (some f.fencingToken) s.now t
  | .renew id f leaseSeconds => renewActiveDispatch id f.workerId leaseSeconds (some f.fencingToken) s.now t
  | .resolve id operatorId action reason maxAttempts f =>
    resolveReconciliation id operatorId action reason maxAttempts (f.map (·.workerId)) (f.map (·.fencingToken)) s.now t
  | .complete id f => PostgresOutboxStore.complete id f.workerId (some f.fencingToken) s.now t
  | .fail id f error maxAttempts => PostgresOutboxStore.fail id f.workerId error maxAttempts (some f.fencingToken) s.now t

def OutboxStep.exec (s : OutboxStep) (t : OutboxTable) : OutboxTable :=
  match s.effect t with
  | .ok t => t
  | .error _ => t

/-- The table after a list of transactions. -/
def table (steps : List OutboxStep) : OutboxTable := steps.foldl (fun t s => s.exec t) []

def OutboxStep.claims (s : OutboxStep) (t : OutboxTable) : Option OutboxRow :=
  match s.op with
  | .claim workerId leaseSeconds maxAttempts locked =>
    match claimUnlocked locked workerId leaseSeconds maxAttempts s.now t with
    | .ok r => r.1
    | .error _ => none
  | _ => none

/-- The row a worker's call is about and the fence it presents; `resolve` strips the worker's name. -/
def OutboxOp.fence : OutboxOp → Option (Nat × Fence)
  | .quarantine id f _ _ | .renew id f _ | .complete id f | .fail id f _ _ => some (id, f)
  | .resolve id _ _ _ _ (some f) => some (id, { f with workerId := strip f.workerId })
  | _ => none

/-- The lease a transaction grants (with its deadline) or gives back. -/
def OutboxStep.lease (s : OutboxStep) (t : OutboxTable) : Option ((Nat × Fence) × Option Time) :=
  match s.op with
  | .claim workerId leaseSeconds _ _ =>
    (s.claims t).map fun r => ((r.id, ⟨workerId, r.fencingToken⟩), some (s.now + leaseSeconds))
  | .quarantine _ _ _ leaseSeconds | .renew _ _ leaseSeconds =>
    if (s.effect t).isOk then s.op.fence.map fun k => (k, some (s.now + leaseSeconds)) else none
  | _ => if (s.effect t).isOk then s.op.fence.map fun k => (k, none) else none

/-- The deadlines of the leases that were granted and not given back, as their holders know them. -/
def grants (steps : List OutboxStep) : Nat × Fence → Option Time :=
  (steps.foldl (fun x s => (s.exec x.1,
    match s.lease x.1 with
    | some (k, deadline) => Function.update x.2 k deadline
    | none => x.2)) (([] : OutboxTable), fun _ => none)).2

/-! ## What a transaction does to a row -/

/-- How a transaction may change a row. -/
inductive RowChange (t : OutboxTable) (s : OutboxStep) (r : OutboxRow) : OutboxRow → Prop
  | same : RowChange t s r r
  | swept (w : String) (lease : Time) (n : Nat) (locked : List Nat) (op : s.op = .claim w lease n locked)
      (exhausted : exhausted n s.now r = true) :
      RowChange t s r { r with
        deadLetteredAt := some s.now, leaseOwner := none, leaseUntil := none
        lastError := some (r.lastError.getD "maximum attempts exhausted after worker lease expiry") }
  | claimed (w : String) (lease : Time) (n : Nat) (locked : List Nat) (op : s.op = .claim w lease n locked)
      (candidate : claimable n s.now r = true) (returned : s.claims t = some (claimRow w lease s.now r)) :
      RowChange t s r (claimRow w lease s.now r)
  | quarantined (f : Fence) (error : String) (lease : Time) (op : s.op = .quarantine r.id f error lease)
      (owner : r.leaseOwner = some f.workerId) (token : r.fencingToken = f.fencingToken) (active : leaseActive s.now r = true)
      (completed : r.completedAt = none) (dead : r.deadLetteredAt = none) :
      RowChange t s r { r with
        lastError := some (clip 2048 error), reconciliationRequiredAt := some s.now, leaseUntil := some (s.now + lease) }
  | renewed (f : Fence) (lease : Time) (op : s.op = .renew r.id f lease) (owner : r.leaseOwner = some f.workerId)
      (token : r.fencingToken = f.fencingToken) (quarantined : r.reconciliationRequiredAt.isSome = true)
      (completed : r.completedAt = none) (dead : r.deadLetteredAt = none) :
      RowChange t s r { r with leaseUntil := some (s.now + lease) }
  | resolved (operatorId : String) (action : Resolution) (reason : String) (n : Nat) (f : Option Fence)
      (op : s.op = .resolve r.id operatorId action reason n f) (completed : r.completedAt = none)
      (dead : r.deadLetteredAt = none)
      (holder : (leaseActive s.now r = true ∧ ∃ g, f = some g ∧ r.leaseOwner = some (strip g.workerId) ∧
        r.fencingToken = g.fencingToken) ∨ leaseActive s.now r = false ∧ f = none) :
      RowChange t s r (resolveRow action (strip reason) s.now r)
  | completed (f : Fence) (op : s.op = .complete r.id f) (owner : r.leaseOwner = some f.workerId)
      (token : r.fencingToken = f.fencingToken) (open' : r.reconciliationRequiredAt = none) :
      RowChange t s r { r with completedAt := some s.now, leaseOwner := none, leaseUntil := none, lastError := none }
  | failed (f : Fence) (error : String) (n : Nat) (op : s.op = .fail r.id f error n)
      (owner : r.leaseOwner = some f.workerId) (token : r.fencingToken = f.fencingToken)
      (open' : r.reconciliationRequiredAt = none) :
      RowChange t s r { r with
        lastError := some (clip 2048 error), leaseOwner := none, leaseUntil := none
        deadLetteredAt := if n ≤ r.attemptCount then some s.now else none
        nextAttemptAt := if n ≤ r.attemptCount then r.nextAttemptAt else s.now + backoff r.attemptCount }

/-- What a transaction leaves: the rows in their order, changed one by one, or a new row behind. -/
inductive TableStep (t : OutboxTable) (s : OutboxStep) (t' : OutboxTable) : Prop
  | inserted (i : MemoryOutboxIntent) (op : s.op = .insert i) (unused : row i.id t = none) (h : t' = t ++ [newRow i])
  | mapped (f : OutboxRow → OutboxRow) (h : t' = t.map f) (ids : ∀ r, (f r).id = r.id)
      (changed : ∀ r, row r.id t = some r → RowChange t s r (f r))

section Step

variable {t t' : OutboxTable} {s : OutboxStep} {id : Nat} {r r' : OutboxRow} {now : Time} {g : Fence}

/-- No two rows share an id. -/
abbrev Keyed (t : OutboxTable) : Prop := (t.map (·.id)).Nodup

theorem row_id (h : row id t = some r) : r.id = id := by simpa using List.find?_some h

theorem TableStep.same : TableStep t s t := .mapped (fun r => r) (by simp) (fun _ => rfl) fun _ _ => .same

theorem TableStep.update {f : OutboxRow → OutboxRow} (hf : ∀ r, (f r).id = r.id)
    (h : ∀ r, row id t = some r → RowChange t s r (f r)) : TableStep t s (PostgresOutboxStore.update id f t) := by
  refine .mapped (fun r => if r.id = id then f r else r) rfl (fun r => ?_) fun r hr => ?_
  · split
    · exact hf r
    · rfl
  · split
    · rename_i hid
      exact h r (hid ▸ hr)
    · exact .same

/-- A transaction is rolled back or commits. -/
theorem outbox_cases (s : OutboxStep) (t : OutboxTable) : s.exec t = t ∧ (s.effect t).isOk = false ∨ s.effect t = .ok (s.exec t) := by
  unfold OutboxStep.exec
  cases s.effect t with
  | error e => exact .inl ⟨rfl, rfl⟩
  | ok t' => exact .inr rfl

/-- The sweep of `claim` on one row. -/
def sweepRow (maxAttempts : Nat) (now : Time) (r : OutboxRow) : OutboxRow :=
  if exhausted maxAttempts now r then
    { r with
      deadLetteredAt := some now, leaseOwner := none, leaseUntil := none
      lastError := some (r.lastError.getD "maximum attempts exhausted after worker lease expiry") }
  else r

theorem sweepRow_id (n : Nat) (now : Time) (r : OutboxRow) : (sweepRow n now r).id = r.id := by
  unfold sweepRow
  split <;> rfl

variable {n : Nat}

theorem sweepRow_of_claimable (h : claimable n now (sweepRow n now r) = true) : sweepRow n now r = r := by
  unfold sweepRow at h ⊢
  split
  · rename_i hx
    rw [if_pos hx] at h
    simp [claimable, MemoryOutboxIntent.isOpen] at h
  · rfl

theorem sweepRow_of_open (h : claimable n now r = true) : sweepRow n now r = r := by
  refine if_neg fun hx => ?_
  simp only [claimable, exhausted, Bool.and_eq_true, decide_eq_true_eq] at h hx
  omega

variable {lease : Time}

theorem claimUnlocked_ok {locked : List Nat} {w : String} {a : Option OutboxRow} (hk : Keyed t)
    (h : claimUnlocked locked w lease n now t = .ok (a, t')) :
    (a = none ∧ t' = t.map (sweepRow n now)) ∨ ∃ r, row r.id t = some r ∧ claimable n now r = true ∧
      a = some (claimRow w lease now r) ∧ t' = PostgresOutboxStore.update r.id (claimRow w lease now) (t.map (sweepRow n now)) := by
  unfold claimUnlocked at h
  split at h
  · cases h
  · split at h
    · cases h
    · dsimp only at h
      split at h
      · cases h
        exact .inl ⟨rfl, rfl⟩
      · rename_i x hx
        cases h
        have hmem : x ∈ t.map (sweepRow n now) := List.mem_of_find?_eq_some hx
        have hcl := List.find?_some hx
        rw [Bool.and_eq_true] at hcl
        obtain ⟨r, hr, rfl⟩ := List.mem_map.1 hmem
        have hrow := sweepRow_of_claimable hcl.1
        rw [hrow] at hcl ⊢
        exact .inr ⟨r, find_of_mem hk hr, hcl.1, rfl, rfl⟩

theorem tokenMatches_some {k : Nat} : tokenMatches (some k) r = true ↔ r.fencingToken = k := by
  rw [tokenMatches, Option.all_some, beq_iff_eq]
  exact eq_comm

theorem quarantine_ok {error : String}
    (h : quarantineUnknownOutcome id g.workerId error lease (some g.fencingToken) now t = .ok t') :
    ∃ r, row id t = some r ∧ r.leaseOwner = some g.workerId ∧ r.fencingToken = g.fencingToken ∧ leaseActive now r = true ∧
      r.completedAt = none ∧ r.deadLetteredAt = none ∧ t' = PostgresOutboxStore.update id (fun r =>
        { r with
          lastError := some (clip 2048 error), reconciliationRequiredAt := some now
          leaseUntil := some (now + lease) }) t := by
  unfold quarantineUnknownOutcome at h
  split at h
  · cases h
  · split at h
    · cases h
    · rename_i r hr
      split at h
      · rename_i hg
        cases h
        rw [tokenMatches_some] at hg
        exact ⟨r, hr, hg.1, hg.2.1, hg.2.2.1, by simpa using hg.2.2.2.1, by simpa using hg.2.2.2.2.1, rfl⟩
      · cases h

theorem renew_ok (h : renewActiveDispatch id g.workerId lease (some g.fencingToken) now t = .ok t') :
    ∃ r, row id t = some r ∧ r.leaseOwner = some g.workerId ∧ r.fencingToken = g.fencingToken ∧
      r.reconciliationRequiredAt.isSome = true ∧ r.completedAt = none ∧ r.deadLetteredAt = none ∧
      t' = PostgresOutboxStore.update id (fun r => { r with leaseUntil := some (now + lease) }) t := by
  unfold renewActiveDispatch at h
  split at h
  · cases h
  · split at h
    · cases h
    · rename_i r hr
      split at h
      · rename_i hg
        cases h
        rw [tokenMatches_some] at hg
        exact ⟨r, hr, hg.1, hg.2.1, hg.2.2.1, by simpa using hg.2.2.2.1, by simpa using hg.2.2.2.2, rfl⟩
      · cases h

theorem complete_ok (h : PostgresOutboxStore.complete id g.workerId (some g.fencingToken) now t = .ok t') :
    ∃ r, row id t = some r ∧ r.leaseOwner = some g.workerId ∧ r.fencingToken = g.fencingToken ∧
      r.reconciliationRequiredAt = none ∧ t' = PostgresOutboxStore.update id (fun r =>
        { r with completedAt := some now, leaseOwner := none, leaseUntil := none, lastError := none }) t := by
  unfold PostgresOutboxStore.complete at h
  split at h
  · cases h
  · rename_i r hr
    split at h
    · rename_i hg
      cases h
      rw [tokenMatches_some] at hg
      exact ⟨r, hr, hg.1, hg.2.1, by simpa using hg.2.2, rfl⟩
    · cases h

theorem fail_ok {error : String}
    (h : PostgresOutboxStore.fail id g.workerId error n (some g.fencingToken) now t = .ok t') :
    ∃ r, row id t = some r ∧ r.leaseOwner = some g.workerId ∧ r.fencingToken = g.fencingToken ∧
      r.reconciliationRequiredAt = none ∧ t' = PostgresOutboxStore.update id (fun r =>
        { r with
          lastError := some (clip 2048 error), leaseOwner := none, leaseUntil := none
          deadLetteredAt := if n ≤ r.attemptCount then some now else none
          nextAttemptAt := if n ≤ r.attemptCount then r.nextAttemptAt else now + backoff r.attemptCount }) t := by
  unfold PostgresOutboxStore.fail at h
  split at h
  · cases h
  · split at h
    · cases h
    · rename_i r hr
      split at h
      · rename_i hg
        cases h
        rw [tokenMatches_some] at hg
        exact ⟨r, hr, hg.1, hg.2.1, by simpa using hg.2.2, rfl⟩
      · cases h

variable {action : Resolution}

/-- Nobody but the holder of an active lease resolves a row, and nobody but an operator resolves one without. -/
theorem ownershipError_none {o : Option Fence}
    (h : ownershipError action ((o.map (·.workerId)).map strip) (o.map (·.fencingToken)) now r = none) :
    (leaseActive now r = true ∧ ∃ g, o = some g ∧ r.leaseOwner = some (strip g.workerId) ∧ r.fencingToken = g.fencingToken) ∨
      leaseActive now r = false ∧ o = none := by
  unfold ownershipError at h
  split at h
  · rename_i hactive
    cases o with
    | none => cases h
    | some g =>
      simp only [Option.map_some] at h
      split at h
      · cases h
      · rename_i howner
        split at h
        · cases h
        · rename_i htoken
          have htok : tokenMatches (some g.fencingToken) r = true := by simpa using htoken
          exact .inl ⟨hactive, g, rfl, not_not.1 howner, tokenMatches_some.1 htok⟩
  · rename_i hactive
    split at h
    · cases h
    · rename_i hsome
      refine .inr ⟨by simpa using hactive, ?_⟩
      cases o with
      | none => rfl
      | some g => simp at hsome

theorem resolve_ok {operatorId reason : String} {o : Option Fence}
    (h : resolveReconciliation id operatorId action reason n (o.map (·.workerId)) (o.map (·.fencingToken)) now t = .ok t') :
    ∃ r, row id t = some r ∧ r.completedAt = none ∧ r.deadLetteredAt = none ∧
      ((leaseActive now r = true ∧ ∃ g, o = some g ∧ r.leaseOwner = some (strip g.workerId) ∧
        r.fencingToken = g.fencingToken) ∨ leaseActive now r = false ∧ o = none) ∧
      t' = PostgresOutboxStore.update id (resolveRow action (strip reason) now) t := by
  unfold resolveReconciliation at h
  split at h
  · cases h
  split at h
  · cases h
  split at h
  · cases h
  split at h
  · cases h
  split at h
  · cases h
  rename_i r hr
  split at h
  · cases h
  rename_i hterminal
  split at h
  · cases h
  split at h
  · cases h
  rename_i howner
  split at h
  · cases h
  cases h
  simp only [not_or, Option.not_isSome_iff_eq_none] at hterminal
  exact ⟨r, hr, hterminal.1, hterminal.2, ownershipError_none howner, rfl⟩

theorem outbox_step (hk : Keyed t) (s : OutboxStep) : TableStep t s (s.exec t) := by
  rcases outbox_cases s t with ⟨h, -⟩ | h
  · rw [h]
    exact .same
  generalize s.exec t = t' at h
  obtain ⟨op, now⟩ := s
  cases op with
  | insert i =>
    simp only [OutboxStep.effect] at h
    split at h
    · cases h
    · rename_i hnew
      cases h
      exact .inserted i rfl (by simpa using hnew) rfl
  | claim w lease n locked =>
    cases hr : claimUnlocked locked w lease n now t with
    | error e => simp [OutboxStep.effect, hr, bind, Except.bind] at h
    | ok a =>
      obtain ⟨a, t''⟩ := a
      have ht : t'' = t' := by simpa [OutboxStep.effect, hr, bind, Except.bind, pure, Except.pure] using h
      subst ht
      have hswept : ∀ r, RowChange t ⟨.claim w lease n locked, now⟩ r (sweepRow n now r) := by
        intro r
        unfold sweepRow
        split
        · rename_i hx
          exact .swept w lease n locked rfl hx
        · exact .same
      rcases claimUnlocked_ok hk hr with ⟨-, rfl⟩ | ⟨r, hrow, hcl, rfl, rfl⟩
      · exact .mapped (sweepRow n now) rfl (sweepRow_id n now) fun r _ => hswept r
      · have hret : OutboxStep.claims ⟨.claim w lease n locked, now⟩ t = some (claimRow w lease now r) := by
          simp [OutboxStep.claims, hr]
        refine .mapped (fun x => if x.id = r.id then claimRow w lease now x else sweepRow n now x) ?_ (fun x => ?_) fun x hx => ?_
        · unfold PostgresOutboxStore.update
          rw [List.map_map]
          refine List.map_congr_left fun x hx => ?_
          simp only [Function.comp, sweepRow_id]
          split
          · rename_i hid
            have hx' := find_of_mem hk hx
            rw [hid] at hx'
            cases hrow.symm.trans hx'
            rw [sweepRow_of_open hcl]
          · rfl
        · split
          · rfl
          · exact sweepRow_id n now x
        · split
          · rename_i hid
            rw [hid, hrow] at hx
            cases hx
            exact .claimed w lease n locked rfl hcl hret
          · exact hswept x
  | quarantine id f error lease =>
    obtain ⟨r, hr, ho, ht, ha, hc, hd, rfl⟩ := quarantine_ok h
    refine TableStep.update (fun _ => rfl) fun x hx => ?_
    cases hr.symm.trans hx
    obtain rfl := row_id hr
    exact .quarantined f error lease rfl ho ht ha hc hd
  | renew id f lease =>
    obtain ⟨r, hr, ho, ht, hq, hc, hd, rfl⟩ := renew_ok h
    refine TableStep.update (fun _ => rfl) fun x hx => ?_
    cases hr.symm.trans hx
    obtain rfl := row_id hr
    exact .renewed f lease rfl ho ht hq hc hd
  | resolve id operatorId action reason n f =>
    obtain ⟨r, hr, hc, hd, hh, rfl⟩ := resolve_ok h
    refine TableStep.update (fun _ => by cases action <;> rfl) fun x hx => ?_
    cases hr.symm.trans hx
    obtain rfl := row_id hr
    exact .resolved operatorId action reason n f rfl hc hd hh
  | complete id f =>
    obtain ⟨r, hr, ho, ht, hq, rfl⟩ := complete_ok h
    refine TableStep.update (fun _ => rfl) fun x hx => ?_
    cases hr.symm.trans hx
    obtain rfl := row_id hr
    exact .completed f rfl ho ht hq
  | fail id f error n =>
    obtain ⟨r, hr, ho, ht, hq, rfl⟩ := fail_ok h
    refine TableStep.update (fun _ => rfl) fun x hx => ?_
    cases hr.symm.trans hx
    obtain rfl := row_id hr
    exact .failed f error n rfl ho ht hq

theorem outbox_keyed (hk : Keyed t) (s : OutboxStep) : Keyed (s.exec t) := by
  unfold Keyed
  cases outbox_step hk s with
  | inserted i op unused h =>
    rw [h]
    exact nodup_keys_append (r := newRow i) hk unused
  | mapped f h ids changed =>
    have hids : ((fun r : OutboxRow => r.id) ∘ f) = fun r => r.id := funext ids
    rw [h, List.map_map, hids]
    exact hk

theorem outbox_row (hk : Keyed t) (s : OutboxStep) (hr : row id t = some r) :
    ∃ r', row id (s.exec t) = some r' ∧ RowChange t s r r' := by
  obtain rfl := row_id hr
  unfold row at hr ⊢
  cases outbox_step hk s with
  | inserted i op unused h => exact ⟨r, by rw [h, find_append_row, hr]; rfl, .same⟩
  | mapped f h ids changed => exact ⟨f r, by rw [h, find_map_row ids, hr]; rfl, changed r hr⟩

theorem outbox_row_back (hk : Keyed t) (s : OutboxStep) (hr' : row id (s.exec t) = some r') :
    (∃ r, row id t = some r ∧ RowChange t s r r') ∨ row id t = none ∧ ∃ i, r' = newRow i := by
  cases hr : row id t with
  | some r =>
    obtain ⟨x, hx, hc⟩ := outbox_row hk s hr
    cases hx.symm.trans hr'
    exact .inl ⟨r, rfl, hc⟩
  | none =>
    refine .inr ⟨rfl, ?_⟩
    unfold row at hr hr'
    cases outbox_step hk s with
    | inserted i op unused h =>
      rw [h, find_append_row, hr] at hr'
      by_cases hi : (newRow i).id = id
      · rw [if_pos hi] at hr'
        exact ⟨i, (Option.some.inj hr').symm⟩
      · rw [if_neg hi] at hr'
        cases hr'
    | mapped f h ids changed =>
      rw [h, find_map_row ids, hr] at hr'
      cases hr'

theorem claims_row (hk : Keyed t) {a : OutboxRow} (h : s.claims t = some a) : ∃ w lease n locked r,
    s.op = .claim w lease n locked ∧ row a.id t = some r ∧ claimable n s.now r = true ∧ a = claimRow w lease s.now r ∧
      row a.id (s.exec t) = some a := by
  obtain ⟨op, now⟩ := s
  cases op with
  | claim w lease n locked =>
    simp only [OutboxStep.claims] at h
    split at h
    · rename_i b hb
      obtain ⟨b, t'⟩ := b
      subst h
      rcases claimUnlocked_ok hk hb with ⟨hnone, -⟩ | ⟨r, hrow, hcl, hret, ht'⟩
      · cases hnone
      · cases hret
        refine ⟨w, lease, n, locked, r, rfl, hrow, hcl, rfl, ?_⟩
        have hexec : OutboxStep.exec ⟨.claim w lease n locked, now⟩ t = t' := by
          simp [OutboxStep.exec, OutboxStep.effect, hb, bind, Except.bind, pure, Except.pure]
        have hswept : row r.id (t.map (sweepRow n now)) = some r := by
          unfold row at hrow ⊢
          rw [find_map_row (sweepRow_id n now), hrow, Option.map_some, sweepRow_of_open hcl]
        rw [hexec, ht']
        exact row_update (fun _ => rfl) hswept
    · cases h
  | _ => cases h

/-! ## One row -/

def Settled (r : OutboxRow) : Prop := r.completedAt.isSome = true ∨ r.deadLetteredAt.isSome = true

/-- Only an owner settles or releases a row, and it gives the row up. -/
def Released (r : OutboxRow) : Prop := Settled r → r.leaseOwner = none

theorem not_settled (hc : r.completedAt = none) (hd : r.deadLetteredAt = none) : ¬Settled r := by
  simp [Settled, hc, hd]

theorem not_settled_of_open (h : r.isOpen = true) : ¬Settled r := by
  simp only [MemoryOutboxIntent.isOpen, Bool.and_eq_true, Option.isNone_iff_eq_none] at h
  exact not_settled h.1.1 h.1.2

theorem claimable_open (h : claimable n now r = true) :
    r.isOpen = true ∧ r.reconciliationRequiredAt = none ∧ leaseFree now r.toMemoryOutboxIntent = true := by
  simp only [claimable, Bool.and_eq_true, Option.isNone_iff_eq_none] at h
  exact ⟨h.1.1.1.1, h.1.1.1.2, h.2⟩

theorem exhausted_open (h : exhausted n now r = true) :
    r.isOpen = true ∧ r.reconciliationRequiredAt = none ∧ leaseFree now r.toMemoryOutboxIntent = true := by
  simp only [exhausted, Bool.and_eq_true, Option.isNone_iff_eq_none] at h
  exact ⟨h.1.1.1, h.1.1.2, h.2⟩

theorem change_released (h : RowChange t s r r') (hr : Released r) : Released r' := by
  cases h with
  | same => exact hr
  | swept => exact fun _ => rfl
  | claimed w lease n locked op candidate => exact fun hs => absurd hs (not_settled_of_open (claimable_open candidate).1)
  | quarantined f error lease op owner token active completed dead => exact fun hs => absurd hs (not_settled completed dead)
  | renewed f lease op owner token quarantined completed dead => exact fun hs => absurd hs (not_settled completed dead)
  | resolved operatorId action => cases action <;> exact fun _ => rfl
  | completed => exact fun _ => rfl
  | failed => exact fun _ => rfl

theorem change_settled (h : RowChange t s r r') (hr : Released r) (hs : Settled r) : r' = r := by
  have hnone := hr hs
  cases h with
  | same => rfl
  | swept w lease n locked op exhausted => exact absurd hs (not_settled_of_open (exhausted_open exhausted).1)
  | claimed w lease n locked op candidate => exact absurd hs (not_settled_of_open (claimable_open candidate).1)
  | quarantined f error lease op owner token active completed dead => exact absurd hs (not_settled completed dead)
  | renewed f lease op owner token quarantined completed dead => exact absurd hs (not_settled completed dead)
  | resolved operatorId action reason n f op completed dead => exact absurd hs (not_settled completed dead)
  | completed f op owner =>
    rw [hnone] at owner
    cases owner
  | failed f error n op owner =>
    rw [hnone] at owner
    cases owner

theorem change_token (h : RowChange t s r r') : r'.fencingToken = r.fencingToken ∨
    r'.fencingToken = r.fencingToken + 1 ∧ s.claims t = some r' := by
  cases h with
  | claimed w lease n locked op candidate returned => exact .inr ⟨rfl, returned⟩
  | resolved operatorId action => cases action <;> exact .inl rfl
  | _ => exact .inl rfl

/-- A quarantined row stays out of the claims' reach unless it is resolved for a retry. -/
theorem change_parked (h : RowChange t s r r') (hr : r.reconciliationRequiredAt.isSome = true ∨ Settled r)
    (hrel : Released r) : (r'.reconciliationRequiredAt.isSome = true ∨ Settled r') ∨
      ∃ operatorId reason n f, s.op = .resolve r.id operatorId .retry reason n f := by
  rcases hr with hq | hs
  · cases h with
    | same => exact .inl (.inl hq)
    | swept w lease n locked op exhausted =>
      rw [(exhausted_open exhausted).2.1] at hq
      cases hq
    | claimed w lease n locked op candidate =>
      rw [(claimable_open candidate).2.1] at hq
      cases hq
    | quarantined => exact .inl (.inl rfl)
    | renewed => exact .inl (.inl hq)
    | resolved operatorId action reason n f op =>
      cases action with
      | retry => exact .inr ⟨operatorId, reason, n, f, op⟩
      | complete => exact .inl (.inr (.inl rfl))
      | deadLetter => exact .inl (.inr (.inr rfl))
    | completed f op owner token open' =>
      rw [open'] at hq
      cases hq
    | failed f error n op owner token open' =>
      rw [open'] at hq
      cases hq
  · rw [change_settled h hrel hs]
    exact .inl (.inr hs)

/-- A worker's call changes nothing unless the row is under its fence. -/
theorem exec_fence (s : OutboxStep) (t : OutboxTable) {k : Nat × Fence} (hk : s.op.fence = some k) : s.exec t = t ∨
    ∃ r, row k.1 t = some r ∧ r.leaseOwner = some k.2.workerId ∧ r.fencingToken = k.2.fencingToken := by
  rcases outbox_cases s t with ⟨h, -⟩ | h
  · exact .inl h
  refine .inr ?_
  generalize s.exec t = t' at h
  obtain ⟨op, now⟩ := s
  cases op with
  | insert i => cases hk
  | claim w lease n locked => cases hk
  | quarantine id f error lease =>
    cases hk
    obtain ⟨r, hr, ho, ht, -⟩ := quarantine_ok h
    exact ⟨r, hr, ho, ht⟩
  | renew id f lease =>
    cases hk
    obtain ⟨r, hr, ho, ht, -⟩ := renew_ok h
    exact ⟨r, hr, ho, ht⟩
  | resolve id operatorId action reason n f =>
    cases f with
    | none => cases hk
    | some f =>
      cases hk
      obtain ⟨r, hr, -, -, ⟨-, g, hg, ho, ht⟩ | ⟨-, hnone⟩, -⟩ := resolve_ok h
      · cases hg
        exact ⟨r, hr, ho, ht⟩
      · cases hnone
  | complete id f =>
    cases hk
    obtain ⟨r, hr, ho, ht, -⟩ := complete_ok h
    exact ⟨r, hr, ho, ht⟩
  | fail id f error n =>
    cases hk
    obtain ⟨r, hr, ho, ht, -⟩ := fail_ok h
    exact ⟨r, hr, ho, ht⟩

theorem lease_row (hk : Keyed t) {k : Nat × Fence} {d : Time} (h : s.lease t = some (k, some d)) :
    ∃ r, row k.1 (s.exec t) = some r ∧ r.leaseOwner = some k.2.workerId ∧ r.fencingToken = k.2.fencingToken ∧
      r.leaseUntil = some d := by
  rcases outbox_cases s t with ⟨-, hno⟩ | hok
  · -- A transaction that is rolled back grants nothing.
    obtain ⟨op, now⟩ := s
    cases op with
    | claim w lease n locked =>
      obtain ⟨a, ha, -⟩ := Option.map_eq_some_iff.1 h
      simp only [OutboxStep.claims] at ha
      split at ha
      · rename_i b hb
        simp [OutboxStep.effect, hb, bind, Except.bind, pure, Except.pure, Except.isOk, Except.toBool] at hno
      · cases ha
    | _ => simp [OutboxStep.lease, hno] at h
  · obtain ⟨op, now⟩ := s
    cases op with
    | claim w lease n locked =>
      obtain ⟨a, ha, hkd⟩ := Option.map_eq_some_iff.1 h
      cases hkd
      obtain ⟨w', lease', n', locked', r, hop, -, -, rfl, hafter⟩ := claims_row hk ha
      cases hop
      exact ⟨_, hafter, rfl, rfl, rfl⟩
    | quarantine id f error lease =>
      simp only [OutboxStep.lease, hok, Except.isOk, Except.toBool, if_true, OutboxOp.fence, Option.map_some] at h
      cases h
      obtain ⟨r, hr, ho, ht, -, -, -, hexec⟩ := quarantine_ok hok
      rw [hexec]
      exact ⟨_, row_update (fun _ => rfl) hr, ho, ht, rfl⟩
    | renew id f lease =>
      simp only [OutboxStep.lease, hok, Except.isOk, Except.toBool, if_true, OutboxOp.fence, Option.map_some] at h
      cases h
      obtain ⟨r, hr, ho, ht, -, -, -, hexec⟩ := renew_ok hok
      rw [hexec]
      exact ⟨_, row_update (fun _ => rfl) hr, ho, ht, rfl⟩
    | _ =>
      simp only [OutboxStep.lease] at h
      split at h
      · obtain ⟨x, -, hx⟩ := Option.map_eq_some_iff.1 h
        cases hx
      · cases h

/-- A lease ends by its holder's call or by its deadline. -/
theorem lease_kept (hk : Keyed t) {d : Time} (hr : row id t = some r) (ho : r.leaseOwner = some g.workerId)
    (ht : r.fencingToken = g.fencingToken) (hd : r.leaseUntil = some d) :
    (∃ r', row id (s.exec t) = some r' ∧ r'.leaseOwner = some g.workerId ∧ r'.fencingToken = g.fencingToken ∧
      r'.leaseUntil = some d) ∨ d ≤ s.now ∨ ∃ d', s.lease t = some ((id, g), d') := by
  rcases outbox_cases s t with ⟨hexec, -⟩ | hok
  · rw [hexec]
    exact .inl ⟨r, hr, ho, ht, hd⟩
  have hfree : leaseFree s.now r.toMemoryOutboxIntent = true → d ≤ s.now := by
    intro h
    simp only [leaseFree, hd, Option.all_some, decide_eq_true_eq] at h
    exact h.le
  have hfence : ∀ f : Fence, r.leaseOwner = some f.workerId → r.fencingToken = f.fencingToken → f = g := by
    rintro ⟨w, k⟩ hw hk
    rw [ho] at hw
    rw [ht] at hk
    cases g
    cases hw
    cases hk
    rfl
  obtain ⟨r', hr', hc⟩ := outbox_row hk s hr
  obtain rfl := row_id hr
  cases hc with
  | same => exact .inl ⟨r, hr', ho, ht, hd⟩
  | swept w lease n locked op exhausted => exact .inr (.inl (hfree (exhausted_open exhausted).2.2))
  | claimed w lease n locked op candidate => exact .inr (.inl (hfree (claimable_open candidate).2.2))
  | quarantined f error lease op owner token =>
    obtain rfl := hfence f owner token
    refine .inr (.inr ⟨some (s.now + lease), ?_⟩)
    simp [OutboxStep.lease, op, hok, OutboxOp.fence, Except.isOk, Except.toBool]
  | renewed f lease op owner token =>
    obtain rfl := hfence f owner token
    refine .inr (.inr ⟨some (s.now + lease), ?_⟩)
    simp [OutboxStep.lease, op, hok, OutboxOp.fence, Except.isOk, Except.toBool]
  | resolved operatorId action reason n f op completed dead holder =>
    rcases holder with ⟨-, f, rfl, owner, token⟩ | ⟨hfree, -⟩
    · obtain rfl := hfence { f with workerId := strip f.workerId } owner token
      refine .inr (.inr ⟨none, ?_⟩)
      simp [OutboxStep.lease, op, hok, OutboxOp.fence, Except.isOk, Except.toBool]
    · simp only [leaseActive, hd, Option.any_some, decide_eq_false_iff_not, not_lt] at hfree
      exact .inr (.inl hfree)
  | completed f op owner token =>
    obtain rfl := hfence f owner token
    refine .inr (.inr ⟨none, ?_⟩)
    simp [OutboxStep.lease, op, hok, OutboxOp.fence, Except.isOk, Except.toBool]
  | failed f error n op owner token =>
    obtain rfl := hfence f owner token
    refine .inr (.inr ⟨none, ?_⟩)
    simp [OutboxStep.lease, op, hok, OutboxOp.fence, Except.isOk, Except.toBool]

end Step

/-! ## Whole runs -/

variable (steps : List OutboxStep)

theorem table_concat (s : OutboxStep) : table (steps ++ [s]) = s.exec (table steps) := by
  simp [table, List.foldl_append]

theorem grants_concat (s : OutboxStep) : grants (steps ++ [s]) =
    match s.lease (table steps) with
    | some (k, deadline) => Function.update (grants steps) k deadline
    | none => grants steps := by
  have htable : ∀ (l : List OutboxStep) (x : OutboxTable × (Nat × Fence → Option Time)),
      (l.foldl (fun x s => (s.exec x.1,
        match s.lease x.1 with
        | some (k, deadline) => Function.update x.2 k deadline
        | none => x.2)) x).1 = l.foldl (fun t s => s.exec t) x.1 := by
    intro l
    induction l with
    | nil => exact fun _ => rfl
    | cons s l ih =>
      intro x
      rw [List.foldl_cons, ih]
      rfl
  unfold grants table
  rw [List.foldl_append, List.foldl_cons, List.foldl_nil]
  simp only [htable]

/-- Among the transactions that follow, a resolution of the row for a retry commits. -/
def RetriedAfter (done more : List OutboxStep) (id : Nat) : Prop :=
  ∃ mid : List OutboxStep, ∃ s, ∃ rest : List OutboxStep,
    more = mid ++ s :: rest ∧ ∃ operatorId reason n f, s.op = .resolve id operatorId .retry reason n f ∧
    (s.effect (table (done ++ mid))).isOk = true

section Run

variable {id : Nat} {r : OutboxRow}

theorem table_keyed : Keyed (table steps) := by
  induction steps using List.reverseRecOn with
  | nil => exact List.nodup_nil
  | append_singleton steps s ih =>
    rw [table_concat]
    exact outbox_keyed ih s

theorem table_released : ∀ id r, row id (table steps) = some r → Released r := by
  induction steps using List.reverseRecOn with
  | nil => intro id r hr; cases hr
  | append_singleton steps s ih =>
    intro id r' hr'
    rw [table_concat] at hr'
    rcases outbox_row_back (table_keyed steps) s hr' with ⟨r, hr, hc⟩ | ⟨-, i, rfl⟩
    · exact change_released hc (ih id r hr)
    · exact fun _ => rfl

theorem table_token (hr : row id (table steps) = some r) : ∀ more : List OutboxStep,
    ∃ r', row id (table (steps ++ more)) = some r' ∧ r.fencingToken ≤ r'.fencingToken := by
  intro more
  induction more using List.reverseRecOn with
  | nil => exact ⟨r, by simpa using hr, le_rfl⟩
  | append_singleton more s ih =>
    obtain ⟨r₁, hr₁, hle⟩ := ih
    obtain ⟨r₂, hr₂, hc⟩ := outbox_row (table_keyed (steps ++ more)) s hr₁
    rw [← List.append_assoc, table_concat]
    refine ⟨r₂, hr₂, hle.trans ?_⟩
    rcases change_token hc with h | ⟨h, -⟩
    · exact h.ge
    · rw [h]
      exact Nat.le_succ _

theorem table_settled (hr : row id (table steps) = some r) (hs : Settled r) :
    ∀ more : List OutboxStep, row id (table (steps ++ more)) = some r := by
  intro more
  induction more using List.reverseRecOn with
  | nil => simpa using hr
  | append_singleton more s ih =>
    obtain ⟨r', hr', hc⟩ := outbox_row (table_keyed (steps ++ more)) s ih
    rw [← List.append_assoc, table_concat, hr', change_settled hc (table_released _ id r ih) hs]

/-- Only a resolution for a retry brings a quarantined row back within the reach of a claim. -/
theorem table_parked (hr : row id (table steps) = some r)
    (hq : r.reconciliationRequiredAt.isSome = true) : ∀ more : List OutboxStep, ¬RetriedAfter steps more id →
    ∃ r', row id (table (steps ++ more)) = some r' ∧ (r'.reconciliationRequiredAt.isSome = true ∨ Settled r') := by
  intro more
  induction more using List.reverseRecOn with
  | nil => exact fun _ => ⟨r, by simpa using hr, .inl hq⟩
  | append_singleton more s ih =>
    intro hno
    have hno' : ¬RetriedAfter steps more id := by
      rintro ⟨mid, x, rest, h, hx⟩
      exact hno ⟨mid, x, rest ++ [s], by simp [h], hx⟩
    obtain ⟨r₁, hr₁, hp⟩ := ih hno'
    rw [← List.append_assoc, table_concat]
    rcases outbox_cases s (table (steps ++ more)) with ⟨h, -⟩ | hok
    · rw [h]
      exact ⟨r₁, hr₁, hp⟩
    obtain ⟨r₂, hr₂, hc⟩ := outbox_row (table_keyed (steps ++ more)) s hr₁
    refine ⟨r₂, hr₂, ?_⟩
    rcases change_parked hc hp (table_released _ id r₁ hr₁) with h | ⟨operatorId, reason, n, f, hop⟩
    · exact h
    · rw [row_id hr₁] at hop
      exact absurd ⟨more, s, [], rfl, operatorId, reason, n, f, hop, by rw [hok]; rfl⟩ hno

/-- A lease that was granted and not given back stands in the row until its deadline has been read. -/
theorem grants_held : ∀ (id : Nat) (g : Fence) (d : Time), grants steps (id, g) = some d →
    (∃ r, row id (table steps) = some r ∧ r.leaseOwner = some g.workerId ∧ r.fencingToken = g.fencingToken ∧
      r.leaseUntil = some d) ∨ ∃ s ∈ steps, d ≤ s.now := by
  induction steps using List.reverseRecOn with
  | nil => intro id g d h; cases h
  | append_singleton steps s ih =>
    intro id g d h
    -- A grant of before the step is still in the row, has expired, or has just been replaced.
    have hbefore : grants steps (id, g) = some d → (∀ d', s.lease (table steps) ≠ some ((id, g), d')) →
        (∃ r, row id (table (steps ++ [s])) = some r ∧ r.leaseOwner = some g.workerId ∧ r.fencingToken = g.fencingToken ∧
          r.leaseUntil = some d) ∨ ∃ x ∈ steps ++ [s], d ≤ x.now := by
      intro hg hno
      rw [table_concat]
      rcases ih id g d hg with ⟨r, hr, ho, ht, hd⟩ | ⟨x, hx, hle⟩
      · rcases lease_kept (s := s) (table_keyed steps) hr ho ht hd with hkept | hle | ⟨d', hl⟩
        · exact .inl hkept
        · exact .inr ⟨s, by simp, hle⟩
        · exact absurd hl (hno d')
      · exact .inr ⟨x, List.mem_append_left _ hx, hle⟩
    rw [grants_concat] at h
    cases hl : s.lease (table steps) with
    | none =>
      rw [hl] at h
      exact hbefore h (by simp [hl])
    | some kd =>
      obtain ⟨k, deadline⟩ := kd
      rw [hl] at h
      by_cases hk : (id, g) = k
      · subst hk
        simp only [Function.update_self] at h
        subst h
        rw [table_concat]
        exact .inl (lease_row (table_keyed steps) hl)
      · simp only [Function.update_of_ne hk] at h
        exact hbefore h (by simp [hl, Ne.symm hk])

end Run

/-- What the guards of the outbox promise of a run. -/
structure OutboxFencing (steps : List OutboxStep) : Prop where
  tokens : ∀ (done : List OutboxStep) s (mid : List OutboxStep) s' (rest : List OutboxStep) a b,
    steps = done ++ s :: (mid ++ s' :: rest) → s.claims (table done) = some a →
    s'.claims (table (done ++ s :: mid)) = some b → a.id = b.id → a.fencingToken < b.fencingToken
  exclusive : ∀ now, (∀ s ∈ steps, s.now ≤ now) → ∀ id f g d e, grants steps (id, f) = some d → now < d →
    grants steps (id, g) = some e → now < e → f = g
  fenced : ∀ (done : List OutboxStep) s (rest : List OutboxStep) id f, steps = done ++ s :: rest → s.op.fence = some (id, f) →
    (∀ r, row id (table done) = some r → r.fencingToken ≠ f.fencingToken) → table (done ++ [s]) = table done
  quarantined : ∀ (done mid : List OutboxStep) s (rest : List OutboxStep) r a,
    steps = done ++ (mid ++ s :: rest) → row r.id (table done) = some r →
    r.reconciliationRequiredAt.isSome = true → s.claims (table (done ++ mid)) = some a → a.id = r.id →
    RetriedAfter done mid r.id
  terminal : ∀ (done rest : List OutboxStep) r, steps = done ++ rest → row r.id (table done) = some r → Settled r →
    row r.id (table steps) = some r

/-- Every run of the outbox is fenced. -/
theorem outbox_fencing (steps : List OutboxStep) : OutboxFencing steps where
  tokens done s mid s' rest a b _ ha hb hid := by
    obtain ⟨-, -, -, -, -, -, -, -, -, hafter⟩ := claims_row (table_keyed done) ha
    obtain ⟨w, lease, n, locked, r, -, hr, -, rfl, -⟩ := claims_row (table_keyed _) hb
    rw [← table_concat] at hafter
    obtain ⟨r', hr', hle⟩ := table_token (done ++ [s]) hafter mid
    rw [List.append_assoc, List.singleton_append, hid] at hr'
    cases hr'.symm.trans hr
    exact Nat.lt_succ_of_le hle
  exclusive now hnow id f g d e hf hd hg he := by
    have hlive : ∀ (k : Fence) (x : Time), grants steps (id, k) = some x → now < x →
        ∃ r, row id (table steps) = some r ∧ r.leaseOwner = some k.workerId ∧ r.fencingToken = k.fencingToken := by
      intro k x hk hx
      rcases grants_held steps id k x hk with ⟨r, hr, ho, ht, -⟩ | ⟨s, hs, hle⟩
      · exact ⟨r, hr, ho, ht⟩
      · exact absurd (hle.trans (hnow s hs)) (not_le.2 hx)
    obtain ⟨r, hr, ho, ht⟩ := hlive f d hf hd
    obtain ⟨r', hr', ho', ht'⟩ := hlive g e hg he
    cases hr.symm.trans hr'
    cases f
    cases g
    cases ho.symm.trans ho'
    cases ht.symm.trans ht'
    rfl
  fenced done s rest id f _ hf hstale := by
    rw [table_concat]
    rcases exec_fence s (table done) hf with h | ⟨r, hr, -, ht⟩
    · exact h
    · exact absurd ht (hstale r hr)
  quarantined done mid s rest r a _ hr hq ha hid := by
    by_contra hno
    obtain ⟨r', hr', hp⟩ := table_parked done hr hq mid hno
    obtain ⟨w, lease, n, locked, r'', -, hr'', hcl, -, -⟩ := claims_row (table_keyed _) ha
    rw [hid] at hr''
    cases hr'.symm.trans hr''
    obtain ⟨hopen, hnone, -⟩ := claimable_open hcl
    rcases hp with hp | hp
    · rw [hnone] at hp
      cases hp
    · exact not_settled_of_open hopen hp
  terminal done rest r hsteps hr hs := by
    rw [hsteps]
    exact table_settled done hr hs rest

end Middleware.Platform.PostgresOutboxStore

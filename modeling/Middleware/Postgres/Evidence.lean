/-
Whether `PostgresCommandStore.get` can read an operation back. It takes the evidence from the newest attempt and the
digest from the newest audit row that carries one, and raises unless the two fit. The two are written together, but
a new attempt has no evidence and leaves the audit as it was, so a command whose evidence was recorded becomes
unreadable when it is dispatched again.

`readable_iff` is exact: the states of a run are all readable when every call of the run is `Evident`, and a call that
is not leaves its command unreadable.
-/
import Middleware.Platform.Kernel
import Middleware.Postgres.Commands

namespace Middleware.Postgres

open Ledger Platform PostgresCommandStore

/-! ## Runs -/

/-- The ledger calls, and what other components leave in the outbox meanwhile. -/
inductive StoreCall where
  | submit (r : Submission) (nextAttemptAt : Option Time := none)
  | transition (t : Transition)
  | mutateOperation (m : Mutation)
  | reconcile (r : Reconciliation)
  | outbox (rows : OutboxTable)

def StoreCall.effect (jsonb : Obj → Option Obj) (now : Time) (s : Tables) : StoreCall → Tables
  | .submit r nextAttemptAt => (PostgresCommandStore.submit r nextAttemptAt now s).2
  | .transition t => (PostgresCommandStore.transition jsonb t now s).2
  | .mutateOperation m => (PostgresCommandStore.mutateOperation m now s).2
  | .reconcile r => (PostgresCommandStore.reconcile jsonb r now s).2
  | .outbox rows => { s with outbox := rows }

/-- The tables after a run of calls, each with its instant. -/
def runStore (jsonb : Obj → Option Obj) (calls : List (StoreCall × Time)) : Tables :=
  calls.foldl (fun s c => c.1.effect jsonb c.2 s) {}

/-- `get` does not raise on a command that exists. -/
def Readable (s : Tables) : Prop :=
  ∀ k row, s.command k = some row → ∃ operation, get k s = .ok operation

/-- Evidence that is stored lands on an attempt and is given back with its digest. -/
def Kept (jsonb : Obj → Option Obj) (s : Tables) (k : Key) (evidence : Obj) : Prop :=
  ∀ stored, jsonb evidence = some stored →
    (s.newestAttempt k).isSome = true ∧ providerEvidenceDigest stored = providerEvidenceDigest evidence

/-- A call that goes through opens no attempt while the audit has a digest, and keeps the evidence it records. -/
def Evident (jsonb : Obj → Option Obj) (s : Tables) : StoreCall → Prop
  | .transition t => (∃ current, transitionChecks t s = .ok current) →
    (t.newState = .dispatching → s.persistedDigest t.key = none) ∧
      ∀ evidence, t.readbackEvidence = some evidence → Kept jsonb s t.key evidence
  | .reconcile r => (∃ current, reconcileChecks r s = .ok current) →
    Kept jsonb s r.key r.evidence
  | _ => True

/-! ## What `get` sees -/

/-- The evidence and the digest `get` finds for a command that exists. -/
def Tables.seen (s : Tables) (k : Key) : Option (Option Obj × Option String) :=
  if (s.command k).isSome then some (s.resultPayload k, s.persistedDigest k) else none

def Fits (payload : Option Obj) (digest : Option String) : Prop :=
  ∀ d, digest = some d → ∃ evidence, payload = some evidence ∧ providerEvidenceDigest evidence = d

theorem fits_none (payload : Option Obj) : Fits payload none := by
  rintro d ⟨⟩

theorem fits_absent {digest : Option String} : Fits none digest ↔ digest = none := by
  cases digest with
  | none => exact ⟨fun _ => rfl, fun _ => fits_none _⟩
  | some d =>
    constructor
    · intro h
      obtain ⟨evidence, ⟨⟩, -⟩ := h d rfl
    · rintro ⟨⟩

theorem fits_some {payload : Option Obj} {d : String} :
    Fits payload (some d) ↔ ∃ evidence, payload = some evidence ∧ providerEvidenceDigest evidence = d := by
  constructor
  · intro h
    exact h d rfl
  · rintro ⟨evidence, rfl, rfl⟩ d' ⟨⟩
    exact ⟨evidence, rfl, rfl⟩

theorem operation_ok_iff (row : CommandRow) (payload : Option Obj) (digest : Option String) (duplicate : Bool) :
    (∃ operation, row.operation payload digest duplicate = .ok operation) ↔ Fits payload digest := by
  unfold CommandRow.operation verifyReadbackEvidenceDigest
  cases digest with
  | none => cases payload <;> exact ⟨fun _ => fits_none _, fun _ => ⟨_, rfl⟩⟩
  | some d =>
    rw [fits_some]
    cases payload with
    | none =>
      constructor
      · rintro ⟨o, ⟨⟩⟩
      · rintro ⟨evidence, ⟨⟩, -⟩
    | some evidence =>
      by_cases hd : providerEvidenceDigest evidence = d
      · simp only [hd, ne_eq, not_true_eq_false, if_false]
        exact ⟨fun _ => ⟨evidence, rfl, hd⟩, fun _ => ⟨_, rfl⟩⟩
      · simp only [ne_eq, hd, not_false_eq_true, if_true]
        constructor
        · rintro ⟨o, ⟨⟩⟩
        · rintro ⟨_, ⟨⟩, h⟩
          exact absurd h hd

theorem readable_seen (s : Tables) : Readable s ↔ ∀ k p, s.seen k = some p → Fits p.1 p.2 := by
  unfold Readable Tables.seen PostgresCommandStore.get
  constructor
  · intro h k p hp
    cases hrow : s.command k with
    | none => simp [hrow] at hp
    | some row =>
      have := h k row hrow
      simp only [hrow, Option.isSome_some, if_true, Option.some.injEq] at hp this
      subst hp
      exact (operation_ok_iff row _ _ false).1 this
  · intro h k row hrow
    simp only [hrow]
    exact (operation_ok_iff row _ _ false).2 (h k _ (by rw [hrow]; rfl))

/-! ## The queries after a write -/

section Queries

variable {s : Tables} {k k' : Key}

theorem command_update {f : CommandRow → CommandRow} {s' : Tables} (hs : s'.commands = s.updateCommand k f)
    (hf : ∀ r, r.key = k → (f r).key = k) : (s'.command k').isSome = (s.command k').isSome := by
  unfold Tables.command
  rw [hs, Tables.updateCommand, List.find?_map]
  have hkey : (fun r : CommandRow => decide (r.key = k')) ∘ (fun r => if r.key = k then f r else r) =
      fun r => decide (r.key = k') := by
    funext r
    simp only [Function.comp]
    split
    · rename_i hr
      rw [hf r hr, hr]
    · rfl
  rw [hkey, Option.isSome_map]

theorem argmax_map {β : Type} {num : β → Nat} {g : β → β} (hg : ∀ b, num (g b) = num b) (l : List β) :
    (l.map g).argmax num = (l.argmax num).map g := by
  induction l using List.reverseRecOn with
  | nil => rfl
  | append_singleton l b ih =>
    rw [List.map_append, List.map_singleton, List.argmax_concat, List.argmax_concat, ih]
    cases l.argmax num with
    | none => rfl
    | some c =>
      simp only [Option.map_some, hg]
      split <;> rfl

theorem newest_append_self {a : AttemptRow} {s' : Tables} (hs : s'.attempts = s.attempts ++ [a]) (ha : a.key = k)
    (hmax : s.maxAttempt k < a.attemptNumber) : s'.newestAttempt k = some a := by
  unfold Tables.maxAttempt at hmax
  unfold Tables.newestAttempt at *
  rw [hs, List.filter_append, List.filter_singleton, decide_eq_true ha, cond_true, List.argmax_concat]
  cases hn : (s.attempts.filter fun r => decide (r.key = k)).argmax (·.attemptNumber) with
  | none => rfl
  | some c =>
    rw [hn] at hmax
    exact if_pos hmax

theorem newest_append_ne {a : AttemptRow} (ha : a.key ≠ k) {s' : Tables} (hs : s'.attempts = s.attempts ++ [a]) :
    s'.newestAttempt k = s.newestAttempt k := by
  unfold Tables.newestAttempt
  rw [hs, List.filter_append, List.filter_singleton, decide_eq_false ha]
  simp

theorem newest_update {f : AttemptRow → AttemptRow} {s' : Tables} (hs : s'.attempts = s.updateNewest k f)
    (hk : ∀ r, (f r).key = r.key) (hn : ∀ r, (f r).attemptNumber = r.attemptNumber) :
    s'.newestAttempt k' = if k' = k then (s.newestAttempt k).map f else s.newestAttempt k' := by
  unfold Tables.updateNewest at hs
  cases hnew : s.newestAttempt k with
  | none =>
    rw [hnew] at hs
    have : s'.newestAttempt k' = s.newestAttempt k' := by rw [Tables.newestAttempt, hs]; rfl
    rw [this]
    split
    · rename_i h
      rw [h, hnew]
      rfl
    · rfl
  | some newest =>
    rw [hnew] at hs
    have hmem := List.mem_filter.1 (List.argmax_mem hnew)
    have hkey : (fun r : AttemptRow => decide (r.key = k')) ∘
        (fun r => if r.key = k ∧ r.attemptNumber = newest.attemptNumber then f r else r) =
          fun r => decide (r.key = k') := by
      funext r
      simp only [Function.comp]
      split
      · rw [hk r]
      · rfl
    rw [Tables.newestAttempt, hs, List.filter_map, hkey, argmax_map]
    · by_cases hkk : k' = k
      · subst hkk
        have : (s.attempts.filter fun r => decide (r.key = k')).argmax (·.attemptNumber) = some newest := hnew
        rw [this, if_pos rfl, Option.map_some, Option.map_some, if_pos ⟨of_decide_eq_true hmem.2, rfl⟩]
      · rw [if_neg hkk]
        cases hn' : (s.attempts.filter fun r => decide (r.key = k')).argmax (·.attemptNumber) with
        | none =>
          rw [Tables.newestAttempt, hn']
          rfl
        | some r =>
          have hr : r.key = k' := of_decide_eq_true (List.mem_filter.1 (List.argmax_mem hn')).2
          rw [Tables.newestAttempt, hn', Option.map_some, if_neg fun h => hkk (hr.symm.trans h.1)]
    · intro r
      split
      · exact hn r
      · rfl

theorem digest_append {a : AuditRow} {s' : Tables} (hs : s'.audit = s.audit ++ [a]) :
    s'.persistedDigest k = if a.key = k ∧ a.carriesDigest = true then a.digest else s.persistedDigest k := by
  unfold Tables.persistedDigest
  rw [hs, List.filter_append, List.filter_singleton]
  split
  · rename_i h
    rw [decide_eq_true h, cond_true, List.getLast?_concat]
    rfl
  · rename_i h
    rw [decide_eq_false h]
    simp

end Queries

/-! ## What a call changes of it -/

section Effects

variable {s : Tables} {k : Key}

theorem seen_eq {s' : Tables} (hc : (s'.command k).isSome = (s.command k).isSome)
    (hn : s'.newestAttempt k = s.newestAttempt k) (hd : s'.persistedDigest k = s.persistedDigest k) :
    s'.seen k = s.seen k := by
  unfold Tables.seen Tables.resultPayload
  rw [hc, hn, hd]

theorem checks_command {t : Transition} {current : CommandRow}
    (h : transitionChecks t s = .ok current) :
    s.command t.key = some current ∧ t.newState ∈ current.state.allowedTransitions ∧
      (t.readbackEvidence.isSome = true → t.newState = .completed ∨ t.newState = .reconciliationRequired) := by
  unfold transitionChecks at h
  split at h
  · cases h
  rename_i hev
  split at h
  · cases h
  rename_i c hc
  split at h
  · cases h
  split at h
  · cases h
  rename_i hal
  cases h
  refine ⟨hc, not_not.1 hal, fun hs => ?_⟩
  by_contra hne
  exact hev ⟨hs, by simpa using hne⟩

theorem reconcile_command {r : Reconciliation} {current : CommandRow}
    (h : reconcileChecks r s = .ok current) : s.command r.key = some current := by
  unfold reconcileChecks at h
  split at h
  · cases h
  rename_i c hc
  split at h
  · cases h
  split at h
  · cases h
  cases h
  exact hc

/-- The audit row of a transition carries a digest, or says that there is none, exactly when it completes or
parks the command. -/
theorem transitionAudit_carries (t : Transition) (current : CommandRow) (now : Time) :
    (transitionAudit t current now).carriesDigest = true ↔
      t.newState = .completed ∨ t.newState = .reconciliationRequired := by
  simp [AuditRow.carriesDigest, transitionAudit, Obj.lookup_cons_ite]

theorem transitionAudit_digest (t : Transition) (current : CommandRow) (now : Time) :
    (transitionAudit t current now).digest = t.readbackEvidence.map providerEvidenceDigest := by
  simp only [AuditRow.digest, transitionAudit, Obj.lookup_cons_ite]
  cases t.readbackEvidence <;> rfl

variable {t : Transition} {current : CommandRow} {stored : Option Obj} {now : Time}

/-- A transition changes what is seen of its own command only. -/
theorem seen_transitioned_ne (hk : k ≠ t.key) :
    (transitioned t current stored now s).seen k = s.seen k := by
  refine seen_eq (command_update (f := transitionedRow t now) rfl fun _ h => h) ?_ ?_
  · have hat : (transitioned t current stored now s).attempts =
        transitionAttempts t stored now s := rfl
    unfold transitionAttempts at hat
    split at hat
    · exact newest_append_ne (fun h => hk h.symm) hat
    · split at hat
      · rw [newest_update hat (fun _ => rfl) (fun _ => rfl), if_neg hk]
      · rw [Tables.newestAttempt, hat]
        rfl
  · rw [digest_append (k := k) (s := s) rfl, if_neg fun h => hk h.1.symm]

theorem payload_transitioned :
    (transitioned t current stored now s).resultPayload t.key =
      if t.newState = .dispatching then none
      else if t.newState ∈ [CommandState.accepted, .readbackPending, .completed, .failed, .reconciliationRequired] then
        (s.newestAttempt t.key).bind fun a => stored.or a.resultPayload
      else s.resultPayload t.key := by
  have hat : (transitioned t current stored now s).attempts =
      transitionAttempts t stored now s := rfl
  unfold transitionAttempts at hat
  unfold Tables.resultPayload
  split at hat
  · rename_i hd
    rw [if_pos hd, newest_append_self (k := t.key) hat rfl (Nat.lt_succ_self _)]
    rfl
  · rename_i hd
    rw [if_neg hd]
    split at hat
    · rename_i hm
      rw [if_pos hm, newest_update hat (fun _ => rfl) (fun _ => rfl), if_pos rfl]
      cases s.newestAttempt t.key <;> rfl
    · rename_i hm
      rw [if_neg hm, Tables.newestAttempt, hat]
      rfl

theorem digest_transitioned :
    (transitioned t current stored now s).persistedDigest t.key =
      if t.newState = .completed ∨ t.newState = .reconciliationRequired then
        t.readbackEvidence.map providerEvidenceDigest
      else s.persistedDigest t.key := by
  rw [digest_append (s := s) rfl, transitionAudit_digest]
  simp only [transitionAudit_carries]
  simp [transitionAudit]

theorem seen_transitioned (hc : s.command t.key = some current) :
    (transitioned t current stored now s).seen t.key = some
      ((transitioned t current stored now s).resultPayload t.key,
        (transitioned t current stored now s).persistedDigest t.key) := by
  have hsome : ((transitioned t current stored now s).command t.key).isSome = true := by
    rw [command_update (s := s) (k := t.key) (f := transitionedRow t now) rfl fun _ h => h, hc]
    rfl
  rw [Tables.seen, if_pos hsome]

/-- One command changes: the tables stay readable exactly when what is seen of it fits. -/
theorem readable_write {s' : Tables} {p : Option Obj × Option String} (hs : Readable s)
    (hne : ∀ k', k' ≠ k → s'.seen k' = s.seen k') (hk : s'.seen k = some p) : Readable s' ↔ Fits p.1 p.2 := by
  rw [readable_seen] at *
  constructor
  · intro h
    exact h k p hk
  · intro h k' p' hp'
    by_cases hkk : k' = k
    · subst hkk
      cases hk.symm.trans hp'
      exact h
    · exact hs k' p' (by rw [← hne k' hkk]; exact hp')

theorem fits_kept {jsonb : Obj → Option Obj} {evidence stored : Obj} (hj : jsonb evidence = some stored) :
    Fits ((s.newestAttempt k).bind fun _ => some stored) (some (providerEvidenceDigest evidence)) ↔
      Kept jsonb s k evidence := by
  rw [fits_some, Kept]
  constructor
  · rintro ⟨e, he, hd⟩ stored' hj'
    cases hj.symm.trans hj'
    obtain ⟨a, ha, ⟨⟩⟩ := Option.bind_eq_some_iff.1 he
    exact ⟨by rw [ha]; rfl, hd⟩
  · intro h
    obtain ⟨hsome, hd⟩ := h stored hj
    obtain ⟨a, ha⟩ := Option.isSome_iff_exists.1 hsome
    exact ⟨stored, by rw [ha]; rfl, hd⟩

theorem plain_readable (hs : Readable s) (hch : transitionChecks t s = .ok current)
    (he : t.readbackEvidence = none) : Readable (transitioned t current none now s) ↔
      (t.newState = .dispatching → s.persistedDigest t.key = none) := by
  obtain ⟨hc, -, -⟩ := checks_command hch
  rw [readable_write hs (fun k' hk' => seen_transitioned_ne hk') (seen_transitioned hc)]
  simp only [payload_transitioned, digest_transitioned, he, Option.map_none, Option.none_or]
  by_cases hd : t.newState = .dispatching
  · simp only [hd, reduceCtorEq, or_self, if_true, if_false, fits_absent, forall_const]
  · refine ⟨fun _ h => absurd h hd, fun _ => ?_⟩
    have hold : Fits (s.resultPayload t.key) (s.persistedDigest t.key) :=
      (readable_seen s).1 hs t.key _ (by rw [Tables.seen, hc]; rfl)
    have hsame : ((s.newestAttempt t.key).bind fun a => a.resultPayload) = s.resultPayload t.key := rfl
    simp only [hd, if_false, hsame, ite_self]
    split
    · exact fits_none _
    · exact hold

theorem evidence_readable {jsonb : Obj → Option Obj} {evidence value : Obj} (hs : Readable s)
    (hch : transitionChecks t s = .ok current) (he : t.readbackEvidence = some evidence)
    (hj : jsonb evidence = some value) :
    Readable (transitioned t current (some value) now s) ↔ Kept jsonb s t.key evidence := by
  obtain ⟨hc, -, hev⟩ := checks_command hch
  have hst := hev (by rw [he]; rfl)
  have hd : t.newState ≠ .dispatching := by rcases hst with h | h <;> rw [h] <;> simp
  have hm : t.newState ∈ [CommandState.accepted, .readbackPending, .completed, .failed, .reconciliationRequired] := by
    rcases hst with h | h <;> rw [h] <;> simp
  rw [readable_write hs (fun k' hk' => seen_transitioned_ne hk') (seen_transitioned hc), ← fits_kept hj]
  simp only [payload_transitioned, digest_transitioned, if_neg hd, if_pos hm, if_pos hst, he, Option.map_some,
    Option.some_or]

/-- The tables stay readable after a transition exactly when it is evident. -/
theorem transition_readable (jsonb : Obj → Option Obj) (hs : Readable s) :
    Readable (transition jsonb t now s).2 ↔ Evident jsonb s (.transition t) := by
  cases hch : transitionChecks t s with
  | error e =>
    have hsame : (transition jsonb t now s).2 = s := by
      simp only [transition, hch]
    rw [hsame]
    refine ⟨?_, fun _ => hs⟩
    rintro - ⟨current, hok⟩
    cases hch.symm.trans hok
  | ok current =>
    have hgo : Evident jsonb s (.transition t) ↔ (t.newState = .dispatching → s.persistedDigest t.key = none) ∧
        ∀ evidence, t.readbackEvidence = some evidence → Kept jsonb s t.key evidence :=
      ⟨fun h => h ⟨current, hch⟩, fun h _ => h⟩
    rw [hgo]
    unfold transition
    cases he : t.readbackEvidence with
    | none =>
      simp only [hch, reduceCtorEq, false_implies, implies_true, and_true]
      exact plain_readable hs hch he
    | some evidence =>
      obtain ⟨-, -, hev⟩ := checks_command hch
      have hd : ¬ t.newState = .dispatching := by rcases hev (by rw [he]; rfl) with h | h <;> rw [h] <;> simp
      simp only [hch, hd, false_implies, true_and, Option.some.injEq, forall_eq']
      cases hj : jsonb evidence with
      | none => exact ⟨fun _ value h => (by rw [hj] at h; cases h), fun _ => hs⟩
      | some value => exact evidence_readable hs hch he hj

/-! ### Verdicts -/

variable {r : Reconciliation} {value : Obj}

theorem seen_reconciled_ne (hk : k ≠ r.key) : (reconciled r value now s).seen k = s.seen k := by
  refine seen_eq (command_update (f := reconciledRow r now) rfl ?_) ?_ ?_
  · intro c hc
    unfold reconciledRow
    split <;> exact hc
  · rw [newest_update (s := s) (f := reconciledAttempt r value now) rfl (fun _ => rfl)
      (fun _ => rfl), if_neg hk]
  · rw [digest_append (k := k) (s := s) rfl, if_neg fun h => hk h.1.symm]

theorem seen_reconciled {current : CommandRow} (hc : s.command r.key = some current) :
    (reconciled r value now s).seen r.key =
      some ((s.newestAttempt r.key).bind fun _ => some value, some (providerEvidenceDigest r.evidence)) := by
  have hsome : ((reconciled r value now s).command r.key).isSome = true := by
    rw [command_update (s := s) (k := r.key) (f := reconciledRow r now) rfl, hc]
    · rfl
    · intro c hc
      unfold reconciledRow
      split <;> exact hc
  have hcar : (reconcileAudit r now).carriesDigest = true := by
    unfold AuditRow.carriesDigest reconcileAudit reconciledState
    cases r.matched <;> simp [Obj.lookup_cons_ite]
  have hdig : (reconcileAudit r now).digest = some (providerEvidenceDigest r.evidence) := by
    simp [AuditRow.digest, reconcileAudit, Obj.lookup_cons_ite, asText]
  rw [Tables.seen, if_pos hsome, digest_append (s := s) rfl, if_pos ⟨rfl, hcar⟩, hdig, Tables.resultPayload,
    newest_update (s := s) (f := reconciledAttempt r value now) rfl (fun _ => rfl)
      (fun _ => rfl), if_pos rfl]
  cases s.newestAttempt r.key <;> rfl

theorem reconcile_readable (jsonb : Obj → Option Obj) (hs : Readable s) :
    Readable (reconcile jsonb r now s).2 ↔ Evident jsonb s (.reconcile r) := by
  cases hch : reconcileChecks r s with
  | error e =>
    have hsame : (reconcile jsonb r now s).2 = s := by
      simp only [reconcile, hch]
    rw [hsame]
    refine ⟨?_, fun _ => hs⟩
    rintro - ⟨current, hok⟩
    cases hch.symm.trans hok
  | ok current =>
    have hgo : Evident jsonb s (.reconcile r) ↔ Kept jsonb s r.key r.evidence :=
      ⟨fun h => h ⟨current, hch⟩, fun h _ => h⟩
    rw [hgo]
    unfold reconcile
    simp only [hch]
    cases hj : jsonb r.evidence with
    | none => exact ⟨fun _ value h => (by rw [hj] at h; cases h), fun _ => hs⟩
    | some value =>
      rw [readable_write hs (fun k' hk' => seen_reconciled_ne hk') (seen_reconciled (reconcile_command hch)),
        ← fits_kept hj]

/-! ### Mutations -/

theorem mutatedRow_key {m : Mutation} {outbox outbox' : OutboxTable} {updated : CommandRow}
    (h : mutatedRow m now current outbox = .ok (updated, outbox')) :
    updated.key = current.key := by
  unfold mutatedRow at h
  cases hm : m.action <;> simp only [hm] at h
  · split at h
    · cases h
    · split at h <;> (cases h; rfl)
  · split at h
    · cases h
    · cases h; rfl
  · split at h
    · cases h
    · cases h; rfl

theorem mutationAudit_carries (m : Mutation) (current updated : CommandRow) (now : Time) :
    (mutationAudit m current updated now).carriesDigest = false := by
  have hlook : (mutationAudit m current updated now).metadata.lookup "readback_evidence_sha256" =
      none := by
    simp only [mutationAudit, Obj.lookup_merge, mutationEvidence]
    split <;> simp [Obj.lookup_cons_ite]
  rw [AuditRow.carriesDigest, hlook]
  simp

/-- What a mutation leaves: nothing new, or the command's row and an audit row about it. -/
theorem mutate_cases (m : Mutation) (now : Time) (s : Tables) :
    (mutateOperation m now s).2 = s ∨ ∃ current updated mutations outbox,
      s.command m.key = some current ∧ updated.key = current.key ∧
      (mutateOperation m now s).2 =
        { s with
          commands := s.updateCommand m.key fun _ => updated
          audit := s.audit ++ [mutationAudit m current updated now]
          mutations := mutations
          outbox := outbox } := by
  unfold mutateOperation
  cases hc : s.command m.key with
  | none => exact .inl rfl
  | some current =>
    simp only
    split
    · split <;> exact .inl rfl
    split
    · exact .inl rfl
    cases hm : mutatedRow m now current s.outbox with
    | error e => exact .inl rfl
    | ok p =>
      obtain ⟨updated, outbox⟩ := p
      simp only
      split
      · exact .inl rfl
      · exact .inr ⟨current, updated, _, outbox, rfl, mutatedRow_key hm, rfl⟩

theorem command_key {c : CommandRow} (h : s.command k = some c) : c.key = k := by
  have := List.find?_some h
  simpa using this

theorem mutate_readable (m : Mutation) (hs : Readable s) :
    Readable (mutateOperation m now s).2 := by
  rcases mutate_cases m now s with h | ⟨current, updated, mutations, outbox, hc, hk, h⟩
  · rw [h]
    exact hs
  · rw [h, readable_seen]
    rw [readable_seen] at hs
    intro k p hp
    refine hs k p ?_
    rw [← hp]
    symm
    refine seen_eq (command_update (f := fun _ => updated) rfl fun _ _ => hk.trans (command_key hc)) rfl ?_
    rw [digest_append (s := s) rfl, mutationAudit_carries]
    simp

/-! ### Submissions -/

/-- Attempts and audit rows belong to a command. -/
structure Owned (s : Tables) : Prop where
  attempts : ∀ a ∈ s.attempts, (s.command a.key).isSome = true
  audit : ∀ a ∈ s.audit, (s.command a.key).isSome = true

theorem Owned.absent (h : Owned s) (hk : s.command k = none) :
    s.resultPayload k = none ∧ s.persistedDigest k = none := by
  have hat : (s.attempts.filter fun a => decide (a.key = k)) = [] := by
    rw [List.filter_eq_nil_iff]
    intro a ha hka
    have := h.attempts a ha
    rw [of_decide_eq_true hka, hk] at this
    cases this
  have hau : (s.audit.filter fun a => decide (a.key = k ∧ a.carriesDigest = true)) = [] := by
    rw [List.filter_eq_nil_iff]
    intro a ha hka
    have := h.audit a ha
    rw [(of_decide_eq_true hka).1, hk] at this
    cases this
  constructor
  · rw [Tables.resultPayload, Tables.newestAttempt, hat]
    rfl
  · rw [Tables.persistedDigest, hau]
    rfl

/-- What a submission leaves: nothing new, or a command that was not there with its first audit row. -/
theorem submit_cases_rows (r : Submission) (nextAttemptAt : Option Time) (now : Time) (s : Tables) :
    (submit r nextAttemptAt now s).2 = s ∨ ∃ outbox, s.command r.key = none ∧
      (submit r nextAttemptAt now s).2 =
        { s with
          commands := s.commands ++ [submittedRow r now]
          audit := s.audit ++ [submittedAudit r now]
          outbox := outbox } := by
  unfold submit
  split
  · exact .inl rfl
  cases hex : existingRows r s with
  | cons existing rest =>
    simp only
    split <;> exact .inl rfl
  | nil =>
    have hnone : s.command r.key = none := by
      have hnil : s.commands.filter (fun c => decide (c.key = r.key ∨
          (c.tenantId = r.command.tenantId ∧ c.idempotencyKey = r.command.idempotencyKey))) = [] := by
        have := congrArg List.length hex
        rw [existingRows, List.length_insertionSort] at this
        exact List.length_eq_zero_iff.1 this
      rw [Tables.command, List.find?_eq_none]
      intro c hc hck
      exact List.filter_eq_nil_iff.1 hnil c hc (decide_eq_true (.inl (of_decide_eq_true hck)))
    simp only
    split
    · exact .inl rfl
    · exact .inr ⟨_, hnone, rfl⟩

theorem command_append (hk : s.command k = none) {c : CommandRow} (hc : c.key = k) {s' : Tables}
    (hs : s'.commands = s.commands ++ [c]) (k' : Key) :
    s'.command k' = if k' = k then some c else s.command k' := by
  unfold Tables.command at *
  rw [hs, List.find?_append]
  by_cases hkk : k' = k
  · subst hkk
    rw [hk, if_pos rfl]
    simp [hc]
  · have : ¬ c.key = k' := fun h => hkk (h.symm.trans hc)
    rw [if_neg hkk]
    simp [this]

theorem submit_readable (r : Submission) (nextAttemptAt : Option Time) (ho : Owned s) (hs : Readable s) :
    Readable (submit r nextAttemptAt now s).2 := by
  rcases submit_cases_rows r nextAttemptAt now s with h | ⟨outbox, hk, h⟩
  · rw [h]
    exact hs
  · have hcar : (submittedAudit r now).carriesDigest = false := by
      simp [AuditRow.carriesDigest, submittedAudit]
    obtain ⟨hp, hd⟩ := ho.absent hk
    rw [h]
    have hseen : ∀ {s' : Tables}, s'.commands = s.commands ++ [submittedRow r now] →
        s'.attempts = s.attempts → s'.audit = s.audit ++ [submittedAudit r now] →
        Readable s' := by
      intro s' hc hat hau
      refine (readable_write (k := r.key) (p := (none, none)) hs (fun k' hk' => ?_) ?_).2 (fits_none _)
      · refine seen_eq ?_ (by rw [Tables.newestAttempt, hat]; rfl) ?_
        · rw [command_append hk rfl hc, if_neg hk']
        · rw [digest_append hau, hcar]
          simp
      · have hpay : s'.resultPayload r.key = none := by
          rw [Tables.resultPayload, Tables.newestAttempt, hat]
          exact hp
        rw [Tables.seen, command_append hk rfl hc, if_pos rfl, digest_append hau, hcar, hd, hpay]
        simp
    exact hseen rfl rfl rfl

/-! ### Ownership -/

/-- A write about one command, which exists afterwards, keeps ownership. -/
theorem Owned.write {s' : Tables} (h : Owned s) (hk : (s'.command k).isSome = true)
    (hc : ∀ k', (s.command k').isSome = true → (s'.command k').isSome = true)
    (hat : ∀ a ∈ s'.attempts, a.key = k ∨ ∃ b ∈ s.attempts, b.key = a.key)
    (hau : ∀ a ∈ s'.audit, a.key = k ∨ a ∈ s.audit) : Owned s' := by
  constructor
  · intro a ha
    rcases hat a ha with rfl | ⟨b, hb, hba⟩
    · exact hk
    · exact hba ▸ hc _ (h.attempts b hb)
  · intro a ha
    rcases hau a ha with rfl | hb
    · exact hk
    · exact hc _ (h.audit a hb)

theorem mem_append_key {a b : AuditRow} (hb : b.key = k) (ha : a ∈ s.audit ++ [b]) : a.key = k ∨ a ∈ s.audit := by
  rcases List.mem_append.1 ha with h | h
  · exact .inr h
  · exact .inl (List.mem_singleton.1 h ▸ hb)

theorem mem_updateNewest {f : AttemptRow → AttemptRow} {a : AttemptRow} (ha : a ∈ s.updateNewest k f)
    (hf : ∀ r, (f r).key = r.key) : ∃ b ∈ s.attempts, b.key = a.key := by
  unfold Tables.updateNewest at ha
  split at ha
  · obtain ⟨b, hb, rfl⟩ := List.mem_map.1 ha
    refine ⟨b, hb, ?_⟩
    split
    · exact (hf b).symm
    · rfl
  · exact ⟨a, ha, rfl⟩

theorem transitioned_owned (h : Owned s) (hc : s.command t.key = some current) :
    Owned (transitioned t current stored now s) := by
  have hsome : ∀ k', ((transitioned t current stored now s).command k').isSome =
      (s.command k').isSome := fun k' => command_update (f := transitionedRow t now) rfl fun _ h => h
  refine h.write (k := t.key) (by rw [hsome, hc]; rfl) (fun k' hk' => by rw [hsome]; exact hk') ?_
    (fun a ha => mem_append_key rfl ha)
  intro a ha
  have ha : a ∈ transitionAttempts t stored now s := ha
  unfold transitionAttempts at ha
  split at ha
  · rcases List.mem_append.1 ha with h | h
    · exact .inr ⟨a, h, rfl⟩
    · exact .inl (List.mem_singleton.1 h ▸ rfl)
  · split at ha
    · exact .inr (mem_updateNewest ha fun _ => rfl)
    · exact .inr ⟨a, ha, rfl⟩

theorem reconciled_owned (h : Owned s) (hc : s.command r.key = some current) :
    Owned (reconciled r value now s) := by
  have hsome : ∀ k', ((reconciled r value now s).command k').isSome =
      (s.command k').isSome := by
    refine fun k' => command_update (f := reconciledRow r now) rfl fun c hc => ?_
    unfold reconciledRow
    split <;> exact hc
  exact h.write (k := r.key) (by rw [hsome, hc]; rfl) (fun k' hk' => by rw [hsome]; exact hk')
    (fun a ha => .inr (mem_updateNewest (f := reconciledAttempt r value now) ha fun _ => rfl))
    (fun a ha => mem_append_key rfl ha)

theorem effect_owned (jsonb : Obj → Option Obj) (c : StoreCall) (h : Owned s) : Owned (c.effect jsonb now s) := by
  cases c with
  | submit r nextAttemptAt =>
    show Owned (PostgresCommandStore.submit r nextAttemptAt now s).2
    rcases submit_cases_rows r nextAttemptAt now s with he | ⟨outbox, hk, he⟩
    · rw [he]
      exact h
    · rw [he]
      refine h.write (k := r.key) ?_ (fun k' hk' => ?_) (fun a ha => .inr ⟨a, ha, rfl⟩) fun a ha => mem_append_key rfl ha
      · rw [command_append hk (c := submittedRow r now) rfl rfl, if_pos rfl]
        rfl
      · rw [command_append hk (c := submittedRow r now) rfl rfl]
        split
        · rfl
        · exact hk'
  | transition t =>
    show Owned (PostgresCommandStore.transition jsonb t now s).2
    unfold transition
    cases hch : transitionChecks t s with
    | error e => exact h
    | ok current =>
      have hc := (checks_command hch).1
      simp only
      split
      · exact transitioned_owned h hc
      · split
        · exact h
        · exact transitioned_owned h hc
  | mutateOperation m =>
    show Owned (PostgresCommandStore.mutateOperation m now s).2
    rcases mutate_cases m now s with he | ⟨current, updated, mutations, outbox, hc, hk, he⟩
    · rw [he]
      exact h
    · rw [he]
      have hsome : ∀ {s' : Tables}, s'.commands = s.updateCommand m.key (fun _ => updated) → ∀ k',
          (s'.command k').isSome = (s.command k').isSome := fun hs k' =>
        command_update hs fun _ _ => hk.trans (command_key hc)
      refine h.write (k := m.key) ?_ (fun k' hk' => ?_) (fun a ha => .inr ⟨a, ha, rfl⟩) fun a ha => mem_append_key rfl ha
      · rw [hsome rfl, hc]
        rfl
      · rw [hsome rfl]
        exact hk'
  | reconcile r =>
    show Owned (PostgresCommandStore.reconcile jsonb r now s).2
    unfold reconcile
    cases hch : reconcileChecks r s with
    | error e => exact h
    | ok current =>
      simp only
      split
      · exact h
      · exact reconciled_owned h (reconcile_command hch)
  | outbox rows => exact ⟨h.attempts, h.audit⟩

end Effects

/-! ## Whole runs -/

theorem effect_readable (jsonb : Obj → Option Obj) (c : StoreCall) {now : Time} {s : Tables} (ho : Owned s)
    (hs : Readable s) : Readable (c.effect jsonb now s) ↔ Evident jsonb s c := by
  cases c with
  | submit r nextAttemptAt => exact ⟨fun _ => trivial, fun _ => submit_readable r nextAttemptAt ho hs⟩
  | transition t => exact transition_readable jsonb hs
  | mutateOperation m => exact ⟨fun _ => trivial, fun _ => mutate_readable m hs⟩
  | reconcile r => exact reconcile_readable jsonb hs
  | outbox rows => exact ⟨fun _ => trivial, fun _ => hs⟩

theorem runStore_append (jsonb : Obj → Option Obj) (calls : List (StoreCall × Time)) (c : StoreCall × Time) :
    runStore jsonb (calls ++ [c]) = c.1.effect jsonb c.2 (runStore jsonb calls) := by
  rw [runStore, List.foldl_append]
  rfl

theorem runStore_owned (jsonb : Obj → Option Obj) (calls : List (StoreCall × Time)) :
    Owned (runStore jsonb calls) := by
  induction calls using List.reverseRecOn with
  | nil => exact ⟨fun a ha => (by cases ha), fun a ha => (by cases ha)⟩
  | append_singleton calls c ih =>
    rw [runStore_append]
    exact effect_owned jsonb c.1 ih

/-- In a run from the empty tables `get` reads every command in every state exactly when every call of the run opens
no attempt while the audit has a digest, and records evidence that lands on an attempt and keeps its digest in the
`jsonb` column. -/
theorem readable_iff (jsonb : Obj → Option Obj) (calls : List (StoreCall × Time)) :
    (∀ done rest, calls = done ++ rest → Readable (runStore jsonb done)) ↔
      ∀ done c rest, calls = done ++ c :: rest → Evident jsonb (runStore jsonb done) c.1 := by
  constructor
  · rintro h done c rest rfl
    have hs := h done (c :: rest) rfl
    have hs' := h (done ++ [c]) rest (by simp)
    rw [runStore_append] at hs'
    exact (effect_readable jsonb c.1 (runStore_owned jsonb done) hs).1 hs'
  · intro h done
    induction done using List.reverseRecOn with
    | nil =>
      rintro rest -
      rintro k row ⟨⟩
    | append_singleton done c ih =>
      intro rest hc
      rw [List.append_assoc, List.singleton_append] at hc
      rw [runStore_append]
      exact (effect_readable jsonb c.1 (runStore_owned jsonb done) (ih (c :: rest) hc)).2 (h done c rest hc)

/-! ## Dispatched again -/

namespace Synthetic

def step (newState : CommandState) (readbackEvidence : Option Obj := none) : StoreCall × Time :=
  (.transition
    { tenantId := "TEST_SYN", commandId := "7d0f", newState := newState, actorId := "worker", reason := "step"
      readbackEvidence := readbackEvidence }, 0)

/-- A command is parked with its read-back evidence, queued again and dispatched. -/
def dispatchedAgain : List (StoreCall × Time) :=
  [(.submit { command := Platform.Synthetic.envelope, authenticatedClientId := "client-1" }, 0), step .queued,
    step .dispatching, step .reconciliationRequired (some [("status", .str "unavailable")]), step .queued,
    step .dispatching]

end Synthetic

/-- The second attempt makes the operation unreadable. -/
theorem dispatched_again_unreadable : ¬ Readable (runStore some Synthetic.dispatchedAgain) := by
  intro h
  have hcheck : ((runStore some Synthetic.dispatchedAgain).command Platform.Synthetic.key).isSome = true ∧
      (PostgresCommandStore.get Platform.Synthetic.key (runStore some Synthetic.dispatchedAgain)).isOk = false := by
    decide +kernel
  obtain ⟨row, hrow⟩ := Option.isSome_iff_exists.1 hcheck.1
  obtain ⟨operation, hget⟩ := h _ row hrow
  rw [hget] at hcheck
  cases hcheck.2

end Middleware.Postgres

/-
Leases. Along every run: a claim moves the fencing token and the attempt count of its row by one, calls under a lease
change nothing once the lease is not the row's current one, and the leases of an authenticated worker stay within its
concurrency and were admitted by the compatibility of runtime classes.
-/
import Middleware.Ai.Cancellation

namespace Middleware.Ai

open Ledger Lib

/-- The leases of a worker that have not run out. -/
def Db.leases (db : Db) (workerId : String) (now : Time) : List Job := db.jobs.filter (·.leasedTo workerId now)

/-- A worker whose claims all name its service and one tenant. -/
def ClaimsAs (steps : List Step) (workerId : String) (organizationId workspaceId : Option Uuid) : Prop :=
  ∀ s ∈ steps, ∀ c locked, s.op = .claim c locked → c.workerId = workerId →
    c.serviceId.isSome = true ∧ c.organizationId = organizationId ∧ c.workspaceId = workspaceId

/-- The claim that gave a row its current token admitted its profile beside the worker's leases at that time. -/
def Admitted (registrations : Dict String Registration) (steps : List Step) (workerId : String) (j : Job) : Prop :=
  ∃ done : List Step, ∃ s, ∃ rest : List Step, ∃ c locked row profile,
    steps = done ++ s :: rest ∧ s.op = .claim c locked ∧ c.workerId = workerId ∧
    s.claims (run registrations done) = some row ∧ row.id = j.id ∧ row.fencingToken = j.fencingToken ∧
    j.modelProfile = some profile ∧
    profile ∈ compatibleProfiles (((run registrations done).leases workerId s.now).map (·.modelProfile))

/-! ## Attempts -/

section

variable {db : Db} {s : Step} {j j' : Job} {w : String} {t : Time}

/-- Attempts stay within their limit, and below it while another one may start. -/
def Budgeted (j : Job) : Prop :=
  j.attemptCount ≤ j.maxAttempts ∧ (j.state = .queued ∨ j.state = .retryWait → j.attemptCount < j.maxAttempts)

theorem change_budgeted (h : Change db s j j') (hj : Budgeted j) : Budgeted j' := by
  cases h with
  | same => exact hj
  | claimed c locked active op admitted candidate returned =>
    simp only [claimable, Bool.and_eq_true, Bool.or_eq_true, beq_iff_eq] at candidate
    have hlt := hj.2 candidate.1.1.1.1.1.1
    exact ⟨hlt, fun h => absurd h (by simp [claimRow])⟩
  | renewed => exact hj
  | streamed => exact hj
  | finished l e completion op ends id holds success =>
    refine ⟨hj.1, fun h => ?_⟩
    have hs : finishState e completion j = .queued ∨ finishState e completion j = .retryWait := h
    unfold finishState at hs
    split at hs
    · simp at hs
    · split at hs
      · rcases success with rfl | rfl <;> simp at hs
      · split at hs
        · rename_i hleft
          exact hleft.2
        · simp at hs
  | confirmed => exact ⟨hj.1, fun h => absurd h (by simp)⟩
  | recoveredCancelled => exact ⟨hj.1, fun h => absurd h (by simp)⟩
  | recoveredRetry org ws op scope state expired left => exact ⟨hj.1, fun _ => left⟩
  | recoveredDead => exact ⟨hj.1, fun h => absurd h (by simp)⟩
  | expired => exact ⟨hj.1, fun h => absurd h (by simp)⟩
  | retried =>
    have hle := hj.1
    exact ⟨by simp only [retriedRow]; omega, fun _ => by simp only [retriedRow]; omega⟩
  | consoleCancelled org ws op scope state =>
    refine ⟨hj.1, fun h => ?_⟩
    by_cases hidle : j.state = .queued ∨ j.state = .retryWait
    · exact hj.2 hidle
    · rw [consoleRow_busy s.now hidle] at h
      exact hj.2 h
  | orchestrationCancelled org ws op scope state =>
    refine ⟨hj.1, fun h => ?_⟩
    by_cases hidle : j.state ∈ [JobState.queued, .available, .retryWait, .approvalRequired]
    · simp [orchestrationRow_idle s.now hidle] at h
    · simp [orchestrationRow_busy s.now hidle] at h
  | decided org ws actorId approved reason op pending =>
    exact ⟨hj.1, fun h => absurd h (by cases approved <;> simp)⟩

variable {registrations : Dict String Registration}

theorem run_budgeted (steps : List Step) :
    ∀ id j, (run registrations steps).job id = some j → Budgeted j :=
  run_invariant (C := fun _ _ => True) (fun _ _ hmax => ⟨Nat.zero_le _, fun _ => hmax⟩)
    (fun _ _ _ _ _ _ hc hj => change_budgeted hc hj) steps fun _ _ _ _ => trivial

/-! ## Pending approvals and leases -/

/-- A job that waits for a decision has no lease and is not attempted again. -/
def Waits (j : Job) : Prop := j.leaseExpiresAt = none ∧ j.state ∉ [JobState.queued, .retryWait, .leased, .deadLetter]

/-- The jobs with a pending approval wait for its decision. -/
def PendingWait (db : Db) : Prop :=
  ∀ a ∈ db.approvals, a.state = .pending → ∃ j, db.job a.jobId = some j ∧ Waits j

variable {now : Time}

theorem not_holds_of_waits {l : Lease} {allow : Bool} (h : l.holds allow now j = true) : ¬Waits j := by
  rintro ⟨hnone, -⟩
  obtain ⟨-, -, x, hx, -⟩ := holds_lease h
  rw [hnone] at hx
  cases hx

theorem leaseExpired_some (h : leaseExpired t j = true) : j.leaseExpiresAt ≠ none := by
  intro hnone
  simp [leaseExpired, hnone] at h

theorem change_waits (h : Change db s j j') (hj : Waits j) : Waits j' := by
  cases h with
  | same => exact hj
  | claimed c locked active op admitted candidate returned =>
    simp only [claimable, Bool.and_eq_true, Bool.or_eq_true, beq_iff_eq] at candidate
    exact absurd hj.2 (by rcases candidate.1.1.1.1.1.1 with h | h <;> simp [h])
  | renewed l seconds op id holds => exact absurd hj (not_holds_of_waits holds)
  | streamed l sequence content limit op id holds => exact absurd hj (not_holds_of_waits holds)
  | finished l e completion op ends id holds => exact absurd hj (not_holds_of_waits holds)
  | confirmed l op id holds => exact absurd hj (not_holds_of_waits holds)
  | recoveredCancelled org ws op state expired => exact absurd hj.1 (leaseExpired_some expired)
  | recoveredRetry org ws op scope state expired => exact absurd hj.1 (leaseExpired_some expired)
  | recoveredDead org ws op exhausted =>
    simp only [Ai.exhausted, Bool.and_eq_true] at exhausted
    exact absurd hj.1 (leaseExpired_some exhausted.1.1.1.2)
  | expired org ws op state deadline => exact absurd hj.2 (by rcases state with h | h | h <;> simp [h])
  | retried approvalId org ws op d letter licensed state below => exact absurd hj.2 (by simp [state])
  | consoleCancelled org ws op scope state =>
    have hidle : ¬(j.state = .queued ∨ j.state = .retryWait) := by
      have := hj.2
      simp only [List.mem_cons, not_or] at this
      tauto
    exact ⟨hj.1, by rw [consoleRow_busy s.now hidle]; exact hj.2⟩
  | orchestrationCancelled org ws op scope state =>
    by_cases hidle : j.state ∈ [JobState.queued, .available, .retryWait, .approvalRequired]
    · exact ⟨hj.1, by simp [orchestrationRow_idle s.now hidle]⟩
    · exact ⟨hj.1, by simp [orchestrationRow_busy s.now hidle]⟩
  | decided org ws actorId approved reason op pending => exact ⟨hj.1, by cases approved <;> simp⟩

theorem step_pendingWait (hk : Keyed db) (s : Step) (h : PendingWait db) : PendingWait (s.exec db) := by
  have hkept : ∀ a ∈ db.approvals, a.state = .pending → ∃ j, (s.exec db).job a.jobId = some j ∧ Waits j := by
    intro a ha hp
    obtain ⟨j, hj, hw⟩ := h a ha hp
    obtain ⟨j', hj', hc⟩ := exec_row hk s hj
    exact ⟨j', hj', change_waits hc hw⟩
  have heffect := exec_effect s db
  generalize s.exec db = db' at heffect hkept
  intro a ha hp
  cases heffect with
  | finished l e completion results approvals j op ends success asks row holds =>
    rcases asks.pending a ha hp with ha | ⟨he, hid⟩
    · exact hkept a ha hp
    · -- the approval a result asks for is of the job that the result ends
      rw [hid]
      have hrow := job_updateJob_self (f := finishRow e (finishState e completion j) s.now) (fun _ h => h) row
      refine ⟨_, hrow, rfl, ?_⟩
      have hst : finishState e completion j = .cancelled ∨ finishState e completion j = completion := by
        unfold finishState
        rw [he]
        split
        · exact .inl rfl
        · exact .inr rfl
      rcases success with rfl | rfl <;> rcases hst with h | h <;> simp [finishRow, h]
  | decided i org ws actorId approved reason approvals op pending settles =>
    exact hkept a ((settles.pending a ha hp).resolve_right fun h => h) hp
  | insertedApproval b op unused =>
    rcases List.mem_append.1 ha with ha | ha
    · exact hkept a ha hp
    · rw [List.mem_singleton.1 ha] at hp
      cases hp
  | _ => exact hkept a ha hp

/-- A row with a lease is leased, or its cancellation was requested. -/
def Held (j : Job) : Prop := j.leaseExpiresAt.isSome = true → j.state = .leased ∨ j.state = .cancelRequested

theorem held_of_none (h : j'.leaseExpiresAt = none) : Held j' := fun hs => by
  rw [h] at hs
  cases hs

theorem change_held (hw : PendingWait db) (hrow : db.job j.id = some j) (hco : Coherent j) (h : Change db s j j') (hj : Held j) :
    Held j' := by
  cases h with
  | same => exact hj
  | claimed => exact fun _ => .inl rfl
  | renewed l seconds op id holds =>
    have hst := holds_state holds
    exact fun _ => hst
  | streamed => exact hj
  | finished => exact held_of_none rfl
  | confirmed => exact held_of_none rfl
  | recoveredCancelled => exact held_of_none rfl
  | recoveredRetry => exact held_of_none rfl
  | recoveredDead => exact held_of_none rfl
  | expired => exact held_of_none rfl
  | retried approvalId org ws op d letter licensed state below =>
    exact held_of_none (hco.no_lease (by simp [state])).2
  | consoleCancelled org ws op scope state =>
    by_cases hidle : j.state = .queued ∨ j.state = .retryWait
    · exact held_of_none (hco.no_lease (by rcases hidle with h | h <;> simp [h])).2
    · intro hs
      rw [consoleRow_busy s.now hidle]
      exact hj hs
  | orchestrationCancelled org ws op scope state =>
    intro hs
    by_cases hidle : j.state ∈ [JobState.queued, .available, .retryWait, .approvalRequired]
    · rcases hj hs with h | h <;> simp [h] at hidle
    · exact .inr (orchestrationRow_busy s.now hidle)
  | decided org ws actorId approved reason op pending =>
    obtain ⟨a, ha⟩ := Option.isSome_iff_exists.1 pending
    have hcond := List.find?_some ha
    simp only [Bool.and_eq_true, beq_iff_eq] at hcond
    obtain ⟨x, hx, hwait⟩ := hw a (List.mem_of_find?_eq_some ha) hcond.2
    rw [hcond.1.1.1, hrow] at hx
    cases hx
    exact held_of_none hwait.1

theorem run_held (steps : List Step) :
    PendingWait (run registrations steps) ∧ ∀ id j, (run registrations steps).job id = some j → Held j := by
  induction steps using List.reverseRecOn with
  | nil => exact ⟨fun a ha => (by cases ha), fun id j hj => (by cases hj)⟩
  | append_singleton steps s ih =>
    rw [run_concat]
    refine ⟨step_pendingWait (run_keyed steps) s ih.1, fun id j' hj' => ?_⟩
    rcases exec_row_back (run_keyed steps) s hj' with ⟨j, hj, hc⟩ | ⟨-, j, -, -, rfl⟩
    · obtain rfl := job_id hj
      exact change_held ih.1 hj (run_coherent steps _ _ hj) hc (ih.2 _ _ hj)
    · exact held_of_none rfl

/-! ## The leases of a worker in a transaction -/

theorem leasedTo_iff : j.leasedTo w t = true ↔
    (j.state = .leased ∨ j.state = .cancelRequested) ∧ j.leaseOwner = some w ∧ ∃ x, j.leaseExpiresAt = some x ∧ t < x := by
  simp [Job.leasedTo, and_assoc, Option.any_eq_true]

theorem leasedTo_of_later (hle : now ≤ t) (h : j.leasedTo w t = true) : j.leasedTo w now = true := by
  rw [leasedTo_iff] at h ⊢
  obtain ⟨hs, ho, x, hx, hlt⟩ := h
  exact ⟨hs, ho, x, hx, lt_of_le_of_lt hle hlt⟩

/-- Who holds a row after a transaction held it before under the same token, or claimed it. -/
theorem change_owner (h : Change db s j j') : j'.modelProfile = j.modelProfile ∧
    (j'.leaseOwner = none ∨ j'.leaseOwner = j.leaseOwner ∧ j'.fencingToken = j.fencingToken ∨
      ∃ c locked active, s.op = .claim c locked ∧ admitWorker db c s.now = .ok active ∧
        claimable c (profileFilter c (effectiveCompatibleProfiles active c.allowedModelProfiles)) s.now j = true ∧
        s.claims db = some j' ∧ j' = claimRow c s.now j) := by
  cases h with
  | claimed c locked active op admitted candidate returned =>
    exact ⟨rfl, .inr (.inr ⟨c, locked, active, op, admitted, candidate, returned, rfl⟩)⟩
  | finished => exact ⟨rfl, .inl rfl⟩
  | confirmed => exact ⟨rfl, .inl rfl⟩
  | recoveredCancelled => exact ⟨rfl, .inl rfl⟩
  | recoveredRetry => exact ⟨rfl, .inl rfl⟩
  | recoveredDead => exact ⟨rfl, .inl rfl⟩
  | expired => exact ⟨rfl, .inl rfl⟩
  | _ => exact ⟨rfl, .inr (.inl ⟨rfl, rfl⟩)⟩

/-- A lease that a worker has after a transaction it had at the time of the transaction, or claimed in it. -/
theorem change_leased (hheld : Held j) (h : Change db s j j') (hle : s.now ≤ t) (hl : j'.leasedTo w t = true) :
    j.leasedTo w s.now = true ∨ s.claims db = some j' ∧ j'.leaseOwner = some w := by
  obtain ⟨hst, ho, x, hx, hlt⟩ := leasedTo_iff.1 hl
  have hkept : j.leaseOwner = some w → j.leaseExpiresAt = some x → j.leasedTo w s.now = true :=
    fun ho hx => leasedTo_iff.2 ⟨hheld (by rw [hx]; rfl), ho, x, hx, lt_of_le_of_lt hle hlt⟩
  cases h with
  | same => exact .inl (leasedTo_of_later hle hl)
  | claimed c locked active op admitted candidate returned => exact .inr ⟨returned, ho⟩
  | renewed l seconds op id holds =>
    obtain ⟨-, -, y, hy, hlt⟩ := holds_lease holds
    exact .inl (leasedTo_iff.2 ⟨hst, ho, y, hy, hlt⟩)
  | streamed => exact .inl (hkept ho hx)
  | finished => cases hx
  | confirmed => cases hx
  | recoveredCancelled => cases hx
  | recoveredRetry => cases hx
  | recoveredDead => cases hx
  | expired => cases hx
  | retried => exact .inl (hkept ho hx)
  | consoleCancelled => exact .inl (hkept ho hx)
  | orchestrationCancelled => exact .inl (hkept ho hx)
  | decided => exact .inl (hkept ho hx)

/-- A worker has no more leases after a transaction than at its time, and one more when it claimed one. -/
theorem leases_step (hk : Keyed db) (hheld : ∀ id j, db.job id = some j → Held j) (s : Step) (hle : s.now ≤ t) :
    ((s.exec db).leases w t).length ≤
      (db.leases w s.now).length + if (s.claims db).any (·.leaseOwner == some w) then 1 else 0 := by
  unfold Db.leases
  rw [← List.countP_eq_length_filter, ← List.countP_eq_length_filter]
  cases exec_jobs hk s with
  | inserted j op unused attempts h =>
    have hnew : (newRow j s.now).leasedTo w t = false := rfl
    have hmono := List.countP_mono_left (l := db.jobs) (p := (·.leasedTo w t)) (q := (·.leasedTo w s.now))
      fun x _ hx => leasedTo_of_later hle hx
    rw [h, List.countP_append, List.countP_singleton, hnew]
    simp only [Bool.false_eq_true, if_false]
    omega
  | mapped f h ids changed =>
    have hrow : ∀ x ∈ db.jobs, (f x).leasedTo w t = true →
        x.leasedTo w s.now = true ∨ s.claims db = some (f x) ∧ (f x).leaseOwner = some w := by
      intro x hx hl
      have hx' := find_of_mem hk hx
      exact change_leased (hheld _ _ hx') (changed x hx') hle hl
    rw [h, List.countP_map]
    cases hclaims : s.claims db with
    | none =>
      refine List.countP_mono_left fun x hx hl => (hrow x hx hl).resolve_right fun hr => ?_
      rw [hclaims] at hr
      cases hr.1
    | some row =>
      by_cases hw : row.leaseOwner = some w
      · -- the claimed row is the only one that is new among the worker's leases
        have hadd := countP_le_add (t := db.jobs) (p := (fun x : Job => x.leasedTo w t) ∘ f) (q := (·.leasedTo w s.now))
          (o := fun x => decide (x.id = row.id)) fun x hx hl => (hrow x hx hl).imp_right fun hr => by
            rw [hclaims, Option.some.injEq] at hr
            rw [hr.1]
            simp [ids x]
        have hone := countP_key_le hk row.id
        simp only [Option.any_some, hw, beq_self_eq_true, if_true]
        omega
      · refine (List.countP_mono_left fun x hx hl => (hrow x hx hl).resolve_right fun hr => ?_).trans (Nat.le_add_right _ _)
        rw [hclaims, Option.some.injEq] at hr
        rw [hr.1] at hw
        exact hw hr.2

/-- A call under a lease that is not the row's current one changes nothing, and no call touches another job. -/
theorem exec_lease {l : Lease} (s : Step) (db : Db) (hl : s.op.lease = some l) : s.exec db = db ∨
    (∃ j, db.job l.jobId = some j ∧ l.holds true s.now j = true) ∧ ∀ id, id ≠ l.jobId → (s.exec db).job id = db.job id := by
  have frame : ∀ {id i : Uuid}, id ≠ i → ∀ f : Job → Job, (∀ x, x.id = i → (f x).id = i) →
      (db.updateJob i f).job id = db.job id := fun hid f hf => job_updateJob_ne hid hf
  have heffect := exec_effect s db
  generalize s.exec db = db' at heffect
  cases heffect with
  | nothing => exact .inl rfl
  | renewed l' seconds j op row holds =>
    rw [op] at hl
    cases hl
    exact .inr ⟨⟨j, row, holds⟩, fun id hid => job_updateJob_ne hid fun _ h => h⟩
  | streamed l' sequence content limit j op row holds unused =>
    rw [op] at hl
    cases hl
    refine .inr ⟨⟨j, row, ?_⟩, fun id hid => frame hid _ fun _ h => h⟩
    simp only [Lease.holds, Bool.and_eq_true, Bool.or_eq_true, beq_iff_eq, Bool.false_and, Bool.false_eq_true, or_false] at holds ⊢
    exact ⟨⟨⟨⟨.inl holds.1.1.1.1, holds.1.1.1.2⟩, holds.1.1.2⟩, holds.1.2⟩, holds.2⟩
  | finished l' e completion results approvals j op ends success asks row holds =>
    rw [hl] at op
    cases op
    exact .inr ⟨⟨j, row, holds⟩, fun id hid => frame hid (finishRow e (finishState e completion j) s.now) fun _ h => h⟩
  | confirmed l' j attempts op row holds requested =>
    rw [op] at hl
    cases hl
    exact .inr ⟨⟨j, row, holds⟩, fun id hid => frame hid _ fun _ h => h⟩
  | insertedJob j op => simp [op, Op.lease] at hl
  | claimed c locked active j op => simp [op, Op.lease] at hl
  | recovered org ws op => simp [op, Op.lease] at hl
  | expired org ws op => simp [op, Op.lease] at hl
  | retried i approvalId org ws j d op => simp [op, Op.lease] at hl
  | consoleCancelled i org ws j op => simp [op, Op.lease] at hl
  | orchestrationCancelled i org ws j op => simp [op, Op.lease] at hl
  | decided i org ws actorId approved reason approvals op => simp [op, Op.lease] at hl
  | insertedApproval a op => simp [op, Op.lease] at hl

/-! ## Admission -/

variable {c : ClaimRequest} {active : List (Option String)}

theorem admitWorker_ok (hs : c.serviceId.isSome = true)
    (h : admitWorker db c now = .ok active) : active = activeProfiles db c now ∧
      ∃ r, db.registrations.lookup c.workerId = some r ∧ active.length < min r.maxConcurrency workerHardSafetyCap := by
  unfold admitWorker at h
  split at h
  · rename_i hnone
    rw [hnone] at hs
    cases hs
  · split at h
    · cases h
    · rename_i r hr
      split at h
      · cases h
      · split at h
        · cases h
        · rename_i hlt
          cases h
          exact ⟨rfl, r, hr, Nat.not_le.1 hlt⟩

theorem claimable_profile (hs : c.serviceId.isSome = true)
    (h : claimable c (profileFilter c (effectiveCompatibleProfiles active c.allowedModelProfiles)) now j = true) :
    (∃ profile, j.modelProfile = some profile ∧ profile ∈ compatibleProfiles active) ∧
      j.inScope c.organizationId c.workspaceId = true := by
  rw [profileFilter, if_pos (.inl hs)] at h
  simp only [claimable, Bool.and_eq_true, Option.all_some] at h
  obtain ⟨p, hp, hmem⟩ := (Option.any_eq_true _ _).1 h.1.1.1.2
  refine ⟨⟨p, hp, ?_⟩, h.1.1.2⟩
  rw [List.contains_iff_mem] at hmem
  unfold effectiveCompatibleProfiles at hmem
  split at hmem
  · exact hmem
  · exact (List.mem_filter.1 hmem).1

/-- The profiles that count against a worker's limit are those of all its leases. -/
theorem activeProfiles_eq (hk : Keyed db)
    (hscope : ∀ id j, db.job id = some j → j.leaseOwner = some c.workerId → j.inScope c.organizationId c.workspaceId = true) :
    activeProfiles db c now = (db.leases c.workerId now).map (·.modelProfile) := by
  unfold activeProfiles Db.leases
  congr 1
  refine List.filter_congr fun j hj => ?_
  cases hl : j.leasedTo c.workerId now with
  | false => rfl
  | true => simp [hscope _ _ (find_of_mem hk hj) (leasedTo_iff.1 hl).2.1]

end

/-! ## Runs -/

section Run

variable {registrations : Dict String Registration} {steps : List Step} {w : String} {org ws : Option Uuid}
variable (steps : List Step)

theorem run_registrations : (run registrations steps).registrations = registrations := by
  induction steps using List.reverseRecOn with
  | nil => rfl
  | append_singleton steps s ih => rw [run_concat, exec_registrations, ih]

theorem ClaimsAs.init {s : Step} (h : ClaimsAs (steps ++ [s]) w org ws) : ClaimsAs steps w org ws :=
  fun x hx => h x (List.mem_append_left _ hx)

/-- What a worker holds is of its tenant and was admitted beside what it held at the time. -/
theorem run_worker (hclaims : ClaimsAs steps w org ws) : ∀ id j,
    (run registrations steps).job id = some j → j.leaseOwner = some w →
      j.inScope org ws = true ∧ Admitted registrations steps w j := by
  induction steps using List.reverseRecOn with
  | nil => intro id j hj; cases hj
  | append_singleton steps s ih =>
    intro id j' hj' ho
    have hbefore := ih hclaims.init
    rw [run_concat] at hj'
    rcases exec_row_back (run_keyed steps) s hj' with ⟨j, hj, hc⟩ | ⟨-, j, -, -, rfl⟩
    · obtain ⟨horg, hws, -⟩ := change_frame hc
      obtain ⟨hprofile, hnone | ⟨hown, htok⟩ | ⟨c, locked, active, hop, hadm, hcand, hret, hrow⟩⟩ := change_owner hc
      · rw [hnone] at ho
        cases ho
      · obtain ⟨hscope, done, x, rest, c, locked, row, p, hsteps, hop, hw, hret, hid, htok', hp, hcomp⟩ :=
          hbefore id j hj (hown ▸ ho)
        refine ⟨by rw [Job.inScope, horg, hws]; exact hscope, done, x, rest ++ [s], c, locked, row, p,
          by simp [hsteps], hop, hw, hret, ?_, htok'.trans htok.symm, hprofile.trans hp, hcomp⟩
        rw [hid, job_id hj, job_id hj']
      · have hw : c.workerId = w := by
          rw [hrow] at ho
          exact Option.some.inj ho
        obtain ⟨hservice, hco, hcw⟩ := hclaims s (by simp) c locked hop hw
        obtain ⟨⟨p, hp, hcomp⟩, hscope⟩ := claimable_profile hservice hcand
        obtain ⟨hactive, -⟩ := admitWorker_ok hservice hadm
        refine ⟨by rw [Job.inScope, horg, hws, ← hco, ← hcw]; exact hscope, steps, s, [], c, locked, j', p, rfl, hop, hw,
          hret, rfl, rfl, hprofile.trans hp, ?_⟩
        rw [hactive, activeProfiles_eq (run_keyed steps), hw] at hcomp
        · exact hcomp
        · intro id x hx hxo
          rw [hco, hcw]
          exact (hbefore id x hx (hw ▸ hxo)).1
    · cases ho

/-- The leases of a worker stay within its concurrency while the clock does not run backwards. -/
theorem run_bounded (hclaims : ClaimsAs steps w org ws)
    (hclock : steps.Pairwise fun a b => a.now ≤ b.now) {r : Registration} (hr : registrations.lookup w = some r) :
    ∀ t, (∀ s ∈ steps, s.now ≤ t) →
      ((run registrations steps).leases w t).length ≤ min r.maxConcurrency workerHardSafetyCap := by
  induction steps using List.reverseRecOn with
  | nil => exact fun t _ => Nat.zero_le _
  | append_singleton steps s ih =>
    intro t ht
    rw [List.pairwise_append] at hclock
    have hnow : ∀ x ∈ steps, x.now ≤ s.now := fun x hx => hclock.2.2 x hx s (by simp)
    have hbefore := ih hclaims.init hclock.1 s.now hnow
    rw [run_concat]
    refine (leases_step (run_keyed steps) (run_held steps).2 s (ht s (by simp))).trans ?_
    split
    · rename_i hany
      obtain ⟨row, hrow, ho⟩ := (Option.any_eq_true _ _).1 hany
      obtain ⟨c, locked, active, j, hop, hadm, -, hclaim, -⟩ := claims_row (run_keyed steps) hrow
      have hw : c.workerId = w := by
        rw [hclaim] at ho
        simpa [claimRow] using ho
      obtain ⟨hservice, hco, hcw⟩ := hclaims s (by simp) c locked hop hw
      obtain ⟨hactive, r', hr', hlt⟩ := admitWorker_ok hservice hadm
      rw [run_registrations, hw, hr, Option.some.injEq] at hr'
      rw [← hr', hactive, activeProfiles_eq (run_keyed steps), hw, List.length_map] at hlt
      · exact hlt
      · intro id x hx hxo
        rw [hco, hcw]
        exact (run_worker steps hclaims.init id x hx (hw ▸ hxo)).1
    · exact hbefore

end Run

structure LeaseFencing (registrations : Dict String Registration) (steps : List Step) : Prop where
  claims : ∀ (done : List Step) s (rest : List Step) row,
    steps = done ++ s :: rest → s.claims (run registrations done) = some row →
    ∃ j, (run registrations done).job row.id = some j ∧ row.fencingToken = j.fencingToken + 1 ∧
      row.attemptCount = j.attemptCount + 1 ∧ (run registrations (done ++ [s])).job row.id = some row
  attempts : ∀ id j, (run registrations steps).job id = some j → j.attemptCount ≤ j.maxAttempts
  fenced : ∀ (done : List Step) s (rest : List Step) l, steps = done ++ s :: rest → s.op.lease = some l →
    run registrations (done ++ [s]) = run registrations done ∨
      (∃ j t, (run registrations done).job l.jobId = some j ∧ j.leaseOwner = some l.workerId ∧
        j.fencingToken = l.fencingToken ∧ j.leaseExpiresAt = some t ∧ s.now < t) ∧
      ∀ id, id ≠ l.jobId → (run registrations (done ++ [s])).job id = (run registrations done).job id
  bounded : ∀ workerId organizationId workspaceId r, registrations.lookup workerId = some r →
    ClaimsAs steps workerId organizationId workspaceId → steps.Pairwise (fun a b => a.now ≤ b.now) →
    ∀ t, (∀ s ∈ steps, s.now ≤ t) →
      ((run registrations steps).leases workerId t).length ≤ min r.maxConcurrency workerHardSafetyCap ∧
      ∀ j ∈ (run registrations steps).leases workerId t, Admitted registrations steps workerId j

end Middleware.Ai

/-
What one transaction may do to the journal (`Moves`), and what every transaction keeps of it: ids are unique, a row
that waits to be claimed has attempts left, a lease is younger than the claims before it, and the claim of a row is over
for good once the row is not held by it.
-/
import Middleware.Telephony.Dispatch

namespace Middleware.Telephony

open Ledger Lib

/-! ## The journal's invariant -/

/-- The states a row waits in until it is claimed. -/
def TelephonyCommandState.waiting (s : TelephonyCommandState) : Prop :=
  s ∈ [TelephonyCommandState.authorized, .failedTransient, .readbackPending]

structure Journal.WF (j : Journal) : Prop where
  ids : (j.rows.map (·.commandId)).Nodup
  issued : ∀ r ∈ j.rows, ∀ o, r.leaseOwner = some o → o < j.issued
  leased : ∀ r ∈ j.rows, r.state = .submitting → ∃ o, r.leaseOwner = some o
  waiting : ∀ r ∈ j.rows, r.state.waiting → r.attemptCount < maxAttempts

/-- The row of the claim is being submitted under the claim's lease. -/
def Holds (j : Journal) (c : Claim) : Prop := ∃ r ∈ j.rows, r.commandId = c.commandId ∧ r.heldBy c.owner = true

/-- The row is being submitted only under the claim's lease or a later one. -/
def Since (j : Journal) (c : Claim) : Prop :=
  c.owner < j.issued ∧
    ∀ r ∈ j.rows, r.commandId = c.commandId → r.state = .submitting → ∃ o, r.leaseOwner = some o ∧ c.owner ≤ o

/-- The row is being submitted only under a lease later than the claim's. -/
def Past (j : Journal) (c : Claim) : Prop :=
  c.owner < j.issued ∧
    ∀ r ∈ j.rows, r.commandId = c.commandId → r.state = .submitting → ∃ o, r.leaseOwner = some o ∧ c.owner < o

theorem heldBy_iff {r : JournalRow} {owner : Nat} :
    r.heldBy owner = true ↔ r.state = .submitting ∧ r.leaseOwner = some owner := by
  simp [JournalRow.heldBy]

variable {j j' : Journal} {c : Claim} {r : JournalRow}

theorem Since.past (h : Since j c) (hn : ¬Holds j c) : Past j c := by
  refine ⟨h.1, fun r hr hid hs => ?_⟩
  obtain ⟨o, ho, hle⟩ := h.2 r hr hid hs
  refine ⟨o, ho, ?_⟩
  have hne : o ≠ c.owner := by
    rintro rfl
    exact hn ⟨r, hr, hid, heldBy_iff.2 ⟨hs, ho⟩⟩
  omega

variable {id : Nat}

theorem row_mem (h : j.row id = some r) : r ∈ j.rows ∧ r.commandId = id :=
  ⟨List.mem_of_find?_eq_some h, key_of_find h⟩

theorem Journal.WF.row_of_mem (hw : j.WF) (hr : r ∈ j.rows) : j.row r.commandId = some r := find_of_mem hw.ids hr

theorem Journal.WF.row_of_holds (hw : j.WF) (h : Holds j c) : ∃ r, j.row c.commandId = some r ∧ r.heldBy c.owner = true := by
  obtain ⟨r, hr, hid, hheld⟩ := h
  exact ⟨r, hid ▸ hw.row_of_mem hr, hheld⟩

/-! ## Moves -/

/-- What a write under a lease may do to its row: renew the lease, or give it up and leave the row out of submission. -/
inductive Writes (r : JournalRow) : JournalRow → Prop
  | renewed {r'} (id : r'.commandId = r.commandId) (state : r'.state = r.state) (owner : r'.leaseOwner = r.leaseOwner)
      (attempts : r'.attemptCount = r.attemptCount) : Writes r r'
  | released {r'} (id : r'.commandId = r.commandId) (state : r'.state ≠ .submitting) (owner : r'.leaseOwner = none)
      (attempts : r'.attemptCount = r.attemptCount) (waiting : r'.state.waiting → r.attemptCount < maxAttempts) :
      Writes r r'

inductive Moves (j : Journal) : Journal → Prop
  | idle : Moves j j
  | insert (r : JournalRow) (fresh : j.row r.commandId = none)
      (state : r.state = .authorized ∨ r.state = .policyDenied) (owner : r.leaseOwner = none)
      (attempts : r.attemptCount = 0) : Moves j { j with rows := j.rows ++ [r] }
  | claim (environment : String) (now : Time) (locked : List Nat) (r : JournalRow)
      (selected : selectClaimable j environment now locked = some r) :
      Moves j { j.update r.commandId (·.claimed j.issued now) with issued := j.issued + 1 }
  | write (c : Claim) (r : JournalRow) (f : JournalRow → JournalRow) (operations : List OperationRow)
      (row : j.row c.commandId = some r) (held : r.heldBy c.owner = true) (ids : ∀ r, (f r).commandId = r.commandId)
      (writes : Writes r (f r))
      (kept : ∀ id, (j.operation id).isSome = true → (operations.find? fun o => decide (o.commandId = id)).isSome = true) :
      Moves j { j.update c.commandId f with operations := operations }

theorem renewed_writes (now : Time) : Writes r (r.renewed now) := .renewed rfl rfl rfl rfl

theorem failed_writes (exc : Raised) (now : Time) : Writes r (r.failed exc now) := by
  refine .released rfl ?_ rfl rfl ?_
  · simp only [JournalRow.failed]
    split <;> simp
  · -- a failure waits for another attempt only below the budget
    simp only [JournalRow.failed, TelephonyCommandState.waiting]
    intro h
    split at h
    · simp at h
    · rename_i hp
      simp only [Bool.or_eq_true, decide_eq_true_eq, not_or] at hp
      omega

theorem finalized_writes (matched : Bool) (now : Time) : Writes r (r.finalized (readbackState matched) now) := by
  refine .released rfl ?_ rfl rfl ?_ <;> cases matched <;>
    simp [JournalRow.finalized, readbackState, TelephonyCommandState.waiting]

theorem oldest_mem {rows : List JournalRow} (h : oldest rows = some r) : r ∈ rows := by
  induction rows generalizing r with
  | nil => cases h
  | cons r₀ rest ih =>
    unfold oldest at h
    split at h
    · cases h
      exact List.mem_cons_self
    · rename_i r' hr'
      split at h <;> cases h
      · exact List.mem_cons_of_mem _ (ih hr')
      · exact List.mem_cons_self

variable {now : Time} {environment : String}

theorem selected_mem {locked : List Nat}
    (h : selectClaimable j environment now locked = some r) : r ∈ j.rows ∧ claimable environment now r = true := by
  have hr := oldest_mem h
  simp only [List.mem_filter, Bool.and_eq_true] at hr
  exact ⟨hr.1, hr.2.1⟩

theorem claimable_state (h : claimable environment now r = true) :
    r.state.waiting ∨ r.state = .submitting := by
  simp only [claimable, Bool.and_eq_true, Bool.or_eq_true, beq_iff_eq, List.contains_iff_mem] at h
  rcases h.2 with h | h
  · exact .inl h.1
  · exact .inr h.1

/-! ## Every transaction is a move -/

theorem claimAuthorized_moves {locked : List Nat} :
    Moves j (claimAuthorized environment now locked j).2 := by
  unfold claimAuthorized
  split
  · exact .idle
  · rename_i r hr
    exact .claim environment now locked r hr

theorem insertCommand_moves (hs : r.state = .authorized ∨ r.state = .policyDenied) (ho : r.leaseOwner = none)
    (ha : r.attemptCount = 0) : Moves j (insertCommand r j).2 := by
  unfold insertCommand
  split
  · exact .idle
  · rename_i hr
    exact .insert r hr hs ho ha

theorem renewLease_moves : Moves j (renewLease c now j).2 := by
  unfold renewLease
  split
  · rename_i r hr
    split
    · rename_i hh
      exact .write c r (·.renewed now) j.operations hr hh (fun _ => rfl) (renewed_writes now) fun _ h => h
    · exact .idle
  · exact .idle

theorem recordFailure_moves {exc : Raised} : Moves j (recordFailure c exc now j).2 := by
  unfold recordFailure
  split
  · rename_i r hr
    split
    · rename_i hh
      exact .write c r (·.failed exc now) j.operations hr hh (fun _ => rfl) (failed_writes exc now) fun _ h => h
    · exact .idle
  · exact .idle

theorem persistSubmission_moves {command : TelephonyCommandRequest} {operation : Obj} :
    Moves j (persistSubmission c command operation now j).2 := by
  unfold persistSubmission
  split
  · exact .idle
  rename_i r hr
  split
  · exact .idle
  rename_i hh
  have hheld : r.heldBy c.owner = true := by simpa using hh
  split
  · exact .idle
  split
  · split
    · exact .idle
    · rename_i o ho
      refine .write c r (·.renewed now) (j.operations ++ [o]) hr hheld (fun _ => rfl) (renewed_writes now) fun id h => ?_
      rw [List.find?_append, Option.isSome_or]
      exact Bool.or_eq_true_iff.2 (.inl h)
  · split
    · exact .idle
    · exact .write c r (·.renewed now) j.operations hr hheld (fun _ => rfl) (renewed_writes now) fun _ h => h

theorem finalize_moves {matched : Bool} {readback : Obj} :
    Moves j (finalize c matched readback now j).2 := by
  unfold finalize
  split
  · rename_i r o hr ho
    split
    · exact .idle
    rename_i hh
    split
    · exact .idle
    rename_i o' ho'
    refine .write c r (·.finalized (readbackState matched) now) _ hr (by simpa using hh)
      (fun _ => rfl) (finalized_writes matched now) fun id h => ?_
    have hid : o'.commandId = o.commandId := by
      simp only [OperationRow.finalized, bind, Except.bind, pure, Except.pure] at ho'
      split at ho' <;> try cases ho'
      split at ho' <;> try cases ho'
      split at ho' <;> cases ho'
      rfl
    have hkey : ∀ p : OperationRow, p.commandId = c.commandId → o'.commandId = c.commandId := by
      intro p hp
      rw [hid, key_of_find ho]
    rw [find_map_at hkey, Option.isSome_map]
    exact h
  · exact .idle

/-- A transaction fails from outside and is rolled back, or it runs. -/
theorem transaction_cases {α : Type} (i : Input) (tx : Journal → Except Raised α × Journal) (j : Journal) :
    (∃ fault : Fault, i.transaction tx j = (.error fault.raised, j)) ∨ i.transaction tx j = tx j := by
  unfold Input.transaction
  split
  · exact .inl ⟨_, rfl⟩
  · exact .inr rfl

theorem transaction_moves {α : Type} {i : Input} {tx : Journal → Except Raised α × Journal} (h : Moves j (tx j).2) :
    Moves j (i.transaction tx j).2 := by
  rcases transaction_cases i tx j with ⟨fault, heq⟩ | heq
  · rw [heq]
    exact .idle
  · rw [heq]
    exact h

theorem exec_moves (lib : Library) (i : Input) (op : Call) (j : Journal) : Moves j (exec lib i op j).2 := by
  cases op with
  | now | locks | clientFactory c | dispatch c command | readback c command operation | cleanup c => exact .idle
  | load c now => exact transaction_moves .idle
  | claim environment now locked => exact transaction_moves claimAuthorized_moves
  | persist c command operation => exact transaction_moves persistSubmission_moves
  | recordFailure c exc => exact transaction_moves recordFailure_moves
  | finalize c matched readback => exact transaction_moves finalize_moves
  | beat c => exact transaction_moves renewLease_moves
  | insert id environment requestJson allowed now =>
    apply transaction_moves
    apply insertCommand_moves
    · cases allowed
      · exact .inr rfl
      · exact .inl rfl
    · rfl
    · rfl

/-! ## What a move keeps -/

theorem Writes.attempts {r r' : JournalRow} (h : Writes r r') : r'.attemptCount = r.attemptCount := by
  cases h <;> assumption

variable {f : JournalRow → JournalRow}

theorem mem_update (h : r ∈ (j.update id f).rows) :
    (r ∈ j.rows ∧ r.commandId ≠ id) ∨ ∃ r₀ ∈ j.rows, r₀.commandId = id ∧ r = f r₀ := by
  obtain ⟨r₀, hr₀, rfl⟩ := List.mem_map.1 h
  by_cases hid : r₀.commandId = id
  · exact .inr ⟨r₀, hr₀, hid, by rw [if_pos hid]⟩
  · rw [if_neg hid]
    exact .inl ⟨hr₀, hid⟩

theorem Journal.WF.unique (hw : j.WF) {r r₀ : JournalRow} (h : j.row id = some r) (hr₀ : r₀ ∈ j.rows)
    (hid : r₀.commandId = id) : r₀ = r := by
  have := hw.row_of_mem hr₀
  rw [hid, h] at this
  exact (Option.some.inj this).symm

theorem Moves.issued_le (h : Moves j j') : j.issued ≤ j'.issued := by
  cases h <;> simp [Journal.update]

theorem Moves.row_cases (hw : j.WF) (h : Moves j j') {r' : JournalRow} (hr' : r' ∈ j'.rows) :
    r' ∈ j.rows ∨
    ((r'.state = .authorized ∨ r'.state = .policyDenied) ∧ r'.leaseOwner = none ∧ r'.attemptCount = 0) ∨
    (∃ r ∈ j.rows, ∃ environment now locked, selectClaimable j environment now locked = some r ∧
      r' = r.claimed j.issued now ∧ j'.issued = j.issued + 1) ∨
    ∃ r ∈ j.rows, ∃ owner, r.heldBy owner = true ∧ Writes r r' := by
  cases h with
  | idle => exact .inl hr'
  | insert r hfresh hs ho ha =>
    rcases List.mem_append.1 hr' with hr' | hr'
    · exact .inl hr'
    · rw [List.mem_singleton] at hr'
      subst hr'
      exact .inr (.inl ⟨hs, ho, ha⟩)
  | claim environment now locked r hsel =>
    have hr := (selected_mem hsel).1
    rcases mem_update hr' with ⟨hr', -⟩ | ⟨r₀, hr₀, hid, rfl⟩
    · exact .inl hr'
    · have heq := hw.unique (hw.row_of_mem hr) hr₀ hid
      subst heq
      exact .inr (.inr (.inl ⟨r₀, hr₀, environment, now, locked, hsel, rfl, rfl⟩))
  | write c r f operations hrow hheld hids hwrites hkept =>
    rcases mem_update hr' with ⟨hr', -⟩ | ⟨r₀, hr₀, hid, rfl⟩
    · exact .inl hr'
    · have heq := hw.unique hrow hr₀ hid
      subst heq
      exact .inr (.inr (.inr ⟨r₀, hr₀, c.owner, hheld, hwrites⟩))

theorem update_ids (hf : ∀ r, (f r).commandId = r.commandId) :
    (j.update id f).rows.map (·.commandId) = j.rows.map (·.commandId) :=
  keys_map_at (fun r hr => (hf r).trans hr) j.rows

theorem Moves.ids (hw : j.WF) (h : Moves j j') : (j'.rows.map (·.commandId)).Nodup := by
  cases h with
  | idle => exact hw.ids
  | insert r hfresh hs ho ha => exact nodup_keys_append hw.ids hfresh
  | claim environment now locked r hsel =>
    have hids : (j.update r.commandId (·.claimed j.issued now)).rows.map (·.commandId) = j.rows.map (·.commandId) :=
      update_ids fun _ => rfl
    rw [hids]
    exact hw.ids
  | write c r f operations hrow hheld hids hwrites hkept =>
    have hids' : (j.update c.commandId f).rows.map (·.commandId) = j.rows.map (·.commandId) := update_ids hids
    rw [hids']
    exact hw.ids

theorem Moves.wf (hw : j.WF) (h : Moves j j') : j'.WF := by
  have hissued := h.issued_le
  refine ⟨h.ids hw, ?_, ?_, ?_⟩
  · intro r' hr' o ho
    rcases h.row_cases hw hr' with hr | ⟨-, hnone, -⟩ | ⟨r, hr, _, now, _, -, rfl, hnext⟩ | ⟨r, hr, owner, hheld, hwr⟩
    · have := hw.issued r' hr o ho
      omega
    · rw [hnone] at ho
      cases ho
    · cases ho
      omega
    · cases hwr with
      | renewed hid hs hown ha =>
        have := hw.issued r hr o (hown ▸ ho)
        omega
      | released hid hs hown ha hwait =>
        rw [hown] at ho
        cases ho
  · intro r' hr' hs'
    rcases h.row_cases hw hr' with hr | ⟨hs, -, -⟩ | ⟨r, hr, _, now, _, -, rfl, -⟩ | ⟨r, hr, owner, hheld, hwr⟩
    · exact hw.leased r' hr hs'
    · rw [hs'] at hs
      simp at hs
    · exact ⟨_, rfl⟩
    · cases hwr with
      | renewed hid hs hown ha => exact ⟨owner, hown.trans (heldBy_iff.1 hheld).2⟩
      | released hid hs hown ha hwait => exact absurd hs' hs
  · intro r' hr' hwait'
    rcases h.row_cases hw hr' with hr | ⟨-, -, ha⟩ | ⟨r, hr, _, now, _, -, rfl, -⟩ | ⟨r, hr, owner, hheld, hwr⟩
    · exact hw.waiting r' hr hwait'
    · rw [ha]
      decide
    · simp [JournalRow.claimed, TelephonyCommandState.waiting] at hwait'
    · cases hwr with
      | renewed hid hs hown ha =>
        rw [hs, (heldBy_iff.1 hheld).1] at hwait'
        simp [TelephonyCommandState.waiting] at hwait'
      | released hid hs hown ha hwait => exact ha ▸ hwait hwait'

/-- The lease of a submitting row stays as late as it has to be if every new lease is. -/
theorem Moves.lease_kept (hw : j.WF) (h : Moves j j') {P : Nat → Prop} (hnext : P j.issued)
    (hs : ∀ r ∈ j.rows, r.commandId = c.commandId → r.state = .submitting → ∃ o, r.leaseOwner = some o ∧ P o) :
    ∀ r ∈ j'.rows, r.commandId = c.commandId → r.state = .submitting → ∃ o, r.leaseOwner = some o ∧ P o := by
  intro r' hr' hid hsub
  rcases h.row_cases hw hr' with hr | ⟨hst, -, -⟩ | ⟨r, hr, _, now, _, -, rfl, -⟩ | ⟨r, hr, owner, hheld, hwr⟩
  · exact hs r' hr hid hsub
  · rw [hsub] at hst
    simp at hst
  · exact ⟨_, rfl, hnext⟩
  · cases hwr with
    | renewed hid' hst hown ha =>
      obtain ⟨o, ho, hlate⟩ := hs r hr (hid' ▸ hid) (hst ▸ hsub)
      exact ⟨o, hown.trans ho, hlate⟩
    | released hid' hst hown ha hwait => exact absurd hsub hst

/-- A claim makes its lease the row's; older claims of the row are over. -/
theorem Moves.since (hw : j.WF) (h : Moves j j') (hs : Since j c) : Since j' c :=
  ⟨Nat.lt_of_lt_of_le hs.1 h.issued_le, h.lease_kept hw (Nat.le_of_lt hs.1) hs.2⟩

theorem Moves.past (hw : j.WF) (h : Moves j j') (hs : Past j c) : Past j' c :=
  ⟨Nat.lt_of_lt_of_le hs.1 h.issued_le, h.lease_kept hw hs.1 hs.2⟩

theorem Moves.operation (h : Moves j j') (ho : (j.operation id).isSome = true) :
    (j'.operation id).isSome = true := by
  cases h with
  | idle | insert | claim => exact ho
  | write c r f operations hrow hheld hids hwrites hkept => exact hkept id ho

end Middleware.Telephony

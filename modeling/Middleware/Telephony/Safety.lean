/-
Safety of the journal over every run: only the owner of a row's latest claim changes it, an operation is inserted once
and keeps its id, a claim taken after the operation was stored dispatches nothing, and the last states of a row are
left by no transaction. `exec_row` and `exec_operation` say once which calls change a row and an operation; every part
is read off them along a legal log.
-/
import Middleware.Telephony.Poison

namespace Middleware.Telephony

open Ledger Lib

/-! ## Definitions -/

/-- The claim a write of a worker is made for. -/
def Call.writer : Call → Option Claim
  | .persist c .. | .recordFailure c _ | .finalize c .. | .beat c => some c
  | _ => none

/-- The claim an answered claim gave out. -/
def given : Answered → Option Claim
  | ⟨.claim _ _ _, .ok answer⟩ => answer
  | _ => none

def latestClaim (id : Nat) (log : List LogEntry) : Option Claim :=
  log.findSome? fun e => (given e.toEv).filter fun c => c.commandId == id

def TelephonyCommandState.last (s : TelephonyCommandState) : Prop :=
  s ∈ [TelephonyCommandState.odooResultPending, .reconciliationRequired, .failedPermanent]

/-- The answer of the adapter's readback that an operation row keeps. -/
structure ReadBack (log : List LogEntry) (id : Nat) (o : OperationRow) : Prop where
  state : o.state = .command .odooResultPending
  truthy : truthy o.readbackMatches = true
  answered : ∃ e ∈ log, ∃ c command operation d, e.toEv = ⟨.readback c command operation, .ok d⟩ ∧ c.commandId = id ∧
    d.lookup "readback_matches" = some o.readbackMatches ∧ d.lookup "actual_hash" = some o.actualHash ∧
    d.lookup "actual" = some o.responseJson

/-! ## What a call does to a row and to an operation -/

variable {now : Time} {command : TelephonyCommandRequest} {α : Type}

section Effects

variable {lib : Library} {i : Input} {j j' : Journal} {id : Nat} {r r' : JournalRow} {c : Claim}

/-- A write of the claim's row in the hands of its owner. -/
def Written (c : Claim) (id : Nat) (j : Journal) : Prop :=
  c.commandId = id ∧ ∃ r, j.row id = some r ∧ r.heldBy c.owner = true

theorem update_row (f : JournalRow → JournalRow) (hf : ∀ r, (f r).commandId = r.commandId) (hr : j.row c.commandId = some r)
    (hh : r.heldBy c.owner = true) (hrows : j'.rows = (j.update c.commandId f).rows) :
    j'.row id = j.row id ∨ Written c id j := by
  by_cases hid : id = c.commandId
  · subst hid
    exact .inr ⟨rfl, r, hr, hh⟩
  · left
    have h : j'.row id = (j.update c.commandId f).row id := by
      unfold Journal.row
      rw [hrows]
    rw [h, row_update fun r hr => (hf r).trans hr]
    simp [hid]

theorem persistSubmission_row {operation : Obj} :
    (persistSubmission c command operation now j).2.row id = j.row id ∨ Written c id j := by
  unfold persistSubmission
  split
  · exact .inl rfl
  rename_i r hr
  split
  · exact .inl rfl
  rename_i hh
  have hheld : r.heldBy c.owner = true := by simpa using hh
  have hwrite : ∀ {j' : Journal}, j'.rows = (j.update c.commandId (·.renewed now)).rows →
      j'.row id = j.row id ∨ Written c id j := fun h => update_row (·.renewed now) (fun _ => rfl) hr hheld h
  split
  · exact .inl rfl
  split
  · split
    · exact .inl rfl
    · exact hwrite rfl
  · split
    · exact .inl rfl
    · exact hwrite rfl

theorem recordFailure_row {exc : Raised} :
    (recordFailure c exc now j).2.row id = j.row id ∨ Written c id j := by
  unfold recordFailure
  split
  · rename_i r hr
    split
    · rename_i hh
      exact update_row (·.failed exc now) (fun _ => rfl) hr hh rfl
    · exact .inl rfl
  · exact .inl rfl

theorem renewLease_row : (renewLease c now j).2.row id = j.row id ∨ Written c id j := by
  unfold renewLease
  split
  · rename_i r hr
    split
    · rename_i hh
      exact update_row (·.renewed now) (fun _ => rfl) hr hh rfl
    · exact .inl rfl
  · exact .inl rfl

variable {matched : Bool}

theorem finalize_row {readback : Obj} :
    (finalize c matched readback now j).2.row id = j.row id ∨ Written c id j := by
  unfold finalize
  split
  · rename_i r o hr ho
    split
    · exact .inl rfl
    rename_i hh
    split
    · exact .inl rfl
    · exact update_row (·.finalized (readbackState matched) now) (fun _ => rfl) hr (by simpa using hh) rfl
  · exact .inl rfl

variable {tx : Journal → Except Raised α × Journal}

theorem transaction_row
    (h : (tx j).2.row id = j.row id ∨ Written c id j) : (i.transaction tx j).2.row id = j.row id ∨ Written c id j := by
  rcases transaction_cases i tx j with ⟨fault, heq⟩ | heq
  · rw [heq]
    exact .inl rfl
  · rw [heq]
    exact h

/-- A row of the journal is changed by a claim that takes it, or by a write of the claim that holds it. -/
theorem exec_row (op : Call) (hr : j.row id = some r) :
    (exec lib i op j).2.row id = some r ∨
    (∃ c, given ⟨op, (exec lib i op j).1⟩ = some c ∧ c.commandId = id) ∨
    ∃ c, op.writer = some c ∧ Written c id j := by
  have hwriter : ∀ {c : Claim} {row : Option JournalRow}, op.writer = some c →
      (row = j.row id ∨ Written c id j) → row = some r ∨ (∃ c, given ⟨op, (exec lib i op j).1⟩ = some c ∧
        c.commandId = id) ∨ ∃ c, op.writer = some c ∧ Written c id j := by
    rintro c row hc (h | h)
    · exact .inl (h.trans hr)
    · exact .inr (.inr ⟨c, hc, h⟩)
  cases op with
  | now | locks | clientFactory c | dispatch c command | readback c command operation | cleanup c => exact .inl hr
  | load c now =>
    left
    rcases transaction_cases i (fun j => (loadClaimed lib i.decisions c.commandId now j, j)) j with ⟨fault, h⟩ | h
    · rw [exec, h]
      exact hr
    · rw [exec, h]
      exact hr
  | persist c command operation => exact hwriter rfl (transaction_row persistSubmission_row)
  | recordFailure c exc => exact hwriter rfl (transaction_row recordFailure_row)
  | finalize c matched readback => exact hwriter rfl (transaction_row finalize_row)
  | beat c => exact hwriter rfl (transaction_row renewLease_row)
  | claim environment now locked =>
    rcases transaction_cases i (claimAuthorized environment now locked) j with ⟨fault, h⟩ | h
    · rw [exec, h]
      exact .inl hr
    rw [exec, h]
    unfold claimAuthorized
    split
    · exact .inl hr
    · rename_i r₀ hr₀
      by_cases hid : id = r₀.commandId
      · exact .inr (.inl ⟨⟨r₀.commandId, j.issued⟩, rfl, hid.symm⟩)
      · left
        show (j.update r₀.commandId (·.claimed j.issued now)).row id = some r
        rw [row_update (f := (·.claimed j.issued now)) fun _ hr => hr, hr]
        simp [hid]
  | insert id' environment requestJson allowed now =>
    left
    rcases transaction_cases i (insertCommand (newCommandRecord id' environment requestJson allowed now)) j with
      ⟨fault, h⟩ | h
    · rw [exec, h]
      exact hr
    rw [exec, h]
    unfold insertCommand
    split
    · exact hr
    · unfold Journal.row at hr ⊢
      rw [List.find?_append, hr]
      rfl

/-- An operation row a finalization wrote over another. -/
structure Finalization (c : Claim) (matched : Bool) (d : Obj) (o o' : OperationRow) : Prop where
  publicId : o'.operationPublicId = o.operationPublicId
  commandId : o'.commandId = o.commandId
  state : o'.state = .command (readbackState matched)
  readback : d.lookup "readback_matches" = some o'.readbackMatches
  actualHash : d.lookup "actual_hash" = some o'.actualHash
  actual : d.lookup "actual" = some o'.responseJson

theorem member_ok {d : Obj} {key : String} {v : Json} (h : member d key = .ok v) : d.lookup key = some v := by
  unfold member at h
  split at h
  · cases h
    assumption
  · cases h

theorem finalized_spec {o o' : OperationRow} {d : Obj}
    (h : o.finalized (readbackState matched) d now = .ok o') : Finalization c matched d o o' := by
  simp only [OperationRow.finalized, bind, Except.bind, pure, Except.pure] at h
  split at h <;> try cases h
  rename_i actualHash hhash
  split at h <;> try cases h
  rename_i readbackMatches hmatches
  split at h <;> cases h
  rename_i actual hactual
  exact ⟨rfl, rfl, rfl, member_ok hmatches, member_ok hhash, member_ok hactual⟩

/-- What a call does to the operations: nothing, insert the first one of a command, or finalize one. -/
inductive Operates (op : Call) (j : Journal) (j' : Journal) : Prop
  | kept (operations : j'.operations = j.operations)
  | persisted (c : Claim) (command : TelephonyCommandRequest) (operation : Obj) (o : OperationRow)
      (call : op = .persist c command operation) (written : Written c c.commandId j)
      (fresh : j.operation c.commandId = none) (id : o.commandId = c.commandId)
      (operations : j'.operations = j.operations ++ [o])
  | finalized (c : Claim) (matched : Bool) (d : Obj) (o o' : OperationRow) (call : op = .finalize c matched d)
      (written : Written c c.commandId j) (found : j.operation c.commandId = some o)
      (finalization : Finalization c matched d o o')
      (operations : j'.operations = j.operations.map fun p => if p.commandId = c.commandId then o' else p)

variable {op : Call}

theorem transaction_operates
    (h : Operates op j (tx j).2) : Operates op j (i.transaction tx j).2 := by
  rcases transaction_cases i tx j with ⟨fault, heq⟩ | heq
  · rw [heq]
    exact .kept rfl
  · rw [heq]
    exact h

theorem exec_operates (op : Call) : Operates op j (exec lib i op j).2 := by
  cases op with
  | now | locks | clientFactory c | dispatch c command | readback c command operation | cleanup c => exact .kept rfl
  | load c now => exact transaction_operates (.kept rfl)
  | claim environment now locked =>
    apply transaction_operates
    unfold claimAuthorized
    split <;> exact .kept rfl
  | recordFailure c exc =>
    apply transaction_operates
    unfold recordFailure
    repeat' split
    all_goals exact .kept rfl
  | beat c =>
    apply transaction_operates
    unfold renewLease
    repeat' split
    all_goals exact .kept rfl
  | insert id environment requestJson allowed now =>
    apply transaction_operates
    unfold insertCommand
    split <;> exact .kept rfl
  | persist c command operation =>
    apply transaction_operates
    unfold persistSubmission
    split
    · exact .kept rfl
    rename_i r hr
    split
    · exact .kept rfl
    rename_i hh
    split
    · exact .kept rfl
    split
    · rename_i hfresh
      split
      · exact .kept rfl
      · rename_i o ho
        exact .persisted c command operation o rfl ⟨rfl, r, hr, by simpa using hh⟩ hfresh (submittedOperation_id ho) rfl
    · split <;> exact .kept rfl
  | finalize c matched readback =>
    apply transaction_operates
    unfold finalize
    split
    · rename_i r o hr ho
      split
      · exact .kept rfl
      rename_i hh
      split
      · exact .kept rfl
      · rename_i o' ho'
        exact .finalized c matched readback o o' rfl ⟨rfl, r, hr, by simpa using hh⟩ ho (finalized_spec ho') rfl
    · exact .kept rfl

theorem Operates.operation {o : OperationRow} (h : Operates op j j') (ho : j.operation id = some o) :
    j'.operation id = some o ∨ ∃ c matched d o', op = .finalize c matched d ∧ Written c id j ∧
      j'.operation id = some o' ∧ Finalization c matched d o o' := by
  unfold Journal.operation at ho ⊢
  cases h with
  | kept operations =>
    rw [operations]
    exact .inl ho
  | persisted c command operation o₁ call written fresh hid operations =>
    rw [operations, List.find?_append, ho]
    exact .inl rfl
  | finalized c matched d o₁ o' call written found finalization operations =>
    have hkey : ∀ p : OperationRow, p.commandId = c.commandId → o'.commandId = c.commandId := by
      intro p hp
      rw [finalization.commandId, key_of_find found]
    rw [operations, find_map_at hkey, ho]
    by_cases hid : id = c.commandId
    · subst hid
      cases found.symm.trans ho
      refine .inr ⟨c, matched, d, o', call, written, by simp, finalization⟩
    · simp [hid]

theorem Operates.nodup (h : Operates op j j') (hn : (j.operations.map (·.commandId)).Nodup) :
    (j'.operations.map (·.commandId)).Nodup := by
  cases h with
  | kept operations => rwa [operations]
  | persisted c command operation o call written fresh hid operations =>
    rw [operations]
    apply nodup_keys_append hn
    rw [hid]
    exact fresh
  | finalized c matched d o o' call written found finalization operations =>
    have hkey : ∀ p : OperationRow, p.commandId = c.commandId → o'.commandId = c.commandId := by
      intro p hp
      rw [finalization.commandId, key_of_find found]
    rw [operations, keys_map_at hkey]
    exact hn

theorem mem_written {f : JournalRow → JournalRow} (hw : j.WF) (hr : j.row id = some r)
    (hr' : r' ∈ (j.update id f).rows) : r' ∈ j.rows ∨ r' = f r := by
  rcases mem_update hr' with ⟨hr', -⟩ | ⟨r₀, hr₀, hid, rfl⟩
  · exact .inl hr'
  · rw [hw.unique hr hr₀ hid]
    exact .inr rfl

theorem finalize_pending {d : Obj} (hw : j.WF)
    (hr' : r' ∈ (finalize c matched d now j).2.rows) (hs : r'.state = .odooResultPending) :
    r' ∈ j.rows ∨ matched = true ∧ c.commandId = r'.commandId ∧ ∃ o o',
      (finalize c matched d now j).2.operation r'.commandId = some o' ∧ Finalization c matched d o o' := by
  revert hr'
  unfold finalize
  split
  · rename_i r o hr ho
    split
    · exact .inl
    split
    · exact .inl
    rename_i o' ho'
    intro hr'
    rcases mem_written (f := (·.finalized (readbackState matched) now)) hw hr hr' with hr' | rfl
    · exact .inl hr'
    right
    have hmatched : matched = true := by
      cases matched
      · cases hs
      · rfl
    have hid : c.commandId = r.commandId := (row_mem hr).2.symm
    have hspec : Finalization c matched d o o' := finalized_spec ho'
    refine ⟨hmatched, hid, o, o', ?_, hspec⟩
    have hkey : ∀ p : OperationRow, p.commandId = c.commandId → o'.commandId = c.commandId := by
      intro p hp
      rw [hspec.commandId, key_of_find ho]
    show (j.operations.map fun p => if p.commandId = c.commandId then o' else p).find?
      (fun p => decide (p.commandId = r.commandId)) = some o'
    rw [find_map_at hkey, ← hid]
    unfold Journal.operation at ho
    simp [ho]
  · exact .inl

/-- A row comes to wait for the Odoo result by a finalization only. -/
theorem exec_pending (hw : j.WF) (op : Call) (hr' : r' ∈ (exec lib i op j).2.rows)
    (hs : r'.state = .odooResultPending) :
    r' ∈ j.rows ∨ ∃ c d o o', op = .finalize c true d ∧ c.commandId = r'.commandId ∧
      (exec lib i op j).2.operation r'.commandId = some o' ∧ Finalization c true d o o' := by
  have hrun : ∀ {α : Type} {tx : Journal → Except Raised α × Journal}, r' ∈ (i.transaction tx j).2.rows →
      (r' ∈ (tx j).2.rows → r' ∈ j.rows) → r' ∈ j.rows := by
    intro α tx h ht
    rcases transaction_cases i tx j with ⟨fault, heq⟩ | heq
    · rwa [heq] at h
    · exact ht (heq ▸ h)
  have hheld : ∀ {r : JournalRow} {owner : Nat} {now : Time}, r.heldBy owner = true → r' = r.renewed now →
      r' ∈ j.rows := by
    rintro r owner now hh rfl
    have hsub : (r.renewed now).state = .submitting := (heldBy_iff.1 hh).1
    rw [hsub] at hs
    cases hs
  cases op with
  | now | locks | clientFactory c | dispatch c command | readback c command operation | cleanup c => exact .inl hr'
  | load c now =>
    left
    exact hrun hr' id
  | claim environment now locked =>
    left
    refine hrun hr' fun h => ?_
    unfold claimAuthorized at h
    split at h
    · exact h
    · rcases mem_update h with ⟨h, -⟩ | ⟨r₀, -, -, rfl⟩
      · exact h
      · cases hs
  | insert id environment requestJson allowed now =>
    left
    refine hrun hr' fun h => ?_
    unfold insertCommand at h
    split at h
    · exact h
    · rcases List.mem_append.1 h with h | h
      · exact h
      · rw [List.mem_singleton] at h
        subst h
        cases allowed <;> cases hs
  | beat c =>
    left
    refine hrun hr' fun h => ?_
    unfold renewLease at h
    split at h
    · rename_i r hr
      split at h
      · rename_i hh
        rcases mem_written (f := (·.renewed i.now)) hw hr h with h | h
        · exact h
        · exact hheld hh h
      · exact h
    · exact h
  | recordFailure c exc =>
    left
    refine hrun hr' fun h => ?_
    unfold recordFailure at h
    split at h
    · rename_i r hr
      split at h
      · rcases mem_written (f := (·.failed exc i.now)) hw hr h with h | rfl
        · exact h
        · simp only [JournalRow.failed] at hs
          split at hs <;> cases hs
      · exact h
    · exact h
  | persist c command operation =>
    left
    refine hrun hr' fun h => ?_
    unfold persistSubmission at h
    split at h
    · exact h
    rename_i r hr
    split at h
    · exact h
    rename_i hh
    have hh' : r.heldBy c.owner = true := by simpa using hh
    have hwritten : r' ∈ (j.update c.commandId (·.renewed i.now)).rows → r' ∈ j.rows := by
      intro h
      rcases mem_written (f := (·.renewed i.now)) hw hr h with h | h
      · exact h
      · exact hheld hh' h
    split at h
    · exact h
    split at h
    · split at h
      · exact h
      · exact hwritten h
    · split at h
      · exact h
      · exact hwritten h
  | finalize c matched d =>
    rcases transaction_cases i (finalize c matched d i.now) j with ⟨fault, heq⟩ | heq
    · rw [exec, heq] at hr'
      exact .inl hr'
    · rw [exec, heq] at hr' ⊢
      rcases finalize_pending hw hr' hs with h | ⟨rfl, hid, o, o', ho', hspec⟩
      · exact .inl h
      · exact .inr ⟨c, d, o, o', rfl, hid, ho', hspec⟩

/-- A row in a last state is in no transaction's reach. -/
theorem Moves.last (hw : j.WF) (h : Moves j j') (hr : r ∈ j.rows) (hs : r.state.last) : r ∈ j'.rows := by
  have hkept : ∀ {id : Nat} {f : JournalRow → JournalRow}, r.commandId ≠ id → r ∈ (j.update id f).rows := by
    intro id f hid
    exact List.mem_map.2 ⟨r, hr, by rw [if_neg hid]⟩
  cases h with
  | idle => exact hr
  | insert r₀ hfresh hst ho ha => exact List.mem_append_left _ hr
  | claim environment now locked r₀ hsel =>
    apply hkept
    intro hid
    obtain ⟨hr₀, hcl⟩ := selected_mem hsel
    have heq := hw.unique (hw.row_of_mem hr₀) hr hid
    subst heq
    rcases claimable_state hcl with hwait | hsub
    · simp only [TelephonyCommandState.waiting, TelephonyCommandState.last, List.mem_cons, List.not_mem_nil,
        or_false] at hwait hs
      rcases hwait with hwait | hwait | hwait <;> rw [hwait] at hs <;> simp at hs
    · rw [hsub] at hs
      simp [TelephonyCommandState.last] at hs
  | write c r₀ f operations hrow hheld hids hwrites hkeep =>
    apply hkept
    intro hid
    have heq := hw.unique hrow hr hid
    subst heq
    rw [(heldBy_iff.1 hheld).1] at hs
    simp [TelephonyCommandState.last] at hs

theorem load_none {loaded : Loaded} (h : exec lib i (.load c now) j = (.ok loaded, j'))
    (hn : loaded.operation = none) : j.operation c.commandId = none := by
  have hload := congrArg Prod.fst (transaction_ran h id)
  unfold loadClaimed at hload
  cases hop : j.operation c.commandId with
  | none => rfl
  | some existing =>
    simp only [hop] at hload
    repeat' split at hload
    all_goals cases hload
    cases hn

theorem given_isClaim {v : Answered} (h : v.op.isClaim = false) : given v = none := by
  obtain ⟨op, reply⟩ := v
  cases op <;> first | rfl | cases h

theorem exec_owner (hw : j.WF) (op : Call) {owner : Nat} (hr' : r' ∈ (exec lib i op j).2.rows)
    (ho : r'.leaseOwner = some owner) :
    given ⟨op, (exec lib i op j).1⟩ = some ⟨r'.commandId, owner⟩ ∨
    (∃ r ∈ j.rows, r.commandId = r'.commandId ∧ r.leaseOwner = some owner) ∧
      ∀ c, given ⟨op, (exec lib i op j).1⟩ = some c → c.commandId ≠ r'.commandId := by
  by_cases hop : op.isClaim = true
  · cases op <;> try cases hop
    rename_i environment now locked
    rcases transaction_cases i (claimAuthorized environment now locked) j with ⟨fault, h⟩ | h
    · rw [exec, h] at hr' ⊢
      exact .inr ⟨⟨r', hr', rfl, ho⟩, by simp [given]⟩
    rw [exec, h] at hr' ⊢
    unfold claimAuthorized at hr' ⊢
    split at hr'
    · exact .inr ⟨⟨r', hr', rfl, ho⟩, by simp [given]⟩
    · rename_i r₀ hsel
      rcases mem_update hr' with ⟨hr', hid⟩ | ⟨r₁, -, hid, rfl⟩
      · refine .inr ⟨⟨r', hr', rfl, ho⟩, ?_⟩
        rintro c ⟨⟩
        exact Ne.symm hid
      · cases ho
        left
        show some (Claim.mk r₀.commandId j.issued) = some ⟨r₁.commandId, j.issued⟩
        rw [hid]
  · have hop' : op.isClaim = false := by simpa using hop
    have hissued : (exec lib i op j).2.issued = j.issued := exec_issued op hop'
    rw [given_isClaim hop']
    refine .inr ⟨?_, by simp⟩
    rcases (exec_moves lib i op j).row_cases hw hr' with hr | ⟨-, hnone, -⟩ | ⟨r, hr, _, now, _, -, rfl, hnext⟩ |
      ⟨r, hr, owner', hheld, hwr⟩
    · exact ⟨r', hr, rfl, ho⟩
    · rw [hnone] at ho
      cases ho
    · omega
    · cases hwr with
      | renewed hid hst hown ha => exact ⟨r, hr, hid.symm, hown ▸ ho⟩
      | released hid hst hown ha hwait =>
        rw [hown] at ho
        cases ho

end Effects

/-! ## What the calls of a run say about each other -/

/-- What `dispatch_one` promises, whatever is answered: it claims once, loads what it claimed, dispatches only what it
loaded without an operation, and finalizes by the outcome of its readback. -/
def answering : System.Discipline Call.Answer Raised Job where
  rely _ _ := True
  call _ h
    | .claim .. => ∀ c, ¬Claimed h c
    | .load c _ => Claimed h c
    | .dispatch c _ => ∃ now loaded, ⟨.load c now, .ok loaded⟩ ∈ h ∧ loaded.operation = none
    | .finalize c matched d => (∃ command operation, ⟨.readback c command operation, .ok d⟩ ∈ h) ∧
        ∃ v, d.lookup "readback_matches" = some v ∧ truthy v = matched
    | _ => True
  done _ _ := True

section Answering

variable {lib : Library} {c : Claim} {h : List Answered} {loaded : Loaded} {j : Job}

abbrev Answers {α : Type} (j : Job) (p : Coro α) (h : List Answered) (Q : List Answered → α → Prop) : Prop :=
  p.wp answering.rely (answering.call j) h Q fun _ _ => True

theorem raise_answers {x : Except Raised α} {Q : List Answered → α → Prop}
    (hx : ∀ a, x = .ok a → Q h a) : Answers j (raise x) h Q := by
  cases x with
  | ok a => exact hx a rfl
  | error e => trivial

theorem operationOf_answers (hl : ⟨.load c now, .ok loaded⟩ ∈ h) :
    Answers j (operationOf lib c loaded) h fun _ _ => True := by
  unfold operationOf
  split
  · trivial
  · rename_i hnone
    simp only [Answers, ask, Prog.wp_bind, Prog.wp_ask]
    refine ⟨trivial, fun t _ => raise_answers fun _ _ => ?_, fun _ _ => trivial⟩
    refine ⟨⟨now, loaded, List.mem_cons_of_mem _ hl, hnone⟩, fun operation _ => ?_, fun _ _ => trivial⟩
    exact ⟨trivial, fun _ _ => trivial, fun _ _ => trivial⟩

theorem submitAndRead_answers (hl : ⟨.load c now, .ok loaded⟩ ∈ h) :
    Answers j (submitAndRead lib c loaded) h fun h d =>
      ∃ command operation, ⟨.readback c command operation, .ok d.2⟩ ∈ h := by
  unfold submitAndRead
  simp only [Answers, Prog.wp_bind]
  refine Prog.wp_mono (fun _ _ hG => hG) ?_ (fun _ _ _ => trivial) _ _ (operationOf_answers hl)
  intro h' operation _
  simp only [ask, Prog.wp_ask, Prog.wp_pure]
  exact ⟨trivial, fun d _ => ⟨loaded.command, operation, List.mem_cons_self⟩, fun _ _ => trivial⟩

theorem dispatchClaimed_answers (hc : Claimed h c) : Answers j (dispatchClaimed lib c) h fun _ _ => True := by
  unfold dispatchClaimed
  simp only [Answers, ask, Prog.wp_bind, Prog.wp_ask]
  refine ⟨trivial, fun now _ => ⟨hc.cons, fun loaded _ => ?_, fun _ _ => trivial⟩, fun _ _ => trivial⟩
  refine ⟨trivial, fun _ _ => ?_, fun _ _ => trivial⟩
  have hload : ⟨.load c now, .ok loaded⟩ ∈ (⟨.clientFactory c, .ok ()⟩ :: ⟨.load c now, .ok loaded⟩ :: ⟨.now, .ok now⟩ :: h : List Answered) := by
    simp
  simp only [ensuring, Prog.wp_bind, Prog.wp_tryCatch]
  refine Prog.wp_mono (fun _ _ hG => hG) ?_ ?_ _ _ (submitAndRead_answers hload)
  · rintro h' ⟨operation, readback⟩ ⟨command, operation', hread⟩
    simp only [Prog.wp_ask, Prog.wp_pure]
    refine ⟨trivial, fun _ _ => raise_answers fun v hv => ?_, fun _ _ => trivial⟩
    refine ⟨⟨⟨command, operation', List.mem_cons_of_mem _ hread⟩, v, member_ok hv, rfl⟩, fun _ _ => ?_, fun _ _ => trivial⟩
    exact raise_answers fun _ _ => trivial
  · intro h' exc _
    split
    · simp only [Prog.wp_bind, Prog.wp_ask, Prog.wp_throw]
      exact ⟨trivial, fun _ _ => ⟨trivial, fun _ _ => trivial, fun _ _ => trivial⟩,
        fun _ _ => ⟨trivial, fun _ _ => trivial, fun _ _ => trivial⟩⟩
    · simp only [Prog.wp_ask, Prog.wp_throw]
      exact ⟨trivial, fun _ _ => trivial, fun _ _ => trivial⟩

theorem answering_obeys (j : Job) : System.Obeys answering j (j.coroutine lib) [] := by
  cases j with
  | dispatchOne environment =>
    simp only [System.Obeys, Job.coroutine, Prog.wp_discard, Telephony.dispatchOne, ask, Prog.wp_bind, Prog.wp_ask]
    refine ⟨trivial, fun now _ => ⟨trivial, fun locked _ => ⟨?_, fun found _ => ?_, fun _ _ => trivial⟩,
      fun _ _ => trivial⟩, fun _ _ => trivial⟩
    · rintro c ⟨environment', now', locked', hm⟩
      simp at hm
    · cases found with
      | none => trivial
      | some c =>
        rw [Prog.wp_map]
        exact dispatchClaimed_answers ⟨environment, now, locked, List.mem_cons_self⟩
  | heartbeat c =>
    simp only [System.Obeys, Job.coroutine, Prog.wp_discard, ask, Prog.wp_ask]
    exact ⟨trivial, fun _ _ => trivial, fun _ _ => trivial⟩
  | create commandId environment requestJson allowed now =>
    simp only [System.Obeys, Job.coroutine, ask, Prog.wp_ask]
    exact ⟨trivial, fun _ _ => trivial, fun _ _ => trivial⟩

end Answering

/-! ## Every run -/

/-- The entry changes a row only by claiming it, or as a write of the command's latest claim, made by the process that
got the claim or by a beat of its heartbeat. -/
def OwnerWrites (older : List LogEntry) (e : LogEntry) : Prop :=
  ∀ id r, e.before.row id = some r → e.after.row id = some r ∨
    (∃ c, given e.toEv = some c ∧ c.commandId = id) ∨
    ∃ c, e.op.writer = some c ∧ c.commandId = id ∧ latestClaim id older = some c ∧
      (e.op = .beat c ∨ Claimed (hist older e.pid) c)

/-- The operations are of different commands, and none changes its id. -/
def OperationsKept (e : LogEntry) : Prop :=
  (e.after.operations.map (·.commandId)).Nodup ∧ ∀ id o, e.before.operation id = some o →
    ∃ o', e.after.operation id = some o' ∧ o'.operationPublicId = o.operationPublicId

section Runs

variable {lib : Library} {jobs : List Job} {log newer older : List LogEntry} {e : LogEntry} {s : Journal} {c : Claim}

abbrev LegalAnswers (lib : Library) (jobs : List Job) (log : List LogEntry) (s : Journal) : Prop :=
  (telephony lib).Legal Journal.WF answering {} jobs log s

theorem run_answers (lib : Library) (actions : List Step) :
    (telephony lib).Good Journal.WF answering {} (run lib actions) :=
  System.run_good ⟨fun i op _ hw => (exec_moves lib i op _).wf hw, fun _ _ _ _ => trivial⟩ answering_obeys
    ⟨by simp, by simp, by simp, by simp⟩ actions

theorem latest_owner : ∀ {log : List LogEntry} {s : Journal}, Legal lib jobs log s → ∀ r ∈ s.rows, ∀ owner,
    r.leaseOwner = some owner → latestClaim r.commandId log = some ⟨r.commandId, owner⟩
  | [], s, hl => by
    have hs : s = {} := hl.chain
    subst hs
    simp
  | e :: log, s, hl => by
    have hl' : Legal lib jobs ([] ++ e :: log) s := hl
    obtain ⟨hw, i, hi⟩ := legal_exec hl List.mem_cons_self
    have hs : e.after = s := hl.chain.1
    intro r hr owner ho
    have h : r ∈ (exec lib i e.op e.before).2.rows → r.leaseOwner = some owner → _ := exec_owner hw e.op
    rw [hi] at h
    rw [← hs] at hr
    unfold latestClaim
    rw [List.findSome?_cons]
    rcases h hr ho with h | ⟨⟨r₀, hr₀, hid, ho₀⟩, hne⟩
    · have hgiven : given e.toEv = some ⟨r.commandId, owner⟩ := h
      simp [hgiven, Option.filter]
    · have hnone : ((given e.toEv).filter fun c => c.commandId == r.commandId) = none := by
        cases hg : given e.toEv with
        | none => rfl
        | some c => simpa [Option.filter] using hne c hg
      rw [hnone, ← hid]
      exact latest_owner hl'.split.2 r₀ hr₀ owner ho₀

theorem owner_writes (hl : Legal lib jobs (newer ++ e :: older) s) : OwnerWrites older e := by
  obtain ⟨hlaw, hbefore⟩ := hl.split
  obtain ⟨-, i, hi⟩ := legal_exec hl (e := e) (by simp)
  intro id r hr
  have h : (exec lib i e.op e.before).2.row id = some r ∨ _ ∨ _ := exec_row e.op hr
  rw [hi] at h
  rcases h with h | h | ⟨c, hc, hid, r', hr', hheld⟩
  · exact .inl h
  · exact .inr (.inl h)
  · cases hr.symm.trans hr'
    obtain ⟨hmem, hid'⟩ := row_mem hr
    have hlatest := latest_owner hbefore r hmem c.owner (heldBy_iff.1 hheld).2
    refine .inr (.inr ⟨c, hc, hid, ?_, ?_⟩)
    · rw [hid'] at hlatest
      rw [hlatest, ← hid]
    · obtain ⟨j, -, hclaimed, -⟩ := hlaw.job
      cases hop : e.op <;> rw [hop] at hc hclaimed <;> cases hc
      · exact .inr (hclaimed _ rfl)
      · exact .inr (hclaimed _ rfl)
      · exact .inr (hclaimed _ rfl)
      · exact .inl rfl

theorem operations_kept (hl : Legal lib jobs log s) (he : e ∈ log) : OperationsKept e := by
  have hstep : ∀ e ∈ log, Operates e.op e.before e.after := by
    intro e he
    obtain ⟨-, i, hi⟩ := legal_exec hl he
    have h : Operates e.op e.before (exec lib i e.op e.before).2 := exec_operates e.op
    rwa [hi] at h
  have hnodup := (System.Chain.stays (P := fun j : Journal => (j.operations.map (·.commandId)).Nodup) hl.chain
    List.nodup_nil fun e he hn => (hstep e he).nodup hn).2 e he
  refine ⟨hnodup.2, fun id o ho => ?_⟩
  rcases (hstep e he).operation ho with h | ⟨c, matched, d, o', -, -, h, hspec⟩
  · exact ⟨o, h, rfl⟩
  · exact ⟨o', h, hspec.publicId⟩

theorem dispatches_nothing (hl : Legal lib jobs (newer ++ e :: older) s)
    (ha : LegalAnswers lib jobs (newer ++ e :: older) s) (hc : given e.toEv = some c)
    (ho : (e.before.operation c.commandId).isSome = true) {e' : LogEntry} (he' : e' ∈ newer) (hpid : e'.pid = e.pid)
    {c' : Claim} (hop : e'.op = .dispatch c' command) :
    c'.commandId ≠ c.commandId := by
  intro hid
  have hclaim : ∀ c, ¬Claimed (hist older e.pid) c := by
    obtain ⟨j, -, hcall⟩ := ha.split.1.job
    obtain ⟨⟨op, reply⟩, pid, before, after⟩ := e
    cases op <;> first | cases hc | exact hcall
  obtain ⟨newer₁, newer₂, rfl⟩ := List.append_of_mem he'
  have hlog : (newer₁ ++ e' :: newer₂) ++ e :: older = newer₁ ++ e' :: (newer₂ ++ e :: older) := by simp
  rw [hlog] at hl ha
  -- what it dispatches it loaded without an operation, and what it loaded it had claimed
  obtain ⟨j, -, hcall⟩ := ha.split.1.job
  rw [hop] at hcall
  obtain ⟨now, loaded, hload, hnone⟩ := hcall
  obtain ⟨l, hl₁, hlpid, hlev⟩ := mem_hist.1 hload
  have hlop : l.op = .load c' now := congrArg Ev.op hlev
  rcases List.mem_append.1 hl₁ with hl₁ | hl₁
  · obtain ⟨a, b, rfl⟩ := List.append_of_mem hl₁
    have hassoc : newer₁ ++ e' :: ((a ++ l :: b) ++ e :: older) = (newer₁ ++ e' :: a) ++ l :: (b ++ e :: older) := by simp
    rw [hassoc] at hl
    obtain ⟨hlaw, hlegal⟩ := hl.split
    have hmove : ∀ e₁ ∈ b ++ e :: older, Moves e₁.before e₁.after := fun e₁ he₁ => (legal_moves hlegal he₁).2
    have hkept : (l.before.operation c.commandId).isSome = true :=
      (System.Chain.stays (P := fun j : Journal => (j.operation c.commandId).isSome = true)
        (System.Chain.split hlegal.chain).1 ((hmove e (by simp)).operation ho)
        fun e₁ he₁ h => (hmove e₁ (List.mem_append_left _ he₁)).operation h).1
    obtain ⟨i, hi⟩ := hlaw.exec
    obtain ⟨⟨op, reply⟩, pid, before, after⟩ := l
    cases hlev
    rw [← hid, load_none hi hnone] at hkept
    cases hkept
  · rcases List.mem_cons.1 hl₁ with rfl | hl₁
    · obtain ⟨⟨op, reply⟩, pid, before, after⟩ := l
      cases hlev
      cases hc
    · obtain ⟨a, b, rfl⟩ := List.append_of_mem hl₁
      have hassoc : newer₁ ++ e' :: (newer₂ ++ e :: (a ++ l :: b)) = (newer₁ ++ e' :: newer₂ ++ e :: a) ++ l :: b := by simp
      rw [hassoc] at ha
      obtain ⟨j', -, hclaimed⟩ := ha.split.1.job
      rw [hlop] at hclaimed
      obtain ⟨environment, now', locked, hm⟩ := hclaimed
      refine hclaim c' ⟨environment, now', locked, ?_⟩
      rw [hist_append, ← hpid, ← hlpid]
      apply List.mem_append_right
      obtain ⟨e₀, he₀, hp₀, hv₀⟩ := mem_hist.1 hm
      exact mem_hist.2 ⟨e₀, List.mem_cons_of_mem _ he₀, hp₀, hv₀⟩

theorem ReadBack.cons {id : Nat} {o : OperationRow} (h : ReadBack log id o) : ReadBack (e :: log) id o := by
  obtain ⟨e', he', hev⟩ := h.answered
  exact ⟨h.state, h.truthy, e', List.mem_cons_of_mem _ he', hev⟩

theorem pending_readback : ∀ {log : List LogEntry} {s : Journal}, Legal lib jobs log s → LegalAnswers lib jobs log s →
    ∀ r ∈ s.rows, r.state = .odooResultPending → ∃ o, s.operation r.commandId = some o ∧ ReadBack log r.commandId o
  | [], s, hl, _ => by
    have hs : s = {} := hl.chain
    subst hs
    simp
  | e :: log, s, hl, ha => by
    have hl' : Legal lib jobs ([] ++ e :: log) s := hl
    have ha' : LegalAnswers lib jobs ([] ++ e :: log) s := ha
    obtain ⟨hw, i, hi⟩ := legal_exec hl List.mem_cons_self
    have hs : e.after = s := hl.chain.1
    subst hs
    intro r hr hstate
    have hrow : r ∈ (exec lib i e.op e.before).2.rows → r.state = .odooResultPending → _ := exec_pending hw e.op
    have hops : Operates e.op e.before (exec lib i e.op e.before).2 := exec_operates e.op
    rw [hi] at hrow hops
    rcases hrow hr hstate with hr₀ | ⟨c, d, o, o', hop, hid, ho', hspec⟩
    · obtain ⟨o, ho, hread⟩ := pending_readback hl'.split.2 ha'.split.2 r hr₀ hstate
      rcases hops.operation ho with h | ⟨c, matched, d, o', -, ⟨-, r₁, hr₁, hheld⟩, -, -⟩
      · exact ⟨o, h, hread.cons⟩
      · -- the row is not being submitted
        have hrow := hw.row_of_mem hr₀
        cases hr₁.symm.trans hrow
        rw [(heldBy_iff.1 hheld).1] at hstate
        cases hstate
    · obtain ⟨j, -, hcall⟩ := ha'.split.1.job
      rw [hop] at hcall
      obtain ⟨⟨command, operation, hread⟩, v, hv, htrue⟩ := hcall
      obtain ⟨e', he', -, hev⟩ := mem_hist.1 hread
      cases hv.symm.trans hspec.readback
      exact ⟨o', ho', hspec.state, htrue, e', List.mem_cons_of_mem _ he', c, command, operation, d, hev, hid, hspec.readback,
        hspec.actualHash, hspec.actual⟩

/-- In every run of workers, heartbeats and arriving commands: a row is changed by its claims and by the owner of its
latest claim only; a command has one operation, whose id never changes; a process that claims a command with an
operation does not dispatch it; a row in a last state is not changed, and one that waits for the Odoo result has an
operation with a readback that matched. -/
theorem journal_safe (lib : Library) (actions : List Step) :
    (∀ newer e older, (run lib actions).log = newer ++ e :: older →
      OwnerWrites older e ∧
      ∀ c, given e.toEv = some c → (e.before.operation c.commandId).isSome = true →
        ∀ e' ∈ newer, e'.pid = e.pid → ∀ c' command, e'.op = .dispatch c' command → c'.commandId ≠ c.commandId) ∧
    (∀ e ∈ (run lib actions).log, OperationsKept e ∧ ∀ r ∈ e.before.rows, r.state.last → r ∈ e.after.rows) ∧
    ∀ r ∈ (run lib actions).shared.rows, r.state = .odooResultPending →
      ∃ o, (run lib actions).shared.operation r.commandId = some o ∧ ReadBack (run lib actions).log r.commandId o := by
  have hl := (run_good lib actions).legal
  have ha := (run_answers lib actions).legal
  refine ⟨?_, ?_, pending_readback hl ha⟩
  · intro newer e older hlog
    rw [hlog] at hl ha
    refine ⟨owner_writes hl, ?_⟩
    intro c hc ho e' he' hpid c' command hop
    exact dispatches_nothing hl ha hc ho he' hpid hop
  · intro e he
    refine ⟨operations_kept hl he, ?_⟩
    intro r hr hs
    obtain ⟨hw, hm⟩ := legal_moves hl he
    exact hm.last hw hr hs

end Runs

end Middleware.Telephony

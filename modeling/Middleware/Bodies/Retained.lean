/-
What is left on disk. A temporary file is left only by a process that was killed, or that failed to remove it; a body that
is recorded as pending and has no row is removed by a cleaner that is left alone; and in an orderly run every body has a
committed row or is recorded. In a run where a cleaner and a delivery of one body overlap a committed row loses its body.
-/
import Middleware.Lib.Alone
import Middleware.Bodies.Kept

namespace Middleware.Bodies

open Lib

/-! ## Temporary files -/

/-- The process holds the temporary file, or failed to remove it. -/
def Held (log : List LogEntry) (pid temporary : Nat) : Prop :=
  holding (hist log pid) = some temporary ∨ ∃ e, ⟨.unlinkTemporary temporary, .error e⟩ ∈ hist log pid

section Temporaries

variable {s : Store} {temporary : Nat}

/-- A temporary file that is there after a call is held by the process that made the call, or was there before; and
the process that held it before holds it still. -/
theorem held_step {j : Job} {h : List Answered} (i : Input) {op : Call} (hfollows : Follows j h op)
    (ht : temporary ∈ (exec i op s).2.temporaries) :
    holding (⟨op, (exec i op s).1⟩ :: h) = some temporary ∨ temporary ∈ s.temporaries ∧ (holding h = some temporary →
      holding (⟨op, (exec i op s).1⟩ :: h) = some temporary ∨
        ∃ e, ⟨.unlinkTemporary temporary, .error e⟩ ∈ (⟨op, (exec i op s).1⟩ :: h : List Answered)) := by
  -- what other calls leave alone
  have hattempt : ∀ {α : Type} (a : Except Failure α), temporary ∈ (i.attempt (fun s => (a, s)) s).2.temporaries →
      temporary ∈ s.temporaries := by
    intro α a h
    unfold Input.attempt at h
    split at h <;> exact h
  have hfile : ∀ f : Store → Store, (f s).temporaries = s.temporaries → temporary ∈ (i.file f s).2.temporaries →
      temporary ∈ s.temporaries := by
    intro f hf h
    rcases file_cases i f s with ⟨e, heq | heq⟩ | heq
    · rwa [heq] at h
    · rw [heq] at h
      rwa [← hf]
    · rw [heq] at h
      rwa [← hf]
  cases op with
  | time | verify d => exact .inr ⟨ht, .inl⟩
  | glob | read file | bodyExists r | referenceState record => exact .inr ⟨hattempt _ ht, .inl⟩
  | writePending record | unlinkPending r | writeTemporary t r | remove r => exact .inr ⟨hfile _ rfl ht, .inl⟩
  | persistVerified d =>
    refine .inr ⟨?_, .inl⟩
    have hrun : (persistVerifiedWebhook d i.uuid s).2.temporaries = s.temporaries := by
      rcases persist_cases d i.uuid s with heq | ⟨heq, -⟩ | ⟨a, keys, rows, heq, -⟩ <;> rw [heq]
    simp only [exec, Input.perform] at ht
    split at ht
    · exact ht
    · rwa [hrun] at ht
    · rwa [hrun] at ht
  | mkstemp r =>
    simp only [exec, Input.attempt] at ht ⊢
    split at ht
    · exact .inr ⟨ht, .inl⟩
    · rcases List.mem_cons.1 ht with rfl | ht
      · exact .inl rfl
      · refine .inr ⟨ht, fun hh => ?_⟩
        rw [show holding h = none from hfollows] at hh
        cases hh
  | replace t r =>
    have hheld : holding h = some t := hfollows.1
    have hgone : temporary ∈ (replaceBody t r s).temporaries → temporary ∈ s.temporaries ∧ holding h ≠ some temporary := by
      intro h
      simp only [replaceBody, List.mem_filter, decide_eq_true_eq] at h
      refine ⟨h.1, fun hh => h.2 ?_⟩
      rw [hheld] at hh
      exact (Option.some.inj hh).symm
    right
    show temporary ∈ s.temporaries ∧ (_ → holding (⟨.replace t r, (i.file (replaceBody t r) s).1⟩ :: h) = _ ∨ _)
    have ht' : temporary ∈ (i.file (replaceBody t r) s).2.temporaries := ht
    rcases file_cases i (replaceBody t r) s with ⟨e, heq | heq⟩ | heq
    · rw [heq] at ht' ⊢
      exact ⟨ht', .inl⟩
    · rw [heq] at ht'
      exact ⟨(hgone ht').1, fun hh => absurd hh (hgone ht').2⟩
    · rw [heq] at ht'
      exact ⟨(hgone ht').1, fun hh => absurd hh (hgone ht').2⟩
  | unlinkTemporary t =>
    have hheld : holding h = some t := hfollows
    have hgone : temporary ∈ (unlinkTemporary t s).temporaries → temporary ∈ s.temporaries ∧ holding h ≠ some temporary := by
      intro h
      simp only [unlinkTemporary, List.mem_filter, decide_eq_true_eq] at h
      refine ⟨h.1, fun hh => h.2 ?_⟩
      rw [hheld] at hh
      exact (Option.some.inj hh).symm
    right
    show temporary ∈ s.temporaries ∧ (_ → _ ∨ ∃ e, _ ∈ (⟨.unlinkTemporary t, (i.file (unlinkTemporary t) s).1⟩ :: h : List Answered))
    have ht' : temporary ∈ (i.file (unlinkTemporary t) s).2.temporaries := ht
    rcases file_cases i (unlinkTemporary t) s with ⟨e, heq | heq⟩ | heq
    · rw [heq] at ht' ⊢
      refine ⟨ht', fun hh => .inr ⟨e.failure, ?_⟩⟩
      rw [hheld] at hh
      cases Option.some.inj hh
      exact List.mem_cons_self
    · rw [heq] at ht'
      exact ⟨(hgone ht').1, fun hh => absurd hh (hgone ht').2⟩
    · rw [heq] at ht'
      exact ⟨(hgone ht').1, fun hh => absurd hh (hgone ht').2⟩

theorem temporaries_held {jobs : List Job} : ∀ {log : List LogEntry} {s : Store},
    ingress.Legal (fun _ => True) promise {} jobs log s → ∀ t ∈ s.temporaries, ∃ pid, Held log pid t
  | [], s, hl, t, ht => by
    rw [show s = {} from hl.chain] at ht
    cases ht
  | e :: log, s, hl, t, ht => by
    obtain ⟨hlaw, hl'⟩ := @System.Legal.split _ _ _ _ _ _ _ _ _ _ _ _ _ [] log e hl
    obtain ⟨j, -, hfollows⟩ := hlaw.job
    obtain ⟨i, hexec⟩ := hlaw.exec
    have hafter : e.after = s := hl.chain.1
    have hexec' : exec i e.op e.before = (e.reply, e.after) := hexec
    have hstep := held_step i hfollows (show t ∈ (exec i e.op e.before).2.temporaries by rw [hexec', hafter]; exact ht)
    rw [hexec'] at hstep
    rcases hstep with hnew | ⟨hold, hkeep⟩
    · refine ⟨e.pid, .inl ?_⟩
      rw [hist_cons_self]
      exact hnew
    · obtain ⟨pid, hheld⟩ := temporaries_held hl' t hold
      refine ⟨pid, ?_⟩
      by_cases hpid : e.pid = pid
      · subst hpid
        rw [Held, hist_cons_self]
        rcases hheld with hheld | ⟨e', he'⟩
        · exact hkeep hheld
        · exact .inr ⟨e', List.mem_cons_of_mem _ he'⟩
      · rw [Held, hist_cons_ne e log hpid]
        exact hheld

end Temporaries

/-! ## A cleaner that is left alone -/

section Cleaner

variable {K : Delivery → Prop} {i : Input} {s : Store}

/-- What a cleaner leaves as it is, and the bodies it does not bring back. -/
structure Cleaned (s s' : Store) : Prop where
  inbox : s'.inbox = s.inbox
  bodies : ∀ r ∈ s'.bodies, r ∈ s.bodies

theorem discardPending_alone (hi : i.fault = none) (r : Reference) :
    (discardPending r).alone (exec i) s = (.ok (), unlinkPending r (removeBody r s)) := by
  have hremove : (ask (.remove r)).alone (exec i) s = (.ok (), removeBody r s) := by
    simp [ask, exec, Input.file, Input.perform, hi]
  unfold discardPending
  rw [Prog.alone_bind_ok hremove]
  simp [markAccepted, ask, exec, Input.file, Input.perform, hi]

theorem reconcileRecord_alone (hi : i.fault = none) (record : PendingBodyRecord) :
    ∃ count s', (reconcileRecord record).alone (exec i) s = (.ok count, s') ∧ Cleaned s s' ∧
      (¬Referenced s record.reference → record.reference ∉ s'.bodies) := by
  have hstate : (tryCatch (some <$> ask (.referenceState record)) fun _ => pure none : Coro (Option ReferenceState)).alone (exec i) s =
      (.ok (some (webhookBodyReferenceState record s)), s) := by
    apply Prog.alone_tryCatch_ok
    have hask : (ask (.referenceState record)).alone (exec i) s = (.ok (webhookBodyReferenceState record s), s) := by
      simp [ask, exec, Input.attempt, hi]
    exact Prog.alone_bind_ok hask
  unfold reconcileRecord
  rw [Prog.alone_bind_ok hstate]
  have hdiscarded : ∃ count s', (deferring Reconciled.remove (discardPending record.reference)).alone (exec i) s = (.ok count, s') ∧
      Cleaned s s' ∧ (¬Referenced s record.reference → record.reference ∉ s'.bodies) := by
    refine ⟨Reconciled.remove, unlinkPending record.reference (removeBody record.reference s), ?_, ⟨rfl, ?_⟩, ?_⟩
    · apply Prog.alone_tryCatch_ok
      rw [Prog.alone_bind_ok (discardPending_alone hi record.reference)]
      rfl
    · intro r hr
      exact List.mem_of_mem_filter hr
    · intro _ hr
      simp [unlinkPending, removeBody] at hr
  cases h : webhookBodyReferenceState record s with
  | accepted =>
    refine ⟨Reconciled.retain, unlinkPending record.reference s, ?_, ⟨rfl, fun _ hr => hr⟩, fun hnot => ?_⟩
    · have hmark : (markAccepted record.reference).alone (exec i) s = (.ok (), unlinkPending record.reference s) := by
        simp [markAccepted, ask, exec, Input.file, Input.perform, hi]
      apply Prog.alone_tryCatch_ok
      exact Prog.alone_bind_ok hmark
    · exact absurd (referenced_of_accepted h) hnot
  | rejected => exact hdiscarded
  | unreferenced => exact hdiscarded

theorem reconcileRecords_alone (hi : i.fault = none) (result : Reconciled) (records : List PendingBodyRecord) :
    ∃ result' s', (reconcileRecords result records).alone (exec i) s = (.ok result', s') ∧ Cleaned s s' ∧
      ∀ record ∈ records, ¬Referenced s record.reference → record.reference ∉ s'.bodies := by
  induction records generalizing result s with
  | nil => exact ⟨result, s, rfl, ⟨rfl, fun _ hr => hr⟩, by simp⟩
  | cons record records ih =>
    obtain ⟨count, s₁, hone, hcleaned, hgone⟩ := reconcileRecord_alone (s := s) hi record
    obtain ⟨result', s₂, hrest, hcleaned', hgone'⟩ := ih (count result) (s := s₁)
    refine ⟨result', s₂, ?_, ⟨hcleaned'.inbox.trans hcleaned.inbox, fun r hr => hcleaned.bodies r (hcleaned'.bodies r hr)⟩, ?_⟩
    · unfold reconcileRecords
      rw [Prog.alone_bind_ok hone]
      exact hrest
    · intro record' hrecord' hnot
      rcases List.mem_cons.1 hrecord' with rfl | hrecord'
      · exact fun hr => hgone hnot (hcleaned'.bodies _ hr)
      · apply hgone' record' hrecord'
        rintro ⟨row, hrow, href⟩
        rw [hcleaned.inbox] at hrow
        exact hnot ⟨row, hrow, href⟩

theorem readRecords_alone (hi : i.fault = none) (cutoff : Time) (files : List Reference) :
    ∃ a, (readRecords cutoff files).alone (exec i) s = (.ok a, s) ∧
      ∀ file ∈ files, ∀ record, readPending file s = some record → record.createdAt ≤ cutoff → record ∈ a.1 := by
  induction files with
  | nil => exact ⟨([], 0), rfl, by simp⟩
  | cons file files ih =>
    obtain ⟨⟨records, invalid⟩, hrest, hall⟩ := ih
    cases h : readPending file s with
    | none =>
      have hread : (some <$> ask (.read file) : Coro (Option PendingBodyRecord)).alone (exec i) s = (.error .os, s) := by
        apply Prog.alone_bind_error
        simp [ask, exec, Input.attempt, hi, h]
      refine ⟨(records, invalid + 1), ?_, ?_⟩
      · refine (Prog.alone_bind_ok (Prog.alone_tryCatch_error hread)).trans ?_
        exact Prog.alone_bind_ok hrest
      · intro file' hfile' record hrecord hmature
        rcases List.mem_cons.1 hfile' with rfl | hfile'
        · rw [h] at hrecord
          cases hrecord
        · exact hall file' hfile' record hrecord hmature
    | some found =>
      have hread : (ask (.read file)).alone (exec i) s = (.ok found, s) := by
        simp [ask, exec, Input.attempt, hi, h]
      refine ⟨(if found.createdAt ≤ cutoff then found :: records else records, invalid), ?_, ?_⟩
      · refine (Prog.alone_bind_ok (Prog.alone_tryCatch_ok (Prog.alone_bind_ok hread))).trans ?_
        exact Prog.alone_bind_ok hrest
      · intro file' hfile' record hrecord hmature
        rcases List.mem_cons.1 hfile' with rfl | hfile'
        · rw [h] at hrecord
          cases hrecord
          simp [hmature]
        · have := hall file' hfile' record hrecord hmature
          split
          · exact List.mem_cons_of_mem _ this
          · exact this

/-- A cleaner alone removes every recorded body without a row, once the record is mature. -/
theorem reconcilePendingBodies_alone (hK : Distinct K) (hs : Known K s) (hi : i.fault = none) {graceSeconds : Int}
    (hgrace : 0 ≤ graceSeconds) (hmature : ∀ record ∈ s.pending, record.createdAt ≤ i.now - graceSeconds) {r : Reference}
    (hr : Journaled s r) (hnot : ¬Referenced s r) :
    r ∉ ((reconcilePendingBodies graceSeconds none).alone (exec i) s).2.bodies := by
  obtain ⟨⟨records, invalid⟩, hread, hall⟩ := readRecords_alone (s := s) hi (i.now - graceSeconds) (globPending s)
  have hscan : (scanPendingRecords graceSeconds none).alone (exec i) s = (.ok (records, invalid), s) := by
    unfold scanPendingRecords
    rw [if_neg (by omega)]
    have htime : (ask .time).alone (exec i) s = (.ok i.now, s) := by simp [ask, exec]
    have hglob : (ask .glob).alone (exec i) s = (.ok (globPending s), s) := by simp [ask, exec, Input.attempt, hi]
    refine (Prog.alone_bind_ok htime).trans ?_
    exact (Prog.alone_bind_ok hglob).trans hread
  -- the record that is read at the reference's file is the reference's
  obtain ⟨record, hrecord, rfl⟩ := hr
  have hfile : record.reference ∈ globPending s := by
    simp only [globPending, List.mem_insertionSort, List.mem_map]
    exact ⟨record, hrecord, rfl⟩
  have hfound : ∃ found, readPending record.reference s = some found ∧ found ∈ s.pending ∧ found.reference = record.reference := by
    cases h : readPending record.reference s with
    | none =>
      have := List.find?_eq_none.1 h record hrecord
      simp at this
    | some found =>
      have hmem := List.mem_of_find?_eq_some h
      obtain ⟨d, hd, hof⟩ := hs.records record hrecord
      obtain ⟨d', hd', hof'⟩ := hs.records found hmem
      have hsame := List.find?_some h
      rw [hof, hof'] at hsame
      refine ⟨found, rfl, hmem, ?_⟩
      rw [hof, hof']
      exact reference_of_same hK hd' hd hsame
  obtain ⟨found, hfound, hmem, href⟩ := hfound
  have hexamined : found ∈ records := hall record.reference hfile found hfound (hmature found hmem)
  obtain ⟨result, s', hrest, -, hgone⟩ := reconcileRecords_alone (s := s) hi
    { examined := records.length, invalid := invalid } records
  have halone : (reconcilePendingBodies graceSeconds none).alone (exec i) s = (.ok result, s') :=
    (Prog.alone_bind_ok hscan).trans hrest
  rw [halone, ← href]
  apply hgone found hexamined
  rw [href]
  exact hnot

end Cleaner

/-! ## What a run leaves -/

/-- A temporary file is left by a process that is not over, killed or not, or that failed to remove it. -/
def Unfinished (w : Run) (temporary : Nat) : Prop :=
  ∃ pid p, w.procs[pid]? = some p ∧
    (p.prog.running = true ∧ holding (hist w.log pid) = some temporary ∨
      ∃ e, ⟨.unlinkTemporary temporary, .error e⟩ ∈ hist w.log pid)

/-- A cleaner that is started now, and resumed alone without a failure at a time when all records are mature, removes the body. -/
def Removable (w : Run) (r : Reference) : Prop :=
  ∀ (i : Input) (graceSeconds : Int), i.fault = none → 0 ≤ graceSeconds →
    (∀ record ∈ w.shared.pending, record.createdAt ≤ i.now - graceSeconds) →
    ∃ n, r ∉ (ingress.run w (.spawn (.reconcilePendingBodies graceSeconds none) i ::
      List.replicate n (.resume w.procs.length i))).shared.bodies

theorem unfinished (actions : List Step) : ∀ t ∈ (run actions).shared.temporaries, Unfinished (run actions) t := by
  intro t ht
  have hgood := run_good actions
  obtain ⟨pid, hheld⟩ := temporaries_held hgood.legal t ht
  have hsome : ∃ p, (run actions).procs[pid]? = some p := by
    rw [← Option.isSome_iff_exists, isSome_getElem?]
    by_contra hge
    have hnone : hist (run actions).log pid = [] := hgood.legal.hist_fresh (by simpa using hge)
    rw [Held, hnone] at hheld
    rcases hheld with hh | ⟨e, he⟩
    · cases hh
    · cases he
  obtain ⟨p, hp⟩ := hsome
  refine ⟨pid, p, hp, hheld.imp_left fun hh => ⟨?_, hh⟩⟩
  obtain ⟨hobeys, -⟩ := hgood.procs pid p hp
  cases hprog : p.prog with
  | call op k => rfl
  | pure | throw =>
    rw [hprog] at hobeys
    have hnone : holding (hist (run actions).log pid) = none := hobeys
    rw [hnone] at hh
    cases hh

theorem removable {K : Delivery → Prop} (hK : Distinct K) {w : Run} (hinv : Inv K w) {r : Reference} (hr : r ∈ w.shared.bodies)
    (hnot : ¬Referenced w.shared r) : Removable w r := by
  intro i graceSeconds hi hgrace hmature
  have hj : Journaled w.shared r := (hinv.kept.recorded r hr).resolve_left hnot
  have hspawn : ingress.step w (.spawn (.reconcilePendingBodies graceSeconds none) i) =
      ⟨w.shared, w.procs ++ [⟨.reconcilePendingBodies graceSeconds none,
        ingress.prog (.reconcilePendingBodies graceSeconds none), true⟩], w.log⟩ := by
    simp only [System.step, settle_eq]
  obtain ⟨n, hn⟩ := ingress.run_alone (fun _ => rfl) i w.procs.length (.reconcilePendingBodies graceSeconds none)
    (ingress.prog (.reconcilePendingBodies graceSeconds none)) (ingress.step w (.spawn (.reconcilePendingBodies graceSeconds none) i))
    (by rw [hspawn]; simp)
  refine ⟨n, ?_⟩
  show r ∉ (ingress.run (ingress.step w _) _).shared.bodies
  rw [hn, hspawn]
  show r ∉ ((discard (reconcilePendingBodies graceSeconds none)).alone (exec i) w.shared).2.bodies
  rw [Prog.alone_discard]
  exact reconcilePendingBodies_alone hK hinv.known hi hgrace hmature hj hnot

/-- Whatever the interleaving, the crashes and the failures, a temporary file is left only by a process that did not get to
remove it. In an orderly run every committed row has its body, and every body without a row can be removed. -/
theorem bodies_kept (actions : List Step) :
    (∀ t ∈ (run actions).shared.temporaries, Unfinished (run actions) t) ∧
      (Orderly actions →
        (∀ row ∈ (run actions).shared.inbox, row.encryptedBodyReference ∈ (run actions).shared.bodies) ∧
          ∀ r ∈ (run actions).shared.bodies, Referenced (run actions).shared r ∨
            Journaled (run actions).shared r ∧ Removable (run actions) r) := by
  refine ⟨unfinished actions, fun orderly => ?_⟩
  have hinv := run_inv orderly.distinct actions (fun _ hd => hd) orderly.apart
  refine ⟨fun row hrow => hinv.kept.committed _ ⟨row, hrow, rfl⟩, fun r hr => ?_⟩
  by_cases href : Referenced (run actions).shared r
  · exact .inl href
  · exact .inr ⟨(hinv.kept.recorded r hr).resolve_left href, removable orderly.distinct hinv hr href⟩

/-! ## A committed row without its body -/

namespace Overlap

def delivery : Delivery :=
  ⟨"9f0c3f0e-5a7b-4d7e-8b0a-2f6f4f6f0001", "9f0c3f0e-5a7b-4d7e-8b0a-2f6f4f6f0002", "evt-1", [123, 125]⟩

/-- The process makes `n` calls at `now`. -/
def calls (pid n : Nat) (now : Time) : List Step := List.replicate n (.resume pid { now := now })

/-- A delivery is killed before its transaction. A retry looks for records before the first one is mature. A cleaner looks
the record up when it is, the retry finds the body and commits, and the cleaner removes the body. -/
def actions : List Step :=
  ([.spawn (.accept true delivery) { now := 0 }] : List Step) ++ calls 0 9 0 ++ ([.kill 0] : List Step) ++
    ([.spawn (.accept true delivery) { now := 299 }] : List Step) ++ calls 1 5 299 ++
    ([.spawn (.reconcilePendingBodies bodyReconciliationGraceSeconds none) { now := 301 }] : List Step) ++ calls 2 4 301 ++
    calls 1 4 301 ++ calls 2 2 301

end Overlap

/-- The row of the retry is committed and its body is gone. -/
theorem committed_without_body :
    ¬∀ row ∈ (run Overlap.actions).shared.inbox, row.encryptedBodyReference ∈ (run Overlap.actions).shared.bodies := by
  decide +kernel

end Middleware.Bodies

/-
Completed means a matched read-back. The bus and the reconciler are the only writers of `completed`, and both
do so after a read-back that matched, storing its evidence with its digest. The stored evidence is the
fixed members overridden by the adapter's own, so its `status` is the adapter's when the adapter sends
one: `Plain` read-backs are those for which it still says `matched`.
-/
import Middleware.Platform.Log

namespace Middleware.Platform

open Ledger Lib

/-! ## The evidence -/

/-- The evidence of the adapter says nothing about the status, or `matched`. -/
def Plain (rb : ReadbackResult) : Prop := ∀ j, rb.evidence.reverse.lookup "status" = some j → j = .str "matched"

theorem clean_eq_str {j : Json} {t : String} : clean j = .str t ↔ j = .str t := by
  cases j <;> simp [clean]

/-- The stored status of a matched read-back is `matched` exactly when the read-back is plain. -/
theorem evidence_status_iff {rb : ReadbackResult} (hm : rb.status = .matched) (o : CommandOperation) :
    (readbackEvidence rb o).lookup "status" = some (.str "matched") ↔ Plain rb := by
  have hs : sensitiveKey "status" = false := by decide
  rw [readbackEvidence, Obj.lookup_merge, redactMetadata_reverse, lookup_redactMetadata, hs, hm]
  unfold Plain
  cases hl : rb.evidence.reverse.lookup "status" with
  | none => simp [ReadbackStatus.lower, List.lookup]
  | some j => simp [clean_eq_str]

/-! ## The property -/

/-- The command was completed by a write of its process after that process got a matched read-back. -/
def CompletedByMatch (log : Log) (k : Key) (v : View) : Prop :=
  ∃ newer q older x u adapterId rb, log = newer ++ q :: older ∧ Wrote q k u v ∧ x ∈ older ∧ x.pid = q.pid ∧
    readsBack x.toEv = some (adapterId, rb) ∧ rb.status = .matched

/-- A completed command was completed by a matched read-back, and its evidence says so under its digest. -/
def CompletedMeansMatched (log : Log) (s : MemoryCommandStore) (k : Key) : Prop :=
  ∀ v, view s k = some v → v.state = .completed → CompletedByMatch log k v ∧
    ∃ evidence, v.operation.readbackEvidence = some evidence ∧ evidence.lookup "status" = some (.str "matched") ∧
      v.operation.readbackEvidenceSha256 = some (providerEvidenceDigest evidence)

/-- The matched read-backs that were answered are plain. -/
def PlainAnswers (log : Log) : Prop :=
  ∀ x ∈ log, ∀ adapterId rb, readsBack x.toEv = some (adapterId, rb) → rb.status = .matched → Plain rb

/-! ## Every run -/

section Proof

variable {jobs : List Job} {log : Log} {s : MemoryCommandStore} {k : Key} {v : View}

/-- The write that completed a command: everything else since left it alone. -/
theorem completing_write (hl : Legal jobs log s) (hv : view s k = some v) (hc : v.state = .completed) :
    ∃ newer q older u, log = newer ++ q :: older ∧ Wrote q k u v := by
  obtain ⟨newer, q, older, rfl, hq, ⟨v', hv', hc'⟩, -⟩ := System.Chain.last_flip
    (P := fun s => ∃ v, view s k = some v ∧ v.state = .completed) hl.chain
    (by rintro ⟨v, hv, -⟩; cases hv) ⟨v, hv, hc⟩
  obtain ⟨hw, he, -⟩ := legal_entry hl
  have hst : Stretch q.after newer s := (legal_stretch hl).split.1
  have hsame : view s k = some v' := (System.Chain.stays (P := fun s => view s k = some v') hst.chain hv' (by
    rintro e he hb
    rcases view_step (hst.steps e he).1 (hst.steps e he).2 hb with h | ⟨w, hwr⟩
    · exact h
    · have := hwr.change.not_absorbing
      rw [hc'] at this
      cases this)).1
  cases Option.some.inj (hsame.symm.trans hv)
  refine ⟨newer, q, older, ?_⟩
  rcases touched hw he k with h | ⟨r, now, -, -, -, h⟩ | h
  · exact absurd ⟨v, h ▸ hv', hc'⟩ hq
  · cases Option.some.inj (hv'.symm.trans h)
    cases hc
  · rename_i u u'
    cases Option.some.inj (h.after.symm.trans hv')
    exact ⟨u, rfl, h⟩

/-- The completing write stores the evidence of a matched read-back of its process, under its digest. -/
theorem completed_evidence {newer older : Log} {q : LogEntry} {u : View}
    (hl : Legal jobs (newer ++ q :: older) s) (hw : Wrote q k u v) (hc : v.state = .completed) :
    ∃ x ∈ older, ∃ adapterId rb o, x.pid = q.pid ∧ readsBack x.toEv = some (adapterId, rb) ∧ rb.status = .matched ∧
      v.operation.readbackEvidence = some (readbackEvidence rb o) ∧
      v.operation.readbackEvidenceSha256 = some (providerEvidenceDigest (readbackEvidence rb o)) := by
  obtain ⟨-, -, j, hj, hG⟩ := legal_entry hl
  have hread : ∀ {adapterId rb}, (track (hist older q.pid)).answer = some (adapterId, rb) →
      ∃ x ∈ older, x.pid = q.pid ∧ readsBack x.toEv = some (adapterId, rb) := by
    intro adapterId rb ha
    obtain ⟨w, hw, hwa⟩ := answer_mem ha
    obtain ⟨x, hx, hxp, rfl⟩ := mem_hist.1 hw
    exact ⟨x, hx, hxp, hwa⟩
  rcases hw.change.into_completed hc with ⟨t, now, hop, ht, hu⟩ | ⟨r, now, hop, hm, hu⟩
  · rw [hop] at hG
    rcases transition_by hG with ⟨-, -, hb⟩ | ⟨r, -, -, -, o, -, -, hr⟩
    · simp only [busTransition, ht] at hb
      obtain ⟨-, adapterId, rb, o, ha, hrb, hev⟩ := hb
      obtain ⟨x, hx, hxp, hxr⟩ := hread ha
      refine ⟨x, hx, adapterId, rb, o, hxp, hxr, hrb, ?_, ?_⟩
      · simp only [hu, Transition.updated, hev]
      · simp only [hu, Transition.updated, hev]
    · rw [ht] at hr; exact hr.elim
  · rw [hop] at hG
    obtain ⟨r', -, -, -, -, o, -, -, -, hmatch⟩ := reconcile_by hG
    obtain ⟨adapterId, rb, ha, hrb, hev⟩ := hmatch hm
    obtain ⟨x, hx, hxp, hxr⟩ := hread ha
    refine ⟨x, hx, adapterId, rb, o, hxp, hxr, hrb, ?_, ?_⟩
    · simp only [hu, Reconciliation.updated, hev]
    · simp only [hu, Reconciliation.updated, hev]

/-- In every run whose matched read-backs are plain, completed means matched. -/
theorem completed_means_matched (actions : List Step) (k : Key) (plain : PlainAnswers (run actions).log) :
    CompletedMeansMatched (run actions).log (run actions).shared k := by
  intro v hv hc
  have hl := run_legal actions
  obtain ⟨newer, q, older, u, hlog, hw⟩ := completing_write hl hv hc
  rw [hlog] at hl
  obtain ⟨x, hx, adapterId, rb, o, hxp, hxr, hm, hev, hsha⟩ := completed_evidence hl hw hc
  refine ⟨⟨newer, q, older, x, u, adapterId, rb, hlog, hw, hx, hxp, hxr, hm⟩, _, hev, ?_, hsha⟩
  exact (evidence_status_iff hm o).2 (plain x (by rw [hlog]; simp [hx]) adapterId rb hxr hm)

end Proof

/-! ## Two runs -/

namespace Synthetic

/-- The command is dispatched once and its read-back answers `rb`. -/
def completing (rb : ReadbackResult) : List Step :=
  [start submit] ++ drive 0 input 2 ++ [start (dispatch "a")] ++ drive 1 { input with readback := .ok rb } 12

/-- A matched read-back whose evidence carries the provider's own status. -/
def providerStatus : ReadbackResult := { status := .matched, evidence := [("status", .str "active")] }

/-- Evidence that gives the provider's own status. -/
def saysActive (evidence : Obj) : Bool :=
  match evidence.lookup "status" with
  | some (.str t) => t == "active"
  | _ => false

end Synthetic

theorem completed_says_active :
    ¬ CompletedMeansMatched (run (Synthetic.completing Synthetic.providerStatus)).log
      (run (Synthetic.completing Synthetic.providerStatus)).shared Synthetic.key := by
  intro h
  have hcheck : (view (run (Synthetic.completing Synthetic.providerStatus)).shared Synthetic.key).any fun v =>
      v.state == .completed && v.operation.readbackEvidence.any Synthetic.saysActive := by
    decide +kernel
  obtain ⟨v, hv, hcheck⟩ := (Option.any_eq_true _ _).1 hcheck
  obtain ⟨hc, hev⟩ := Bool.and_eq_true_iff.1 hcheck
  obtain ⟨ev, hev, hs⟩ := (Option.any_eq_true _ _).1 hev
  obtain ⟨-, ev', hev', hs', -⟩ := h v hv (beq_iff_eq.1 hc)
  cases Option.some.inj (hev.symm.trans hev')
  rw [Synthetic.saysActive, hs'] at hs
  revert hs
  decide

theorem completed_means_matched_completing :
    (view (run (Synthetic.completing { status := .matched })).shared Synthetic.key).map (·.state) = some .completed ∧
      CompletedMeansMatched (run (Synthetic.completing { status := .matched })).log
        (run (Synthetic.completing { status := .matched })).shared Synthetic.key := by
  refine ⟨by decide +kernel, completed_means_matched _ _ fun x hx adapterId rb hr hm => ?_⟩
  have hcheck : (run (Synthetic.completing { status := .matched })).log.all fun x =>
      (readsBack x.toEv).all fun a => a.2.evidence.isEmpty := by
    decide +kernel
  have := List.all_eq_true.1 hcheck x hx
  simp only [hr, Option.all_some, List.isEmpty_iff] at this
  rw [Plain, this]
  simp

end Middleware.Platform

/-
The order in which deliveries and cleaners make their calls. A delivery writes the pending record before the body and its
row after it, and takes the record away after the row; a cleaner looks a record up before it removes the body, and takes
the record away last.
-/
import Middleware.Bodies.Effects

namespace Middleware.Bodies

open Lib

def Job.delivery : Job → Option Delivery
  | .accept _ d => some d
  | .reconcilePendingBodies _ _ => none

/-- The temporary file a process has yet to promote or to remove. -/
def holding : List Answered → Option Nat
  | [] => none
  | ⟨.mkstemp _, .ok temporary⟩ :: _ => some temporary
  | ⟨.replace _ _, .ok _⟩ :: _ => none
  | ⟨.unlinkTemporary _, _⟩ :: _ => none
  | _ :: h => holding h

def Follows (j : Job) (h : List Answered) : Call → Prop
  | .referenceState record => ∃ file, ⟨.read file, .ok record⟩ ∈ h
  | .bodyExists r => ∃ d, j.delivery = some d ∧ r = d.reference
  | .mkstemp _ => holding h = none
  | .writeTemporary temporary _ | .unlinkTemporary temporary => holding h = some temporary
  | .writePending record => ∃ d, j.delivery = some d ∧ record = d.record record.createdAt
  | .replace temporary r => holding h = some temporary ∧ ∃ d createdAt, j.delivery = some d ∧ r = d.reference ∧
      h.head? = some ⟨.writePending (d.record createdAt), .ok ()⟩
  | .persistVerified d => j.delivery = some d ∧
      ((∃ createdAt older, h = ⟨.writePending (d.record createdAt), .ok ()⟩ :: ⟨.bodyExists d.reference, .ok true⟩ :: older) ∨
        ∃ temporary, h.head? = some ⟨.replace temporary d.reference, .ok ()⟩)
  | .remove r =>
      (∃ record state, h.head? = some ⟨.referenceState record, .ok state⟩ ∧ state ≠ .accepted ∧ record.reference = r) ∨
        ∃ d, j.delivery = some d ∧ d.reference = r ∧ h.head? = some ⟨.persistVerified d, .error semanticConflict⟩
  | .unlinkPending r => h.head? = some ⟨.remove r, .ok ()⟩ ∨
      (∃ record, h.head? = some ⟨.referenceState record, .ok .accepted⟩ ∧ record.reference = r) ∨
      ∃ d a, j.delivery = some d ∧ d.reference = r ∧ h.head? = some ⟨.persistVerified d, .ok a⟩
  | .time | .verify _ | .glob | .read _ => True

/-- A process makes its calls in their order and leaves no temporary file that it did not try to remove. -/
def promise : System.Discipline Call.Answer Failure Job where
  rely _ _ := True
  call := Follows
  done _ h := holding h = none

section Promise

variable {j : Job} {h : List Answered} {d : Delivery}

def AllRead (records : List PendingBodyRecord) (h : List Answered) : Prop :=
  ∀ record ∈ records, ∃ file, ⟨.read file, .ok record⟩ ∈ h

/-- A program that keeps the order and holds no temporary file after. -/
abbrev Keeps {α : Type} (j : Job) (p : Coro α) (h₀ h : List Answered) (Q : List Answered → α → Prop) : Prop :=
  p.wp promise.rely (promise.call j) h (fun h' a => holding h' = none ∧ h₀ <:+ h' ∧ Q h' a)
    fun h' _ => holding h' = none ∧ h₀ <:+ h'

theorem Keeps.within {α : Type} {p : Coro α} {h₀ : List Answered} {Q Q' : List Answered → α → Prop} (hp : Keeps j p h h Q)
    (hs : h₀ <:+ h) (hQ : ∀ h' a, h <:+ h' → Q h' a → Q' h' a) : Keeps j p h₀ h Q' := by
  refine Prog.wp_mono (fun _ _ h => h) ?_ ?_ p h hp
  · rintro h' a ⟨hh, hsuffix, hq⟩
    exact ⟨hh, hs.trans hsuffix, hQ h' a hsuffix hq⟩
  · rintro h' e ⟨hh, hsuffix⟩
    exact ⟨hh, hs.trans hsuffix⟩

theorem readRecords_keeps (cutoff : Time) (files : List Reference) (hh : holding h = none) :
    Keeps j (readRecords cutoff files) h h fun h a => AllRead a.1 h := by
  induction files generalizing h with
  | nil => exact ⟨hh, List.suffix_rfl, by simp [AllRead]⟩
  | cons file files ih =>
    simp only [Keeps, readRecords, Prog.wp_bind, Prog.wp_tryCatch, Prog.wp_map, ask, Prog.wp_ask]
    refine ⟨trivial, fun record _ => ?_, fun e _ => ?_⟩
    · refine (ih (h := ⟨.read file, .ok record⟩ :: h) hh).within (List.suffix_cons _ h) ?_
      intro h' a hsuffix hread
      have hmem : (⟨.read file, .ok record⟩ : Answered) ∈ h' := hsuffix.subset List.mem_cons_self
      split
      · intro record' hrecord'
        rcases List.mem_cons.1 hrecord' with rfl | hrecord'
        · exact ⟨file, hmem⟩
        · exact hread record' hrecord'
      · exact hread
    · have hinvalid := (ih (h := ⟨.read file, .error e⟩ :: h) hh).within (List.suffix_cons _ h) fun _ _ _ hread => hread
      cases e with
      | os | invalid => exact hinvalid
      | problem | other => exact ⟨hh, List.suffix_cons _ h⟩

theorem scanPendingRecords_keeps (olderThanSeconds : Int) (now : Option Time) (hh : holding h = none) :
    Keeps j (scanPendingRecords olderThanSeconds now) h h fun h a => AllRead a.1 h := by
  unfold scanPendingRecords
  split
  · exact ⟨hh, List.suffix_rfl⟩
  have hglob : ∀ (current : Time) (h' : List Answered), holding h' = none → h <:+ h' →
      Keeps j (do
        let files ← ask .glob
        readRecords (current - olderThanSeconds) files) h h' fun h a => AllRead a.1 h := by
    intro current h' hh' hs
    simp only [Keeps, Prog.wp_bind, ask, Prog.wp_ask]
    refine ⟨trivial, fun files _ => ?_, fun e _ => ⟨hh', hs.trans (List.suffix_cons _ h')⟩⟩
    refine (readRecords_keeps (h := ⟨.glob, .ok files⟩ :: h') _ files hh').within ?_ fun _ _ _ hread => hread
    exact hs.trans (List.suffix_cons _ h')
  cases now with
  | some now => exact hglob now h hh List.suffix_rfl
  | none =>
    simp only [Keeps, Prog.wp_bind, ask, Prog.wp_ask]
    refine ⟨trivial, fun current _ => ?_, fun e _ => ⟨hh, List.suffix_cons _ h⟩⟩
    have := hglob current (⟨.time, .ok current⟩ :: h) hh (List.suffix_cons _ h)
    simpa only [Keeps, Prog.wp_bind, ask, Prog.wp_ask] using this

theorem deferring_keeps {count : Reconciled → Reconciled} {p : Coro Unit} (hp : Keeps j p h h fun _ _ => True) :
    Keeps j (deferring count p) h h fun _ _ => True := by
  simp only [Keeps, deferring, Prog.wp_tryCatch, Prog.wp_bind]
  refine Prog.wp_mono (fun _ _ h => h) (fun _ _ hq => hq) ?_ p h hp
  rintro h' e hend
  cases e with
  | os => exact ⟨hend.1, hend.2, trivial⟩
  | _ => exact hend

theorem discardPending_keeps {r : Reference} (hh : holding h = none) (hr : Follows j h (.remove r)) :
    Keeps j (discardPending r) h h fun _ _ => True := by
  simp only [Keeps, discardPending, markAccepted, Prog.wp_bind, ask, Prog.wp_ask]
  have hlast : ∀ v w : Answered, h <:+ v :: w :: h := fun v w => (List.suffix_cons w h).trans (List.suffix_cons v _)
  exact ⟨hr, fun _ _ => ⟨.inl rfl, fun _ _ => ⟨hh, hlast _ _, trivial⟩, fun _ _ => ⟨hh, hlast _ _⟩⟩,
    fun _ _ => ⟨hh, List.suffix_cons _ h⟩⟩

theorem markAccepted_keeps {r : Reference} (hh : holding h = none) (hr : Follows j h (.unlinkPending r)) :
    Keeps j (markAccepted r) h h fun _ _ => True := by
  simp only [Keeps, markAccepted, ask, Prog.wp_ask]
  exact ⟨hr, fun _ _ => ⟨hh, List.suffix_cons _ h, trivial⟩, fun _ _ => ⟨hh, List.suffix_cons _ h⟩⟩

theorem reconcileRecord_keeps {record : PendingBodyRecord} (hh : holding h = none)
    (hread : ∃ file, ⟨.read file, .ok record⟩ ∈ h) : Keeps j (reconcileRecord record) h h fun _ _ => True := by
  simp only [Keeps, reconcileRecord, Prog.wp_bind, Prog.wp_tryCatch, Prog.wp_map, ask, Prog.wp_ask]
  refine ⟨hread, fun state _ => ?_, fun e _ => ⟨hh, List.suffix_cons _ h, trivial⟩⟩
  have hdiscard : state ≠ .accepted → Keeps j (deferring Reconciled.remove (discardPending record.reference)) h
      (⟨.referenceState record, .ok state⟩ :: h) fun _ _ => True := by
    intro hne
    refine (deferring_keeps (discardPending_keeps (h := ⟨.referenceState record, .ok state⟩ :: h) hh ?_)).within
      (List.suffix_cons _ h) fun _ _ _ hq => hq
    exact .inl ⟨record, state, rfl, hne, rfl⟩
  cases state with
  | accepted =>
    refine (deferring_keeps (markAccepted_keeps (h := ⟨.referenceState record, .ok .accepted⟩ :: h) hh ?_)).within
      (List.suffix_cons _ h) fun _ _ _ hq => hq
    exact .inr (.inl ⟨record, rfl, rfl⟩)
  | rejected | unreferenced => exact hdiscard ReferenceState.noConfusion

theorem reconcileRecords_keeps (result : Reconciled) (records : List PendingBodyRecord) (hh : holding h = none)
    (hread : AllRead records h) : Keeps j (reconcileRecords result records) h h fun _ _ => True := by
  induction records generalizing h result with
  | nil => exact ⟨hh, List.suffix_rfl, trivial⟩
  | cons record records ih =>
    simp only [Keeps, reconcileRecords, Prog.wp_bind]
    refine Prog.wp_mono (fun _ _ h => h) ?_ (fun _ _ hend => hend) _ h
      (reconcileRecord_keeps hh (hread record List.mem_cons_self))
    rintro h' count ⟨hh', hsuffix, -⟩
    refine (ih (count result) hh' ?_).within hsuffix fun _ _ _ hq => hq
    intro record' hrecord'
    obtain ⟨file, hfile⟩ := hread record' (List.mem_cons_of_mem _ hrecord')
    exact ⟨file, hsuffix.subset hfile⟩

theorem reconcilePendingBodies_keeps (graceSeconds : Int) (now : Option Time) (hh : holding h = none) :
    Keeps j (reconcilePendingBodies graceSeconds now) h h fun _ _ => True := by
  simp only [Keeps, reconcilePendingBodies, Prog.wp_bind]
  refine Prog.wp_mono (fun _ _ h => h) ?_ (fun _ _ hend => hend) _ h (scanPendingRecords_keeps graceSeconds now hh)
  rintro h' a ⟨hh', hsuffix, hread⟩
  exact (reconcileRecords_keeps _ _ hh' hread).within hsuffix fun _ _ _ hq => hq

theorem promote_keeps {createdAt : Time} {temporary : Nat} (hd : j.delivery = some d) (hh : holding h = some temporary) :
    Keeps j (promote d createdAt temporary) h h fun h _ => Follows j h (.persistVerified d) := by
  simp only [Keeps, promote, Prog.wp_tryCatch, Prog.wp_bind, ask, Prog.wp_ask, Prog.wp_throw]
  have hremoved : ∀ h' : List Answered, h <:+ h' → holding h' = some temporary →
      promise.call j h' (.unlinkTemporary temporary) ∧
        (∀ a, promise.rely (.unlinkTemporary temporary) (.ok a) → holding (⟨.unlinkTemporary temporary, .ok a⟩ :: h') = none ∧
          h <:+ ⟨.unlinkTemporary temporary, .ok a⟩ :: h') ∧
        ∀ e, promise.rely (.unlinkTemporary temporary) (.error e) →
          holding (⟨.unlinkTemporary temporary, .error e⟩ :: h') = none ∧ h <:+ ⟨.unlinkTemporary temporary, .error e⟩ :: h' :=
    fun h' hs hh' => ⟨hh', fun _ _ => ⟨rfl, hs.trans (List.suffix_cons _ h')⟩, fun _ _ => ⟨rfl, hs.trans (List.suffix_cons _ h')⟩⟩
  have hone : ∀ v : Answered, h <:+ v :: h := fun v => List.suffix_cons v h
  have htwo : ∀ v w : Answered, h <:+ v :: w :: h := fun v w => (hone w).trans (List.suffix_cons v _)
  have hthree : ∀ u v w : Answered, h <:+ u :: v :: w :: h := fun u v w => (htwo v w).trans (List.suffix_cons u _)
  refine ⟨hh, fun _ _ => ⟨⟨d, hd, rfl⟩, fun _ _ => ⟨⟨hh, d, createdAt, hd, rfl, rfl⟩, fun _ _ => ?_, fun _ _ => ?_⟩,
    fun _ _ => hremoved _ (htwo _ _) hh⟩, fun _ _ => hremoved _ (hone _) hh⟩
  · exact ⟨rfl, hthree _ _ _, hd, .inr ⟨temporary, rfl⟩⟩
  · exact hremoved _ (hthree _ _ _) hh

/-- A body that was written or found is followed by the row. -/
theorem persistWithStatus_keeps (hd : j.delivery = some d) (hh : holding h = none) :
    Keeps j (persistWithStatus d) h h fun h _ => Follows j h (.persistVerified d) := by
  simp only [Keeps, persistWithStatus, Prog.wp_bind, ask, Prog.wp_ask]
  have hone : ∀ v : Answered, h <:+ v :: h := fun v => List.suffix_cons v h
  have htwo : ∀ v w : Answered, h <:+ v :: w :: h := fun v w => (hone w).trans (List.suffix_cons v _)
  have hthree : ∀ u v w : Answered, h <:+ u :: v :: w :: h := fun u v w => (htwo v w).trans (List.suffix_cons u _)
  refine ⟨trivial, fun createdAt _ => ⟨⟨d, hd, rfl⟩, fun there _ => ?_, fun _ _ => ⟨hh, htwo _ _⟩⟩, fun _ _ => ⟨hh, hone _⟩⟩
  cases there with
  | true =>
    simp only [if_true, Prog.wp_bind, Prog.wp_ask, Prog.wp_pure]
    refine ⟨⟨d, hd, rfl⟩, fun _ _ => ⟨hh, hthree _ _ _, hd, .inl ⟨createdAt, _, rfl⟩⟩, fun _ _ => ⟨hh, hthree _ _ _⟩⟩
  | false =>
    simp only [Bool.false_eq_true, if_false, Prog.wp_bind, Prog.wp_ask]
    refine ⟨hh, fun temporary _ => ?_, fun _ _ => ⟨hh, hthree _ _ _⟩⟩
    exact (promote_keeps hd rfl).within (hthree _ _ _) fun _ _ _ hq => hq

theorem persistVerified_keeps (hh : holding h = none) (hd : Follows j h (.persistVerified d)) :
    Keeps j (persistVerified d) h h fun h _ => Follows j h (.unlinkPending d.reference) := by
  simp only [Keeps, persistVerified, Prog.wp_tryCatch, ask, Prog.wp_ask]
  refine ⟨hd, fun a _ => ⟨hh, List.suffix_cons _ h, .inr (.inr ⟨d, a, hd.1, rfl, rfl⟩)⟩, fun e _ => ?_⟩
  split
  · rename_i he
    subst he
    simp only [Prog.wp_bind, Prog.wp_tryCatch]
    have hdiscard : Keeps j (discardPending d.reference) h (⟨.persistVerified d, .error semanticConflict⟩ :: h)
        fun _ _ => True := by
      refine (discardPending_keeps (h := ⟨.persistVerified d, .error semanticConflict⟩ :: h) hh ?_).within
        (List.suffix_cons _ h) fun _ _ _ hq => hq
      exact .inr ⟨d, hd.1, rfl, rfl⟩
    refine Prog.wp_mono (fun _ _ h => h) ?_ ?_ _ _ hdiscard
    · rintro h' - ⟨hh', hs, -⟩
      exact ⟨hh', hs⟩
    · rintro h' e hend
      cases e with
      | os => exact hend
      | _ => exact hend
  · exact ⟨hh, List.suffix_cons _ h⟩

theorem accept_keeps (enabled : Bool) (hd : j.delivery = some d) :
    Keeps j (accept enabled d) [] [] fun _ _ => True := by
  unfold accept
  split
  · exact ⟨rfl, List.suffix_rfl⟩
  simp only [Keeps, Prog.wp_bind, Prog.wp_tryCatch, List.nil_suffix, and_true]
  refine Prog.wp_mono (fun _ _ h => h) ?_ (fun _ _ hend => hend.1) _ _
    (reconcilePendingBodies_keeps bodyReconciliationGraceSeconds none rfl)
  rintro h - ⟨hh, -⟩
  simp only [ask, Prog.wp_ask]
  refine ⟨trivial, fun _ _ => ?_, fun _ _ => hh⟩
  refine Prog.wp_mono (fun _ _ h => h) ?_ (fun _ _ hend => hend.1) _ _
    (persistWithStatus_keeps (h := ⟨.verify d, .ok ()⟩ :: h) hd hh)
  rintro h' - ⟨hh', -, hfollows⟩
  refine Prog.wp_mono (fun _ _ h => h) ?_ (fun _ _ hend => hend.1) _ _ (persistVerified_keeps hh' hfollows)
  rintro h'' a ⟨hh'', -, hfollows'⟩
  refine Prog.wp_mono (fun _ _ h => h) ?_ ?_ _ _ (markAccepted_keeps hh'' hfollows')
  · rintro h₃ - ⟨hh₃, -⟩
    exact hh₃
  · rintro h₃ e ⟨hh₃, -⟩
    cases e with
    | _ => exact hh₃

theorem obeys (j : Job) : System.Obeys promise j j.coroutine [] := by
  cases j with
  | accept enabled d =>
    simp only [System.Obeys, Job.coroutine, Prog.wp_discard]
    exact Prog.wp_mono (fun _ _ h => h) (fun _ _ hq => hq.1) (fun _ _ hq => hq.1) _ _ (accept_keeps enabled rfl)
  | reconcilePendingBodies graceSeconds now =>
    simp only [System.Obeys, Job.coroutine, Prog.wp_discard]
    exact Prog.wp_mono (fun _ _ h => h) (fun _ _ hq => hq.1) (fun _ _ hq => hq.1) _ _
      (reconcilePendingBodies_keeps graceSeconds now rfl)

end Promise

theorem run_good (actions : List Step) : ingress.Good (fun _ => True) promise {} (run actions) :=
  System.run_good ⟨fun _ _ _ _ => trivial, fun _ _ _ _ => trivial⟩ obeys trivial actions

end Middleware.Bodies

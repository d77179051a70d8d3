/-
The lifecycle of a recording over all interleavings of reservations, completions and failures. A report of a failure and a late
completion are applied whatever the state; the runs that keep the lifecycle are those in which none comes to a recording that is linked or
quarantined.
-/
import Middleware.Recordings.Effects

namespace Middleware.Recordings

open Lib

/-! ## What is expected -/

def RecordingState.absorbing (state : RecordingState) : Bool := decide (state = .odooLinked ∨ state = .quarantined)

namespace Service

/-- The events of a recording in the outbox. -/
def events (s : Service) (uid : String) : List N8nProjection := s.outbox.filter fun p => decide (p.recordingUid = uid)

def linked (s : Service) (uid : String) : Bool := (s.history uid).any fun a => decide (a.toState = .odooLinked)

/-- The audit of every recording is whole: numbered, and a path from its creation to its state; and each version of an object has one
recording. -/
structure Sound (s : Service) : Prop where
  numbered : ∀ uid (i : Nat) a, (s.history uid)[i]? = some a → a.sequence = i + 1
  chained : ∀ uid r, s.recordings.get uid = some r → follow .reservationCreated (s.history uid) = some r.state
  owned : ∀ uid uid' r r' version, s.recordings.get uid = some r → s.recordings.get uid' = some r' →
    r.objectVersionId = some version → r'.objectVersionId = some version → uid = uid'

/-- No entry of the audit leaves a state that is to stay. -/
def Absorbing (s : Service) : Prop := ∀ a ∈ s.audit, a.fromState.absorbing = true → a.toState = a.fromState

/-- A recording that was linked has one event, and others have none. -/
def Published (s : Service) : Prop := ∀ uid, (s.events uid).length = if s.linked uid then 1 else 0

end Service

section Statements

variable (lib : Library)

structure Conforms (w : World) (e : Event) : Prop where
  sound : (step lib e w).service.Sound
  entered : ∃ entries, (step lib e w).service.audit = w.service.audit ++ entries ∧ ∀ a ∈ entries, a.toState = .odooLinked →
    ∃ i acknowledgement eventId now call r, e = .resume i (.ok acknowledgement) eventId now ∧ w.calls[i]? = some call ∧
      call.recordingUid = a.recordingUid ∧ w.service.recordings.get a.recordingUid = some r ∧ r.mismatches call.head = [] ∧
      checkAcknowledgement lib r call.metadata acknowledgement = .ok ()
  absorbing : (step lib e w).service.Absorbing
  published : (step lib e w).service.Published

/-- An event comes to no recording that is to stay as it is. -/
def Event.Timely (w : World) : Event → Prop
  | .reserve .. => True
  | .complete uid payload _ _ => ∀ r, w.service.recordings.get uid = some r → r.mismatchedCompletion uid payload ≠ [] →
    r.state ≠ .odooLinked
  | .resume i reply _ _ => ∀ call r acknowledgement, w.calls[i]? = some call → call.running = true →
    w.service.recordings.get call.recordingUid = some r → reply = .ok acknowledgement →
    checkAcknowledgement lib r call.metadata acknowledgement = .ok () → r.state.absorbing = false
  | .failure uid _ key => ∀ r, w.service.recordings.get uid = some r → w.service.failureResults.get (uid, key) = none →
    key ≠ "" → key = r.idempotencyKey → r.state.absorbing = false

end Statements

/-- The identifier that a reservation draws. -/
def Event.draw : Event → Option String
  | .reserve _ uid _ _ => some uid
  | _ => none

/-! ## Audits -/

/-- A path of states that leaves none that is to stay. -/
def Kept : RecordingState → List RecordingState → Prop
  | _, [] => True
  | state, next :: rest => (state.absorbing = true → next = state) ∧ Kept next rest

variable {l : List StateAudit} {state : RecordingState} {last : RecordingState}

theorem follow_kept (h : follow state l = some last) :
    (∀ a ∈ l, a.fromState.absorbing = true → a.toState = a.fromState) ↔ Kept state (l.map (·.toState)) := by
  induction l generalizing state with
  | nil => exact ⟨fun _ => trivial, fun _ => nofun⟩
  | cons b rest ih =>
    unfold follow at h
    split at h
    · rename_i hb
      rw [List.forall_mem_cons, ih h, hb]
      exact Iff.rfl
    · cases h

/-- Once it is linked, a recording whose audit leaves nothing that is to stay is linked. -/
theorem follow_linked (h : follow state l = some last)
    (habsorbing : ∀ a ∈ l, a.fromState.absorbing = true → a.toState = a.fromState)
    (hlinked : state = .odooLinked ∨ ∃ a ∈ l, a.toState = .odooLinked) : last = .odooLinked := by
  induction l generalizing state with
  | nil =>
    rcases hlinked with rfl | ⟨a, ha, -⟩
    · cases h
      rfl
    · cases ha
  | cons b rest ih =>
    unfold follow at h
    split at h
    · rename_i hb
      rw [List.forall_mem_cons] at habsorbing
      refine ih h habsorbing.2 ?_
      rcases hlinked with rfl | ⟨a, ha, hto⟩
      · rw [habsorbing.1 (by rw [hb]; rfl), hb]
        exact .inl rfl
      · rcases List.mem_cons.1 ha with rfl | ha
        · exact .inl hto
        · exact .inr ⟨a, ha, hto⟩
    · cases h

/-- The last state of a path is its first, or one of its entries leads to it. -/
theorem follow_reached (h : follow state l = some last) :
    last = state ∨ ∃ a ∈ l, a.toState = last := by
  induction l generalizing state with
  | nil =>
    cases h
    exact .inl rfl
  | cons b rest ih =>
    unfold follow at h
    split at h
    · rcases ih h with rfl | ⟨a, ha, hto⟩
      · exact .inr ⟨b, List.mem_cons_self, rfl⟩
      · exact .inr ⟨a, List.mem_cons_of_mem b ha, hto⟩
    · cases h

/-! ## What a change keeps -/

structure Base (s : Service) : Prop where
  numbered : ∀ uid (i : Nat) a, (s.history uid)[i]? = some a → a.sequence = i + 1
  chained : ∀ uid r, s.recordings.get uid = some r → follow .reservationCreated (s.history uid) = some r.state
  named : ∀ uid r, s.recordings.get uid = some r → r.recordingUid = uid
  held : ∀ uid r version, s.recordings.get uid = some r → r.objectVersionId = some version → s.objectVersions.get version = some uid
  known : ∀ a ∈ s.audit, ∃ r, s.recordings.get a.recordingUid = some r

variable {s : Service}

theorem Base.sound (h : Base s) : s.Sound where
  numbered := h.numbered
  chained := h.chained
  owned uid uid' r r' version hr hr' hversion hversion' := by
    have howner := h.held uid r version hr hversion
    rw [h.held uid' r' version hr' hversion'] at howner
    exact (Option.some.inj howner).symm

theorem Base.history_nil (h : Base s) {uid : String} (hr : s.recordings.get uid = none) : s.history uid = [] := by
  refine List.filter_eq_nil_iff.2 fun a ha heq => ?_
  obtain ⟨r, hr'⟩ := h.known a ha
  rw [of_decide_eq_true heq, hr] at hr'
  cases hr'

section Changes

variable {s s' : Service} {uid : String} {r r' : Recording} {entries : List StateAudit} {version : Option String}

theorem follow_trans {middle : RecordingState} {l' : List StateAudit} (h : follow state l = some middle) :
    follow state (l ++ l') = follow middle l' := by
  induction l generalizing state with
  | nil =>
    cases h
    rfl
  | cons b rest ih =>
    unfold follow at h
    split at h
    · rename_i hb
      show (if b.fromState = state then follow b.toState (rest ++ l') else none) = _
      rw [if_pos hb]
      exact ih h
    · cases h

namespace Change

theorem keeps (h : Change s s' uid r r' entries version) {k : String} {r₀ : Recording} (hr : s.recordings.get k = some r₀) :
    ∃ r₁, s'.recordings.get k = some r₁ ∧ r₁.reserved = r₀.reserved := by
  by_cases hk : k = uid
  · subst hk
    rw [Option.some.inj (hr.symm.trans h.before)]
    exact ⟨r', h.after, h.reserved⟩
  · exact ⟨r₀, (h.others k hk).trans hr, rfl⟩

theorem base (h : Change s s' uid r r' entries version) (hbase : Base s)
    (hfree : ∀ v, version = some v → s.ownedElsewhere v uid = false) : Base s' := by
  refine ⟨fun k i a ha => ?_, fun k r₁ hr₁ => ?_, fun k r₁ hr₁ => ?_, fun k r₁ v hr₁ hv => ?_, fun a ha => ?_⟩
  · rw [h.history, List.getElem?_append] at ha
    split at ha
    · exact hbase.numbered k i a ha
    · rename_i hi
      split at ha
      · rename_i hk
        rw [h.numbered _ a ha, hk]
        rw [hk] at hi
        omega
      · cases ha
  · rw [h.history]
    by_cases hk : k = uid
    · subst hk
      rw [if_pos rfl, follow_trans (hbase.chained k r h.before), h.path, Option.some.inj (hr₁.symm.trans h.after)]
    · rw [if_neg hk, List.append_nil]
      exact hbase.chained k r₁ ((h.others k hk).symm.trans hr₁)
  · by_cases hk : k = uid
    · subst hk
      rw [Option.some.inj (hr₁.symm.trans h.after)]
      exact (congrArg Recording.recordingUid h.reserved).trans (hbase.named k r h.before)
    · exact hbase.named k r₁ ((h.others k hk).symm.trans hr₁)
  · rw [h.versions]
    by_cases hk : k = uid
    · subst hk
      split
      · rfl
      · rename_i hne
        refine hbase.held k r v h.before ?_
        rw [Option.some.inj (hr₁.symm.trans h.after), h.claimed] at hv
        cases version with
        | none => exact hv
        | some v' => exact absurd hv hne
    · have hheld := hbase.held k r₁ v ((h.others k hk).symm.trans hr₁) hv
      rw [if_neg]
      · exact hheld
      · -- the version would be another recording's
        intro heq
        have hfree := hfree v heq
        unfold Service.ownedElsewhere at hfree
        rw [hheld] at hfree
        exact of_decide_eq_false hfree hk
  · rw [h.audit] at ha
    rcases List.mem_append.1 ha with ha | ha
    · obtain ⟨r₀, hr₀⟩ := hbase.known a ha
      obtain ⟨r₁, hr₁, -⟩ := h.keeps hr₀
      exact ⟨r₁, hr₁⟩
    · rw [h.own a ha]
      exact ⟨r', h.after⟩

theorem absorbing_iff (h : Change s s' uid r r' entries version) (habsorbing : s.Absorbing) :
    s'.Absorbing ↔ Kept r.state (entries.map (·.toState)) := by
  rw [← follow_kept h.path]
  unfold Service.Absorbing
  rw [h.audit, List.forall_mem_append]
  exact and_iff_right habsorbing

theorem linked (h : Change s s' uid r r' entries version) (k : String) :
    s'.linked k = (s.linked k || (decide (k = uid) && decide (.odooLinked ∈ entries.map (·.toState)))) := by
  unfold Service.linked
  rw [h.history, List.any_append]
  congr 1
  by_cases hk : k = uid
  · rw [if_pos hk, decide_eq_true hk, Bool.true_and, Bool.eq_iff_iff, List.any_eq_true, decide_eq_true_eq, List.mem_map]
    simp only [decide_eq_true_eq]
  · rw [if_neg hk, decide_eq_false hk]
    rfl

theorem published (h : Change s s' uid r r' entries version) (hpublished : s.Published) (houtbox : s'.outbox = s.outbox)
    (hnot : .odooLinked ∉ entries.map (·.toState)) : s'.Published := by
  intro k
  rw [h.linked, decide_eq_false hnot, Bool.and_false, Bool.or_false]
  unfold Service.events
  rw [houtbox]
  exact hpublished k

end Change

end Changes

/-! ## One event -/

/-- What a run of timely events keeps. -/
structure Inv (w : World) : Prop extends Base w.service where
  absorbing : w.service.Absorbing
  published : w.service.Published
  matched : ∀ call ∈ w.calls, ∃ r, w.service.recordings.get call.recordingUid = some r ∧ r.mismatches call.head = []

section Steps

variable {lib : Library} {w : World} {e : Event}

/-- The event is as the lifecycle expects exactly if it is timely, and then the invariant stays. -/
structure Settled (lib : Library) (w : World) (e : Event) : Prop where
  iff : Conforms lib w e ↔ e.Timely lib w
  inv : e.Timely lib w → Inv (step lib e w)

theorem settled_same (hinv : Inv w) (hservice : (step lib e w).service = w.service)
    (hcalls : ∀ call ∈ (step lib e w).calls, ∃ call' ∈ w.calls, call.recordingUid = call'.recordingUid ∧ call.head = call'.head)
    (htimely : e.Timely lib w) : Settled lib w e := by
  refine ⟨iff_of_true ⟨?_, ⟨[], ?_, nofun⟩, ?_, ?_⟩ htimely, fun _ => ⟨?_, ?_, ?_, fun call hcall => ?_⟩⟩
  · rw [hservice]
    exact hinv.sound
  · rw [hservice, List.append_nil]
  · rw [hservice]
    exact hinv.absorbing
  · rw [hservice]
    exact hinv.published
  · rw [hservice]
    exact hinv.toBase
  · rw [hservice]
    exact hinv.absorbing
  · rw [hservice]
    exact hinv.published
  · obtain ⟨call', hcall', huid, hhead⟩ := hcalls call hcall
    rw [hservice, huid, hhead]
    exact hinv.matched call' hcall'

theorem settled_change {uid : String} {r r' : Recording} {entries : List StateAudit} {version : Option String}
    (hbase : Base s) (haudit : s.audit = w.service.audit) (houtbox : s.outbox = w.service.outbox) (habsorbing : w.service.Absorbing)
    (hpublished : w.service.Published) (h : Change s (step lib e w).service uid r r' entries version)
    (hfree : ∀ v, version = some v → s.ownedElsewhere v uid = false) (houtbox' : (step lib e w).service.outbox = s.outbox)
    (hnot : .odooLinked ∉ entries.map (·.toState))
    (hcalls : ∀ call ∈ (step lib e w).calls, ∃ r, s.recordings.get call.recordingUid = some r ∧ r.mismatches call.head = [])
    (htimely : Kept r.state (entries.map (·.toState)) ↔ e.Timely lib w) : Settled lib w e := by
  have habsorbing' : s.Absorbing := by
    unfold Service.Absorbing
    rw [haudit]
    exact habsorbing
  have hpublished' : s.Published := by
    intro k
    unfold Service.events Service.linked Service.history
    rw [haudit, houtbox]
    exact hpublished k
  have hbase' := h.base hbase hfree
  have hstays := h.published hpublished' houtbox' hnot
  refine ⟨⟨fun hconforms => htimely.1 ((h.absorbing_iff habsorbing').1 hconforms.absorbing), fun ht => ?_⟩, fun ht => ?_⟩
  · refine ⟨hbase'.sound, ⟨entries, ?_, fun a ha hlinked => ?_⟩, (h.absorbing_iff habsorbing').2 (htimely.2 ht), hstays⟩
    · rw [h.audit, haudit]
    · exact absurd (hlinked ▸ List.mem_map_of_mem ha) hnot
  · refine ⟨hbase', (h.absorbing_iff habsorbing').2 (htimely.2 ht), hstays, fun call hcall => ?_⟩
    obtain ⟨r₀, hr₀, hmatch⟩ := hcalls call hcall
    obtain ⟨r₁, hr₁, hreserved⟩ := h.keeps hr₀
    refine ⟨r₁, hr₁, ?_⟩
    show r₁.reserved.mismatches call.head = []
    rw [hreserved]
    exact hmatch

theorem reserve_settled (hinv : Inv w) (payload : Reservation) (uid opaqueId : String) (upload : Except Exc (String × Time))
    (hfresh : w.service.recordings.get uid = none) : Settled lib w (.reserve payload uid opaqueId upload) := by
  have hservice : (step lib (.reserve payload uid opaqueId upload) w).service =
      (invoke (reserve lib payload uid opaqueId upload) w.service).2 := rfl
  rcases hkey : w.service.byIdempotency.get (payload.recording.environment, payload.idempotencyKey) with _ | existing
  · obtain ⟨reply, s', r', entries, hreserve, hstates, h, houtbox, -, -⟩ := reserve_new lib hkey uid opaqueId upload
    rw [hreserve] at hservice
    have hother : ∀ {k r}, w.service.recordings.get k = some r → (w.service.register payload uid opaqueId).recordings.get k = some r := by
      intro k r hr
      rw [register_get, if_neg]
      · exact hr
      · rintro rfl
        rw [hfresh] at hr
        cases hr
    have hbase : Base (w.service.register payload uid opaqueId) := by
      refine ⟨hinv.numbered, fun k r hr => ?_, fun k r hr => ?_, fun k r v hr hv => ?_, fun a ha => ?_⟩
      · rw [register_get] at hr
        split at hr
        · rename_i hk
          rw [← Option.some.inj hr, hk]
          show follow .reservationCreated (w.service.history uid) = _
          rw [hinv.history_nil hfresh]
          rfl
        · exact hinv.chained k r hr
      · rw [register_get] at hr
        split at hr
        · rename_i hk
          rw [← Option.some.inj hr, hk]
          rfl
        · exact hinv.named k r hr
      · rw [register_get] at hr
        split at hr
        · rw [← Option.some.inj hr] at hv
          cases hv
        · exact hinv.held k r v hr hv
      · obtain ⟨r, hr⟩ := hinv.known a ha
        exact ⟨r, hother hr⟩
    refine settled_change (e := .reserve payload uid opaqueId upload) hbase rfl rfl hinv.absorbing hinv.published
      (by rw [hservice]; exact h) (by rintro _ ⟨⟩)
      (by rw [hservice]; exact houtbox) ?_ (fun call hcall => ?_) ?_
    · rw [hstates]
      decide
    · obtain ⟨r, hr, hmatch⟩ := hinv.matched call hcall
      exact ⟨r, hother hr, hmatch⟩
    · rw [hstates]
      exact iff_of_true ⟨(by rintro ⟨⟩), trivial⟩ trivial
  · refine settled_same hinv ?_ (fun call hcall => ⟨call, hcall, rfl, rfl⟩) trivial
    rw [hservice]
    rcases reserve_known lib hkey uid opaqueId upload with ⟨r, response, -, -, hreserve⟩ | ⟨-, hreserve⟩
    all_goals rw [hreserve]

/-- A recording that may be completed may be left. -/
theorem completable_open (h : state ∈ completable) : state.absorbing = false := by
  revert h
  cases state <;> decide

theorem complete_settled (hinv : Inv w) (uid : String) (payload : Completion) (head : Except Exc ObjectHead) (now : Time) :
    Settled lib w (.complete uid payload head now) := by
  have hspec := complete_spec lib w.service uid payload head now
  rcases hcomplete : invoke (complete lib uid payload head now) w.service with ⟨reply, s'⟩
  rw [hcomplete] at hspec
  have hstep : ∀ {x : Exc}, reply = .error x → step lib (.complete uid payload head now) w = { w with service := s' } := by
    rintro x rfl
    unfold step Event.answer
    dsimp only
    rw [hcomplete]
  have hopen : ∀ (entries : List StateAudit) {r : Recording}, r.state ∈ completable → Kept .uploaded (entries.map (·.toState)) →
      Kept r.state (.uploaded :: entries.map (·.toState)) := by
    intro entries r hstate hkept
    refine ⟨fun habsorbing => ?_, hkept⟩
    rw [completable_open hstate] at habsorbing
    cases habsorbing
  have htimely : ∀ {r : Recording}, w.service.recordings.get uid = some r → r.mismatchedCompletion uid payload = [] →
      (Event.complete uid payload head now).Timely lib w := by
    intro r hr hnames r' hr' hne
    rw [Option.some.inj (hr.symm.trans hr')] at hnames
    exact absurd hnames hne
  cases hspec with
  | unknown x hr =>
    refine settled_same hinv (congrArg World.service (hstep rfl)) (fun call hcall => ?_) fun r hr' => ?_
    · rw [hstep rfl] at hcall
      exact ⟨call, hcall, rfl, rfl⟩
    · rw [hr] at hr'
      cases hr'
  | conflicting r r' entries x _ hnames hstates h houtbox =>
    refine settled_change (s := w.service) hinv.toBase rfl rfl hinv.absorbing hinv.published (by rw [hstep rfl]; exact h)
      (by rintro _ ⟨⟩)
      (by rw [hstep rfl]; exact houtbox) ?_ (by rw [hstep rfl]; exact hinv.matched) ?_
    · rw [hstates]
      decide
    · rw [hstates]
      constructor
      · rintro ⟨hkept, -⟩ r₀ hr₀ - hlinked
        rw [← Option.some.inj (h.before.symm.trans hr₀)] at hlinked
        rw [hlinked] at hkept
        cases hkept rfl
      · intro ht
        refine ⟨fun habsorbing => ?_, trivial⟩
        rcases of_decide_eq_true habsorbing with hlinked | hquarantined
        · exact absurd hlinked (ht r h.before hnames)
        · exact hquarantined.symm
  | settled r reply hr hnames hstate hreply =>
    have hsame : (step lib (.complete uid payload head now) w).service = w.service ∧
        (step lib (.complete uid payload head now) w).calls = w.calls := by
      unfold step Event.answer
      dsimp only
      rw [hcomplete]
      rcases reply with x | ⟨ack⟩ | ⟨call⟩
      · exact ⟨rfl, rfl⟩
      · exact ⟨rfl, rfl⟩
      · exact absurd rfl (hreply call)
    refine settled_same hinv hsame.1 (fun call hcall => ?_) (htimely hr hnames)
    rw [hsame.2] at hcall
    exact ⟨call, hcall, rfl, rfl⟩
  | failing r r' entries x y _ hhead hnames hstate hstates h houtbox =>
    refine settled_change (s := w.service) hinv.toBase rfl rfl hinv.absorbing hinv.published (by rw [hstep rfl]; exact h)
      (by rintro _ ⟨⟩)
      (by rw [hstep rfl]; exact houtbox) ?_ (by rw [hstep rfl]; exact hinv.matched) (iff_of_true ?_ (htimely h.before hnames))
    · rw [hstates]
      split <;> decide
    · rw [hstates]
      split
      · exact hopen [] hstate trivial |>.imp_right fun _ => ⟨nofun, trivial⟩
      · exact hopen [] hstate trivial
  | refused r r' entries object x _ hhead hnames hstate hrefused hstates h houtbox =>
    refine settled_change (s := w.service) hinv.toBase rfl rfl hinv.absorbing hinv.published (by rw [hstep rfl]; exact h)
      (by rintro _ ⟨⟩)
      (by rw [hstep rfl]; exact houtbox) ?_ (by rw [hstep rfl]; exact hinv.matched) (iff_of_true ?_ (htimely h.before hnames))
    · rw [hstates]
      decide
    · rw [hstates]
      exact (hopen [] hstate trivial).imp_right fun _ => ⟨nofun, trivial⟩
  | awaiting r r' entries object _ hhead hnames hstate hfree hmatch hstates h houtbox =>
    have hawaiting : step lib (.complete uid payload head now) w = ⟨s', w.calls ++ [⟨uid, object, r.metadata lib object.versionId now, r.idempotencyKey, true⟩]⟩ := by
      unfold step Event.answer
      dsimp only
      rw [hcomplete]
    refine settled_change (s := w.service) hinv.toBase rfl rfl hinv.absorbing hinv.published (by rw [hawaiting]; exact h) ?_
      (by rw [hawaiting]; exact houtbox) ?_ (fun call hcall => ?_) (iff_of_true ?_ (htimely h.before hnames))
    · rintro v heq
      cases heq
      exact hfree
    · rw [hstates]
      decide
    · rw [hawaiting] at hcall
      rcases List.mem_append.1 hcall with hcall | hcall
      · exact hinv.matched call hcall
      · rw [List.mem_singleton.1 hcall]
        exact ⟨r, h.before, hmatch⟩
    · rw [hstates]
      exact (hopen [] hstate trivial).imp_right fun _ => ⟨nofun, trivial⟩

theorem failure_settled (hinv : Inv w) (uid code key : String) : Settled lib w (.failure uid code key) := by
  have hspec := failure_spec w.service uid code key
  have hservice : (step lib (.failure uid code key) w).service = (invoke (failure uid code key) w.service).2 := rfl
  rcases hfailure : invoke (failure uid code key) w.service with ⟨reply, s'⟩
  rw [hfailure] at hspec hservice
  cases hspec with
  | refused _ hrefused =>
    refine settled_same hinv hservice (fun call hcall => ⟨call, hcall, rfl, rfl⟩) fun r hr hnew hkey hown => ?_
    exact absurd hown (hrefused r hr hnew hkey)
  | failed r r' a ack _ hnew hkey hown hstate h houtbox =>
    refine settled_change (s := w.service) hinv.toBase rfl rfl hinv.absorbing hinv.published (by rw [hservice]; exact h)
      (by rintro _ ⟨⟩)
      (by rw [hservice]; exact houtbox) ?_ hinv.matched ?_
    · simp [hstate]
    · rw [List.map_singleton, hstate]
      constructor
      · rintro ⟨hkept, -⟩ r₀ hr₀ _ _ _
        rw [← Option.some.inj (h.before.symm.trans hr₀)]
        by_contra habsorbing
        rw [Bool.not_eq_false] at habsorbing
        rw [← hkept habsorbing] at habsorbing
        cases habsorbing
      · intro ht
        refine ⟨fun habsorbing => ?_, trivial⟩
        rw [ht r h.before hnew hkey hown] at habsorbing
        cases habsorbing

theorem resume_settled (hinv : Inv w) (i : Nat) (reply : Except Exc Obj) (eventId : String) (now : Time) :
    Settled lib w (.resume i reply eventId now) := by
  rcases hcall : w.calls[i]? with _ | call
  · have hstep : step lib (.resume i reply eventId now) w = w := by
      unfold step Event.answer
      dsimp only
      rw [hcall]
    refine settled_same hinv (congrArg World.service hstep) (fun call h => ⟨call, by rwa [hstep] at h, rfl, rfl⟩) ?_
    rintro call r acknowledgement h
    rw [hcall] at h
    cases h
  by_cases hrunning : call.running = true
  · obtain ⟨r, hr, hmatch⟩ := hinv.matched call (List.mem_of_getElem? hcall)
    have hspec := finish_spec lib hr reply eventId now
    rcases hfinish : invoke (finish lib call reply eventId now) w.service with ⟨answer, s'⟩
    rw [hfinish] at hspec
    have hstep : step lib (.resume i reply eventId now) w = ⟨s', w.calls.set i { call with running := false }⟩ := by
      unfold step Event.answer
      dsimp only
      rw [hcall]
      dsimp only
      rw [if_pos hrunning, hfinish]
    have hcalls : ∀ call' ∈ (step lib (.resume i reply eventId now) w).calls, ∃ r, w.service.recordings.get call'.recordingUid = some r ∧
        r.mismatches call'.head = [] := by
      intro call' hcall'
      rw [hstep] at hcall'
      rcases List.mem_or_eq_of_mem_set hcall' with hcall' | rfl
      · exact hinv.matched call' hcall'
      · exact ⟨r, hr, hmatch⟩
    cases hspec with
    | refused r₀ r' x _ hreply h houtbox =>
      refine settled_change (s := w.service) hinv.toBase rfl rfl hinv.absorbing hinv.published (by rw [hstep]; exact h)
        (by rintro _ ⟨⟩) (by rw [hstep]; exact houtbox) List.not_mem_nil hcalls ?_
      refine iff_of_true trivial ?_
      rintro call' r₁ acknowledgement hcall' _ hr₁ heq hcheck
      rw [← Option.some.inj (hcall.symm.trans hcall')] at hr₁ hcheck
      rw [← Option.some.inj (h.before.symm.trans hr₁)] at hcheck
      exact absurd hcheck (hreply acknowledgement heq)
    | linked r₀ r' a acknowledgement p ack _ hreply hcheck hstate h houtbox huid =>
      have hbase' := h.base hinv.toBase (by rintro _ ⟨⟩)
      have hevents : ∀ k, s'.events k = w.service.events k ++ if k = call.recordingUid then [p] else [] := by
        intro k
        unfold Service.events
        rw [houtbox, List.filter_append]
        congr 1
        rw [List.filter_singleton, huid, hinv.named _ r₀ h.before]
        by_cases hk : k = call.recordingUid
        · rw [if_pos hk, decide_eq_true hk.symm]
          rfl
        · rw [if_neg hk, decide_eq_false fun heq => hk heq.symm]
          rfl
      have htimely : (Event.resume i reply eventId now).Timely lib w ↔ r₀.state.absorbing = false := by
        constructor
        · intro ht
          exact ht call r₀ acknowledgement hcall hrunning h.before hreply hcheck
        · intro hopen call' r₁ acknowledgement' hcall' _ hr₁ _ _
          rw [← Option.some.inj (hcall.symm.trans hcall')] at hr₁
          rw [← Option.some.inj (h.before.symm.trans hr₁)]
          exact hopen
      have hkept : r₀.state.absorbing = false → s'.Absorbing := by
        intro hopen
        rw [h.absorbing_iff hinv.absorbing, List.map_singleton]
        refine ⟨fun habsorbing => ?_, trivial⟩
        rw [hopen] at habsorbing
        cases habsorbing
      have hpublished : r₀.state.absorbing = false → s'.Published := by
        intro hopen k
        rw [hevents, List.length_append, h.linked, List.map_singleton, hstate]
        have hold := hinv.published k
        by_cases hk : k = call.recordingUid
        · -- it has not been linked, or it would still be
          have hnot : w.service.linked k = false := by
            by_contra hlinked
            rw [Bool.not_eq_false] at hlinked
            obtain ⟨a', ha', hto⟩ := List.any_eq_true.1 hlinked
            have hstill := follow_linked (hinv.chained _ r₀ h.before) (fun a ha => hinv.absorbing a (List.mem_filter.1 ha).1)
              (.inr ⟨a', hk ▸ ha', of_decide_eq_true hto⟩)
            rw [hstill] at hopen
            cases hopen
          rw [hold, hnot, if_pos hk, decide_eq_true hk]
          rfl
        · rw [hold, if_neg hk, decide_eq_false hk]
          simp
      refine ⟨⟨fun hconforms => htimely.2 ?_, fun ht => ?_⟩, fun ht => ?_⟩
      · have habsorbing := hconforms.absorbing
        have houtboxes := hconforms.published call.recordingUid
        rw [hstep] at habsorbing houtboxes
        by_contra hclosed
        rw [Bool.not_eq_false] at hclosed
        have hkept := (h.absorbing_iff hinv.absorbing).1 habsorbing
        rw [List.map_singleton, hstate] at hkept
        have hlinked : w.service.linked call.recordingUid = true := by
          rcases follow_reached (hinv.chained _ r₀ h.before) with hcreated | ⟨a', ha', hto⟩
          · rw [hcreated] at hclosed
            cases hclosed
          · refine List.any_eq_true.2 ⟨a', ha', decide_eq_true ?_⟩
            rw [hto]
            exact (hkept.1 hclosed).symm
        have hold := hinv.published call.recordingUid
        rw [hevents, List.length_append, hold, hlinked, h.linked, hlinked, if_pos rfl] at houtboxes
        simp at houtboxes
      · refine ⟨?_, ⟨[a], ?_, fun a' ha' hto => ?_⟩, ?_, ?_⟩
        · rw [hstep]
          exact hbase'.sound
        · rw [hstep]
          exact h.audit
        · rw [List.mem_singleton] at ha'
          subst ha'
          have hown := h.own a' List.mem_cons_self
          refine ⟨i, acknowledgement, eventId, now, call, r₀, by rw [hreply], hcall, hown.symm, ?_, ?_, hcheck⟩
          · rw [hown]
            exact h.before
          · rw [Option.some.inj (h.before.symm.trans hr)]
            exact hmatch
        · rw [hstep]
          exact hkept (htimely.1 ht)
        · rw [hstep]
          exact hpublished (htimely.1 ht)
      · rw [hstep] at hcalls ⊢
        refine ⟨hbase', hkept (htimely.1 ht), hpublished (htimely.1 ht), fun call' hcall' => ?_⟩
        obtain ⟨r₁, hr₁, hmatch₁⟩ := hcalls call' hcall'
        obtain ⟨r₂, hr₂, hreserved⟩ := h.keeps hr₁
        refine ⟨r₂, hr₂, ?_⟩
        show r₂.reserved.mismatches call'.head = []
        rw [hreserved]
        exact hmatch₁
  · have hstep : step lib (.resume i reply eventId now) w = w := by
      unfold step Event.answer
      dsimp only
      rw [hcall]
      dsimp only
      rw [if_neg hrunning]
    refine settled_same hinv (congrArg World.service hstep) (fun call h => ⟨call, by rwa [hstep] at h, rfl, rfl⟩) ?_
    rintro call' r acknowledgement hcall' hrunning'
    rw [Option.some.inj (hcall.symm.trans hcall')] at hrunning
    exact absurd hrunning' hrunning

theorem settled (hinv : Inv w) (hfresh : ∀ uid, e.draw = some uid → w.service.recordings.get uid = none) : Settled lib w e := by
  cases e with
  | reserve payload uid opaqueId upload => exact reserve_settled hinv payload uid opaqueId upload (hfresh uid rfl)
  | complete uid payload head now => exact complete_settled hinv uid payload head now
  | resume i reply eventId now => exact resume_settled hinv i reply eventId now
  | failure uid code key => exact failure_settled hinv uid code key

/-- What an event does to the recordings: it changes one of them, or the one that it registers. -/
inductive Stepped (w : World) (e : Event) (s' : Service) : Prop
  | same (h : s'.recordings = w.service.recordings)
  | changed (s : Service) (uid : String) (r r' : Recording) (entries : List StateAudit) (version : Option String)
    (h : Change s s' uid r r' entries version)
    (hs : s = w.service ∨ ∃ payload opaqueId upload, e = .reserve payload uid opaqueId upload ∧
      s = w.service.register payload uid opaqueId)

theorem stepped (lib : Library) (w : World) (e : Event) : Stepped w e (step lib e w).service := by
  cases e with
  | reserve payload uid opaqueId upload =>
    have hservice : (step lib (.reserve payload uid opaqueId upload) w).service =
        (invoke (reserve lib payload uid opaqueId upload) w.service).2 := rfl
    rw [hservice]
    rcases hkey : w.service.byIdempotency.get (payload.recording.environment, payload.idempotencyKey) with _ | existing
    · obtain ⟨reply, s', r', entries, hreserve, -, h, -⟩ := reserve_new lib hkey uid opaqueId upload
      rw [hreserve]
      exact .changed _ uid _ r' entries none h (.inr ⟨payload, opaqueId, upload, rfl, rfl⟩)
    · rcases reserve_known lib hkey uid opaqueId upload with ⟨_, response, -, -, hreserve⟩ | ⟨-, hreserve⟩
      all_goals
        rw [hreserve]
        exact .same rfl
  | complete uid payload head now =>
    have hservice : (step lib (.complete uid payload head now) w).service = (invoke (complete lib uid payload head now) w.service).2 := by
      unfold step Event.answer
      dsimp only
      rcases invoke (complete lib uid payload head now) w.service with ⟨x | ⟨ack⟩ | ⟨call⟩, s'⟩ <;> rfl
    rw [hservice]
    have hspec := complete_spec lib w.service uid payload head now
    generalize invoke (complete lib uid payload head now) w.service = result at hspec ⊢
    obtain ⟨reply, s'⟩ := result
    cases hspec with
    | unknown | settled => exact .same rfl
    | conflicting _ _ _ _ _ _ _ h | failing _ _ _ _ _ _ _ _ _ _ h | refused _ _ _ _ _ _ _ _ _ _ _ h
    | awaiting _ _ _ _ _ _ _ _ _ _ _ h => exact .changed _ _ _ _ _ _ h (.inl rfl)
  | resume i reply eventId now =>
    unfold step Event.answer
    dsimp only
    rcases w.calls[i]? with _ | call
    · exact .same rfl
    dsimp only
    split
    · rcases hown : w.service.recordings.get call.recordingUid with _ | r
      · unfold finish
        rcases reply with x | acknowledgement
        · dsimp only
          split
          · refine .same ?_
            show (Service.write _ _ _).recordings = _
            unfold Service.write
            rw [hown]
          · exact .same rfl
        · rw [get_bind_none hown]
          exact .same rfl
      · have hspec := finish_spec lib hown reply eventId now
        generalize invoke (finish lib call reply eventId now) w.service = result at hspec ⊢
        obtain ⟨answer, s'⟩ := result
        cases hspec with
        | refused _ _ _ _ _ h | linked _ _ _ _ _ _ _ _ _ _ h => exact .changed _ _ _ _ _ _ h (.inl rfl)
    · exact .same rfl
  | failure uid code key =>
    show Stepped w _ (invoke (failure uid code key) w.service).2
    have hspec := failure_spec w.service uid code key
    generalize invoke (failure uid code key) w.service = result at hspec ⊢
    obtain ⟨reply, s'⟩ := result
    cases hspec with
    | refused => exact .same rfl
    | failed _ _ _ _ _ _ _ _ _ h => exact .changed _ _ _ _ _ _ h (.inl rfl)

/-- The recordings that an event leaves were there, or it drew their identifier. -/
theorem recordings_step (w : World) (e : Event) {k : String} {r : Recording} (hr : (step lib e w).service.recordings.get k = some r) :
    (∃ r, w.service.recordings.get k = some r) ∨ e.draw = some k := by
  cases stepped lib w e with
  | same h =>
    rw [h] at hr
    exact .inl ⟨r, hr⟩
  | changed s uid r₀ r' entries version h hs =>
    have hold : ∃ r, s.recordings.get k = some r := by
      by_cases hk : k = uid
      · exact ⟨r₀, hk ▸ h.before⟩
      · exact ⟨r, (h.others k hk).symm.trans hr⟩
    obtain ⟨r₁, hr₁⟩ := hold
    rcases hs with rfl | ⟨payload, opaqueId, upload, rfl, rfl⟩
    · exact .inl ⟨r₁, hr₁⟩
    · rw [register_get] at hr₁
      split at hr₁
      · rename_i hk
        rw [hk]
        exact .inr rfl
      · exact .inl ⟨r₁, hr₁⟩

end Steps

/-! ## Runs -/

section Runs

variable {lib : Library} {P Q : World → Event → Prop} {events : List Event}

/-- The identifiers that the reservations of a run draw. -/
def drawn (events : List Event) : List String := events.filterMap Event.draw

theorem inv_empty : Inv {} where
  numbered _ _ _ := nofun
  chained _ _ := nofun
  named _ _ := nofun
  held _ _ _ := nofun
  known _ := nofun
  absorbing _ := nofun
  published _ := rfl
  matched _ := nofun

/-- A run whose reservations draw different identifiers, step by step. -/
theorem always_of_draws (hdraws : (drawn events).Nodup) (h : Always (step lib) P {} events)
    (hstep : ∀ w e, Inv w → (∀ uid, e.draw = some uid → w.service.recordings.get uid = none) → P w e → Inv (step lib e w) ∧ Q w e) :
    Always (step lib) Q {} events := by
  have hreached : ∀ before, before <+: events → Inv (runFrom (step lib) {} before) ∧
      ∀ k r, (runFrom (step lib) {} before).service.recordings.get k = some r → k ∈ drawn before := by
    intro before
    induction before using List.reverseRecOn with
    | nil => exact fun _ => ⟨inv_empty, fun _ _ => nofun⟩
    | append_singleton before e ih =>
      intro hprefix
      obtain ⟨after, hafter⟩ := hprefix
      obtain ⟨hinv, hknown⟩ := ih ⟨e :: after, by rw [← hafter, List.append_assoc]; rfl⟩
      have hP := always_iff.1 h before e after (by rw [← hafter, List.append_assoc]; rfl)
      rw [runFrom_concat]
      refine ⟨(hstep _ e hinv (fun uid hdraw => ?_) hP).1, fun k r hr => ?_⟩
      · rcases hr : (runFrom (step lib) {} before).service.recordings.get uid with _ | r
        · rfl
        · have hold := hknown uid r hr
          rw [← hafter] at hdraws
          unfold drawn at hdraws hold
          rw [List.filterMap_append, List.filterMap_append] at hdraws
          have hdisjoint := (List.nodup_append.1 (List.nodup_append.1 hdraws).1).2.2
          exact absurd rfl (hdisjoint uid hold uid (by simp [hdraw]))
      · unfold drawn
        rw [List.filterMap_append, List.mem_append]
        rcases recordings_step _ e hr with ⟨r₀, hr₀⟩ | hdraw
        · exact .inl (hknown k r₀ hr₀)
        · exact .inr (by simp [hdraw])
  rw [always_iff]
  rintro before e after heq
  obtain ⟨hinv, hknown⟩ := hreached before ⟨e :: after, heq.symm⟩
  refine (hstep _ e hinv (fun uid hdraw => ?_) (always_iff.1 h before e after heq)).2
  rcases hr : (runFrom (step lib) {} before).service.recordings.get uid with _ | r
  · rfl
  · have hold := hknown uid r hr
    rw [heq] at hdraws
    unfold drawn at hdraws hold
    rw [List.filterMap_append] at hdraws
    have hdisjoint := (List.nodup_append.1 hdraws).2.2
    exact absurd rfl (hdisjoint uid hold uid (by simp [hdraw]))

/-- The lifecycle of the recordings is kept throughout a run exactly if every event is timely. -/
theorem recording_lifecycle_iff (lib : Library) (events : List Event) (hdraws : (drawn events).Nodup) :
    Always (step lib) (Conforms lib) {} events ↔ Always (step lib) (fun w e => e.Timely lib w) {} events := by
  constructor
  · intro h
    refine always_of_draws hdraws h fun w e hinv hfresh hconforms => ?_
    have hsettled : Settled lib w e := settled hinv hfresh
    exact ⟨hsettled.inv (hsettled.iff.1 hconforms), hsettled.iff.1 hconforms⟩
  · intro h
    refine always_of_draws hdraws h fun w e hinv hfresh htimely => ?_
    have hsettled : Settled lib w e := settled hinv hfresh
    exact ⟨hsettled.inv htimely, hsettled.iff.2 htimely⟩

/-! ### One recording -/

/-- The two texts of instants that the runs below come to. -/
def sampleLibrary : Library where
  isoformat t := if t = 1785456300000000 then "2026-07-31T00:05:00+00:00" else "2026-08-07T00:00:00+00:00"
  fromisoformat value :=
    match value with
    | .str "2026-08-07T00:00:00+00:00" => some ⟨1786060800000000, true⟩
    | _ => none

def sampleReservation : Reservation where
  idempotencyKey := "aaaaaaaaaaaaaaaaaaaaaaaaaaaaaaaaaaaaaaaaaaaaaaaaaaaaaaaaaaaaaaaa"
  recording :=
    { vicidialRecordingId := "123", vicidialCallId := "call-1", asteriskUniqueid := "asterisk-1", campaignKey := "SYNTHETIC",
      agentKey := "agent-1", startedAt := "2026-07-31T00:00:00Z", durationSeconds := ((3 / 2 : ℚ) : WithTop ℚ), format := .mp3,
      codec := "mp3", channels := 1, sampleRateHz := 8000, fileSizeBytes := 123,
      sha256 := "bbbbbbbbbbbbbbbbbbbbbbbbbbbbbbbbbbbbbbbbbbbbbbbbbbbbbbbbbbbbbbbb", environment := .staging,
      retentionClass := .syntheticTest }

def sampleUid : String := "REC-00000000000000000000000000000001"

def sampleReserve : Event :=
  .reserve sampleReservation sampleUid "00000000000000000000000000000002" (.ok ("https://storage/upload", 1785456300000000))

def sampleCompletion (campaignKey : String) : Completion where
  recordingUid := some sampleUid
  idempotencyKey := some sampleReservation.idempotencyKey
  environment := some .staging
  campaignKey := some campaignKey
  sha256 := some sampleReservation.recording.sha256
  fileSizeBytes := some 123
  format := some .mp3
  durationSeconds := some ((3 / 2 : ℚ) : WithTop ℚ)

def sampleHead : ObjectHead where
  sizeBytes := 123
  contentType := "audio/mpeg"
  checksumSha256 := sampleReservation.recording.sha256
  versionId := "v1"
  metadata := [("environment", "staging"), ("campaign_key", "SYNTHETIC"), ("recording_uid", sampleUid),
    ("idempotency_key", sampleReservation.idempotencyKey)]

def sampleComplete (campaignKey : String) : Event :=
  .complete sampleUid (sampleCompletion campaignKey) (.ok sampleHead) 1785456000000000

/-- A failure is reported of a recording that is quarantined. -/
theorem quarantine_left : ¬∀ (lib : Library) (events : List Event), (drawn events).Nodup →
    Always (step lib) (Conforms lib) {} events := by
  intro h
  obtain ⟨-, -, hthird, -⟩ := h sampleLibrary
    [sampleReserve, sampleComplete "OTHER", .failure sampleUid "UPLOAD_ABORTED" sampleReservation.idempotencyKey] (by decide)
  have hleft := hthird.absorbing ⟨sampleUid, 3, .quarantined, .failed, "UPLOAD_ABORTED"⟩ (List.mem_of_getElem? (i := 2) rfl) rfl
  cases hleft

/-- A recording that is completed. -/
theorem recording_lifecycle_sample : Always (step sampleLibrary) (Conforms sampleLibrary) {} [sampleReserve, sampleComplete "SYNTHETIC"] := by
  refine (recording_lifecycle_iff sampleLibrary _ (by decide)).2 ⟨trivial, fun r hr hne => ?_, trivial⟩
  have hstate : (step sampleLibrary sampleReserve {}).service.recordings.get sampleUid =
      some { newRecording sampleReservation sampleUid "00000000000000000000000000000002" with state := .uploading } := rfl
  rw [← Option.some.inj (hstate.symm.trans hr)]
  nofun

end Runs

end Middleware.Recordings

/-
What the calls of the service do to a recording: it goes through states, one entry of the audit for each, and it may come to own the
version of an object. One relation for each call says through which states, and under which guards.
-/
import Middleware.Recordings.Service

namespace Middleware.Recordings

open Lib

/-! ## Changes of one recording -/

/-- Where the entries of an audit lead, each from the state that the last one led to. -/
def follow : RecordingState → List StateAudit → Option RecordingState
  | state, [] => some state
  | state, a :: rest => if a.fromState = state then follow a.toState rest else none

def Recording.reserved (r : Recording) : Recording :=
  { r with state := .reservationCreated, objectVersionId := none, verifiedAt := none, odooLinkedAt := none, failureCode := none }

/-- One recording is changed: the entries tell through which states it went, and the version of an object may be its own now. -/
structure Change (s s' : Service) (uid : String) (r r' : Recording) (entries : List StateAudit) (version : Option String) : Prop where
  before : s.recordings.get uid = some r
  after : s'.recordings.get uid = some r'
  others : ∀ k, k ≠ uid → s'.recordings.get k = s.recordings.get k
  reserved : r'.reserved = r.reserved
  claimed : r'.objectVersionId = version.or r.objectVersionId
  versions : ∀ v, s'.objectVersions.get v = if version = some v then some uid else s.objectVersions.get v
  audit : s'.audit = s.audit ++ entries
  own : ∀ a ∈ entries, a.recordingUid = uid
  path : follow r.state entries = some r'.state
  numbered : ∀ i a, entries[i]? = some a → a.sequence = (s.history uid).length + i + 1

theorem follow_append (l : List StateAudit) (a : StateAudit) {state last : RecordingState} (h : follow state l = some last)
    (ha : a.fromState = last) : follow state (l ++ [a]) = some a.toState := by
  induction l generalizing state with
  | nil =>
    cases h
    exact if_pos ha
  | cons b rest ih =>
    unfold follow at h
    by_cases hb : b.fromState = state
    · rw [if_pos hb] at h
      show (if b.fromState = state then follow b.toState (rest ++ [a]) else none) = _
      rw [if_pos hb]
      exact ih h
    · rw [if_neg hb] at h
      cases h

section Writes

variable {s s' : Service} {uid : String} {r r' : Recording} {entries : List StateAudit} {version : Option String}
variable {f : Recording → Recording}

namespace Service

theorem write_eq (hr : s.recordings.get uid = some r) :
    s.write uid f = { s with recordings := s.recordings.set uid (f r) } := by
  unfold write
  rw [hr]

theorem transition_eq {state : RecordingState} {reason : String} (hr : s.recordings.get uid = some r) :
    s.transition uid state reason =
      { s with
        recordings := s.recordings.set uid { r with state }
        audit := s.audit ++ [⟨uid, (s.history uid).length + 1, r.state, state, reason⟩] } := by
  unfold transition
  rw [hr]
  rw [write_eq hr]

theorem transition_outbox (uid : String) (state : RecordingState) (reason : String) : (s.transition uid state reason).outbox = s.outbox := by
  unfold transition write
  split <;> rfl

theorem write_outbox (uid : String) (f : Recording → Recording) : (s.write uid f).outbox = s.outbox := by
  unfold write
  split <;> rfl

end Service

namespace Change

theorem refl (hr : s.recordings.get uid = some r) : Change s s uid r r [] none where
  before := hr
  after := hr
  others _ _ := rfl
  reserved := rfl
  claimed := rfl
  versions _ := rfl
  audit := (List.append_nil _).symm
  own := nofun
  path := rfl
  numbered := nofun

theorem alike {t : Service} (h : Change s s' uid r r' entries version) (hrecordings : t.recordings = s'.recordings)
    (hversions : t.objectVersions = s'.objectVersions) (haudit : t.audit = s'.audit) : Change s t uid r r' entries version where
  before := h.before
  after := by rw [hrecordings]; exact h.after
  others k hk := by rw [hrecordings]; exact h.others k hk
  reserved := h.reserved
  claimed := h.claimed
  versions v := by rw [hversions]; exact h.versions v
  audit := haudit.trans h.audit
  own := h.own
  path := h.path
  numbered := h.numbered

theorem write (h : Change s s' uid r r' entries version) (hreserved : ∀ r, (f r).reserved = r.reserved)
    (hstate : ∀ r, (f r).state = r.state) (hversion : ∀ r, (f r).objectVersionId = r.objectVersionId) :
    Change s (s'.write uid f) uid r (f r') entries version := by
  rw [Service.write_eq h.after]
  refine ⟨h.before, OrderedDict.get_set_self, fun k hk => ?_, (hreserved r').trans h.reserved, (hversion r').trans h.claimed, h.versions,
    h.audit, h.own, (hstate r').symm ▸ h.path, h.numbered⟩
  exact (OrderedDict.get_set_ne hk).trans (h.others k hk)

theorem claim (h : Change s s' uid r r' entries none) (v : String)
    (hreserved : ∀ r, (f r).reserved = r.reserved) (hstate : ∀ r, (f r).state = r.state)
    (hversion : ∀ r, (f r).objectVersionId = some v) :
    Change s { s'.write uid f with objectVersions := (s'.write uid f).objectVersions.set v uid } uid r (f r') entries (some v) := by
  rw [Service.write_eq h.after]
  refine ⟨h.before, OrderedDict.get_set_self, fun k hk => ?_, (hreserved r').trans h.reserved, hversion r', fun v' => ?_, h.audit, h.own,
    (hstate r').symm ▸ h.path, h.numbered⟩
  · exact (OrderedDict.get_set_ne hk).trans (h.others k hk)
  · have hold : s'.objectVersions.get v' = s.objectVersions.get v' := h.versions v'
    rw [OrderedDict.get_set, hold]
    by_cases hv : v' = v
    · rw [if_pos hv, if_pos (congrArg some hv.symm)]
    · rw [if_neg hv, if_neg fun heq => hv (Option.some.inj heq).symm]

theorem history (h : Change s s' uid r r' entries version) (k : String) :
    s'.history k = s.history k ++ if k = uid then entries else [] := by
  unfold Service.history
  rw [h.audit, List.filter_append]
  congr 1
  split
  · rename_i hk
    refine List.filter_eq_self.2 fun a ha => ?_
    rw [hk]
    exact decide_eq_true (h.own a ha)
  · rename_i hk
    refine List.filter_eq_nil_iff.2 fun a ha heq => hk ?_
    rw [← of_decide_eq_true heq]
    exact h.own a ha

theorem transition (h : Change s s' uid r r' entries version) (state : RecordingState) (reason : String) :
    ∃ r'' a, a.toState = state ∧ Change s (s'.transition uid state reason) uid r r'' (entries ++ [a]) version := by
  refine ⟨{ r' with state }, ⟨uid, (s'.history uid).length + 1, r'.state, state, reason⟩, rfl, ?_⟩
  rw [Service.transition_eq h.after]
  refine ⟨h.before, OrderedDict.get_set_self, fun k hk => ?_, h.reserved, h.claimed, h.versions, ?_, fun a ha => ?_,
    follow_append entries _ h.path rfl, fun i a ha => ?_⟩
  · exact (OrderedDict.get_set_ne hk).trans (h.others k hk)
  · rw [← List.append_assoc, ← h.audit]
  · rcases List.mem_append.1 ha with ha | ha
    · exact h.own a ha
    · rw [List.mem_singleton.1 ha]
  · have hlength : (s'.history uid).length = (s.history uid).length + entries.length := by
      rw [h.history, if_pos rfl, List.length_append]
    rw [List.getElem?_append] at ha
    split at ha
    · exact h.numbered i a ha
    · rw [List.getElem?_singleton] at ha
      split at ha
      · rw [← Option.some.inj ha]
        dsimp only
        omega
      · cases ha

end Change

end Writes

/-! ## The calls -/

section Calls

variable {s : Service}

theorem get_bind_some {A : Type} {uid : String} {r : Recording} {f : Recording → ServiceM A} (h : s.recordings.get uid = some r) :
    invoke (get uid >>= f) s = invoke (f r) s := by
  unfold get
  rw [bind_assoc, invoke_bind, invoke_get]
  dsimp only
  rw [h]
  rfl

theorem get_bind_none {A : Type} {uid : String} {f : Recording → ServiceM A} (h : s.recordings.get uid = none) :
    invoke (get uid >>= f) s = (.error (.recordingNotFound uid), s) := by
  unfold get
  rw [bind_assoc, invoke_bind, invoke_get]
  dsimp only
  rw [h]
  rfl

def Service.register (s : Service) (payload : Reservation) (uid opaqueId : String) : Service :=
  { s with
    recordings := s.recordings.set uid (newRecording payload uid opaqueId)
    byIdempotency := s.byIdempotency.set (payload.recording.environment, payload.idempotencyKey) uid }

theorem register_get (s : Service) (payload : Reservation) (uid opaqueId k : String) :
    (s.register payload uid opaqueId).recordings.get k =
      if k = uid then some (newRecording payload uid opaqueId) else s.recordings.get k := OrderedDict.get_set

variable (lib : Library) {payload : Reservation}

theorem reserve_known {existing : String}
    (h : s.byIdempotency.get (payload.recording.environment, payload.idempotencyKey) = some existing) (uid opaqueId : String)
    (upload : Except Exc (String × Time)) :
    (∃ r response, s.recordings.get existing = some r ∧ s.reservationResponses.get existing = some response ∧
      invoke (reserve lib payload uid opaqueId upload) s = (.ok response, s)) ∨
    (s.recordings.get existing = none ∨ s.reservationResponses.get existing = none) ∧
      invoke (reserve lib payload uid opaqueId upload) s = (.error .keyError, s) := by
  unfold reserve
  rw [invoke_bind, invoke_get]
  dsimp only
  rw [h]
  dsimp only
  rcases hr : s.recordings.get existing with _ | r
  · exact .inr ⟨.inl rfl, rfl⟩
  · rcases hresponse : s.reservationResponses.get existing with _ | response
    · exact .inr ⟨.inr rfl, rfl⟩
    · exact .inl ⟨r, response, rfl, rfl, rfl⟩

theorem reserve_new
    (h : s.byIdempotency.get (payload.recording.environment, payload.idempotencyKey) = none) (uid opaqueId : String)
    (upload : Except Exc (String × Time)) :
    ∃ reply s' r' entries, invoke (reserve lib payload uid opaqueId upload) s = (reply, s') ∧ entries.map (·.toState) = [.uploading] ∧
      Change (s.register payload uid opaqueId) s' uid (newRecording payload uid opaqueId) r' entries none ∧ s'.outbox = s.outbox ∧
      s'.byIdempotency = (s.register payload uid opaqueId).byIdempotency ∧ ((∃ x, reply = .error x) ↔ ∃ x, upload = .error x) := by
  have hregistered : (s.register payload uid opaqueId).recordings.get uid = some (newRecording payload uid opaqueId) :=
    OrderedDict.get_set_self
  obtain ⟨r₁, a, ha, hchange⟩ := (Change.refl hregistered).transition .uploading "upload_authorized"
  have houtbox := Service.transition_outbox (s := s.register payload uid opaqueId) uid .uploading "upload_authorized"
  have hkeys : ((s.register payload uid opaqueId).transition uid .uploading "upload_authorized").byIdempotency =
      (s.register payload uid opaqueId).byIdempotency := by
    rw [Service.transition_eq hregistered]
  unfold reserve
  rw [invoke_bind, invoke_get]
  dsimp only
  rw [h]
  rcases upload with x | ⟨url, expires⟩
  · exact ⟨.error x, _, _, [a], rfl, by simp [ha], hchange, houtbox, hkeys, ⟨fun _ => ⟨x, rfl⟩, fun _ => ⟨x, rfl⟩⟩⟩
  · refine ⟨_, _, _, [a], rfl, by simp [ha], hchange.alike rfl rfl rfl, houtbox, hkeys, ⟨?_, ?_⟩⟩
    · rintro ⟨x, hx⟩
      cases hx
    · rintro ⟨x, hx⟩
      cases hx

/-- How a completion ends, or comes to its call of Odoo. -/
inductive Completes (lib : Library) (s : Service) (uid : String) (payload : Completion) (head : Except Exc ObjectHead) (now : Time) :
    Except Exc Begun → Service → Prop
  | unknown (x : Exc) (hr : s.recordings.get uid = none) : Completes lib s uid payload head now (.error x) s
  | conflicting (r r' : Recording) (entries : List StateAudit) (x : Exc) (s' : Service) (hnames : r.mismatchedCompletion uid payload ≠ [])
    (hstates : entries.map (·.toState) = [.quarantined]) (h : Change s s' uid r r' entries none) (houtbox : s'.outbox = s.outbox) :
    Completes lib s uid payload head now (.error x) s'
  | settled (r : Recording) (reply : Except Exc Begun) (hr : s.recordings.get uid = some r) (hnames : r.mismatchedCompletion uid payload = [])
    (hstate : r.state ∉ completable) (hreply : ∀ call, reply ≠ .ok (.awaiting call)) : Completes lib s uid payload head now reply s
  | failing (r r' : Recording) (entries : List StateAudit) (x y : Exc) (s' : Service) (hhead : head = .error x)
    (hnames : r.mismatchedCompletion uid payload = []) (hstate : r.state ∈ completable)
    (hstates : entries.map (·.toState) = if x.ofHead then [.uploaded, .failed] else [.uploaded]) (h : Change s s' uid r r' entries none)
    (houtbox : s'.outbox = s.outbox) : Completes lib s uid payload head now (.error y) s'
  | refused (r r' : Recording) (entries : List StateAudit) (object : ObjectHead) (x : Exc) (s' : Service) (hhead : head = .ok object)
    (hnames : r.mismatchedCompletion uid payload = []) (hstate : r.state ∈ completable)
    (hrefused : s.ownedElsewhere object.versionId uid = true ∨ r.mismatches object ≠ [])
    (hstates : entries.map (·.toState) = [.uploaded, .quarantined]) (h : Change s s' uid r r' entries none)
    (houtbox : s'.outbox = s.outbox) : Completes lib s uid payload head now (.error x) s'
  | awaiting (r r' : Recording) (entries : List StateAudit) (object : ObjectHead) (s' : Service) (hhead : head = .ok object)
    (hnames : r.mismatchedCompletion uid payload = []) (hstate : r.state ∈ completable)
    (hfree : s.ownedElsewhere object.versionId uid = false) (hmatch : r.mismatches object = [])
    (hstates : entries.map (·.toState) = [.uploaded, .serverVerified]) (h : Change s s' uid r r' entries (some object.versionId))
    (houtbox : s'.outbox = s.outbox) :
    Completes lib s uid payload head now (.ok (.awaiting ⟨uid, object, r.metadata lib object.versionId now, r.idempotencyKey, true⟩)) s'

theorem complete_spec (s : Service) (uid : String) (payload : Completion) (head : Except Exc ObjectHead) (now : Time) :
    Completes lib s uid payload head now (invoke (complete lib uid payload head now) s).1
      (invoke (complete lib uid payload head now) s).2 := by
  unfold complete
  rcases hr : s.recordings.get uid with _ | r
  · rw [get_bind_none hr]
    exact .unknown _ hr
  rw [get_bind_some hr]
  by_cases hnames : r.mismatchedCompletion uid payload ≠ []
  · rw [if_pos hnames]
    obtain ⟨r₁, a, ha, h⟩ := (Change.refl hr).transition .quarantined
      ("completion:" ++ ",".intercalate (r.mismatchedCompletion uid payload))
    exact .conflicting r _ [a] _ _ hnames (by simp [ha]) h (Service.transition_outbox _ _ _)
  rw [if_neg hnames]
  have hnone := not_not.1 hnames
  by_cases hlinked : r.state = .odooLinked ∧ r.objectVersionId.isSome
  · rw [if_pos hlinked]
    exact .settled r _ hr hnone (by rw [hlinked.1]; decide) fun _ h => nomatch h
  rw [if_neg hlinked]
  by_cases hstate : r.state ∉ completable
  · rw [if_pos hstate]
    exact .settled r _ hr hnone hstate fun _ h => nomatch h
  rw [if_neg hstate, invoke_bind, invoke_modify]
  dsimp only
  have hopen := not_not.1 hstate
  obtain ⟨r₁, a, ha, huploaded⟩ := (Change.refl hr).transition .uploaded "completion_received"
  have houtbox : (s.transition uid .uploaded "completion_received").outbox = s.outbox := Service.transition_outbox _ _ _
  rcases head with x | object
  · -- the object store raises
    dsimp only
    by_cases hcaught : x.ofHead = true
    · rw [hcaught]
      obtain ⟨r₂, b, hb, hfailed⟩ := huploaded.transition .failed "object_head_failed"
      refine .failing r _ ([] ++ [a] ++ [b]) x _ _ rfl hnone hopen ?_ hfailed ((Service.transition_outbox _ _ _).trans houtbox)
      simp [ha, hb, hcaught]
    · rw [Bool.not_eq_true] at hcaught
      rw [hcaught]
      refine .failing r _ ([] ++ [a]) x _ _ rfl hnone hopen ?_ huploaded houtbox
      simp [ha, hcaught]
  · rw [invoke_bind, invoke_get]
    dsimp only
    have hsame : (s.transition uid .uploaded "completion_received").ownedElsewhere object.versionId uid =
        s.ownedElsewhere object.versionId uid := by
      unfold Service.ownedElsewhere
      rw [huploaded.versions]
      rfl
    rw [hsame]
    by_cases howned : s.ownedElsewhere object.versionId uid = true
    · rw [if_pos howned]
      obtain ⟨r₂, b, hb, hquarantined⟩ := huploaded.transition .quarantined "version_conflict"
      exact .refused r _ ([] ++ [a] ++ [b]) object _ _ rfl hnone hopen (.inl howned) (by simp [ha, hb]) hquarantined
        ((Service.transition_outbox _ _ _).trans houtbox)
    rw [if_neg howned]
    by_cases hmismatch : r.mismatches object ≠ []
    · rw [if_pos hmismatch]
      obtain ⟨r₂, b, hb, hquarantined⟩ := (huploaded.write (f := fun r => { r with failureCode := some "OBJECT_METADATA_MISMATCH" }) (fun _ => rfl)
        (fun _ => rfl) fun _ => rfl).transition .quarantined (",".intercalate (r.mismatches object))
      refine .refused r _ ([] ++ [a] ++ [b]) object _ _ rfl hnone hopen (.inr hmismatch) (by simp [ha, hb]) hquarantined ?_
      exact (Service.transition_outbox _ _ _).trans ((Service.write_outbox _ _).trans houtbox)
    rw [if_neg hmismatch]
    obtain ⟨r₂, b, hb, hverified⟩ := (huploaded.claim (f := fun r => { r with objectVersionId := some object.versionId, verifiedAt := some now })
      object.versionId (fun _ => rfl) (fun _ => rfl) fun _ => rfl).transition .serverVerified "object_verified"
    refine .awaiting r _ ([] ++ [a] ++ [b]) object _ rfl hnone hopen (Bool.not_eq_true _ ▸ howned) (not_not.1 hmismatch)
      (by simp [ha, hb]) hverified ?_
    exact (Service.transition_outbox _ _ _).trans ((Service.write_outbox _ _).trans houtbox)

/-- How a completion ends after its call of Odoo. -/
inductive Finishes (lib : Library) (s : Service) (call : Call) (reply : Except Exc Obj) : Except Exc Ack → Service → Prop
  | refused (r r' : Recording) (x : Exc) (s' : Service)
    (hreply : ∀ acknowledgement, reply = .ok acknowledgement → checkAcknowledgement lib r call.metadata acknowledgement ≠ .ok ())
    (h : Change s s' call.recordingUid r r' [] none) (houtbox : s'.outbox = s.outbox) : Finishes lib s call reply (.error x) s'
  | linked (r r' : Recording) (a : StateAudit) (acknowledgement : Obj) (p : N8nProjection) (ack : Ack) (s' : Service)
    (hreply : reply = .ok acknowledgement) (hcheck : checkAcknowledgement lib r call.metadata acknowledgement = .ok ())
    (hstate : a.toState = .odooLinked) (h : Change s s' call.recordingUid r r' [a] none) (houtbox : s'.outbox = s.outbox ++ [p])
    (huid : p.recordingUid = r.recordingUid) : Finishes lib s call reply (.ok ack) s'

theorem finish_spec {call : Call} {r : Recording} (hr : s.recordings.get call.recordingUid = some r)
    (reply : Except Exc Obj) (eventId : String) (now : Time) :
    Finishes lib s call reply (invoke (finish lib call reply eventId now) s).1 (invoke (finish lib call reply eventId now) s).2 := by
  unfold finish
  rcases reply with x | acknowledgement
  · dsimp only
    by_cases hcancelled : x ≠ .cancelled
    · rw [if_pos hcancelled]
      exact .refused r _ x _ nofun ((Change.refl hr).write (fun _ => rfl) (fun _ => rfl) fun _ => rfl) (Service.write_outbox _ _)
    · rw [if_neg hcancelled]
      exact .refused r r x s nofun (Change.refl hr) rfl
  · rw [get_bind_some hr, invoke_bind, invoke_lift]
    rcases hcheck : checkAcknowledgement lib r call.metadata acknowledgement with x | u
    · refine .refused r r x s (fun acknowledgement' heq => ?_) (Change.refl hr) rfl
      cases heq
      rw [hcheck]
      nofun
    · dsimp only
      obtain ⟨r₁, a, ha, hlinked⟩ := ((Change.refl hr).write (f := fun r => { r with odooLinkedAt := some now }) (fun _ => rfl) (fun _ => rfl) fun _ => rfl).transition
        .odooLinked "odoo_acknowledged"
      rw [invoke_bind, invoke_modify]
      dsimp only
      rw [invoke_bind, invoke_modify]
      dsimp only
      rw [get_bind_some hlinked.after]
      refine .linked r r₁ a acknowledgement (r₁.n8nProjection lib eventId now) _ _ rfl hcheck ha (hlinked.alike rfl rfl rfl) ?_ ?_
      · show (Service.transition _ _ _ _).outbox ++ _ = _
        rw [Service.transition_outbox, Service.write_outbox]
      · show r₁.reserved.recordingUid = r.reserved.recordingUid
        rw [hlinked.reserved]

/-- How a report of a failure ends. -/
inductive Fails (s : Service) (uid key : String) : Except Exc Ack → Service → Prop
  | refused (reply : Except Exc Ack)
    (hrefused : ∀ r, s.recordings.get uid = some r → s.failureResults.get (uid, key) = none → key ≠ "" → key ≠ r.idempotencyKey) :
    Fails s uid key reply s
  | failed (r r' : Recording) (a : StateAudit) (ack : Ack) (s' : Service) (hnew : s.failureResults.get (uid, key) = none) (hkey : key ≠ "")
    (hown : key = r.idempotencyKey) (hstate : a.toState = .failed) (h : Change s s' uid r r' [a] none) (houtbox : s'.outbox = s.outbox) :
    Fails s uid key (.ok ack) s'

theorem failure_spec (s : Service) (uid code key : String) :
    Fails s uid key (invoke (failure uid code key) s).1 (invoke (failure uid code key) s).2 := by
  unfold failure
  rcases hr : s.recordings.get uid with _ | r
  · rw [get_bind_none hr]
    refine .refused _ fun r h => ?_
    rw [hr] at h
    cases h
  rw [get_bind_some hr, invoke_bind, invoke_get]
  dsimp only
  rcases hresult : s.failureResults.get (uid, key) with _ | result
  · by_cases hkey : key = "" ∨ key ≠ r.idempotencyKey
    · rw [if_pos hkey]
      refine .refused _ fun r' hr' _ hne => ?_
      rw [← Option.some.inj (hr.symm.trans hr')]
      exact hkey.resolve_left hne
    · rw [if_neg hkey]
      obtain ⟨hne, hown⟩ := not_or.1 hkey
      obtain ⟨r₁, a, ha, hfailed⟩ := ((Change.refl hr).write (f := fun r => { r with failureCode := some code }) (fun _ => rfl) (fun _ => rfl) fun _ => rfl).transition
        .failed code
      rw [invoke_bind, invoke_modify]
      dsimp only
      rw [invoke_bind, invoke_modify]
      dsimp only
      rw [get_bind_some hfailed.after]
      refine .failed r _ a _ _ hresult hne (not_not.1 hown) ha (hfailed.alike rfl rfl rfl) ?_
      show (Service.transition _ _ _ _).outbox = _
      rw [Service.transition_outbox, Service.write_outbox]
  · refine .refused _ fun r' _ hnone => ?_
    rw [hresult] at hnone
    cases hnone

end Calls

end Middleware.Recordings

/-
The readbacks of every run: one is sent only after the desired state was read with the saga's version and manifest, and two
of them under one idempotency key have one body.
-/
import Middleware.Campaign.Claims

namespace Middleware.Campaign

open Ledger Lib Policy

/-- The desired state that a dispatch read. -/
def Phase.desired : Phase → Option DesiredState
  | .loaded => none
  | .renewed desired | .applied desired _ | .ready desired | .sent desired _ => some desired

def DesiredState.agrees (desired : DesiredState) (saga : OdooCampaignSaga) : Prop :=
  desired.configurationVersion = saga.configurationVersion ∧ desired.manifestHash = saga.manifestHash

/-- A dispatch has the enrolment of its row in memory, and what it read agrees with it. -/
structure Agreed (w : World) : Prop where
  row : ∀ worker run, w.runs worker = some run → ∃ r ∈ w.sagas, r.enrolled = run.saga.enrolled
  desired : ∀ worker run desired, w.runs worker = some run → run.phase.desired = some desired → desired.agrees run.saga
  sent : ∀ x ∈ w.history.sent, ∃ r ∈ w.sagas, r.sagaId = x.sagaId ∧ x.desired.agrees r

/-- A row, or the copy of one that a dispatch has in memory. -/
def World.carries (w : World) (saga : OdooCampaignSaga) : Prop :=
  saga ∈ w.sagas ∨ ∃ worker run, w.runs worker = some run ∧ run.saga = saga

/-- The bodies of the observations that were stored: every row, copy and call under one of their keys has that body. -/
structure Issued (w : World) (issued : List ActualStateReadback) : Prop where
  keys : (issued.map (·.idempotencyKey)).Nodup
  drawn : ∀ b ∈ issued, ∃ saga, ∃ uuid ∈ w.drawn, uuid.length = 36 ∧ b.idempotencyKey = readbackKey saga uuid
  carried : ∀ saga, w.carries saga → saga.readbackIdempotencyKey.isSome = true → ∃ b ∈ issued, saga.readback = some b
  phase : ∀ worker run desired readback, w.runs worker = some run → run.phase = .sent desired readback →
    run.saga.readback = some readback
  sent : ∀ x ∈ w.history.sent, x.readback ∈ issued

section Readbacks

variable {lib : Library} {act : Act} {w w' : World} {worker other : Worker} {run run' : Run}
  {r r' row saga : OdooCampaignSaga} {issued : List ActualStateReadback}

theorem readback_key {b : ActualStateReadback} (h : saga.readback = some b) : saga.readbackIdempotencyKey = some b.idempotencyKey ∧
    saga.effectiveState.isSome = true ∧ saga.observedAt.isSome = true := by
  unfold OdooCampaignSaga.readback at h
  split at h
  · rename_i key st t hkey hst ht
    cases h
    rw [hst, ht]
    exact ⟨hkey, rfl, rfl⟩
  · cases h

/-- The body of an observation depends on the enrolment of the row that stores it. -/
theorem observed_readback (observation : AdapterObservation) (key : String) (attempts : Nat) (h : r.enrolled = saga.enrolled) :
    (r.observed observation key attempts).readback = (saga.observed observation key attempts).readback := by
  have heq := congrArg (fun s : OdooCampaignSaga => (s.observed observation key attempts).readback) h
  exact heq

/-- Two keys that end in different values of `uuid4` are different. -/
theorem readbackKey_inj {saga saga' : OdooCampaignSaga} {uuid uuid' : String} (hlen : uuid.length = uuid'.length)
    (h : readbackKey saga uuid = readbackKey saga' uuid') : uuid = uuid' := by
  have hchars := congrArg String.toList h
  unfold readbackKey at hchars
  exact String.toList_inj.1 (List.append_inj' (String.toList_append.symm.trans (hchars.trans String.toList_append))
    (by rw [String.length_toList, String.length_toList, hlen])).2

theorem readbackKey_ne_empty (saga : OdooCampaignSaga) (uuid : String) : (readbackKey saga uuid).isEmpty = false := by
  unfold readbackKey
  rw [Bool.eq_false_iff, ne_eq, String.isEmpty_iff, String.append_eq_empty_iff, String.append_eq_empty_iff]
  rintro ⟨⟨-, hcolon⟩, -⟩
  exact absurd hcolon (by decide)

theorem Did.calls {x : Sent} (hd : Did lib act w w') (hx : x ∈ w'.history.sent) : x ∈ w.history.sent ∨
    ∃ worker run, w.runs worker = some run ∧ run.phase = .ready x.desired ∧ x.sagaId = run.saga.sagaId ∧
      x.resends = run.resends ∧ run.saga.readback = some x.readback := by
  cases hd with
  | sent worker run desired readback hrun hphase hreadback =>
    rcases List.mem_cons.1 hx with rfl | hx
    · exact .inr ⟨worker, run, hrun, hphase, rfl, rfl, hreadback⟩
    · exact .inl hx
  | _ => exact .inl hx

/-- What an action makes of a dispatch that goes on. -/
inductive RunStep (lib : Library) (run : Run) : Run → Prop
  | same : RunStep lib run run
  | renewed (now : Time) (desired : DesiredState) (agrees : desired.agrees run.saga) :
      RunStep lib run ⟨run.saga.renewed lib now, .renewed desired, run.resends⟩
  | reused (desired : DesiredState) (phase : run.phase = .renewed desired) :
      RunStep lib run ⟨run.saga, .ready desired, run.resends⟩
  | applied (desired : DesiredState) (observation : AdapterObservation) (phase : run.phase = .renewed desired)
      (stale : run.saga.hasReusableObservation = false) : RunStep lib run ⟨run.saga, .applied desired observation, run.resends⟩
  | observed (desired : DesiredState) (observation : AdapterObservation) (uuid : String)
      (phase : run.phase = .applied desired observation) : RunStep lib run
        ⟨run.saga.observed observation (readbackKey run.saga uuid) run.saga.attempts, .ready desired, run.resends⟩
  | sent (desired : DesiredState) (readback : ActualStateReadback) (phase : run.phase = .ready desired)
      (readback_eq : run.saga.readback = some readback) : RunStep lib run ⟨run.saga, .sent desired readback, run.resends⟩

/-- A dispatch after an action: it went on, or it just started on a reserved row. -/
theorem Did.runs (hd : Did lib act w w') (hrun : w'.runs worker = some run') :
    (∃ run, w.runs worker = some run ∧ RunStep lib run run') ∨
      ∃ row ∈ w.sagas, row.status = .reserved ∧ run' = ⟨row, .loaded, w.resends row.sagaId⟩ ∧ w'.sagas = w.sagas := by
  have next {changed : Worker} {run : Run} {next : Option Run} (hchanged : w.runs changed = some run)
      (hnext : ∀ run', next = some run' → RunStep lib run run')
      (hrun : Function.update w.runs changed next worker = some run') : ∃ run, w.runs worker = some run ∧ RunStep lib run run' := by
    rcases runs_update hrun with ⟨rfl, heq⟩ | ⟨-, hold⟩
    · exact ⟨run, hchanged, hnext run' heq⟩
    · exact ⟨run', hold, .same⟩
  cases hd with
  | stayed | inserted | claimed | recovered => exact .inl ⟨run', hrun, .same⟩
  | started l changed c row hact hheld hfree hrow hstatus =>
    rcases runs_update hrun with ⟨rfl, heq⟩ | ⟨-, hold⟩
    · cases heq
      obtain ⟨hmem, hid⟩ := row_mem hrow
      exact .inr ⟨row, hmem, hstatus, by rw [hid], rfl⟩
    · exact .inl ⟨run', hold, .same⟩
  | finished p l held hheld drawn changed =>
    rcases runs_update hrun with ⟨-, heq⟩ | ⟨-, hold⟩
    · cases heq
    · exact .inl ⟨run', hold, .same⟩
  | renewed l changed run row desired now hres hphase hagrees =>
    refine .inl (next hres.run_eq (fun run' heq => ?_) hrun)
    cases heq
    exact .renewed now desired hagrees
  | reused changed run desired hold hphase hreusable =>
    refine .inl (next hold (fun run' heq => ?_) hrun)
    cases heq
    exact .reused desired hphase
  | applied changed run desired observation hold hphase hstale =>
    refine .inl (next hold (fun run' heq => ?_) hrun)
    cases heq
    exact .applied desired observation hphase hstale
  | observed l changed run row desired observation uuid hres hphase =>
    refine .inl (next hres.run_eq (fun run' heq => ?_) hrun)
    cases heq
    exact .observed desired observation uuid hphase
  | sent changed run desired readback hold hphase hreadback =>
    refine .inl (next hold (fun run' heq => ?_) hrun)
    cases heq
    exact .sent desired readback hphase hreadback
  | terminated l changed run row now o hres =>
    refine .inl (next hres.run_eq (fun run' heq => ?_) hrun)
    cases heq

theorem RunStep.enrolled (h : RunStep lib run run') : run'.saga.enrolled = run.saga.enrolled := by
  cases h <;> rfl

theorem agrees_of_enrolled {desired : DesiredState} (h : saga.enrolled = r.enrolled) (hagrees : desired.agrees r) :
    desired.agrees saga := by
  have hversion := congrArg OdooCampaignSaga.configurationVersion h
  have hmanifest := congrArg OdooCampaignSaga.manifestHash h
  exact ⟨hagrees.1.trans hversion.symm, hagrees.2.trans hmanifest.symm⟩

/-- A dispatch has one desired state, which agreed with its row when it was read. -/
theorem RunStep.desired {desired : DesiredState} (h : RunStep lib run run')
    (hold : ∀ desired, run.phase.desired = some desired → desired.agrees run.saga) (hdesired : run'.phase.desired = some desired) :
    desired.agrees run'.saga := by
  refine agrees_of_enrolled h.enrolled ?_
  cases h with
  | same => exact hold desired hdesired
  | renewed now d hagrees =>
    cases hdesired
    exact hagrees
  | reused _ hphase | applied _ _ hphase | observed _ _ _ hphase | sent _ _ hphase =>
    cases hdesired
    exact hold _ (by rw [hphase]; rfl)

theorem Agreed.did (hs : Sound lib w) (h : Agreed w) (hd : Did lib act w w') : Agreed w' := by
  refine ⟨?_, ?_, ?_⟩
  · intro worker run' hrun
    obtain ⟨r, hr, heq⟩ : ∃ r ∈ w.sagas, r.enrolled = run'.saga.enrolled := by
      rcases hd.runs hrun with ⟨run, hold, hstep⟩ | ⟨row, hmem, -, rfl, -⟩
      · rw [hstep.enrolled]
        exact h.row worker run hold
      · exact ⟨row, hmem, rfl⟩
    obtain ⟨r', hr', hstep⟩ := hd.forward hs.ids hr
    exact ⟨r', hr', hstep.fixed.trans heq⟩
  · intro worker run' desired hrun hdesired
    rcases hd.runs hrun with ⟨run, hold, hstep⟩ | ⟨row, hmem, -, rfl, -⟩
    · exact hstep.desired (fun d hd => h.desired worker run d hold hd) hdesired
    · cases hdesired
  · intro x hx
    obtain ⟨r, hr, hid, hagrees⟩ : ∃ r ∈ w.sagas, r.sagaId = x.sagaId ∧ x.desired.agrees r := by
      rcases hd.calls hx with hx | ⟨worker, run, hrun, hphase, hid, -⟩
      · exact h.sent x hx
      · obtain ⟨r, hr, heq⟩ := h.row worker run hrun
        have hrid := congrArg OdooCampaignSaga.sagaId heq
        refine ⟨r, hr, hrid.trans hid.symm, agrees_of_enrolled heq (h.desired worker run x.desired hrun ?_)⟩
        rw [hphase]
        rfl
    obtain ⟨r', hr', hstep⟩ := hd.forward hs.ids hr
    exact ⟨r', hr', hstep.ids.1.trans hid, agrees_of_enrolled hstep.fixed hagrees⟩

/-- The readback and its key are those of a row or copy before. -/
def World.carriesBody (w : World) (saga : OdooCampaignSaga) : Prop :=
  ∃ s, w.carries s ∧ saga.readbackIdempotencyKey = s.readbackIdempotencyKey ∧ saga.readback = s.readback

theorem body_of_row (hr : r ∈ w.sagas) : w.carriesBody r := ⟨r, .inl hr, rfl, rfl⟩

theorem body_of_run (hrun : w.runs worker = some run) : w.carriesBody run.saga := ⟨run.saga, .inr ⟨worker, run, hrun, rfl⟩, rfl, rfl⟩

theorem update_body {id : Uuid} {f : OdooCampaignSaga → OdooCampaignSaga} (hf : ∀ r ∈ w.sagas, w.carriesBody (f r))
    (hr : r ∈ w.update id f) : w.carriesBody r := by
  obtain ⟨r₀, hr₀, rfl⟩ := List.mem_map.1 hr
  split
  · exact hf r₀ hr₀
  · exact body_of_row hr₀

theorem runs_body {next : Option Run} (hnext : ∀ run, next = some run → w.carriesBody run.saga)
    (hrun : Function.update w.runs other next worker = some run) : w.carriesBody run.saga := by
  rcases runs_update hrun with ⟨-, heq⟩ | ⟨-, hold⟩
  · exact hnext run heq
  · exact body_of_run hold

/-- The world after an observation was stored. -/
structure Stored (w w' : World) (worker : Worker) (run : Run) (desired : DesiredState) (observation : AdapterObservation)
    (uuid : String) : Prop where
  run_eq : w.runs worker = some run
  phase : run.phase = .applied desired observation
  length_eq : uuid.length = 36
  new : uuid ∉ w.drawn
  drawn : w'.drawn = uuid :: w.drawn
  sagas : w'.sagas = w.update run.saga.sagaId (·.observed observation (readbackKey run.saga uuid) run.saga.attempts)
  runs : w'.runs = Function.update w.runs worker
    (some ⟨run.saga.observed observation (readbackKey run.saga uuid) run.saga.attempts, .ready desired, run.resends⟩)
  sent : w'.history.sent = w.history.sent

theorem Did.bodies (hd : Did lib act w w') : (∃ worker run desired observation uuid, Stored w w' worker run desired observation uuid) ∨
    ((∀ r ∈ w'.sagas, r.readbackIdempotencyKey = none ∨ w.carriesBody r) ∧
      ∀ worker run, w'.runs worker = some run → w.carriesBody run.saga) := by
  cases hd with
  | stayed => exact .inr ⟨fun r hr => .inr (body_of_row hr), fun worker run hrun => body_of_run hrun⟩
  | inserted p id event saga hsaga =>
    refine .inr ⟨fun r hr => ?_, fun worker run hrun => body_of_run hrun⟩
    rcases List.mem_append.1 hr with hr | hr
    · exact .inr (body_of_row hr)
    · rw [List.mem_singleton.1 hr]
      exact .inl (sagaForEvent_new hsaga).2.2.2.2
  | claimed worker now saga hidle hmem =>
    refine .inr ⟨fun r hr => .inr (update_body (fun _ _ => ?_) hr), fun worker run hrun => body_of_run hrun⟩
    exact ⟨saga, .inl hmem, rfl, rfl⟩
  | recovered now =>
    refine .inr ⟨fun r hr => .inr ?_, fun worker run hrun => body_of_run hrun⟩
    obtain ⟨r₀, hr₀, rfl⟩ := List.mem_map.1 hr
    split
    · refine ⟨r₀, .inl hr₀, ?_⟩
      unfold OdooCampaignSaga.recovered
      split <;> exact ⟨rfl, rfl⟩
    · exact body_of_row hr₀
  | started l worker c row hact hheld hfree hrow =>
    refine .inr ⟨fun r hr => .inr (body_of_row hr), fun other run hrun => runs_body (fun run heq => ?_) hrun⟩
    cases heq
    exact body_of_row (row_mem hrow).1
  | finished p l held hheld drawn worker =>
    refine .inr ⟨fun r hr => .inr (body_of_row hr), fun other run hrun => runs_body (fun run heq => ?_) hrun⟩
    cases heq
  | renewed l worker run row desired now hres =>
    refine .inr ⟨fun r hr => .inr (update_body (fun r hr => ?_) hr), fun other run' hrun => runs_body (fun run' heq => ?_) hrun⟩
    · exact ⟨r, .inl hr, rfl, rfl⟩
    · cases heq
      exact ⟨run.saga, .inr ⟨worker, run, hres.run_eq, rfl⟩, rfl, rfl⟩
  | reused worker run desired hold | applied worker run desired observation hold | sent worker run desired readback hold =>
    refine .inr ⟨fun r hr => .inr (body_of_row hr), fun other run' hrun => runs_body (fun run' heq => ?_) hrun⟩
    cases heq
    exact ⟨run.saga, .inr ⟨worker, run, hold, rfl⟩, rfl, rfl⟩
  | observed l worker run row desired observation uuid hres hphase hlength hnew =>
    exact .inl ⟨worker, run, desired, observation, uuid, hres.run_eq, hphase, hlength, hnew, rfl, rfl, rfl, rfl⟩
  | terminated l worker run row now o =>
    refine .inr ⟨fun r hr => .inr (update_body (fun r hr => ?_) hr), fun other run' hrun => runs_body (fun run' heq => ?_) hrun⟩
    · exact ⟨r, .inl hr, rfl, rfl⟩
    · cases heq

theorem Did.more (hd : Did lib act w w') : ∀ u ∈ w.drawn, u ∈ w'.drawn := by
  cases hd with
  | finished p l held hheld drawn worker hmore => exact hmore
  | observed => exact fun u hu => List.mem_cons_of_mem _ hu
  | _ => exact fun u hu => hu

/-- A readback under way is the body of the copy in memory. -/
theorem Issued.phases (h : Issued w issued) (hd : Did lib act w w') : ∀ worker run desired readback, w'.runs worker = some run →
    run.phase = .sent desired readback → run.saga.readback = some readback := by
  intro worker run' desired readback hrun hphase
  rcases hd.runs hrun with ⟨run, hold, hstep⟩ | ⟨row, -, -, rfl, -⟩
  · cases hstep with
    | same => exact h.phase worker run' desired readback hold hphase
    | sent d b _ hreadback =>
      cases hphase
      exact hreadback
    | renewed | reused | applied | observed => cases hphase
  · cases hphase

theorem Issued.body (h : Issued w issued) (hbody : w.carriesBody saga) (hkey : saga.readbackIdempotencyKey.isSome = true) :
    ∃ b ∈ issued, saga.readback = some b := by
  obtain ⟨s, hs, hkeyEq, hreadback⟩ := hbody
  rw [hreadback]
  exact h.carried s hs (hkeyEq ▸ hkey)

theorem Issued.did (hs : Sound lib w) (ha : Agreed w) (h : Issued w issued) (hd : Did lib act w w') :
    ∃ issued', Issued w' issued' := by
  have hsent {x : Sent} (hx : x ∈ w'.history.sent) : x.readback ∈ issued := by
    rcases hd.calls hx with hx | ⟨worker, run, hrun, -, -, -, hreadback⟩
    · exact h.sent x hx
    · obtain ⟨b, hb, heq⟩ := h.carried run.saga (.inr ⟨worker, run, hrun, rfl⟩) (by rw [(readback_key hreadback).1]; rfl)
      rw [hreadback] at heq
      cases heq
      exact hb
  rcases hd.bodies with ⟨worker, run, desired, observation, uuid, hst⟩ | ⟨hrows, hruns⟩
  · obtain ⟨row, hrow, henrolled⟩ := ha.row worker run hst.run_eq
    -- the body of the observation, the first one under its key
    obtain ⟨body, hbody⟩ : ∃ body, (run.saga.observed observation (readbackKey run.saga uuid) run.saga.attempts).readback =
        some body := ⟨_, rfl⟩
    have hbodyKey : body.idempotencyKey = readbackKey run.saga uuid := (Option.some.inj (readback_key hbody).1).symm
    refine ⟨body :: issued, ?_, ?_, ?_, h.phases hd, fun x hx => List.mem_cons_of_mem _ (hsent hx)⟩
    · refine List.nodup_cons.2 ⟨fun hin => ?_, h.keys⟩
      obtain ⟨b, hb, hkey⟩ := List.mem_map.1 hin
      obtain ⟨s, u, hu, hlength, hdrawn⟩ := h.drawn b hb
      have hsame := readbackKey_inj (hlength.trans hst.length_eq.symm) (hdrawn.symm.trans (hkey.trans hbodyKey))
      exact hst.new (hsame ▸ hu)
    · intro b hb
      rw [hst.drawn]
      rcases List.mem_cons.1 hb with rfl | hb
      · exact ⟨run.saga, uuid, List.mem_cons_self, hst.length_eq, hbodyKey⟩
      · obtain ⟨s, u, hu, hrest⟩ := h.drawn b hb
        exact ⟨s, u, List.mem_cons_of_mem _ hu, hrest⟩
    · intro s hcarries hkey
      rcases hcarries with hmem | ⟨other, run', hrun', rfl⟩
      · rw [hst.sagas] at hmem
        obtain ⟨r, hr, rfl⟩ := List.mem_map.1 hmem
        by_cases hid : r.sagaId = run.saga.sagaId
        · have hrowId := congrArg OdooCampaignSaga.sagaId henrolled
          have hsame : r = row := List.inj_on_of_nodup_map hs.ids hr hrow (hid.trans hrowId.symm)
          rw [if_pos hid, hsame, observed_readback observation _ _ henrolled]
          exact ⟨body, List.mem_cons_self, hbody⟩
        · rw [if_neg hid] at hkey ⊢
          obtain ⟨b, hb, heq⟩ := h.carried r (.inl hr) hkey
          exact ⟨b, List.mem_cons_of_mem _ hb, heq⟩
      · rw [hst.runs] at hrun'
        rcases runs_update hrun' with ⟨-, heq⟩ | ⟨-, hold⟩
        · cases heq
          exact ⟨body, List.mem_cons_self, hbody⟩
        · obtain ⟨b, hb, heq⟩ := h.carried run'.saga (.inr ⟨other, run', hold, rfl⟩) hkey
          exact ⟨b, List.mem_cons_of_mem _ hb, heq⟩
  · refine ⟨issued, h.keys, ?_, ?_, h.phases hd, fun x hx => hsent hx⟩
    · intro b hb
      obtain ⟨s, u, hu, hrest⟩ := h.drawn b hb
      exact ⟨s, u, hd.more u hu, hrest⟩
    · intro s hcarries hkey
      rcases hcarries with hmem | ⟨other, run', hrun', rfl⟩
      · rcases hrows s hmem with hnone | hbody
        · rw [hnone] at hkey
          cases hkey
        · exact h.body hbody hkey
      · exact h.body (hruns other run' hrun') hkey

theorem Issued.one_body (h : Issued w issued) {x y : Sent} (hx : x ∈ w.history.sent) (hy : y ∈ w.history.sent)
    (hkey : x.readback.idempotencyKey = y.readback.idempotencyKey) : x.readback = y.readback :=
  List.inj_on_of_nodup_map h.keys (h.sent x hx) (h.sent y hy) hkey

end Readbacks

theorem reached_readbacks (lib : Library) (acts : List Act) :
    Agreed (runFrom (Act.next lib) {} acts) ∧ ∃ issued, Issued (runFrom (Act.next lib) {} acts) issued := by
  have hstart : Sound lib {} ∧ Agreed {} ∧ ∃ issued, Issued {} issued := by
    refine ⟨sound_start lib, ⟨?_, ?_, ?_⟩, [], List.nodup_nil, ?_, ?_, ?_, ?_⟩
    · intro worker run hrun
      cases hrun
    · intro worker run desired hrun
      cases hrun
    · intro x hx
      cases hx
    · intro b hb
      cases hb
    · rintro saga (hmem | ⟨worker, run, hrun, -⟩)
      · cases hmem
      · cases hrun
    · intro worker run desired readback hrun
      cases hrun
    · intro x hx
      cases hx
  have hrun : Sound lib (runFrom (Act.next lib) {} acts) ∧ Agreed (runFrom (Act.next lib) {} acts) ∧
      ∃ issued, Issued (runFrom (Act.next lib) {} acts) issued := by
    refine runFrom_invariant (I := fun w => Sound lib w ∧ Agreed w ∧ ∃ issued, Issued w issued) hstart ?_
    rintro w act ⟨hs, ha, issued, hi⟩
    exact ⟨hs.did (next_did act), ha.did hs (next_did act), hi.did hs ha (next_did act)⟩
  exact hrun.2

end Middleware.Campaign

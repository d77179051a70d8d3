/-
A retry after a transport failure of the readback: where every worker finds the claim it made, it sends the same key again and
does not call the adapter. With it, what every run of the saga keeps.
-/
import Middleware.Campaign.Readbacks

namespace Middleware.Campaign

open Ledger Lib Policy

/-- What `_has_reusable_observation` looks at. -/
def OdooCampaignSaga.memory (saga : OdooCampaignSaga) :
    Option String × Option EffectiveState × Option Time × Option String :=
  (saga.readbackIdempotencyKey, saga.effectiveState, saga.observedAt, saga.lastErrorClass)

/-- The row has an observation to send again, under this key. -/
def OdooCampaignSaga.resending (saga : OdooCampaignSaga) (key : String) : Prop :=
  saga.hasReusableObservation = true ∧ saga.readbackIdempotencyKey = some key

/-- The dispatches remember their rows, and what is to be sent again is sent again. -/
structure Reusing (w : World) : Prop where
  -- a dispatch whose claim is current has in memory what its row has
  mirror : ∀ worker run row, Reserved w worker run row → row.memory = run.saga.memory
  row : ∀ id key, w.resends id = some key → ∃ row, w.row id = some row ∧ (row.status.terminal = false → row.resending key)
  run : ∀ worker run key, w.runs worker = some run → run.resends = some key → run.saga.resending key
  stale : ∀ worker run desired observation, w.runs worker = some run → run.phase = .applied desired observation →
    run.saga.hasReusableObservation = false
  applied : ∀ x ∈ w.history.applied, x.2.2 = none
  sent : ∀ x ∈ w.history.sent, ∀ key, x.resends = some key → x.readback.idempotencyKey = key

section Retries

variable {lib : Library} {act : Act} {w w' : World} {worker other : Worker} {run run' : Run}
  {r row row' saga saga' : OdooCampaignSaga} {issued : List ActualStateReadback} {key : String}

theorem resending_congr (h : saga.memory = saga'.memory) (hs : saga'.resending key) : saga.resending key := by
  simp only [OdooCampaignSaga.memory, Prod.mk.injEq] at h
  obtain ⟨hkey, hstate, hat, herror⟩ := h
  unfold OdooCampaignSaga.resending OdooCampaignSaga.hasReusableObservation at hs ⊢
  rw [hkey, hstate, hat, herror]
  exact hs

theorem reserved_of_mem (hids : (w.sagas.map (·.sagaId)).Nodup) (hrun : w.runs worker = some run) (hr : r ∈ w.sagas)
    (hid : r.sagaId = run.saga.sagaId) (hheld : run.saga.heldBy r = true) : Reserved w worker run r := by
  refine ⟨hrun, ?_, hheld⟩
  rw [← hid]
  exact row_of_mem hids hr

theorem not_held (h : row.status ≠ .reserved) : saga.heldBy row = false := by
  rw [Bool.eq_false_iff]
  exact fun hheld => h (heldBy_row hheld).1

theorem Reusing.mirrored (hs : Sound lib w) (hc : Claimed w) (ho : Owned w) (h : Reusing w) (hd : Did lib act w w')
    (hres : Reserved w' other run' row') : row'.memory = run'.saga.memory := by
  obtain ⟨hrun, hrow, hheld⟩ := hres
  obtain ⟨hmem, hid⟩ := row_mem hrow
  -- a dispatch and a row that stayed as they were
  have old (run : Run) {r : OdooCampaignSaga} (hrun : w.runs other = some run) (hr : r ∈ w.sagas)
      (hid : r.sagaId = run.saga.sagaId) (hheld : run.saga.heldBy r = true) : r.memory = run.saga.memory :=
    h.mirror other run r (reserved_of_mem hs.ids hrun hr hid hheld)
  cases hd with
  | stayed => exact old run' hrun hmem hid hheld
  | inserted p id event saga hsaga =>
    rcases List.mem_append.1 hmem with hmem | hmem
    · exact old run' hrun hmem hid hheld
    · rw [List.mem_singleton.1 hmem, not_held (sagaForEvent_new hsaga).2.2.2.1] at hheld
      cases hheld
  | claimed worker now saga hidle hsaga =>
    obtain ⟨r, hr, rfl⟩ := List.mem_map.1 hmem
    by_cases hrid : r.sagaId = saga.sagaId
    · rw [if_pos hrid] at hid hheld
      -- the dispatch would be on the claim that was just made
      have hne : run'.saga.claim.number ≠ (saga.claimed lib now).claim.number :=
        claimed_number hc hsaga hs.ids now (ho.run other run' hrun)
      refine absurd ?_ hne
      show (run'.saga.sagaId, run'.saga.attempts) = _
      rw [← hid, ← (heldBy_row hheld).2.1]
      rfl
    · rw [if_neg hrid] at hid hheld ⊢
      exact old run' hrun hr hid hheld
  | recovered now =>
    obtain ⟨r, hr, rfl⟩ := List.mem_map.1 hmem
    by_cases hrec : w.recoverable now r = true
    · rw [if_pos hrec, not_held (recovered_status lib now r)] at hheld
      cases hheld
    · rw [if_neg hrec] at hid hheld ⊢
      exact old run' hrun hr hid hheld
  | started l worker c row hact hheldc hfree hrowc =>
    rcases runs_update hrun with ⟨-, heq⟩ | ⟨-, hold⟩
    · cases heq
      have hsame : row' = row := List.inj_on_of_nodup_map hs.ids hmem (row_mem hrowc).1 hid
      rw [hsame]
    · exact old run' hold hmem hid hheld
  | finished p l held hunheld drawn worker =>
    rcases runs_update hrun with ⟨-, heq⟩ | ⟨-, hold⟩
    · cases heq
    · exact old run' hold hmem hid hheld
  | renewed l worker run row desired now hres =>
    obtain ⟨r, hr, rfl⟩ := List.mem_map.1 hmem
    have hkept : ∀ r : OdooCampaignSaga, (if r.sagaId = run.saga.sagaId then r.renewed lib now else r).memory = r.memory := by
      intro r
      split <;> rfl
    have hheldr : run'.saga.heldBy r = true := by
      split at hheld <;> exact hheld
    have hidr : r.sagaId = run'.saga.sagaId := by
      split at hid <;> exact hid
    rw [hkept]
    rcases runs_update hrun with ⟨rfl, heq⟩ | ⟨-, hold⟩
    · cases heq
      exact old run hres.run_eq hr hidr hheldr
    · exact old run' hold hr hidr hheldr
  | reused worker run desired hrun₀ | applied worker run desired observation hrun₀ | sent worker run desired readback hrun₀ =>
    rcases runs_update hrun with ⟨rfl, heq⟩ | ⟨-, hold⟩
    · cases heq
      exact old run hrun₀ hmem hid hheld
    · exact old run' hold hmem hid hheld
  | observed l worker run row desired observation uuid hres =>
    obtain ⟨r, hr, rfl⟩ := List.mem_map.1 hmem
    by_cases hrid : r.sagaId = run.saga.sagaId
    · rw [if_pos hrid] at hid hheld ⊢
      have hsame : r = row := List.inj_on_of_nodup_map hs.ids hr (row_mem hres.row_eq).1 (hrid.trans (row_mem hres.row_eq).2.symm)
      subst hsame
      rcases runs_update hrun with ⟨-, heq⟩ | ⟨hne, hold⟩
      · cases heq
        have hmirror := h.mirror worker run r hres
        simp only [OdooCampaignSaga.memory, Prod.mk.injEq] at hmirror
        simp only [OdooCampaignSaga.memory, OdooCampaignSaga.observed, hmirror.2.2.2]
      · -- two dispatches of one claim are one worker's
        have hnumber : run'.saga.claim.number = run.saga.claim.number := by
          show (run'.saga.sagaId, run'.saga.attempts) = (run.saga.sagaId, run.saga.attempts)
          have hattempts : r.attempts = run'.saga.attempts := (heldBy_row hheld).2.1
          rw [← (heldBy_row hres.held).2.1, ← hattempts, ← hrid]
          exact congrArg (·, r.attempts) hid.symm
        exact absurd (hc.same (ho.run other run' hold) (ho.run worker run hres.run_eq) hnumber).1 hne
    · rw [if_neg hrid] at hid hheld ⊢
      rcases runs_update hrun with ⟨-, heq⟩ | ⟨-, hold⟩
      · cases heq
        exact absurd hid hrid
      · exact old run' hold hr hid hheld
  | terminated l worker run row now o hres hsound =>
    obtain ⟨r, hr, rfl⟩ := List.mem_map.1 hmem
    rcases runs_update hrun with ⟨-, heq⟩ | ⟨-, hold⟩
    · cases heq
    by_cases hrid : r.sagaId = run.saga.sagaId
    · rw [if_pos hrid] at hheld
      have hstatus : o.status = .reserved := (heldBy_row hheld).1
      rcases hsound with ⟨h, -⟩ | h | h <;> rw [h] at hstatus <;> cases hstatus
    · rw [if_neg hrid] at hid hheld ⊢
      exact old run' hold hr hid hheld

theorem resending_iff : saga.resending key ↔ saga.readbackIdempotencyKey = some key ∧ key.isEmpty = false ∧
    saga.effectiveState.isSome = true ∧ saga.observedAt.isSome = true ∧
    ∃ e ∈ transportRetryErrorClasses, saga.lastErrorClass = some e := by
  unfold OdooCampaignSaga.resending OdooCampaignSaga.hasReusableObservation
  constructor
  · rintro ⟨h, hkey⟩
    simp only [hkey, Option.any_some, Bool.and_eq_true, Bool.not_eq_true', Option.any_eq_true, List.contains_iff_mem] at h
    obtain ⟨⟨⟨hne, hst⟩, hat⟩, e, he, hmem⟩ := h
    exact ⟨hkey, hne, hst, hat, e, hmem, he⟩
  · rintro ⟨hkey, hne, hst, hat, e, hmem, he⟩
    refine ⟨?_, hkey⟩
    simp [hkey, hne, hst, hat, he, hmem]

theorem retried_resending {now : Time} {o : Outcome} (hkey : row.readbackIdempotencyKey = some key) (hne : key.isEmpty = false)
    (hst : row.effectiveState.isSome = true) (hat : row.observedAt.isSome = true) (ho : o.sound lib saga)
    (hterminal : (row.terminated now o).status.terminal = false) : (row.terminated now o).resending key := by
  replace hterminal : o.status.terminal = false := hterminal
  rcases ho with ⟨-, -, e, hmem, he⟩ | h | h
  · exact resending_iff.2 ⟨hkey, hne, hst, hat, e, hmem, he⟩
  · rw [h] at hterminal
    cases hterminal
  · rw [h] at hterminal
    cases hterminal

theorem Reusing.rows (hs : Sound lib w) (hi : Issued w issued) (h : Reusing w) (hd : Did lib act w w') {id : Uuid}
    (hresends : w'.resends id = some key) : ∃ row' ∈ w'.sagas, row'.sagaId = id ∧ (row'.status.terminal = false → row'.resending key) := by
  have old (hold : w.resends id = some key) : ∃ row ∈ w.sagas, row.sagaId = id ∧ (row.status.terminal = false → row.resending key) := by
    obtain ⟨row, hrow, hkeep⟩ := h.row id key hold
    exact ⟨row, (row_mem hrow).1, (row_mem hrow).2, hkeep⟩
  cases hd with
  | stayed | started | finished | reused | applied | sent => exact old hresends
  | inserted =>
    obtain ⟨row, hmem, hrest⟩ := old hresends
    exact ⟨row, List.mem_append_left _ hmem, hrest⟩
  | claimed worker now saga hidle hsaga hclaimable =>
    obtain ⟨row, hmem, hid, hkeep⟩ := old hresends
    refine ⟨_, List.mem_map_of_mem hmem, ?_, fun _ => ?_⟩
    · split
      · rename_i hrid
        exact hrid.symm.trans hid
      · exact hid
    · by_cases hrid : row.sagaId = saga.sagaId
      · have hsame : row = saga := List.inj_on_of_nodup_map hs.ids hmem hsaga hrid
        subst hsame
        rw [if_pos rfl]
        have hmemory : (row.claimed lib now).memory = row.memory := rfl
        refine resending_congr hmemory (hkeep ?_)
        have hstatus := claimable_status hclaimable
        cases hr : row.status <;> simp_all [Status.claimable, Status.terminal]
      · rw [if_neg hrid] at *
        exact hkeep ‹_›
  | recovered now =>
    have hkept : (w.row id).any (w.recoverable now) = false ∧ w.resends id = some key := by
      replace hresends : (if (w.row id).any (w.recoverable now) then none else w.resends id) = some key := hresends
      split at hresends
      · cases hresends
      · rename_i hno
        exact ⟨by simpa using hno, hresends⟩
    obtain ⟨row, hmem, hid, hkeep⟩ := old hkept.2
    refine ⟨row, List.mem_map.2 ⟨row, hmem, ?_⟩, hid, hkeep⟩
    have hno := hkept.1
    rw [← hid, row_of_mem hs.ids hmem, Option.any_some] at hno
    rw [hno]
    rfl
  | renewed l worker run row desired now hres =>
    obtain ⟨row, hmem, hid, hkeep⟩ := old hresends
    refine ⟨_, List.mem_map_of_mem hmem, ?_, ?_⟩
    · split <;> exact hid
    · split
      · exact hkeep
      · exact hkeep
  | observed l worker run row desired observation uuid hres hphase =>
    obtain ⟨r, hmem, hid, hkeep⟩ := old hresends
    by_cases hrid : r.sagaId = run.saga.sagaId
    · -- the dispatch would have sent the key again instead
      have hsame : r = row := List.inj_on_of_nodup_map hs.ids hmem (row_mem hres.row_eq).1 (hrid.trans (row_mem hres.row_eq).2.symm)
      subst hsame
      have hresending : r.resending key := hkeep (by rw [(heldBy_row hres.held).1]; rfl)
      have hreusable := (resending_congr (h.mirror worker run r hres).symm hresending).1
      rw [h.stale worker run desired observation hres.run_eq hphase] at hreusable
      cases hreusable
    · refine ⟨r, List.mem_map.2 ⟨r, hmem, ?_⟩, hid, hkeep⟩
      rw [if_neg hrid]
  | terminated l worker run row now o hres hsound resends hcases =>
    have hrowMem := row_mem hres.row_eq
    have hwritten : row.terminated now o ∈ w.update run.saga.sagaId (·.terminated now o) := by
      refine List.mem_map.2 ⟨row, hrowMem.1, ?_⟩
      rw [if_pos hrowMem.2]
    have hother {r : OdooCampaignSaga} (hmem : r ∈ w.sagas) (hne : r.sagaId ≠ run.saga.sagaId) :
        r ∈ w.update run.saga.sagaId (·.terminated now o) := by
      refine List.mem_map.2 ⟨r, hmem, ?_⟩
      rw [if_neg hne]
    -- a row that was to send a key again is to send it again, if it is retried
    have again (hold : w.resends id = some key) : ∃ row' ∈ w.update run.saga.sagaId (·.terminated now o),
        row'.sagaId = id ∧ (row'.status.terminal = false → row'.resending key) := by
      obtain ⟨r, hmem, hid, hkeep⟩ := old hold
      by_cases hrid : r.sagaId = run.saga.sagaId
      · have hsame : r = row := List.inj_on_of_nodup_map hs.ids hmem hrowMem.1 (hrid.trans hrowMem.2.symm)
        subst hsame
        obtain ⟨hkey, hne, hst, hat, -⟩ := resending_iff.1 (hkeep (by rw [(heldBy_row hres.held).1]; rfl))
        exact ⟨_, hwritten, hid, retried_resending hkey hne hst hat hsound⟩
      · exact ⟨r, hother hmem hrid, hid, hkeep⟩
    rcases hcases with heq | ⟨-, desired, readback, hphase, heq⟩
    · exact again (heq ▸ hresends)
    · by_cases hid : id = run.saga.sagaId
      · -- the readback of this dispatch failed: its key is the row's
        have hkeyEq : readback.idempotencyKey = key := by
          have hfun : Function.update w.resends run.saga.sagaId (some readback.idempotencyKey) id = some key := heq ▸ hresends
          rw [hid, Function.update_self] at hfun
          exact Option.some.inj hfun
        have hreadback := hi.phase worker run desired readback hres.run_eq hphase
        obtain ⟨hkey, hst, hat⟩ := readback_key hreadback
        obtain ⟨b, hb, hbody⟩ := hi.carried run.saga (.inr ⟨worker, run, hres.run_eq, rfl⟩) (by rw [hkey]; rfl)
        rw [hreadback] at hbody
        cases hbody
        obtain ⟨s, uuid, -, -, hdrawn⟩ := hi.drawn readback hb
        have hmirror := h.mirror worker run row hres
        simp only [OdooCampaignSaga.memory, Prod.mk.injEq] at hmirror
        obtain ⟨hkeyRow, hstRow, hatRow, -⟩ := hmirror
        refine ⟨_, hwritten, hrowMem.2.trans hid.symm, retried_resending ?_ ?_ ?_ ?_ hsound⟩
        · rw [hkeyRow, hkey, hkeyEq]
        · rw [← hkeyEq, hdrawn]
          exact readbackKey_ne_empty s uuid
        · rw [hstRow]
          exact hst
        · rw [hatRow]
          exact hat
      · have hfun : Function.update w.resends run.saga.sagaId (some readback.idempotencyKey) id = some key := heq ▸ hresends
        rw [Function.update_of_ne hid] at hfun
        exact again hfun

theorem Reusing.did (hs : Sound lib w) (hc : Claimed w) (ho : Owned w) (hi : Issued w issued) (h : Reusing w)
    (hd : Did lib act w w') : Reusing w' := by
  refine ⟨fun other run' row' hres => h.mirrored hs hc ho hd hres, ?_, ?_, ?_, ?_, ?_⟩
  · intro id key hresends
    obtain ⟨row', hmem, hid, hkeep⟩ := h.rows hs hi hd hresends
    refine ⟨row', ?_, hkeep⟩
    rw [← hid]
    exact row_of_mem (hs.did hd).ids hmem
  · intro other run' key hrun hresends
    rcases hd.runs hrun with ⟨run, hold, hstep⟩ | ⟨row, hmem, hstatus, rfl, -⟩
    · cases hstep with
      | same => exact h.run other run' key hold hresends
      | renewed | reused | applied | sent => exact h.run other run key hold hresends
      | observed desired observation uuid hphase =>
        have hreusable := (h.run other run key hold hresends).1
        rw [h.stale other run desired observation hold hphase] at hreusable
        cases hreusable
    · obtain ⟨row', hrow, hkeep⟩ := h.row row.sagaId key hresends
      rw [row_of_mem hs.ids hmem] at hrow
      cases hrow
      exact hkeep (by rw [hstatus]; rfl)
  · intro other run' desired observation hrun hphase
    rcases hd.runs hrun with ⟨run, hold, hstep⟩ | ⟨row, -, -, rfl, -⟩
    · cases hstep with
      | same => exact h.stale other run' desired observation hold hphase
      | applied d b _ hstale => exact hstale
      | renewed | reused | observed | sent => cases hphase
    · cases hphase
  · intro x hx
    cases hd with
    | applied worker run desired observation hrun hphase hstale =>
      rcases List.mem_cons.1 hx with rfl | hx
      · by_contra hne
        obtain ⟨key, hkey⟩ := Option.ne_none_iff_exists'.1 hne
        have hreusable := (h.run worker run key hrun hkey).1
        rw [hstale] at hreusable
        cases hreusable
      · exact h.applied x hx
    | _ => exact h.applied x hx
  · intro x hx key hresends
    rcases hd.calls hx with hx | ⟨worker, run, hrun, -, -, hresendsEq, hreadback⟩
    · exact h.sent x hx key hresends
    · have hkey := (h.run worker run key hrun (hresendsEq ▸ hresends)).2
      rw [(readback_key hreadback).1] at hkey
      exact Option.some.inj hkey

end Retries

theorem reached_reusing {lib : Library} {acts : List Act} (h : Always (Act.next lib) OwnClaim {} acts) :
    Reusing (runFrom (Act.next lib) {} acts) := by
  refine h.induction (I := fun _ w => Reusing w) ⟨?_, ?_, ?_, ?_, ?_, ?_⟩ fun before act hbefore hI _ => ?_
  · intro worker run row hres
    cases hres.run_eq
  · intro id key hresends
    cases hresends
  · intro worker run key hrun
    cases hrun
  · intro worker run desired observation hrun
    cases hrun
  · intro x hx
    cases hx
  · intro x hx
    cases hx
  · obtain ⟨issued, hissued⟩ := (reached_readbacks lib before).2
    exact hI.did (reached_sound lib before) (reached_claimed lib before) (reached_owned (always_concat.1 hbefore).1) hissued
      (next_did act)

/-- After the late worker, its readback fails in transport, and the row is claimed and dispatched once more. -/
def Late.retry : List Act :=
  Late.acts ++ [Act.send 1, .finishReadback 1 .transportError (seconds 103), .crash 2, .claim 1 (seconds 200) [], .start 1,
    .read 1 Late.ok (seconds 201), .apply 1 (seconds 201), .send 1]

end Middleware.Campaign

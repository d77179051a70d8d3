/-
Who writes under which claim. Every claim of a row has its own number of attempts, but `process_saga` takes the claim it
finds in the row: where each worker finds the claim that it made, one dispatch at most renews the lease of a claim, and every
write is by the worker of the row's claim.
-/
import Middleware.Campaign.Sagas

namespace Middleware.Campaign

open Ledger Lib Policy

/-- The row and the number of attempts of a claim. -/
def Claim.number (c : Claim) : Uuid × Nat := (c.sagaId, c.attempts)

/-- A worker that starts to process a row finds the claim it made. -/
def OwnClaim (w : World) (act : Act) : Prop :=
  ∀ worker c row, act = .start worker → w.held worker = some c → w.blocked worker c.sagaId = false →
    w.row c.sagaId = some row → row.status = .reserved → row.claim = c

/-- The claims that were made: no two have one number, none is ahead of its row, and a reserved row carries one. -/
structure Claimed (w : World) : Prop where
  distinct : (w.history.claims.map fun x => x.2.number).Nodup
  below : ∀ x ∈ w.history.claims, ∃ r ∈ w.sagas, r.sagaId = x.2.sagaId ∧ x.2.attempts ≤ r.attempts
  reserved : ∀ r ∈ w.sagas, r.status = .reserved → ∃ worker, (worker, r.claim) ∈ w.history.claims
  held : ∀ worker c, w.held worker = some c → (worker, c) ∈ w.history.claims

section Claimed

variable {lib : Library} {act : Act} {w w' : World} {worker other : Worker} {c c' : Claim} {run : Run}
  {r r' row saga : OdooCampaignSaga}

theorem Claimed.same (h : Claimed w) (hc : (worker, c) ∈ w.history.claims) (hc' : (other, c') ∈ w.history.claims)
    (hnumber : c.number = c'.number) : worker = other ∧ c = c' := by
  have heq := List.inj_on_of_nodup_map h.distinct hc hc' hnumber
  exact ⟨congrArg Prod.fst heq, congrArg Prod.snd heq⟩

theorem RowStep.attempts (h : RowStep lib r r') : r.attempts ≤ r'.attempts := by
  cases h with
  | claimed now => exact Nat.le_succ _
  | recovered now =>
    unfold OdooCampaignSaga.recovered
    split <;> exact le_rfl
  | _ => exact le_rfl

theorem recovered_status (lib : Library) (now : Time) (r : OdooCampaignSaga) : (r.recovered lib now).status ≠ .reserved := by
  unfold OdooCampaignSaga.recovered
  split <;> simp

theorem claimed_number (h : Claimed w) (hmem : saga ∈ w.sagas) (hids : (w.sagas.map (·.sagaId)).Nodup) (now : Time)
    (hx : (other, c) ∈ w.history.claims) : c.number ≠ (saga.claimed lib now).claim.number := by
  intro hnumber
  obtain ⟨r, hr, hid, hle⟩ := h.below _ hx
  simp only [Claim.number, OdooCampaignSaga.claim, OdooCampaignSaga.claimed, Prod.mk.injEq] at hnumber
  have hsame : r = saga := List.inj_on_of_nodup_map hids hr hmem (hid.trans hnumber.1)
  rw [hsame] at hle
  dsimp only at hle
  omega

theorem Did.reserved (hd : Did lib act w w') (hr : r' ∈ w'.sagas) (hs : r'.status = .reserved) :
    (∃ r ∈ w.sagas, r.status = .reserved ∧ r'.claim = r.claim) ∨ ∃ worker, (worker, r'.claim) ∈ w'.history.claims := by
  cases hd with
  | stayed | started | finished | reused | applied | sent => exact .inl ⟨r', hr, hs, rfl⟩
  | inserted p id event saga hsaga =>
    rcases List.mem_append.1 hr with hr | hr
    · exact .inl ⟨r', hr, hs, rfl⟩
    · rw [List.mem_singleton.1 hr] at hs
      exact absurd hs (sagaForEvent_new hsaga).2.2.2.1
  | claimed worker now saga =>
    obtain ⟨r, hmem, rfl⟩ := List.mem_map.1 hr
    by_cases hid : r.sagaId = saga.sagaId
    · rw [if_pos hid]
      exact .inr ⟨worker, List.mem_cons_self⟩
    · rw [if_neg hid] at hs ⊢
      exact .inl ⟨r, hmem, hs, rfl⟩
  | recovered now =>
    obtain ⟨r, hmem, rfl⟩ := List.mem_map.1 hr
    by_cases hrec : w.recoverable now r = true
    · rw [if_pos hrec] at hs
      exact absurd hs (recovered_status lib now r)
    · rw [if_neg hrec] at hs ⊢
      exact .inl ⟨r, hmem, hs, rfl⟩
  | renewed l worker run row desired now hres =>
    obtain ⟨r, hmem, rfl⟩ := List.mem_map.1 hr
    refine .inl ⟨r, hmem, ?_, ?_⟩
    · split at hs <;> exact hs
    · split <;> rfl
  | observed l worker run row desired observation uuid hres =>
    obtain ⟨r, hmem, rfl⟩ := List.mem_map.1 hr
    refine .inl ⟨r, hmem, ?_, ?_⟩
    · split at hs <;> exact hs
    · split <;> rfl
  | terminated l worker run row now o hres hsound =>
    obtain ⟨r, hmem, rfl⟩ := List.mem_map.1 hr
    by_cases hid : r.sagaId = run.saga.sagaId
    · rw [if_pos hid] at hs
      replace hs : o.status = .reserved := hs
      rcases hsound with ⟨ho, -⟩ | ho | ho <;> rw [ho] at hs <;> cases hs
    · rw [if_neg hid] at hs ⊢
      exact .inl ⟨r, hmem, hs, rfl⟩

/-- A claim is logged when it is made; no other action logs one, or gives a worker one to process. -/
theorem Did.claims (hd : Did lib act w w') :
    (w'.history.claims = w.history.claims ∧ ∀ worker c, w'.held worker = some c → w.held worker = some c) ∨
      ∃ worker now saga, saga ∈ w.sagas ∧ w'.history.claims = (worker, (saga.claimed lib now).claim) :: w.history.claims ∧
        w'.held = Function.update w.held worker (some (saga.claimed lib now).claim) ∧
        w'.sagas = w.update saga.sagaId (fun _ => saga.claimed lib now) ∧ w'.runs = w.runs ∧
        w'.history.renewals = w.history.renewals := by
  cases hd with
  | claimed worker now saga _ hmem => exact .inr ⟨worker, now, saga, hmem, rfl, rfl, rfl, rfl, rfl⟩
  | stayed e p l held hheld => exact .inl ⟨rfl, hheld⟩
  | finished p l held hheld => exact .inl ⟨rfl, hheld⟩
  | started l worker c row => exact .inl ⟨rfl, unheld_update worker⟩
  | _ => exact .inl ⟨rfl, fun _ _ h => h⟩

theorem Claimed.did (hids : (w.sagas.map (·.sagaId)).Nodup) (h : Claimed w) (hd : Did lib act w w') : Claimed w' := by
  have hbelow : ∀ x ∈ w.history.claims, ∃ r ∈ w'.sagas, r.sagaId = x.2.sagaId ∧ x.2.attempts ≤ r.attempts := by
    intro x hx
    obtain ⟨r, hr, hid, hle⟩ := h.below x hx
    obtain ⟨r', hr', hstep⟩ := hd.forward hids hr
    exact ⟨r', hr', hstep.ids.1.trans hid, hle.trans hstep.attempts⟩
  have hreserved : ∀ r' ∈ w'.sagas, r'.status = .reserved → ∃ worker, (worker, r'.claim) ∈ w'.history.claims := by
    intro r' hr' hs
    rcases hd.reserved hr' hs with ⟨r, hr, hres, hclaim⟩ | hlogged
    · obtain ⟨worker, hmem⟩ := h.reserved r hr hres
      rw [hclaim]
      refine ⟨worker, ?_⟩
      rcases hd.claims with ⟨hlog, -⟩ | ⟨worker', now, saga, -, hlog, -⟩
      · rw [hlog]
        exact hmem
      · rw [hlog]
        exact List.mem_cons_of_mem _ hmem
    · exact hlogged
  rcases hd.claims with ⟨hlog, hheld⟩ | ⟨worker, now, saga, hmem, hlog, hheld, hsagas, -⟩
  · refine ⟨?_, ?_, hreserved, ?_⟩
    · rw [hlog]
      exact h.distinct
    · rw [hlog]
      exact hbelow
    · intro worker c hc
      rw [hlog]
      exact h.held worker c (hheld worker c hc)
  · refine ⟨?_, ?_, hreserved, ?_⟩
    · rw [hlog, List.map_cons, List.nodup_cons]
      refine ⟨fun hin => ?_, h.distinct⟩
      obtain ⟨⟨other, c⟩, hx, hnumber⟩ := List.mem_map.1 hin
      exact claimed_number h hmem hids now hx hnumber
    · rw [hlog]
      intro x hx
      rcases List.mem_cons.1 hx with rfl | hx
      · refine ⟨saga.claimed lib now, ?_, rfl, le_rfl⟩
        rw [hsagas]
        refine List.mem_map.2 ⟨saga, hmem, ?_⟩
        rw [if_pos rfl]
      · exact hbelow x hx
    · intro worker' c hc
      rw [hlog]
      rw [hheld] at hc
      by_cases heq : worker' = worker
      · subst heq
        rw [Function.update_self] at hc
        cases hc
        exact List.mem_cons_self
      · rw [Function.update_of_ne heq] at hc
        exact List.mem_cons_of_mem _ (h.held worker' c hc)

end Claimed

/-- Every dispatch is on a claim of its worker, which no other dispatch renewed. -/
structure Owned (w : World) : Prop where
  run : ∀ worker run, w.runs worker = some run → (worker, run.saga.claim) ∈ w.history.claims
  renewals : ∀ x ∈ w.history.renewals, x ∈ w.history.claims
  once : (w.history.renewals.map fun x => x.2.number).Nodup
  -- a claim to be processed was not processed before
  held : ∀ worker c, w.held worker = some c → (∀ x ∈ w.history.renewals, x.2.number ≠ c.number) ∧
    ∀ other run, w.runs other = some run → run.saga.claim.number ≠ c.number
  loaded : ∀ worker run, w.runs worker = some run → run.phase = .loaded →
    ∀ x ∈ w.history.renewals, x.2.number ≠ run.saga.claim.number
  started : ∀ worker run, w.runs worker = some run → run.phase ≠ .loaded → (worker, run.saga.claim) ∈ w.history.renewals
  applied : ∀ x ∈ w.history.applied, (x.1, x.2.1) ∈ w.history.renewals
  writes : ∀ x ∈ w.history.writes, x ∈ w.history.claims

section Owned

variable {lib : Library} {act : Act} {w w' : World} {worker other : Worker} {run run' : Run} {row : OdooCampaignSaga}
  {next : Option Run}

theorem runs_update (h : Function.update w.runs worker next other = some run') :
    (other = worker ∧ next = some run') ∨ (other ≠ worker ∧ w.runs other = some run') := by
  by_cases heq : other = worker
  · subst heq
    rw [Function.update_self] at h
    exact .inl ⟨rfl, h⟩
  · rw [Function.update_of_ne heq] at h
    exact .inr ⟨heq, h⟩

theorem runs_forall {P : Worker → Run → Prop} (hnext : P worker run)
    (hold : ∀ other run', other ≠ worker → w.runs other = some run' → P other run') (other : Worker) (run' : Run)
    (h : Function.update w.runs worker (some run) other = some run') : P other run' := by
  rcases runs_update h with ⟨rfl, heq⟩ | ⟨hne, heq⟩
  · cases heq
    exact hnext
  · exact hold other run' hne heq

/-- The row of a guarded update carries the claim of the dispatch. -/
theorem Reserved.claim (h : Reserved w worker run row) : row.claim = run.saga.claim := by
  obtain ⟨-, hattempts, hat, -⟩ := heldBy_row h.held
  unfold OdooCampaignSaga.claim
  rw [(row_mem h.row_eq).2, hattempts, hat]

theorem Owned.kept (h : Owned w) (hclaims : w'.history.claims = w.history.claims)
    (hrenewals : w'.history.renewals = w.history.renewals) (hheld : ∀ worker c, w'.held worker = some c → w.held worker = some c)
    (hruns : ∀ other run', w'.runs other = some run' →
      ∃ run, w.runs other = some run ∧ run'.saga.claim = run.saga.claim ∧ (run'.phase = .loaded ↔ run.phase = .loaded))
    (happlied : ∀ x ∈ w'.history.applied, x ∈ w.history.applied ∨ (x.1, x.2.1) ∈ w.history.renewals)
    (hwrites : ∀ x ∈ w'.history.writes, x ∈ w.history.writes ∨ x ∈ w.history.claims) : Owned w' := by
  refine ⟨?_, ?_, ?_, ?_, ?_, ?_, ?_, ?_⟩
  · intro worker run' hrun'
    obtain ⟨run, hrun, hclaim, -⟩ := hruns worker run' hrun'
    rw [hclaims, hclaim]
    exact h.run worker run hrun
  · rw [hclaims, hrenewals]
    exact h.renewals
  · rw [hrenewals]
    exact h.once
  · intro worker c hc
    obtain ⟨hren, hrun⟩ := h.held worker c (hheld worker c hc)
    rw [hrenewals]
    refine ⟨hren, fun other run' hrun' => ?_⟩
    obtain ⟨run, hr, hclaim, -⟩ := hruns other run' hrun'
    rw [hclaim]
    exact hrun other run hr
  · intro worker run' hrun' hphase
    obtain ⟨run, hrun, hclaim, hloaded⟩ := hruns worker run' hrun'
    rw [hrenewals, hclaim]
    exact h.loaded worker run hrun (hloaded.1 hphase)
  · intro worker run' hrun' hphase
    obtain ⟨run, hrun, hclaim, hloaded⟩ := hruns worker run' hrun'
    rw [hrenewals, hclaim]
    exact h.started worker run hrun fun hl => hphase (hloaded.2 hl)
  · intro x hx
    rw [hrenewals]
    rcases happlied x hx with hx | hx
    · exact h.applied x hx
    · exact hx
  · intro x hx
    rw [hclaims]
    rcases hwrites x hx with hx | hx
    · exact h.writes x hx
    · exact hx

theorem run_kept (hrun : w.runs worker = some run)
    (hnext : ∀ run', next = some run' → run'.saga.claim = run.saga.claim ∧ (run'.phase = .loaded ↔ run.phase = .loaded)) :
    ∀ other run', Function.update w.runs worker next other = some run' →
      ∃ run, w.runs other = some run ∧ run'.saga.claim = run.saga.claim ∧ (run'.phase = .loaded ↔ run.phase = .loaded) := by
  intro other run' h
  rcases runs_update h with ⟨rfl, heq⟩ | ⟨-, heq⟩
  · exact ⟨run, hrun, hnext run' heq⟩
  · exact ⟨run', heq, rfl, Iff.rfl⟩

theorem Owned.did (hs : Sound lib w) (hc : Claimed w) (h : Owned w) (hd : Did lib act w w') (hown : OwnClaim w act) :
    Owned w' := by
  have same : ∀ other run', w.runs other = some run' →
      ∃ run, w.runs other = some run ∧ run'.saga.claim = run.saga.claim ∧ (run'.phase = .loaded ↔ run.phase = .loaded) :=
    fun other run' hrun => ⟨run', hrun, rfl, Iff.rfl⟩
  cases hd with
  | stayed e p l held hheld => exact h.kept rfl rfl hheld same (fun _ hx => .inl hx) fun _ hx => .inl hx
  | inserted p id event saga => exact h.kept rfl rfl (fun _ _ h => h) same (fun _ hx => .inl hx) fun _ hx => .inl hx
  | recovered now => exact h.kept rfl rfl (fun _ _ h => h) same (fun _ hx => .inl hx) fun _ hx => .inl hx
  | finished p l held hheld drawn worker =>
    refine h.kept rfl rfl hheld (fun other run' hrun => ?_) (fun _ hx => .inl hx) fun _ hx => .inl hx
    rcases runs_update hrun with ⟨-, heq⟩ | ⟨-, heq⟩
    · cases heq
    · exact same other run' heq
  | reused worker run desired hrun hphase =>
    refine h.kept rfl rfl (fun _ _ h => h) (run_kept hrun fun run' heq => ?_) (fun _ hx => .inl hx) fun _ hx => .inl hx
    cases heq
    exact ⟨rfl, by simp [hphase]⟩
  | applied worker run desired observation hrun hphase =>
    refine h.kept rfl rfl (fun _ _ h => h) (run_kept hrun fun run' heq => ?_) (fun x hx => ?_) fun _ hx => .inl hx
    · cases heq
      exact ⟨rfl, by simp [hphase]⟩
    · rcases List.mem_cons.1 hx with rfl | hx
      · exact .inr (h.started worker run hrun (by simp [hphase]))
      · exact .inl hx
  | observed l worker run row desired observation uuid hres hphase =>
    refine h.kept rfl rfl (fun _ _ h => h) (run_kept hres.run_eq fun run' heq => ?_) (fun _ hx => .inl hx) fun x hx => ?_
    · cases heq
      exact ⟨rfl, by simp [hphase]⟩
    · rcases List.mem_cons.1 hx with rfl | hx
      · rw [hres.claim]
        exact .inr (h.run worker run hres.run_eq)
      · exact .inl hx
  | sent worker run desired readback hrun hphase =>
    refine h.kept rfl rfl (fun _ _ h => h) (run_kept hrun fun run' heq => ?_) (fun _ hx => .inl hx) fun _ hx => .inl hx
    cases heq
    exact ⟨rfl, by simp [hphase]⟩
  | terminated l worker run row now o hres =>
    refine h.kept rfl rfl (fun _ _ h => h) (run_kept hres.run_eq fun run' heq => ?_) (fun _ hx => .inl hx) fun x hx => ?_
    · cases heq
    · rcases List.mem_cons.1 hx with rfl | hx
      · rw [hres.claim]
        exact .inr (h.run worker run hres.run_eq)
      · exact .inl hx
  | claimed worker now saga hidle hmem =>
    have hnew {other : Worker} {c : Claim} (hx : (other, c) ∈ w.history.claims) : c.number ≠ (saga.claimed lib now).claim.number :=
      claimed_number hc hmem hs.ids now hx
    refine ⟨?_, ?_, h.once, ?_, h.loaded, h.started, h.applied, ?_⟩
    · intro other run hrun
      exact List.mem_cons_of_mem _ (h.run other run hrun)
    · intro x hx
      exact List.mem_cons_of_mem _ (h.renewals x hx)
    · intro other c hheld
      replace hheld : Function.update w.held worker (some (saga.claimed lib now).claim) other = some c := hheld
      by_cases heq : other = worker
      · subst heq
        rw [Function.update_self] at hheld
        cases hheld
        exact ⟨fun x hx => hnew (h.renewals x hx), fun other run hrun => hnew (h.run other run hrun)⟩
      · rw [Function.update_of_ne heq] at hheld
        exact h.held other c hheld
    · intro x hx
      exact List.mem_cons_of_mem _ (h.writes x hx)
  | started l worker c row hact hheld hfree hrow hstatus =>
    -- the row carries the claim the worker made
    have hclaim : row.claim = c := hown worker c row hact hheld hfree hrow hstatus
    have hlogged : (worker, row.claim) ∈ w.history.claims := hclaim ▸ hc.held worker c hheld
    obtain ⟨hren, hrun⟩ := h.held worker c hheld
    refine ⟨?_, h.renewals, h.once, ?_, ?_, ?_, h.applied, h.writes⟩
    · exact runs_forall hlogged fun other run' _ hold => h.run other run' hold
    · intro other c' hheld'
      replace hheld' : Function.update w.held worker none other = some c' := hheld'
      by_cases hne : other = worker
      · subst hne
        simp at hheld'
      rw [Function.update_of_ne hne] at hheld'
      obtain ⟨hren', hrun'⟩ := h.held other c' hheld'
      refine ⟨hren', runs_forall ?_ fun third run' _ hold => hrun' third run' hold⟩
      exact fun hnumber => hne (hc.same hlogged (hc.held other c' hheld') hnumber).1.symm
    · refine runs_forall (fun _ => ?_) fun other run' _ hold => h.loaded other run' hold
      rw [hclaim]
      exact hren
    · exact runs_forall (fun hphase => absurd rfl hphase) fun other run' _ hold => h.started other run' hold
  | renewed l worker run row desired now hres hphase =>
    have hlogged := h.run worker run hres.run_eq
    refine ⟨?_, ?_, ?_, ?_, ?_, ?_, ?_, ?_⟩
    · exact runs_forall hlogged fun other run' _ hold => h.run other run' hold
    · intro x hx
      rcases List.mem_cons.1 hx with rfl | hx
      · exact hlogged
      · exact h.renewals x hx
    · refine List.nodup_cons.2 ⟨fun hin => ?_, h.once⟩
      obtain ⟨x, hx, hnumber⟩ := List.mem_map.1 hin
      exact h.loaded worker run hres.run_eq hphase x hx hnumber
    · intro other c' hheld'
      obtain ⟨hren', hrun'⟩ := h.held other c' hheld'
      refine ⟨fun x hx => ?_, fun third run' heq => ?_⟩
      · rcases List.mem_cons.1 hx with rfl | hx
        · exact hrun' worker run hres.run_eq
        · exact hren' x hx
      · exact runs_forall (hrun' worker run hres.run_eq) (fun third run' _ hold => hrun' third run' hold) third run' heq
    · refine runs_forall nofun fun other run' hne hold hphase' x hx => ?_
      rcases List.mem_cons.1 hx with rfl | hx
      · exact fun hnumber => hne (hc.same (h.run other run' hold) hlogged hnumber.symm).1
      · exact h.loaded other run' hold hphase' x hx
    · refine runs_forall (fun _ => List.mem_cons_self) fun other run' _ hold hphase' => ?_
      exact List.mem_cons_of_mem _ (h.started other run' hold hphase')
    · intro x hx
      exact List.mem_cons_of_mem _ (h.applied x hx)
    · intro x hx
      rcases List.mem_cons.1 hx with rfl | hx
      · rw [hres.claim]
        exact hlogged
      · exact h.writes x hx

end Owned

theorem reached_claimed (lib : Library) (acts : List Act) : Claimed (runFrom (Act.next lib) {} acts) := by
  have hstart : Sound lib {} ∧ Claimed {} :=
    ⟨sound_start lib, List.nodup_nil, fun _ hx => absurd hx List.not_mem_nil, fun _ hr => absurd hr List.not_mem_nil,
      fun _ _ hc => by cases hc⟩
  have hrun : Sound lib (runFrom (Act.next lib) {} acts) ∧ Claimed (runFrom (Act.next lib) {} acts) :=
    runFrom_invariant (I := fun w => Sound lib w ∧ Claimed w) hstart
      fun w act h => ⟨h.1.did (next_did act), h.2.did h.1.ids (next_did act)⟩
  exact hrun.2

theorem owned_start : Owned {} := by
  refine ⟨?_, ?_, List.nodup_nil, ?_, ?_, ?_, ?_, ?_⟩
  · intro worker run h
    cases h
  · intro x hx
    cases hx
  · intro worker c h
    cases h
  · intro worker run h
    cases h
  · intro worker run h
    cases h
  · intro x hx
    cases hx
  · intro x hx
    cases hx

theorem reached_owned {lib : Library} {acts : List Act} (h : Always (Act.next lib) OwnClaim {} acts) :
    Owned (runFrom (Act.next lib) {} acts) := by
  refine h.induction (I := fun _ w => Owned w) owned_start fun before act _ hI hown => ?_
  exact hI.did (reached_sound lib before) (reached_claimed lib before) (next_did act) hown

/-- The claims of a row have different numbers of attempts; and where every worker finds the claim it made, one dispatch at
most renews the lease of each, the adapter is called by those dispatches, and every write is by the worker of the claim. -/
theorem claims_owned (lib : Library) (acts : List Act) :
    ((runFrom (Act.next lib) {} acts).history.claims.map fun x => x.2.number).Nodup ∧
    (Always (Act.next lib) OwnClaim {} acts →
      ((runFrom (Act.next lib) {} acts).history.renewals.map fun x => x.2.number).Nodup ∧
      (∀ x ∈ (runFrom (Act.next lib) {} acts).history.applied, (x.1, x.2.1) ∈ (runFrom (Act.next lib) {} acts).history.renewals) ∧
      ∀ x ∈ (runFrom (Act.next lib) {} acts).history.writes, x ∈ (runFrom (Act.next lib) {} acts).history.claims) := by
  refine ⟨(reached_claimed lib acts).distinct, fun h => ?_⟩
  have howned := reached_owned h
  exact ⟨howned.once, howned.applied, howned.writes⟩

/-! The first worker is late: its lease is recovered and the second worker claims the row, but the first one starts. -/

namespace Late

def control : CampaignControlEvent := ⟨"command", "organization", "unit", "campaign", 1, "ref", "hash"⟩

def lib : Library where
  environment := "production"
  leaseSeconds := 90
  retryLimit := 3
  retryLimit_pos := by decide
  validateControl _ := some control
  validateDesired _ := some ⟨"campaign", 1, .active, "ref", "hash"⟩
  str _ := "receipt"

def event : IntegrationEvent := ⟨1, "odoo", "campaign.activate.requested.v1", "accepted", "event", "correlation", .obj []⟩

def ok : Answer := .response 200 (some (.obj []))

/-- Both workers dispatch under the claim of the second one. -/
def acts : List Act :=
  [.arrive event, .select 0 10, .insert 0 "saga", .claim 1 0 [], .recover (seconds 100), .claim 2 (seconds 100) [],
    .start 1, .read 1 ok (seconds 101), .apply 1 (seconds 101), .observe 1 ⟨"11111111-1111-4111-8111-111111111111", by decide⟩,
    .start 2, .read 2 ok (seconds 102), .apply 2 (seconds 102), .observe 2 ⟨"22222222-2222-4222-8222-222222222222", by decide⟩]

end Late

/-- The adapter is called twice under one claim, and the first worker writes under the claim of the second. -/
theorem late_worker_adopts : (runFrom (Act.next Late.lib) {} Late.acts).history.applied.map (fun x => (x.1, x.2.1.number)) =
      [(2, "saga", 2), (1, "saga", 2)] ∧
    ¬((runFrom (Act.next Late.lib) {} Late.acts).history.renewals.map fun x => x.2.number).Nodup ∧
    ∃ x ∈ (runFrom (Act.next Late.lib) {} Late.acts).history.writes, x ∉ (runFrom (Act.next Late.lib) {} Late.acts).history.claims := by
  decide +kernel

end Middleware.Campaign

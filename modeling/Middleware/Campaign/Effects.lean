/-
What one action does to the sagas and the dispatches, as one relation with a case for each effect, and what it does to one
row.
-/
import Middleware.Campaign.Workers

namespace Middleware.Campaign

open Ledger Lib Policy

/-- A dispatch whose row is still reserved by the claim it loaded. -/
structure Reserved (w : World) (worker : Worker) (run : Run) (row : OdooCampaignSaga) : Prop where
  run_eq : w.runs worker = some run
  row_eq : w.row run.saga.sagaId = some row
  held : run.saga.heldBy row = true

/-- An outcome of a dispatch; it is retried only below the limit. -/
def Outcome.sound (lib : Library) (saga : OdooCampaignSaga) (o : Outcome) : Prop :=
  (o.status = .retry ∧ saga.attempts < lib.retryLimit ∧ ∃ e ∈ transportRetryErrorClasses, o.errorClass = some e) ∨
    o.status = .deadLetter ∨ o.status = .completed

/-- The world after an action. `e`, `p` and `l` are the events, the rows to enrol and the locks. -/
inductive Did (lib : Library) (act : Act) (w : World) : World → Prop
  | stayed (e : List IntegrationEvent) (p : Worker → List IntegrationEvent) (l : Uuid → Option Worker)
      (held : Worker → Option Claim) (unheld : ∀ worker c, held worker = some c → w.held worker = some c) :
      Did lib act w { w with events := e, pending := p, locks := l, held := held }
  | inserted (p : Worker → List IntegrationEvent) (id : Uuid) (event : IntegrationEvent) (saga : OdooCampaignSaga)
      (saga_eq : sagaForEvent lib id event = some saga) (fresh : unused saga w.sagas = true) :
      Did lib act w { w with pending := p, sagas := w.sagas ++ [saga] }
  | claimed (worker : Worker) (now : Time) (saga : OdooCampaignSaga) (idle : w.held worker = none ∧ w.runs worker = none)
      (mem : saga ∈ w.sagas) (claimable : saga.claimable now = true) :
      Did lib act w { w with
        sagas := w.update saga.sagaId fun _ => saga.claimed lib now
        held := Function.update w.held worker (some (saga.claimed lib now).claim)
        history := { w.history with claims := (worker, (saga.claimed lib now).claim) :: w.history.claims } }
  | recovered (now : Time) : Did lib act w (w.recover lib now)
  | started (l : Uuid → Option Worker) (worker : Worker) (c : Claim) (row : OdooCampaignSaga)
      (act_eq : act = .start worker) (held_eq : w.held worker = some c) (free : w.blocked worker c.sagaId = false)
      (row_eq : w.row c.sagaId = some row) (reserved : row.status = .reserved) :
      Did lib act w { w with
        locks := l
        held := Function.update w.held worker none
        runs := Function.update w.runs worker (some ⟨row, .loaded, w.resends c.sagaId⟩) }
  | finished (p : Worker → List IntegrationEvent) (l : Uuid → Option Worker) (held : Worker → Option Claim)
      (unheld : ∀ worker c, held worker = some c → w.held worker = some c) (drawn : List String) (worker : Worker)
      (more : ∀ u ∈ w.drawn, u ∈ drawn) :
      Did lib act w { w with pending := p, locks := l, held := held, drawn := drawn, runs := Function.update w.runs worker none }
  | renewed (l : Uuid → Option Worker) (worker : Worker) (run : Run) (row : OdooCampaignSaga) (desired : DesiredState)
      (now : Time) (reserved : Reserved w worker run row) (phase : run.phase = .loaded)
      (agrees : desired.configurationVersion = run.saga.configurationVersion ∧ desired.manifestHash = run.saga.manifestHash) :
      Did lib act w { w with
        locks := l
        sagas := w.update run.saga.sagaId (·.renewed lib now)
        runs := Function.update w.runs worker (some ⟨run.saga.renewed lib now, .renewed desired, run.resends⟩)
        history := { w.history with
          writes := (worker, row.claim) :: w.history.writes
          renewals := (worker, run.saga.claim) :: w.history.renewals } }
  | reused (worker : Worker) (run : Run) (desired : DesiredState) (run_eq : w.runs worker = some run)
      (phase : run.phase = .renewed desired) (reusable : run.saga.hasReusableObservation = true) :
      Did lib act w { w with runs := Function.update w.runs worker (some ⟨run.saga, .ready desired, run.resends⟩) }
  | applied (worker : Worker) (run : Run) (desired : DesiredState) (observation : AdapterObservation)
      (run_eq : w.runs worker = some run) (phase : run.phase = .renewed desired)
      (stale : run.saga.hasReusableObservation = false) :
      Did lib act w { w with
        runs := Function.update w.runs worker (some ⟨run.saga, .applied desired observation, run.resends⟩)
        history := { w.history with applied := (worker, run.saga.claim, run.resends) :: w.history.applied } }
  | observed (l : Uuid → Option Worker) (worker : Worker) (run : Run) (row : OdooCampaignSaga) (desired : DesiredState)
      (observation : AdapterObservation) (uuid : String) (reserved : Reserved w worker run row)
      (phase : run.phase = .applied desired observation) (length_eq : uuid.length = 36) (new : uuid ∉ w.drawn) :
      Did lib act w { w with
        locks := l
        drawn := uuid :: w.drawn
        sagas := w.update run.saga.sagaId (·.observed observation (readbackKey run.saga uuid) run.saga.attempts)
        runs := Function.update w.runs worker
          (some ⟨run.saga.observed observation (readbackKey run.saga uuid) run.saga.attempts, .ready desired, run.resends⟩)
        history := { w.history with writes := (worker, row.claim) :: w.history.writes } }
  | sent (worker : Worker) (run : Run) (desired : DesiredState) (readback : ActualStateReadback)
      (run_eq : w.runs worker = some run) (phase : run.phase = .ready desired) (readback_eq : run.saga.readback = some readback) :
      Did lib act w { w with
        runs := Function.update w.runs worker (some ⟨run.saga, .sent desired readback, run.resends⟩)
        history := { w.history with sent := ⟨run.saga.sagaId, desired, run.resends, readback⟩ :: w.history.sent } }
  | terminated (l : Uuid → Option Worker) (worker : Worker) (run : Run) (row : OdooCampaignSaga) (now : Time)
      (o : Outcome) (reserved : Reserved w worker run row) (sound : o.sound lib run.saga) (resends : Uuid → Option String)
      (resends_eq : resends = w.resends ∨ o.status = .retry ∧ ∃ desired readback, run.phase = .sent desired readback ∧
        resends = Function.update w.resends run.saga.sagaId (some readback.idempotencyKey)) :
      Did lib act w { w with
        locks := l
        sagas := w.update run.saga.sagaId (·.terminated now o)
        resends := resends
        runs := Function.update w.runs worker none
        history := { w.history with writes := (worker, row.claim) :: w.history.writes } }

section Effects

variable {lib : Library} {act : Act} {w w' : World} {worker : Worker} {run : Run} {saga : OdooCampaignSaga}

theorem guardedUpdate_some {f : OdooCampaignSaga → OdooCampaignSaga} (h : w.guardedUpdate worker saga f = some w') :
    ∃ row l, w.row saga.sagaId = some row ∧ saga.heldBy row = true ∧ w' = { w with
      locks := l
      sagas := w.update saga.sagaId f
      history := { w.history with writes := (worker, row.claim) :: w.history.writes } } := by
  unfold World.guardedUpdate at h
  split at h
  · cases h
  rename_i row hrow
  split at h
  · rename_i hcond
    cases h
    exact ⟨row, _, hrow, (Bool.and_eq_true_iff.1 hcond).1, rfl⟩
  · cases h

variable {now : Time}

theorem retryOrDeadLetter_sound {e : String} (h : e ∈ transportRetryErrorClasses) :
    (retryOrDeadLetter lib now saga e).sound lib saga := by
  unfold retryOrDeadLetter
  split
  · exact .inr (.inl rfl)
  · exact .inl ⟨rfl, by omega, e, h, rfl⟩

theorem fail_sound {failure : Failure} {rejected : String} :
    (fail lib now saga failure rejected).sound lib saga := by
  unfold fail
  split
  · exact .inr (.inl rfl)
  split
  · rename_i e he
    refine retryOrDeadLetter_sound ?_
    cases failure <;> cases he <;> decide
  · exact .inr (.inl rfl)

variable {answer : Answer}

theorem verdict_terminate {o : Outcome} (h : verdict lib now saga answer = .terminate o) :
    o.sound lib saga := by
  unfold verdict at h
  split at h
  · cases h
    exact fail_sound
  split at h
  · cases h
    exact .inr (.inl rfl)
  split at h
  · cases h
    exact .inr (.inl rfl)
  split at h
  · cases h
    exact .inr (.inl rfl)
  split at h
  · cases h
    exact .inr (.inl rfl)
  · cases h

theorem verdict_proceed {desired : DesiredState}
    (h : verdict lib now saga answer = .proceed desired) :
    desired.configurationVersion = saga.configurationVersion ∧ desired.manifestHash = saga.manifestHash := by
  unfold verdict at h
  split at h
  · cases h
  split at h
  · cases h
  split at h
  · cases h
  split at h
  · cases h
  split at h
  · cases h
  rename_i hne
  cases h
  simp only [not_or, not_not] at hne
  exact ⟨by omega, hne.2.symm⟩

theorem readbackOutcome_sound {readback : ActualStateReadback} :
    (readbackOutcome lib now saga readback answer).sound lib saga := by
  unfold readbackOutcome
  split
  · exact fail_sound
  · exact .inr (.inr rfl)

theorem Did.idle : Did lib act w w := .stayed w.events w.pending w.locks w.held fun _ _ h => h

theorem Did.finish (w : World) (worker : Worker) : Did lib act w (w.finish worker) :=
  .finished w.pending _ w.held (fun _ _ h => h) w.drawn worker fun _ h => h

theorem unheld_update (worker : Worker) : ∀ other c, Function.update w.held worker none other = some c → w.held other = some c := by
  intro other c h
  by_cases heq : other = worker
  · subst heq
    simp at h
  · simpa [Function.update_of_ne heq] using h

theorem insert_did {id : Uuid} : Did lib act w (w.insert lib worker id) := by
  unfold World.insert
  split
  · exact .idle
  dsimp only
  split
  · exact .stayed w.events _ w.locks w.held fun _ _ h => h
  rename_i saga hsaga
  split
  · rename_i hunused
    exact .inserted _ _ _ _ hsaga hunused
  · exact .stayed w.events _ w.locks w.held fun _ _ h => h

theorem claim_did {skipped : List Uuid} : Did lib act w (w.claim lib worker now skipped) := by
  unfold World.claim
  split
  · exact .idle
  rename_i hidle
  simp only [Bool.or_eq_true, not_or, Option.not_isSome_iff_eq_none] at hidle
  split
  · exact .idle
  rename_i saga hfind
  have hclaimable := List.find?_some hfind
  simp only [Bool.and_eq_true] at hclaimable
  exact .claimed worker now saga hidle (List.mem_of_find?_eq_some hfind) hclaimable.1.1

theorem start_did : Did lib (.start worker) w (w.start worker) := by
  unfold World.start
  split
  · exact .idle
  rename_i c hheld
  split
  · exact .idle
  rename_i hfree
  dsimp only
  split
  · exact .stayed w.events w.pending w.locks _ (unheld_update worker)
  rename_i row hrow
  split
  · exact .stayed w.events w.pending w.locks _ (unheld_update worker)
  · rename_i hstatus
    exact .started _ worker c row rfl hheld (by simpa using hfree) hrow (by simpa using hstatus)

theorem read_did : Did lib act w (w.read lib worker answer now) := by
  unfold World.read
  split
  · rename_i saga resends hrun
    split
    · rename_i o hverdict
      unfold World.terminate
      cases hwrite : w.guardedUpdate worker saga (·.terminated now o) with
      | none => exact .finish w worker
      | some w₁ =>
        obtain ⟨row, l, hrow, hheld, rfl⟩ := guardedUpdate_some hwrite
        exact .terminated _ worker ⟨saga, .loaded, resends⟩ row now o ⟨hrun, hrow, hheld⟩ (verdict_terminate hverdict) _ (.inl rfl)
    · rename_i desired hverdict
      split
      · exact .finish w worker
      · rename_i w₁ hwrite
        obtain ⟨row, l, hrow, hheld, rfl⟩ := guardedUpdate_some hwrite
        exact .renewed l worker ⟨saga, .loaded, resends⟩ row desired now ⟨hrun, hrow, hheld⟩ rfl (verdict_proceed hverdict)
  · exact .idle

theorem apply_did : Did lib act w (w.apply worker now) := by
  unfold World.apply
  split
  · rename_i saga desired resends hrun
    split
    · rename_i hreusable
      exact .reused worker ⟨saga, .renewed desired, resends⟩ desired hrun rfl hreusable
    · rename_i hreusable
      exact .applied worker ⟨saga, .renewed desired, resends⟩ desired _ hrun rfl (by simpa using hreusable)
  · exact .idle

theorem observe_did {uuid : {s : String // s.length = 36}} : Did lib act w (w.observe worker uuid) := by
  unfold World.observe
  split
  · rename_i saga desired observation resends hrun
    split
    · exact .idle
    rename_i hnew
    dsimp only
    split
    · exact .finished w.pending _ w.held (fun _ _ h => h) _ worker fun u hu => List.mem_cons_of_mem _ hu
    · rename_i w₁ hwrite
      obtain ⟨row, l, hrow, hheld, rfl⟩ := guardedUpdate_some hwrite
      simp only [Bool.or_eq_true, List.contains_iff_mem, not_or] at hnew
      exact .observed l worker ⟨saga, .applied desired observation, resends⟩ row desired observation uuid.1
        ⟨hrun, hrow, hheld⟩ rfl uuid.2 hnew.2
  · exact .idle

theorem send_did : Did lib act w (w.send worker) := by
  unfold World.send
  split
  · rename_i saga desired resends hrun
    split
    · exact .finish w worker
    rename_i readback hreadback
    split
    · exact .finish w worker
    · exact .sent worker ⟨saga, .ready desired, resends⟩ desired readback hrun rfl hreadback
  · exact .idle

theorem finishReadback_did : Did lib act w (w.finishReadback lib worker answer now) := by
  unfold World.finishReadback
  split
  · rename_i saga desired readback resends hrun
    split
    · exact .idle
    dsimp only
    split
    · exact .finish w worker
    · rename_i w₁ hwrite
      obtain ⟨row, l, hrow, hheld, rfl⟩ := guardedUpdate_some hwrite
      refine .terminated _ worker ⟨saga, .sent desired readback, resends⟩ row now _ ⟨hrun, hrow, hheld⟩
        readbackOutcome_sound _ ?_
      by_cases hretry : (readbackOutcome lib now saga readback answer).status = .retry
      · exact .inr ⟨hretry, desired, readback, rfl, if_pos hretry⟩
      · exact .inl (if_neg hretry)
  · exact .idle

theorem next_did (act : Act) : Did lib act w (act.next lib w) := by
  cases act with
  | arrive event => exact .stayed _ w.pending w.locks w.held fun _ _ h => h
  | select worker limit => exact .stayed w.events _ w.locks w.held fun _ _ h => h
  | insert worker id => exact insert_did
  | claim worker now skipped => exact claim_did
  | recover now => exact .recovered now
  | start worker => exact start_did
  | read worker answer now => exact read_did
  | apply worker now => exact apply_did
  | observe worker uuid => exact observe_did
  | send worker => exact send_did
  | finishReadback worker answer now => exact finishReadback_did
  | crash worker => exact .finished _ _ _ (unheld_update worker) w.drawn worker fun _ h => h

end Effects

end Middleware.Campaign

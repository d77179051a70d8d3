/-
What holds of the rows in every run: one saga for each event, attempts within the limit, and terminal rows that stay.
-/
import Middleware.Campaign.Effects

namespace Middleware.Campaign

open Ledger Lib Policy

/-- The row with the columns of its enrolment alone. -/
def OdooCampaignSaga.enrolled (saga : OdooCampaignSaga) : OdooCampaignSaga :=
  { saga with
    status := .pending, attempts := 0, reservedAt := none, leaseExpiresAt := none, nextAttemptAt := none
    lastErrorClass := none, effectiveState := none, evidenceJson := none, observedAt := none
    readbackIdempotencyKey := none, readbackAttempt := 0, readbackId := none, completedAt := none }

inductive RowStep (lib : Library) (r : OdooCampaignSaga) : OdooCampaignSaga → Prop
  | same : RowStep lib r r
  | claimed (now : Time) (claimable : r.claimable now = true) : RowStep lib r (r.claimed lib now)
  | recovered (now : Time) (expired : r.expired now = true) : RowStep lib r (r.recovered lib now)
  | renewed (now : Time) (reserved : r.status = .reserved) : RowStep lib r (r.renewed lib now)
  | observed (observation : AdapterObservation) (key : String) (reserved : r.status = .reserved) :
      RowStep lib r (r.observed observation key r.attempts)
  | terminated (now : Time) (o : Outcome) (reserved : r.status = .reserved) (sound : o.sound lib r) :
      RowStep lib r (r.terminated now o)

section Rows

variable {lib : Library} {act : Act} {w w' : World} {worker : Worker} {run : Run} {r r' row saga : OdooCampaignSaga}

theorem heldBy_row (h : saga.heldBy row = true) :
    row.status = .reserved ∧ row.attempts = saga.attempts ∧ row.reservedAt = saga.reservedAt ∧ row.reservedAt.isSome = true := by
  simp only [OdooCampaignSaga.heldBy, Bool.and_eq_true, beq_iff_eq] at h
  exact ⟨h.1.1.1, h.1.1.2, h.2, h.1.2⟩

theorem row_of_mem (hids : (w.sagas.map (·.sagaId)).Nodup) (hr : r ∈ w.sagas) : w.row r.sagaId = some r :=
  rowAt_of_mem hids hr

theorem row_mem {id : Uuid} (h : w.row id = some r) : r ∈ w.sagas ∧ r.sagaId = id := ⟨rowAt_mem h, key_of_rowAt h⟩

theorem update_step {id : Uuid} {f : OdooCampaignSaga → OdooCampaignSaga} (hids : (w.sagas.map (·.sagaId)).Nodup)
    (hrow : w.row id = some row) (hstep : RowStep lib row (f row)) :
    ∃ g, w.update id f = w.sagas.map g ∧ ∀ r ∈ w.sagas, RowStep lib r (g r) := by
  refine ⟨_, rfl, fun r hr => ?_⟩
  by_cases hid : r.sagaId = id
  · have hsame : row = r := by
      have hread := row_of_mem hids hr
      rw [hid, hrow] at hread
      exact Option.some.inj hread
    rw [if_pos hid, ← hsame]
    exact hstep
  · rw [if_neg hid]
    exact .same

theorem Did.sagas (h : Did lib act w w') (hids : (w.sagas.map (·.sagaId)).Nodup) :
    (∃ g, w'.sagas = w.sagas.map g ∧ ∀ r ∈ w.sagas, RowStep lib r (g r)) ∨
      ∃ id event saga, sagaForEvent lib id event = some saga ∧ unused saga w.sagas = true ∧ w'.sagas = w.sagas ++ [saga] := by
  have kept : ∃ g, w.sagas = w.sagas.map g ∧ ∀ r ∈ w.sagas, RowStep lib r (g r) :=
    ⟨id, (List.map_id _).symm, fun _ _ => .same⟩
  cases h with
  | stayed | started | finished | reused | applied | sent => exact .inl kept
  | inserted p id event saga hsaga hfresh => exact .inr ⟨id, event, saga, hsaga, hfresh, rfl⟩
  | claimed worker now saga _ hmem hclaimable =>
    exact .inl (update_step hids (row_of_mem hids hmem) (.claimed now hclaimable))
  | recovered now =>
    refine .inl ⟨_, rfl, fun r _ => ?_⟩
    by_cases hrec : w.recoverable now r = true
    · rw [if_pos hrec]
      exact .recovered now (Bool.and_eq_true_iff.1 hrec).1
    · rw [if_neg hrec]
      exact .same
  | renewed l worker run row desired now hres =>
    exact .inl (update_step hids hres.row_eq (.renewed now (heldBy_row hres.held).1))
  | observed l worker run row desired observation uuid hres =>
    refine .inl (update_step hids hres.row_eq ?_)
    rw [← (heldBy_row hres.held).2.1]
    exact .observed observation _ (heldBy_row hres.held).1
  | terminated l worker run row now o hres hsound =>
    refine .inl (update_step hids hres.row_eq (.terminated now o (heldBy_row hres.held).1 ?_))
    unfold Outcome.sound
    rw [(heldBy_row hres.held).2.1]
    exact hsound

theorem RowStep.fixed (h : RowStep lib r r') : r'.enrolled = r.enrolled := by
  cases h with
  | recovered now =>
    unfold OdooCampaignSaga.recovered
    split <;> rfl
  | _ => rfl

theorem RowStep.ids (h : RowStep lib r r') : r'.sagaId = r.sagaId ∧ r'.integrationEventId = r.integrationEventId := by
  have hid := congrArg OdooCampaignSaga.sagaId h.fixed
  have hevent := congrArg OdooCampaignSaga.integrationEventId h.fixed
  exact ⟨hid, hevent⟩

theorem claimable_status {now : Time} (h : r.claimable now = true) : r.status.claimable = true := (Bool.and_eq_true_iff.1 h).1

theorem expired_status {now : Time} (h : r.expired now = true) : r.status = .reserved := by
  have hs := (Bool.and_eq_true_iff.1 h).1
  simpa using hs

theorem RowStep.terminal (h : RowStep lib r r') (hr : r.status.terminal = true) : r' = r := by
  cases h with
  | same => rfl
  | claimed now hc =>
    have hc := claimable_status hc
    cases hs : r.status <;> simp [hs, Status.claimable, Status.terminal] at hc hr
  | recovered now he =>
    rw [expired_status he] at hr
    cases hr
  | renewed now hs | observed observation key hs | terminated now o hs =>
    rw [hs] at hr
    cases hr

structure Sound (lib : Library) (w : World) : Prop where
  ids : (w.sagas.map (·.sagaId)).Nodup
  events : (w.sagas.map (·.integrationEventId)).Nodup
  limit : ∀ r ∈ w.sagas, r.attempts ≤ lib.retryLimit
  spare : ∀ r ∈ w.sagas, r.status.claimable = true → r.attempts < lib.retryLimit

theorem RowStep.limit (h : RowStep lib r r') (hlimit : r.attempts ≤ lib.retryLimit)
    (hspare : r.status.claimable = true → r.attempts < lib.retryLimit) :
    r'.attempts ≤ lib.retryLimit ∧ (r'.status.claimable = true → r'.attempts < lib.retryLimit) := by
  cases h with
  | same => exact ⟨hlimit, hspare⟩
  | claimed now hc =>
    refine ⟨hspare (claimable_status hc), fun hs => ?_⟩
    cases hs
  | recovered now he =>
    unfold OdooCampaignSaga.recovered
    split
    · exact ⟨hlimit, fun hs => by cases hs⟩
    · rename_i hlt
      exact ⟨hlimit, fun _ => Nat.lt_of_not_le hlt⟩
  | renewed now hs => exact ⟨hlimit, hspare⟩
  | observed observation key hs => exact ⟨hlimit, hspare⟩
  | terminated now o hs hsound =>
    refine ⟨hlimit, fun hc => ?_⟩
    replace hc : o.status.claimable = true := hc
    rcases hsound with ⟨-, hlt, -⟩ | ho | ho
    · exact hlt
    · rw [ho] at hc
      cases hc
    · rw [ho] at hc
      cases hc

theorem sagaForEvent_new {id : Uuid} {event : IntegrationEvent} (h : sagaForEvent lib id event = some saga) :
    saga.sagaId = id ∧ saga.integrationEventId = event.id ∧ saga.attempts = 0 ∧ saga.status ≠ .reserved ∧
      saga.readbackIdempotencyKey = none := by
  obtain ⟨operation, -, rfl⟩ := Option.map_eq_some_iff.1 h
  split
  · exact ⟨rfl, rfl, rfl, by simp, rfl⟩
  · refine ⟨rfl, rfl, rfl, ?_, rfl⟩
    dsimp only
    split <;> simp

theorem Sound.did (h : Sound lib w) (hd : Did lib act w w') : Sound lib w' := by
  rcases hd.sagas h.ids with ⟨g, heq, hg⟩ | ⟨id, event, saga, hsaga, hfresh, heq⟩
  · have column {A : Type} (c : OdooCampaignSaga → A) (hc : ∀ r r', RowStep lib r r' → c r' = c r) :
        w'.sagas.map c = w.sagas.map c := by
      rw [heq, List.map_map]
      exact List.map_congr_left fun r hr => hc r (g r) (hg r hr)
    refine ⟨?_, ?_, ?_, ?_⟩
    · rw [column _ fun r r' hs => hs.ids.1]
      exact h.ids
    · rw [column _ fun r r' hs => hs.ids.2]
      exact h.events
    · intro r' hr'
      rw [heq] at hr'
      obtain ⟨r, hr, rfl⟩ := List.mem_map.1 hr'
      exact ((hg r hr).limit (h.limit r hr) (h.spare r hr)).1
    · intro r' hr'
      rw [heq] at hr'
      obtain ⟨r, hr, rfl⟩ := List.mem_map.1 hr'
      exact ((hg r hr).limit (h.limit r hr) (h.spare r hr)).2
  · obtain ⟨-, -, hattempts, -⟩ := sagaForEvent_new hsaga
    simp only [unused, Bool.and_eq_true, Bool.not_eq_true', List.contains_eq_mem, decide_eq_false_iff_not] at hfresh
    have hpos := lib.retryLimit_pos
    rw [← List.concat_eq_append] at heq
    refine ⟨?_, ?_, ?_, ?_⟩
    · rw [heq, List.map_concat, List.nodup_concat]
      exact ⟨hfresh.1, h.ids⟩
    · rw [heq, List.map_concat, List.nodup_concat]
      exact ⟨hfresh.2, h.events⟩
    · intro r hr
      rw [heq, List.concat_eq_append] at hr
      rcases List.mem_append.1 hr with hr | hr
      · exact h.limit r hr
      · rw [List.mem_singleton.1 hr]
        omega
    · intro r hr _
      rw [heq, List.concat_eq_append] at hr
      rcases List.mem_append.1 hr with hr | hr
      · exact h.spare r hr ‹_›
      · rw [List.mem_singleton.1 hr]
        omega

theorem Did.forward (hd : Did lib act w w') (hids : (w.sagas.map (·.sagaId)).Nodup) (hr : r ∈ w.sagas) :
    ∃ r' ∈ w'.sagas, RowStep lib r r' := by
  rcases hd.sagas hids with ⟨g, heq, hg⟩ | ⟨id, event, saga, -, -, heq⟩
  · exact ⟨g r, by rw [heq]; exact List.mem_map_of_mem hr, hg r hr⟩
  · exact ⟨r, by rw [heq]; exact List.mem_append_left _ hr, .same⟩

end Rows

theorem sound_start (lib : Library) : Sound lib {} :=
  ⟨List.nodup_nil, List.nodup_nil, fun _ hr => absurd hr List.not_mem_nil, fun _ hr => absurd hr List.not_mem_nil⟩

theorem reached_sound (lib : Library) (acts : List Act) : Sound lib (runFrom (Act.next lib) {} acts) :=
  runFrom_invariant (sound_start lib) fun _ act h => h.did (next_did act)

end Middleware.Campaign

/-
What the events do to the traffic: where a submission comes to, and what it leaves of the reservations and of the keys.
-/
import Middleware.Production.Traffic

namespace Middleware.Production

open Ledger Lib
open Communications (Submit Durable Store Service CommunicationMessage HandsOver Admitted)

/-- The shared part raises before a command is handed over. -/
def Fails (svc : GatedService) (c : Submit svc.library) (cache : Store) : Prop :=
  (∃ e, svc.prepare c cache = .error e) ∨
    (∃ digest message failureCode, svc.prepare c cache = .ok (.suppressed digest message failureCode)) ∧ c.persistFault.isSome = true

/-! ## The shared part -/

section Shared

variable {svc : GatedService} {c : Submit svc.library} {w : Communications.World} {cache : Store} {now : Time}

theorem handing_eq (svc : GatedService) (c : Submit svc.library) (cache : Store) (now : Time) :
    handing svc.toService c cache now = none ∧ (¬∃ command, HandsOver svc.toService c cache command) ∨
    handing svc.toService c cache now = some now ∧ ∃ command, HandsOver svc.toService c cache command := by
  unfold handing
  split
  · rename_i digest message command clientId h
    exact .inr ⟨rfl, command, digest, message, clientId, h⟩
  · rename_i h
    refine .inl ⟨rfl, ?_⟩
    rintro ⟨command, digest, message, clientId, heq⟩
    exact h _ _ _ _ heq

theorem unsent_error (e : Exc) : GatedService.unsent (.error e) = false := rfl

theorem unsent_ok (message : CommunicationMessage) (duplicate : Bool) :
    GatedService.unsent (.ok (message, duplicate)) = (duplicate || decide (message.status = .suppressed)) := rfl

theorem persist_fst {α : Type} (fault : Option Exc) (reply : α) :
    (Service.persist fault reply w).1 = match fault with
      | some e => .error e
      | none => .ok reply := by
  cases fault <;> rfl

theorem submit_answer (svc : GatedService) (c : Submit svc.library) (w : Communications.World) :
    match svc.prepare c w.store with
    | .error e => (svc.submitMessage c w).1 = .error e
    | .ok (.replayed message) => (svc.submitMessage c w).1 = .ok (message, true)
    | .ok (.suppressed _ message _) => message.status = .suppressed ∧ (svc.submitMessage c w).1 = match c.persistFault with
        | some e => .error e
        | none => .ok (message, false)
    | .ok (.submitting _ _ _ _) => (∃ e, (svc.submitMessage c w).1 = .error e) ∨
        ∃ message, (svc.submitMessage c w).1 = .ok (message, false) ∧ message.status = .queued := by
  unfold Service.submitMessage
  rcases hprepare : svc.prepare c w.store with e | (message | ⟨digest, message, failureCode⟩ | ⟨digest, message, command, clientId⟩)
  · rfl
  · rfl
  · have hstatus : message.status = .suppressed := by
      have hprepares := Communications.prepare_prepares hprepare
      cases hprepares
      rfl
    exact ⟨hstatus, persist_fst _ _⟩
  · dsimp only
    split
    · exact .inl ⟨_, rfl⟩
    · rcases c.persistFault with _ | e
      · exact .inr ⟨_, rfl, rfl⟩
      · exact .inl ⟨e, rfl⟩

theorem unsent_spec (h : GatedService.unsent (svc.submitMessage c w).1 = true) :
    (¬∃ command, HandsOver svc.toService c w.store command) ∧ ¬Fails svc c w.store := by
  have hanswer := submit_answer svc c w
  unfold Fails HandsOver
  rcases hprepare : svc.prepare c w.store with e | (message | ⟨digest, message, failureCode⟩ | ⟨digest, message, command, clientId⟩)
  · rw [hprepare] at hanswer
    rw [hanswer, unsent_error] at h
    exact absurd h Bool.false_ne_true
  · constructor
    · rintro ⟨_, _, _, _, h'⟩
      cases h'
    · rintro (⟨e, h'⟩ | ⟨⟨_, _, _, h'⟩, -⟩)
      · cases h'
      · cases h'
  · constructor
    · rintro ⟨_, _, _, _, h'⟩
      cases h'
    rintro (⟨e, h'⟩ | ⟨-, hfault⟩)
    · cases h'
    · obtain ⟨e, he⟩ := Option.isSome_iff_exists.1 hfault
      rw [hprepare] at hanswer
      rw [hanswer.2, he, unsent_error] at h
      exact absurd h Bool.false_ne_true
  · exfalso
    rw [hprepare] at hanswer
    rcases hanswer with ⟨e, he⟩ | ⟨queued, he, hstatus⟩
    · rw [he, unsent_error] at h
      exact absurd h Bool.false_ne_true
    · rw [he, unsent_ok, hstatus] at h
      exact absurd h (by decide)

theorem sent_spec (h : GatedService.unsent (svc.submitMessage c w).1 ≠ true) :
    (∃ command, HandsOver svc.toService c w.store command) ∨ Fails svc c w.store := by
  have hanswer := submit_answer svc c w
  unfold Fails HandsOver
  rcases hprepare : svc.prepare c w.store with e | (message | ⟨digest, message, failureCode⟩ | ⟨digest, message, command, clientId⟩)
  · exact .inr (.inl ⟨e, rfl⟩)
  · rw [hprepare] at hanswer
    rw [hanswer, unsent_ok, Bool.true_or] at h
    exact absurd rfl h
  · refine .inr (.inr ⟨⟨_, _, _, rfl⟩, ?_⟩)
    rw [hprepare] at hanswer
    rcases hfault : c.persistFault with _ | e
    · rw [hanswer.2, hfault, unsent_ok, hanswer.1] at h
      exact absurd rfl h
    · rfl
  · exact .inl ⟨command, digest, message, clientId, rfl⟩

theorem not_fails_of_handsOver (h : ∃ command, HandsOver svc.toService c cache command) : ¬Fails svc c cache := by
  obtain ⟨command, digest, message, clientId, hprepare⟩ := h
  have hprepare' : svc.prepare c cache = .ok (.submitting digest message command clientId) := hprepare
  rintro (⟨e, h'⟩ | ⟨⟨_, _, _, h'⟩, -⟩)
  · rw [hprepare'] at h'
    cases h'
  · rw [hprepare'] at h'
    cases h'

/-! ## Keys stay known -/

def Known (cache : Store) (c : Submit svc.library) : Prop :=
  cache.idempotency.get (c.tenantId, Communications.route, c.idempotencyKey) ≠ none

/-- Keys that one cache knows the other one knows too. -/
def Grows (cache cache' : Store) : Prop := ∀ key, cache.idempotency.get key ≠ none → cache'.idempotency.get key ≠ none

theorem Grows.refl (cache : Store) : Grows cache cache := fun _ h => h

theorem grows_set {cache : Store} {key : String × String × String} {entry : String × Uuid} {cache' : Store}
    (h : cache'.idempotency = cache.idempotency.set key entry) : Grows cache cache' := by
  intro key' hkey
  rw [h, OrderedDict.get_set]
  split
  · exact fun h => by cases h
  · exact hkey

theorem refresh_grows {d : Durable} {tenantId idempotencyKey : String} {cache' : Store}
    (h : d.refreshIdempotency tenantId idempotencyKey cache = .ok cache') : Grows cache cache' := by
  unfold Durable.refreshIdempotency at h
  cases htenant : Communications.tenantConnection tenantId with
  | error e =>
    rw [htenant] at h
    cases h
  | ok u =>
    rw [htenant] at h
    have hcache : _ = cache' := Except.ok.inj h
    split at hcache
    · rw [← hcache]
      exact .refl cache
    · split at hcache
      · rw [← hcache]
        exact .refl cache
      · rw [← hcache]
        exact grows_set rfl

theorem submit_grows : Grows w.store (svc.submitMessage c w).2.store := by
  unfold Service.submitMessage
  split
  · exact .refl _
  · exact .refl _
  · rw [Communications.persist_world]
    exact grows_set rfl
  · split
    · exact grows_set rfl
    · rw [Communications.persist_world]
      exact grows_set rfl

theorem not_handsOver_of_known (h : Known cache c) : ¬∃ command, HandsOver svc.toService c cache command := by
  rintro ⟨command, hhands⟩
  obtain ⟨channel, caller, sender, recipient, hadmitted, -⟩ := Communications.handsOver_iff.1 hhands
  exact h hadmitted.first

theorem mapM_length {A B : Type} {f : A → Option B} {l : List A} {l' : List B} (h : l.mapM f = some l') : l'.length = l.length := by
  induction l generalizing l' with
  | nil =>
    cases h
    rfl
  | cons x l ih =>
    rw [List.mapM_cons] at h
    obtain ⟨y, -, h⟩ := Option.bind_eq_some_iff.1 h
    obtain ⟨ys, hys, h⟩ := Option.bind_eq_some_iff.1 h
    cases h
    rw [List.length_cons, List.length_cons, ih hys]

theorem recipients_pos (hchannel : c.request.request.channel = .email) : 1 ≤ c.request.request.recipients.length := by
  have hbounded := c.request.bounded.recipients.1
  have hvalid := c.request.validated
  unfold Communications.CreateMessageRequest.validateChannelContract at hvalid
  split at hvalid
  · cases hvalid
  · split at hvalid
    · cases hvalid
    · split at hvalid
      · cases hvalid
      · split at hvalid
        · rename_i sender recipients hsender hrecipients
          have hlength : recipients.length = c.request.raw.recipients.length := by
            exact mapM_length hrecipients
          rw [← Except.ok.inj hvalid]
          rw [hlength]
          exact hbounded
        · cases hvalid
      · rename_i hsms
        exfalso
        have hraw : c.request.request.channel = .sms := by
          split at hvalid
          · split at hvalid
            · cases hvalid
            · split at hvalid
              · cases hvalid
              · split at hvalid
                · cases hvalid
                · obtain ⟨sender, -, hvalid⟩ := bind_ok hvalid
                  obtain ⟨recipient, -, hvalid⟩ := bind_ok hvalid
                  obtain ⟨info, -, hvalid⟩ := bind_ok hvalid
                  rw [← Except.ok.inj hvalid]
                  exact hsms
          · cases hvalid
        rw [hraw] at hchannel
        cases hchannel

end Shared

/-! ## The events -/

section Events

variable {svc : GatedService} {draws : Draws} {σ : Type} [PolicyStore svc.control σ] {t : Traffic svc σ}
  {process pid : Nat} {c c' : Submit svc.library} {d : Durable} {g : Readings} {now : Time} {s s' : σ} {cache : Store} {e : Exc}

theorem pass_error (h : svc.pass c g cache s = (.error e, s')) : s' = s := by
  unfold GatedService.pass at h
  split at h
  · cases (Prod.mk.inj h).1
  · dsimp only at h
    split at h
    · exact (Prod.mk.inj h).2.symm
    · split at h
      · exact (Prod.mk.inj h).2.symm
      · split at h
        · exact (Prod.mk.inj h).2.symm
        · split at h
          · rename_i e' s'' hguard
            rw [← (Prod.mk.inj h).2]
            unfold GatedService.guardRequest at hguard
            split at hguard
            · exact (Prod.mk.inj hguard).2.symm
            · dsimp only at hguard
              split at hguard
              · exact (Prod.mk.inj hguard).2.symm
              · split at hguard
                · rename_i hreserve
                  rw [← (Prod.mk.inj hguard).2]
                  unfold reserveQuota at hreserve
                  split at hreserve
                  · exact (Prod.mk.inj hreserve).2.symm
                  · cases (Prod.mk.inj hreserve).1
                · cases (Prod.mk.inj hguard).1
          · cases (Prod.mk.inj h).1

/-- The caches know at least the same keys. -/
def CachesGrow (caches caches' : Nat → Store) : Prop := ∀ process, Grows (caches process) (caches' process)

theorem update_grows {caches : Nat → Store} (h : Grows (caches process) cache) :
    CachesGrow caches (Function.update caches process cache) := by
  intro process'
  by_cases heq : process' = process
  · subst heq
    rw [Function.update_self]
    exact h
  · rw [Function.update_of_ne heq]
    exact .refl _

/-- What a new submission comes to: it waits, is refused, goes on under a known key, or has made a reservation. -/
inductive Begins (svc : GatedService) (draws : Draws) {σ : Type} [PolicyStore svc.control σ] [QuotaStore svc.control σ]
    (t : Traffic svc σ) (process : Nat) (c : Submit svc.library) (g : Readings) : Traffic svc σ → Prop
  | waits : Begins svc draws t process c g t
  | refused (caches : Nat → Store) (drawn : Nat) (e : Exc) (grows : CachesGrow t.caches caches) (draws_le : t.drawn ≤ drawn) :
      Begins svc draws t process c g { t with caches, drawn, submissions := t.submissions ++ [.refused e] }
  | known (caches : Nat → Store) (grows : CachesGrow t.caches caches) (key : Known (caches process) c) :
      Begins svc draws t process c g
        { t with caches, drawn := t.drawn + 1, submissions := t.submissions ++ [.waiting process c none] }
  | reserved (caches : Nat → Store) (p : EmailProductionPolicy) (r : QuotaReservation) (grows : CachesGrow t.caches caches)
      (got : get svc.control c.tenantId g.now t.store = .ok p)
      (quota : ∀ window ∈ windows,
        used svc.control t.store c.tenantId (window.cutoff g.reservedAt) + c.request.request.recipients.length ≤ window.limit p)
      (reservation : r = ⟨c.tenantId, draws.uuid4 t.drawn, c.request.request.recipients.length, g.reservedAt⟩) :
      Begins svc draws t process c g
        { t with
          caches
          drawn := t.drawn + 1
          store := PolicyStore.reserve svc.control r g.recordedAt t.store
          submissions := t.submissions ++
            [.waiting process (svc.governed c p) (some ⟨r, QuotaStore.since svc.control σ r g.recordedAt⟩)] }

variable [QuotaStore svc.control σ]

theorem begins (draws : Draws) (t : Traffic svc σ) (process : Nat) (c : Submit svc.library) (d : Durable) (g : Readings) (now : Time) :
    Begins svc draws t process c g (t.step svc draws (.begin process c d g now)) := by
  unfold Traffic.step
  dsimp only
  split
  · exact .waits
  · split
    · rename_i e hrefresh
      exact .refused t.caches t.drawn e (fun _ => .refl _) le_rfl
    · rename_i cache hrefresh
      have hgrows : CachesGrow t.caches (Function.update t.caches process cache) := update_grows (refresh_grows hrefresh)
      split
      · rename_i e s hpass
        rw [pass_error hpass]
        exact .refused _ _ e hgrows (Nat.le_succ _)
      · rename_i c' reservation s hpass
        rcases pass_ok hpass with ⟨hold, rfl, rfl, rfl⟩ | ⟨-, -, settings, p, r, -, -, hget, -, hreserve, rfl, rfl⟩
        · refine .known _ hgrows ?_
          rw [Function.update_self]
          exact Option.isSome_iff_ne_none.1 hold
        · obtain ⟨hquota, hr, rfl⟩ := reserveQuota_ok hreserve
          exact .reserved _ p r hgrows hget hquota hr

theorem step_submit (draws : Draws) (now : Time) {held : Option Held} (h : t.submissions[pid]? = some (.waiting process c held)) :
    ∃ caches ledger, CachesGrow t.caches caches ∧ t.step svc draws (.submit pid now) =
      { t with
        caches
        ledger
        submissions := t.submissions.set pid (answered svc c held (handing svc.toService c (t.caches process) now)
          (svc.submitMessage c ⟨t.caches process, t.ledger⟩).1) } := by
  refine ⟨_, (svc.submitMessage c ⟨t.caches process, t.ledger⟩).2.ledger,
    update_grows (submit_grows (w := ⟨t.caches process, t.ledger⟩) (c := c)), ?_⟩
  unfold Traffic.step
  dsimp only
  rw [h]

theorem step_submit_idle (h : ∀ process c held, t.submissions[pid]? ≠ some (.waiting process c held)) :
    t.step svc draws (.submit pid now) = t := by
  unfold Traffic.step
  dsimp only
  split
  · exact absurd ‹_› (h _ _ _)
  · rfl

theorem step_release {held : Held} {answer : Except Exc (CommunicationMessage × Bool)}
    (h : t.submissions[pid]? = some (.releasing c held answer)) : t.step svc draws (.release pid now) =
      { t with
        store := PolicyStore.release svc.control held.reservation now t.store
        submissions := t.submissions.set pid (.done c none none answer) } := by
  unfold Traffic.step
  dsimp only
  rw [h]

theorem step_release_idle (h : ∀ c held answer, t.submissions[pid]? ≠ some (.releasing c held answer)) :
    t.step svc draws (.release pid now) = t := by
  unfold Traffic.step
  dsimp only
  split
  · exact absurd ‹_› (h _ _ _)
  · rfl

/-- Where a submission stands after the shared part: it has a reservation to release, has handed its command over, or has failed. -/
theorem answered_cases (svc : GatedService) (c : Submit svc.library) (held : Held) (cache : Store) (ledger : MemoryCommandStore)
    (now : Time) :
    (¬(∃ command, HandsOver svc.toService c cache command) ∧ ¬Fails svc c cache ∧
        ∃ answer, answered svc c (some held) (handing svc.toService c cache now) (svc.submitMessage c ⟨cache, ledger⟩).1 =
          .releasing c held answer) ∨
      ((∃ command, HandsOver svc.toService c cache command) ∧ ¬Fails svc c cache ∧
        ∃ answer, answered svc c (some held) (handing svc.toService c cache now) (svc.submitMessage c ⟨cache, ledger⟩).1 =
          .done c (some held) (some now) answer) ∨
      (¬(∃ command, HandsOver svc.toService c cache command) ∧ Fails svc c cache ∧
        ∃ answer, answered svc c (some held) (handing svc.toService c cache now) (svc.submitMessage c ⟨cache, ledger⟩).1 =
          .done c (some held) none answer) := by
  unfold answered
  dsimp only
  by_cases hunsent : GatedService.unsent (svc.submitMessage c ⟨cache, ledger⟩).1 = true
  · obtain ⟨hnone, hfine⟩ := unsent_spec hunsent
    exact .inl ⟨hnone, hfine, _, if_pos hunsent⟩
  · rw [if_neg hunsent]
    rcases handing_eq svc c cache now with ⟨hhanding, hnone⟩ | ⟨hhanding, hhands⟩
    · have hfails := (sent_spec hunsent).resolve_left hnone
      rw [hhanding]
      exact .inr (.inr ⟨hnone, hfails, _, rfl⟩)
    · rw [hhanding]
      exact .inr (.inl ⟨hhands, not_fails_of_handsOver hhands, _, rfl⟩)

end Events

end Middleware.Production

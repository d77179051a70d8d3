/-
One event per delivery: from the moment a replay key is claimed and as long as the claim is kept, the deliveries under the
key emit at most one event whatever else is delivered in between, a changed body is refused, and a delivery that failed
before its event may be tried again.

A delivery is first brought to one equation, `step`; after that only the claim under its own key is looked at.
-/
import Middleware.Connector.Loading
import Middleware.Connector.Webhooks

namespace Middleware.Connector

open Lib

variable {c : ReplayClaim}

namespace ReplayStore

variable (s : ReplayStore)

theorem set_set (k : String) (c c' : ReplayClaim) : (s.set k c).set k c' = s.set k c' := by
  funext k'
  by_cases hk : k' = k <;> simp [set, hk]

@[simp] theorem set_self (k : String) (c : ReplayClaim) : s.set k c k = some c := by simp [set]

theorem set_ne {k k' : String} (c : ReplayClaim) (h : k' ≠ k) : s.set k c k' = s k' := by simp [set, h]

theorem purge_congr {s s' : ReplayStore} {k : String} (now : Int) (h : s k = s' k) : s.purge now k = s'.purge now k := by
  rw [purge, purge, h]

theorem purge_live {s : ReplayStore} {k : String} {now : Int} (h : s k = some c)
    (hlive : now < c.expiresAt) : s.purge now k = some c := by
  simp [purge, h, Option.filter, hlive]

end ReplayStore

/-! ## One delivery -/

namespace Delivery

/-- What the delivery makes of a request that is to be processed. -/
def answer (d : Delivery) (verified : VerifiedWebhook) : Except WebhookError CloudEventEnvelope :=
  d.connector >>= fun c => d.normalize c.1 c.2 verified

def conflict : WebhookError := .verification "webhook event ID was reused with a different body"

def emitted (verified : VerifiedWebhook) (cloudEvent : CloudEventEnvelope) : WebhookProcessResult :=
  { decision := verified.replayDecision, verified := verified, cloudEvent := some cloudEvent }

/-- A delivery by the claim it finds under its key. -/
def step (d : Delivery) (s : ReplayStore) : Except WebhookError WebhookProcessResult × ReplayStore :=
  match d.authenticate with
  | .error e => (.error e, s)
  | .ok (v, ttl) =>
    let live := s.purge d.env.now
    match live v.replayKey with
    | none =>
      match d.answer (v.decided .new) with
      | .error e => (.error e, live.set v.replayKey ⟨v.bodySha256, d.env.now + ttl, false⟩)
      | .ok event =>
        (.ok (emitted (v.decided .new) event), live.set v.replayKey ⟨v.bodySha256, d.env.now + ttl, true⟩)
    | some prior =>
      if prior.bodySha256 ≠ v.bodySha256 then (.error conflict, live)
      else if prior.completed then
        match d.connector with
        | .error e => (.error e, live)
        | .ok _ =>
          (.ok { decision := .exactReplay, verified := v.decided .exactReplay, cloudEvent := none }, live)
      else
        match d.answer (v.decided .exactReplay) with
        | .error e => (.error e, live)
        | .ok event =>
          (.ok (emitted (v.decided .exactReplay) event), live.set v.replayKey { prior with completed := true })

section Equations

variable {s : ReplayStore} {k digest : String}

theorem invoke_claim (now ttl : Int) : invoke (claim now k digest ttl) s =
    match s.purge now k with
    | some prior => (.ok (if prior.bodySha256 = digest then .exactReplay else .semanticConflict), s.purge now)
    | none => (.ok .new, (s.purge now).set k ⟨digest, now + ttl, false⟩) := by
  simp only [claim, invoke_bind, invoke_modify, invoke_get]
  cases h : s.purge now k <;> rfl

theorem invoke_isCompleted : invoke (isCompleted k digest) s =
    (.ok (match s k with
      | some prior => prior.bodySha256 == digest && prior.completed
      | none => false), s) := rfl

theorem invoke_complete (h : s k = some c) (hd : c.bodySha256 = digest) :
    invoke (complete k digest) s = (.ok PUnit.unit, s.set k { c with completed := true }) := by
  simp [complete, invoke_bind, h, hd]

variable (d : Delivery) (v : VerifiedWebhook)

theorem invoke_emit (h : s v.replayKey = some c)
    (hd : c.bodySha256 = v.bodySha256) (record : RegisteredConnector)
    (adapter : VerifiedWebhook → Except WebhookError NormalizedWebhookEvent) :
    invoke (d.emit record adapter v) s =
      match d.normalize record adapter v with
      | .error e => (.error e, s)
      | .ok event => (.ok (emitted v event), s.set v.replayKey { c with completed := true }) := by
  rw [emit, invoke_bind, invoke_lift]
  cases d.normalize record adapter v with
  | error e => rfl
  | ok event =>
    simp only [invoke_bind, invoke_complete h hd]
    rfl

theorem answer_eq : d.answer v =
    match d.connector with
    | .error e => .error e
    | .ok c => d.normalize c.1 c.2 v := by
  rw [answer]
  cases d.connector <;> rfl

theorem invoke_process : invoke d.process s = d.step s := by
  unfold process verify step
  rw [invoke_bind, invoke_bind, invoke_lift]
  cases ha : d.authenticate with
  | error e => rfl
  | ok p =>
    obtain ⟨v, ttl⟩ := p
    simp only [invoke_bind, invoke_claim]
    cases hk : s.purge d.env.now v.replayKey with
    | none =>
      simp only [reduceCtorEq, if_false, invoke_pure, invoke_lift, answer_eq]
      cases d.connector with
      | error e => rfl
      | ok c =>
        simp only [VerifiedWebhook.decided_decision, reduceCtorEq, if_false, invoke_bind, invoke_pure, Bool.false_eq_true]
        refine (invoke_emit d (v.decided .new) (ReplayStore.set_self _ _ ⟨v.bodySha256, d.env.now + ttl, false⟩) rfl
          c.1 c.2).trans ?_
        simp only [VerifiedWebhook.decided_key, ReplayStore.set_set]
    | some prior =>
      obtain ⟨digest, expiresAt, completed⟩ := prior
      by_cases hd : digest = v.bodySha256
      · subst hd
        simp only [if_true, reduceCtorEq, if_false, invoke_pure, invoke_lift, answer_eq, ne_eq, not_true_eq_false]
        cases d.connector with
        | error e => simp
        | ok c =>
          simp only [VerifiedWebhook.decided_decision, if_true, invoke_bind, invoke_isCompleted,
            VerifiedWebhook.decided_key, VerifiedWebhook.decided_digest, hk, beq_self_eq_true, Bool.true_and]
          cases completed with
          | true => rfl
          | false =>
            simp only [Bool.false_eq_true, if_false]
            exact invoke_emit d (v.decided .exactReplay) hk rfl c.1 c.2
      · simp only [hd, if_false, if_true, ne_eq, not_false_eq_true]
        rfl

end Equations

/-! ## The claim under one key -/

/-- The key of a delivery that passes the verification. -/
def key (d : Delivery) : Option String := d.authenticate.toOption.map (·.1.replayKey)

/-- Whether a reply carries an event of the key. -/
def emits (k : String) : Except WebhookError WebhookProcessResult → Bool
  | .ok r => r.verified.replayKey == k && r.cloudEvent.isSome
  | .error _ => false

section Claim

variable {d : Delivery} {s s' : ReplayStore} {k : String} {v : VerifiedWebhook} {ttl : Int}

theorem key_some (h : d.authenticate = .ok (v, ttl)) : d.key = some v.replayKey := by
  rw [key, h]
  rfl

/-- A delivery under another key, or under none, only drops the claim when it has expired. -/
theorem step_other (h : d.key ≠ some k) : (d.step s).2 k = s k ∨ (d.step s).2 k = s.purge d.env.now k := by
  unfold step
  cases ha : d.authenticate with
  | error e => exact .inl rfl
  | ok p =>
    obtain ⟨v, ttl⟩ := p
    have hne : k ≠ v.replayKey := by
      rintro rfl
      exact h (key_some ha)
    right
    dsimp only
    split
    · split <;> exact ReplayStore.set_ne _ _ hne
    · split
      · rfl
      · split
        · split <;> rfl
        · split
          · rfl
          · exact ReplayStore.set_ne _ _ hne

theorem emits_other (h : d.key ≠ some k) : emits k (d.step s).1 = false := by
  unfold step
  cases ha : d.authenticate with
  | error e => rfl
  | ok p =>
    obtain ⟨v, ttl⟩ := p
    have hne : (v.replayKey == k) = false := by
      rw [beq_eq_false_iff_ne]
      rintro rfl
      exact h (key_some ha)
    dsimp only
    split
    · split <;> simp [emits, emitted, hne]
    · split
      · rfl
      · split
        · split <;> simp [emits]
        · split <;> simp [emits, emitted, hne]

/-- The reply of a delivery, and the claim it leaves, depend on the claim it finds. -/
theorem step_congr (h : d.key = some k) (hs : s k = s' k) :
    (d.step s).1 = (d.step s').1 ∧ (d.step s).2 k = (d.step s').2 k := by
  unfold step
  cases ha : d.authenticate with
  | error e => simp [key, ha, Except.toOption] at h
  | ok p =>
    obtain ⟨v, ttl⟩ := p
    rw [key_some ha] at h
    obtain rfl := Option.some.inj h
    have hp := ReplayStore.purge_congr d.env.now hs
    dsimp only
    rw [← hp]
    cases s.purge d.env.now v.replayKey with
    | none =>
      cases d.answer (v.decided .new) <;> simp
    | some prior =>
      dsimp only
      split
      · exact ⟨rfl, hp⟩
      · split
        · cases d.connector <;> exact ⟨rfl, hp⟩
        · cases d.answer (v.decided .exactReplay) <;> simp [hp]

theorem step_claims (h : d.authenticate = .ok (v, ttl))
    (hnew : s.purge d.env.now v.replayKey = none) :
    (d.step s).2 v.replayKey = some ⟨v.bodySha256, d.env.now + ttl, emits v.replayKey (d.step s).1⟩ := by
  simp only [step, h, hnew]
  cases d.answer (v.decided .new) <;> simp [emits, emitted]

/-- A delivery under a live claim: a changed body is refused, a completed claim answers without an event, and otherwise
the delivery answers for itself. -/
theorem step_live (h : d.authenticate = .ok (v, ttl))
    (hs : s v.replayKey = some c) (hlive : d.env.now < c.expiresAt) :
    (v.bodySha256 ≠ c.bodySha256 → (d.step s).1 = .error conflict) ∧
    (v.bodySha256 = c.bodySha256 → c.completed = false →
      (d.step s).1 = (d.answer (v.decided .exactReplay)).map (emitted (v.decided .exactReplay))) ∧
    (c.completed = true → emits v.replayKey (d.step s).1 = false) ∧
    (d.step s).2 v.replayKey = some { c with completed := c.completed || emits v.replayKey (d.step s).1 } := by
  have hp := ReplayStore.purge_live hs hlive
  obtain ⟨digest, expiresAt, completed⟩ := c
  simp only [step, h, hp]
  by_cases hd : digest = v.bodySha256
  · subst hd
    cases completed with
    | true =>
      simp only [ne_eq, not_true_eq_false, if_false, if_true]
      cases d.connector <;> simp [emits, hp]
    | false =>
      simp only [ne_eq, not_true_eq_false, if_false, Bool.false_eq_true]
      cases d.answer (v.decided .exactReplay) <;> simp [emits, emitted, hp, Except.map]
  · have hd' : ¬v.bodySha256 = digest := fun he => hd he.symm
    simp [hd, hd', emits, hp]

/-- Under a live claim every delivery leaves the claim, completed if an event went out; a completed one lets none out. -/
theorem step_keeps (hs : s k = some c) (hlive : d.env.now < c.expiresAt) :
    (d.step s).2 k = some { c with completed := c.completed || emits k (d.step s).1 } ∧
      (c.completed = true → emits k (d.step s).1 = false) := by
  by_cases hk : d.key = some k
  · cases ha : d.authenticate with
    | error e => simp [key, ha, Except.toOption] at hk
    | ok p =>
      obtain ⟨v, ttl⟩ := p
      rw [key_some ha] at hk
      obtain rfl := Option.some.inj hk
      obtain ⟨-, -, hdone, hkeep⟩ := step_live ha hs hlive
      exact ⟨hkeep, hdone⟩
  · rw [emits_other hk, Bool.or_false]
    refine ⟨?_, fun _ => rfl⟩
    rcases step_other (s := s) hk with h | h
    · rw [h, hs]
    · rw [h, ReplayStore.purge_live hs hlive]

end Claim

/-! ## Deliveries in any order -/

def run : List Delivery → ReplayStore → List (Delivery × Except WebhookError WebhookProcessResult)
  | [], _ => []
  | d :: rest, s => (d, (invoke d.process s).1) :: run rest (invoke d.process s).2

def after : List Delivery → ReplayStore → ReplayStore
  | [], s => s
  | d :: rest, s => after rest (invoke d.process s).2

section Runs

variable {s s' : ReplayStore} {k : String} {ds : List Delivery}

def events (k : String) (replies : List (Delivery × Except WebhookError WebhookProcessResult)) : Nat :=
  replies.countP fun r => emits k r.2

/-- As long as a claim is kept: it stands, completed once an event went out, and no second event goes out. -/
theorem run_keeps (hs : s k = some c) (hlive : ∀ d ∈ ds, d.env.now < c.expiresAt) :
    after ds s k = some { c with completed := c.completed || decide (events k (run ds s) ≠ 0) } ∧
      events k (run ds s) ≤ (if c.completed then 0 else 1) := by
  induction ds generalizing s c with
  | nil => simp [after, run, events, hs]
  | cons d rest ih =>
    obtain ⟨hkeep, hdone⟩ := step_keeps hs (hlive d (by simp))
    rw [← invoke_process] at hkeep hdone
    obtain ⟨hafter, hcount⟩ := ih hkeep fun d hd => hlive d (by simp [hd])
    have hevents : events k (run (d :: rest) s) =
        (if emits k (invoke d.process s).1 then 1 else 0) + events k (run rest (invoke d.process s).2) := by
      rw [run, events, List.countP_cons, events, Nat.add_comm]
    rw [after, hafter, hevents]
    cases hc : c.completed with
    | true =>
      have he := hdone hc
      simp only [hc, he, Bool.or_false, if_true] at hcount ⊢
      simp [hcount]
    | false =>
      cases he : emits k (invoke d.process s).1 with
      | true =>
        simp only [hc, he, Bool.or_true, if_true] at hcount
        simp [hcount]
      | false =>
        simp only [hc, he, Bool.or_false, Bool.false_eq_true, if_false] at hcount
        simpa [hc] using hcount

theorem run_filter (hs : s k = some c) (hs' : s' k = some c)
    (hlive : ∀ d ∈ ds, d.env.now < c.expiresAt) :
    (run ds s).filter (fun r => decide (r.1.key = some k)) = run (ds.filter fun d => decide (d.key = some k)) s' := by
  induction ds generalizing s s' c with
  | nil => rfl
  | cons d rest ih =>
    obtain ⟨hkeep, -⟩ := step_keeps hs (hlive d (by simp))
    have hlive' : ∀ d ∈ rest, d.env.now < c.expiresAt := fun d hd => hlive d (by simp [hd])
    rw [run]
    by_cases hk : d.key = some k
    · obtain ⟨hreply, hclaim⟩ := step_congr hk (hs.trans hs'.symm)
      rw [List.filter_cons_of_pos (by simpa using hk), List.filter_cons_of_pos (by simpa using hk), run]
      rw [invoke_process, invoke_process, hreply, ih hkeep (hclaim ▸ hkeep) hlive']
    · rw [List.filter_cons_of_neg (by simpa using hk), List.filter_cons_of_neg (by simpa using hk)]
      rw [emits_other hk, Bool.or_false] at hkeep
      rw [invoke_process, ih hkeep hs' hlive']

end Runs

/-- As long as the claim of a first delivery is kept, whatever is delivered after it: the deliveries under its key emit at
most one event; one with a changed body is refused; one with the same body, as long as no event went out, answers for
itself; and all of them are answered as if the deliveries under other keys had not happened. -/
theorem at_most_one_event {s : ReplayStore} {first : Delivery} {rest : List Delivery} {v : VerifiedWebhook} {ttl : Int}
    (hfirst : first.authenticate = .ok (v, ttl)) (hnew : s.purge first.env.now v.replayKey = none)
    (hwindow : ∀ d ∈ rest, d.env.now < first.env.now + ttl) :
    events v.replayKey (run (first :: rest) s) ≤ 1 ∧
    (∀ pre d post v' ttl', rest = pre ++ d :: post → d.authenticate = .ok (v', ttl') → v'.replayKey = v.replayKey →
      (v'.bodySha256 ≠ v.bodySha256 → (invoke d.process (after (first :: pre) s)).1 = .error conflict) ∧
      (v'.bodySha256 = v.bodySha256 → events v.replayKey (run (first :: pre) s) = 0 →
        (invoke d.process (after (first :: pre) s)).1 =
          (d.answer (v'.decided .exactReplay)).map (emitted (v'.decided .exactReplay)))) ∧
    (run (first :: rest) s).filter (fun r => decide (r.1.key = some v.replayKey)) =
      run ((first :: rest).filter fun d => decide (d.key = some v.replayKey)) s := by
  have hclaim := step_claims hfirst hnew
  rw [← invoke_process] at hclaim
  have hevents : ∀ ds, events v.replayKey (run (first :: ds) s) =
      (if emits v.replayKey (invoke first.process s).1 then 1 else 0) +
        events v.replayKey (run ds (invoke first.process s).2) := by
    intro ds
    rw [run, events, List.countP_cons, events, Nat.add_comm]
  refine ⟨?_, ?_, ?_⟩
  · obtain ⟨-, hcount⟩ := run_keeps hclaim hwindow
    rw [hevents]
    dsimp only at hcount
    split at hcount <;> simp_all
  · intro pre d post v' ttl' hrest hd hkey
    have hpre : ∀ d ∈ pre, d.env.now < first.env.now + ttl := fun d hd => hwindow d (by simp [hrest, hd])
    obtain ⟨hstands, -⟩ := run_keeps hclaim hpre
    have hlive : d.env.now < first.env.now + ttl := hwindow d (by simp [hrest])
    rw [after, invoke_process d]
    rw [← hkey] at hstands
    obtain ⟨hchanged, hretry, -, -⟩ := step_live hd hstands hlive
    refine ⟨hchanged, fun hsame hnone => hretry hsame ?_⟩
    rw [hevents] at hnone
    rw [hkey]
    -- no event so far: neither the first delivery's nor a later one
    cases he : emits v.replayKey (invoke first.process s).1 with
    | true => simp [he] at hnone
    | false =>
      simp only [he, Bool.false_eq_true, if_false, Nat.zero_add] at hnone
      simp [hnone]
  · rw [run, List.filter_cons_of_pos (by simpa using key_some hfirst),
      List.filter_cons_of_pos (by simpa using key_some hfirst), run]
    rw [run_filter hclaim hclaim hwindow]

def activeRegistry : ConnectorRegistry :=
  runCalls (fun _ => [])
    [.registerManifest (sampleManifest "sms" "sms." "/v1/webhooks/sms") .declared false,
      .setState "sms" .declared .validated, .setState "sms" .validated .installedDisabled,
      .setState "sms" .installedDisabled .active]

/-- A signed delivery at an instant; the library's answers are those for this request. -/
def sampleDelivery (now : Int) : Delivery where
  env :=
    { registry := activeRegistry
      adapter := fun _ => some fun v => .ok
        { eventId := v.eventId, eventType := "sms.message.delivered.v1", externalAccountReference := "acct-1"
          correlationId := "corr-1", causationId := "evt-1", occurredAt := "2023-11-14T22:13:20Z", payload := [] }
      secrets := fun _ => .ok [List.replicate 32 107]
      tenants := fun _ _ _ => .ok "3f2504e0-4f89-41d3-9a0c-0305e82c3301"
      now := now
      library :=
        { lower := fun s => String.ofList (lower s)
          strip := id
          int := fun _ => some 1700000000
          fromisoformat := fun _ => true
          sha256 := fun _ => "44136fa355b3678a1146ad16f7e8649e94fb4fc21fe77e8310c060f61caaff8a"
          hmacSha256 := fun _ _ => "0b3b35525c10b3757ffa78df69037021fc3168d8390a51a4fcb4a8d56a25b557" } }
  connectorId := "sms"
  endpointKey := "sms-events"
  request :=
    { headers := [("X-Signature", "v1=0b3b35525c10b3757ffa78df69037021fc3168d8390a51a4fcb4a8d56a25b557"), ("X-Timestamp", "1700000000"), ("X-Event-Id", "evt-1")]
      body := [123, 125]
      receivedAtEpoch := 1700000001 }

def sampleVerified : VerifiedWebhook where
  connectorId := "sms"
  endpointKey := "sms-events"
  eventId := "evt-1"
  bodySha256 := "44136fa355b3678a1146ad16f7e8649e94fb4fc21fe77e8310c060f61caaff8a"
  timestampEpoch := 1700000000
  replayKey := "sms:sms-events:evt-1"
  signatureVersion := "v1"
  replayDecision := .new
  body := [123, 125]
  headers :=
    [("x-signature", "v1=0b3b35525c10b3757ffa78df69037021fc3168d8390a51a4fcb4a8d56a25b557"), ("x-timestamp", "1700000000"), ("x-event-id", "evt-1")]

/-- The delivery emits its event; with the same delivery again a minute later, that is the only one. -/
theorem redelivery_emits_once : emits "sms:sms-events:evt-1"
    (invoke (sampleDelivery 1700000001).process fun _ => none).1 = true ∧
    events "sms:sms-events:evt-1" (run [sampleDelivery 1700000001, sampleDelivery 1700000061] fun _ => none) ≤ 1 := by
  have hfirst : (sampleDelivery 1700000001).authenticate = .ok (sampleVerified, 604800) := by decide +kernel
  have hwindow : ∀ d ∈ [sampleDelivery 1700000061], d.env.now < (sampleDelivery 1700000001).env.now + 604800 := by
    simp [sampleDelivery]
  have hprocess : emits "sms:sms-events:evt-1" (invoke (sampleDelivery 1700000001).process fun _ => none).1 = true := by
    unfold process verify
    rw [hfirst]
    decide +kernel
  exact ⟨hprocess, (at_most_one_event hfirst rfl hwindow).1⟩

end Delivery

end Middleware.Connector

/-
The event store of the lead automation over whole runs. An event and an idempotency entry have two different keys and
`receive` looks only at the second, so a stored event is kept exactly as long as no payload that is new under its
idempotency key names it again, and no payload raises between the storing of its event and its entry.
-/
import Middleware.Lead.Effects
import Middleware.Data.Canonical
import Middleware.Lib.Runs

namespace Middleware.Lead

open Lib LeadAutomationService

/-- The state after the calls of a run. -/
abbrev after (lib : Library) (calls : List Call) : LeadAutomationService := runFrom (call lib) {} calls

/-- The same event, however far it has come. -/
structure Event.Same (e e' : Event) : Prop where
  automationEventId : e'.automationEventId = e.automationEventId
  payload : e'.payload = e.payload
  payloadHash : e'.payloadHash = e.payloadHash

namespace Event.Same

variable {e e' e'' : Event}

theorem refl (e : Event) : e.Same e := ⟨rfl, rfl, rfl⟩

theorem trans (h : e.Same e') (h' : e'.Same e'') : e.Same e'' :=
  ⟨h'.1.trans h.1, h'.2.trans h.2, h'.3.trans h.3⟩

theorem walk (e : Event) (steps : List (State × Json)) : e.Same (e.walk steps).2 := by
  induction steps generalizing e with
  | nil => exact refl e
  | cons step rest ih =>
    obtain ⟨target, code⟩ := step
    by_cases h : target ∈ e.state.transitions
    · rw [Event.walk_cons_of_mem h]
      have hmoved : e.Same (e.moved target code) := ⟨rfl, rfl, rfl⟩
      exact hmoved.trans (ih _)
    · rw [(Event.walk_refused h).1]
      exact refl e

theorem withAck (e : Event) (ack : Obj) (classification : Classification) : e.Same (e.withAck ack classification) := by
  have h : e.Same { e with odooAck := some ack } := ⟨rfl, rfl, rfl⟩
  exact h.trans (walk _ _)

theorem decided (payload : Obj) (id : String) (decision : Decision) :
    (evaluating payload id).Same (decided payload id decision) := walk _ _

end Event.Same

/-! ## The condition on a call -/

/-- The event is new in its scope and its policy can be looked up and evaluated. -/
structure Receivable (lib : Library) (s : LeadAutomationService) (payload : Obj) (key : ScopedKey) : Prop where
  new : s.events.get key = none
  evaluable : ∃ k, policyKey lib payload = .ok k ∧ ∀ policy, admittedPolicy s payload (s.policies.get k) = some policy →
    policy.contactEligible = true ∨ policy.requiresConsent = true → ∃ members, get payload "consent_snapshot" = .obj members

/-- The condition under which a call keeps the event store. -/
def Clean (lib : Library) (s : LeadAutomationService) : Call → Prop
  | .receive payload _ _ => ∀ idem key, Admitted lib s payload idem key → Receivable lib s payload key
  | _ => True

section Evaluation

variable {lib : Library} {s : LeadAutomationService} {payload : Obj}

theorem judge_ok {policy : Policy} : (∃ decision, judge lib policy payload = .ok decision) ↔
    (policy.contactEligible = true ∨ policy.requiresConsent = true →
      ∃ members, get payload "consent_snapshot" = .obj members) := by
  unfold judge
  by_cases hobj : ∃ members, get payload "consent_snapshot" = .obj members
  · refine iff_of_true ?_ fun _ => hobj
    obtain ⟨members, hobj⟩ := hobj
    obtain ⟨blocked, hblocked⟩ : ∃ b, contactBlocked policy (.obj members) = .ok b := by
      unfold contactBlocked
      split <;> exact ⟨_, rfl⟩
    obtain ⟨missing, hmissing⟩ : ∃ b, consentMissing lib policy (.obj members) = .ok b := by
      unfold consentMissing
      split <;> exact ⟨_, rfl⟩
    simp only [hobj, hblocked, hmissing, bind, Except.bind, pure, Except.pure]
    (repeat' split) <;> exact ⟨_, rfl⟩
  · -- without a mapping the first field that is asked for raises
    have hraises : ∀ name, consentField (get payload "consent_snapshot") name = .error .attributeError := by
      intro name
      unfold consentField
      split
      · rename_i members h
        exact absurd ⟨members, h⟩ hobj
      · rfl
    unfold contactBlocked consentMissing
    cases hcontact : policy.contactEligible with
    | true => simp [hraises, bind, Except.bind, Except.map, hobj]
    | false =>
      cases hconsent : policy.requiresConsent with
      | true => simp [hraises, bind, Except.bind, Except.map, hobj]
      | false =>
        simp only [Bool.false_eq_true, if_false, or_self, false_implies, iff_true]
        split <;> exact ⟨_, rfl⟩

/-- The policy is evaluated unless it cannot be looked up, or asks a consent snapshot that is no mapping. -/
theorem evaluate_ok : (∃ decision, evaluate lib s payload = .ok decision) ↔
    ∃ k, policyKey lib payload = .ok k ∧ ∀ policy, admittedPolicy s payload (s.policies.get k) = some policy →
      policy.contactEligible = true ∨ policy.requiresConsent = true →
      ∃ members, get payload "consent_snapshot" = .obj members := by
  unfold evaluate
  cases hk : policyKey lib payload with
  | error e => simp [bind, Except.bind]
  | ok k =>
    simp only [bind, Except.bind, Except.ok.injEq, exists_eq_left']
    cases hp : admittedPolicy s payload (s.policies.get k) with
    | none => simp [pure, Except.pure]
    | some policy =>
      rw [judge_ok]
      simp

end Evaluation

/-! ## What a call keeps -/

variable {idem : ScopedKey} {entry : String × Obj}

section Calls

variable {lib : Library} {s : LeadAutomationService} {c : Call} {key : ScopedKey} {e : Event}
variable {events : OrderedDict ScopedKey Event}

theorem Changes.same (hn : s.events.keys.Nodup) (h : Changes lib s c events)
    (he : s.events.get key = some e) : ∃ e', events.get key = some e' ∧ e.Same e' := by
  -- the event that changes is the one stored under its key
  have hset : ∀ {key' : ScopedKey} {event event' : Event}, s.events.get key' = some event → event.Same event' →
      ∃ e', (s.events.set key' event').get key = some e' ∧ e.Same e' := by
    intro key' event event' hget hsame
    rw [OrderedDict.get_set]
    by_cases hk : key = key'
    · subst hk
      rw [he] at hget
      cases hget
      exact ⟨event', if_pos rfl, hsame⟩
    · exact ⟨e, by rw [if_neg hk, he], .refl e⟩
  cases h with
  | kept => exact ⟨e, he, .refl e⟩
  | reserved eventId scope key event found => exact hset (find_get hn found) ⟨rfl, rfl, rfl⟩
  | dispatched eventId scope key event found => exact hset (find_get hn found) ⟨rfl, rfl, rfl⟩
  | acknowledged eventId scope key event found => exact hset (find_get hn found) ⟨rfl, rfl, rfl⟩
  | accepted payload scope key event h => exact hset (find_get hn h.found) ⟨rfl, rfl, rfl⟩
  | taken eventId ack scope now key event classification h => exact hset (find_get hn h.found) (.withAck event ack classification)
  | misfiled _ key event found => exact hset found ⟨rfl, rfl, rfl⟩
  | retried eventId scope attempts maximumAttempts key event found => exact hset (find_get hn found) ⟨rfl, rfl, rfl⟩
  | failed eventId scope attempts maximumAttempts key event found => exact hset (find_get hn found) ⟨rfl, rfl, rfl⟩
  | retriedFailed eventId scope attempts maximumAttempts key event found => exact hset (find_get hn found) ⟨rfl, rfl, rfl⟩

theorem Changes.keys (h : Changes lib s c events) : events.keys = s.events.keys := by
  have hset : ∀ {key : ScopedKey} {event event' : Event}, (key, event) ∈ s.events →
      (s.events.set key event').keys = s.events.keys := by
    intro key event event' hmem
    rw [OrderedDict.keys_set, if_pos (OrderedDict.mem_keys_of_mem hmem)]
  cases h with
  | kept => rfl
  | reserved eventId scope key event found => exact hset (find_mem found)
  | dispatched eventId scope key event found => exact hset (find_mem found)
  | acknowledged eventId scope key event found => exact hset (find_mem found)
  | accepted payload scope key event h => exact hset (find_mem h.found)
  | taken eventId ack scope now key event classification h => exact hset (find_mem h.found)
  | misfiled _ key event found => exact hset (OrderedDict.mem_of_get found)
  | retried eventId scope attempts maximumAttempts key event found => exact hset (find_mem found)
  | failed eventId scope attempts maximumAttempts key event found => exact hset (find_mem found)
  | retriedFailed eventId scope attempts maximumAttempts key event found => exact hset (find_mem found)

theorem receiveResult_idempotency (payload : Obj) (scope : TenantScope) :
    (receiveResult lib payload scope s).2.idempotency = s.idempotency := by
  unfold receiveResult acceptResult
  repeat' split
  all_goals rfl

theorem applyOdooAck_idempotency (eventId : String) (ack : Obj) (scope : TenantScope) (now : String) :
    (applyOdooAck lib eventId ack scope now s).2.idempotency = s.idempotency := by
  have htake : ∀ key event, (takeAck lib ack now key event s).2.idempotency = s.idempotency := by
    intro key event
    unfold takeAck applyPending refuseAck
    repeat' split
    all_goals rfl
  unfold applyOdooAck
  repeat' split
  all_goals first | rfl | exact htake _ _

theorem call_idempotency (c : Call) (hc : ∀ payload id now, c ≠ .receive payload id now) :
    (call lib c s).idempotency = s.idempotency := by
  have htransition : ∀ eventId scope target, (transition lib eventId scope target s).2.idempotency = s.idempotency := by
    intro eventId scope target
    unfold transition
    split <;> rfl
  cases c with
  | switch | switchAction | addPolicy | reconcile => rfl
  | receive payload id now => exact absurd rfl (hc payload id now)
  | reserveDispatch eventId scope =>
    show (reserveDispatch lib eventId scope s).2.idempotency = _
    unfold reserveDispatch
    repeat' split
    all_goals rfl
  | markDispatched eventId scope => exact htransition _ _ _
  | acknowledgeN8n eventId scope => exact htransition _ _ _
  | receiveResult payload scope => exact receiveResult_idempotency payload scope
  | applyOdooAck eventId ack scope now => exact applyOdooAck_idempotency eventId ack scope now
  | recordRetry eventId scope attempts maximumAttempts =>
    show (recordRetry lib eventId scope attempts maximumAttempts s).2.idempotency = _
    unfold recordRetry
    split <;> rfl

theorem call_cases (hn : s.events.keys.Nodup) (c : Call) :
    (∃ payload id now, c = .receive payload id now) ∨
    Changes lib s c (call lib c s).events ∧ (call lib c s).idempotency = s.idempotency := by
  by_cases hc : ∃ payload id now, c = .receive payload id now
  · exact .inl hc
  · have hne : ∀ payload id now, c ≠ .receive payload id now := fun payload id now h => hc ⟨payload, id, now, h⟩
    exact .inr ⟨call_changes hn c hne, call_idempotency c hne⟩

theorem call_keys (hn : s.events.keys.Nodup) (c : Call) : (call lib c s).events.keys.Nodup := by
  rcases call_cases hn c with ⟨payload, id, now, rfl⟩ | ⟨h, -⟩
  · show (receive lib payload id now s).2.events.keys.Nodup
    have hreceives := receive_receives lib s payload id now
    generalize receive lib payload id now s = x at hreceives ⊢
    cases hreceives with
    | refused => exact hn
    | replayed => exact hn
    | raised => exact OrderedDict.nodup_keys_set hn
    | decided => exact OrderedDict.nodup_keys_set hn
  · rw [h.keys]
    exact hn

theorem call_entry (hn : s.events.keys.Nodup) (c : Call)
    (h : s.idempotency.get idem = some entry) : (call lib c s).idempotency.get idem = some entry := by
  rcases call_cases hn c with ⟨payload, id, now, rfl⟩ | ⟨-, hidem⟩
  · show (receive lib payload id now s).2.idempotency.get idem = some entry
    have hreceives := receive_receives lib s payload id now
    generalize receive lib payload id now s = x at hreceives ⊢
    cases hreceives with
    | refused => exact h
    | replayed => exact h
    | raised => exact h
    | decided idem' key decision admitted =>
      have hne : idem ≠ idem' := by
        rintro rfl
        rw [admitted.new] at h
        cases h
      exact (OrderedDict.get_set_ne hne).trans h
  · rw [hidem]
    exact h

theorem call_same (hn : s.events.keys.Nodup) (hc : Clean lib s c) (he : s.events.get key = some e) :
    ∃ e', (call lib c s).events.get key = some e' ∧ e.Same e' := by
  rcases call_cases hn c with ⟨payload, id, now, rfl⟩ | ⟨h, -⟩
  · show ∃ e', (receive lib payload id now s).2.events.get key = some e' ∧ e.Same e'
    have hset : ∀ idem key' event, Admitted lib s payload idem key' → (s.events.set key' event).get key = some e := by
      intro idem key' event admitted
      have hne : key ≠ key' := by
        rintro rfl
        rw [(hc idem key admitted).new] at he
        cases he
      rw [OrderedDict.get_set_ne hne, he]
    have hreceives := receive_receives lib s payload id now
    generalize receive lib payload id now s = x at hreceives ⊢
    cases hreceives with
    | refused => exact ⟨e, he, .refl e⟩
    | replayed => exact ⟨e, he, .refl e⟩
    | raised idem key' _ admitted => exact ⟨e, hset idem key' _ admitted, .refl e⟩
    | decided idem key' _ admitted => exact ⟨e, hset idem key' _ admitted, .refl e⟩
  · exact h.same hn he

end Calls

/-! ## Runs -/

def draws (calls : List Call) : List String :=
  calls.filterMap fun
    | .receive _ id _ => some id
    | _ => none

/-- The canonical texts of the payloads received in a run. -/
def texts (calls : List Call) : Set String :=
  {t | ∃ payload id now, .receive payload id now ∈ calls ∧ t = dumps true (.obj payload)}

/-- No id is drawn twice, the payloads are JSON objects, and SHA-256 does not collide on their texts. -/
structure Wellformed (calls : List Call) : Prop where
  fresh : (draws calls).Nodup
  json : ∀ payload id now, .receive payload id now ∈ calls →
    (Json.obj payload).valid = true ∧ (payload.map Prod.fst).Nodup
  collisionFree : Set.InjOn Sha256.hexdigest (texts calls)

/-- What the stored events and entries of a run come from. -/
structure Recorded (lib : Library) (calls : List Call) (s : LeadAutomationService) : Prop where
  keys : s.events.keys.Nodup
  drawn : ∀ key e, s.events.get key = some e → ∃ payload id now, .receive payload id now ∈ calls ∧
    e.Same (evaluating payload id) ∧ eventKey lib payload = some key
  entries : ∀ idem digest response, s.idempotency.get idem = some (digest, response) →
    ∃ done payload id now rest key decision, calls = done ++ Call.receive payload id now :: rest ∧
      Admitted lib (after lib done) payload idem key ∧ evaluate lib (after lib done) payload = .ok decision ∧
      digest = canonicalHash payload ∧ response = status (decided payload id decision) now

section Runs

variable {lib : Library} {calls : List Call}

theorem recorded (lib : Library) (calls : List Call) : Recorded lib calls (after lib calls) := by
  induction calls using List.reverseRecOn with
  | nil => exact ⟨List.nodup_nil, fun _ _ h => (by cases h), fun _ _ _ h => (by cases h)⟩
  | append_singleton before c ih =>
    unfold after at ih ⊢
    rw [runFrom_concat]
    obtain ⟨hkeys, hdrawn, hentries⟩ := ih
    have hdrawn' : ∀ key e, (runFrom (call lib) {} before).events.get key = some e → ∃ payload id now,
        .receive payload id now ∈ before ++ [c] ∧ e.Same (evaluating payload id) ∧ eventKey lib payload = some key := by
      intro key e he
      obtain ⟨payload, id, now, hmem, h⟩ := hdrawn key e he
      exact ⟨payload, id, now, List.mem_append_left _ hmem, h⟩
    have hentries' : ∀ idem digest response, (runFrom (call lib) {} before).idempotency.get idem = some (digest, response) →
        ∃ done payload id now rest key decision, before ++ [c] = done ++ Call.receive payload id now :: rest ∧
          Admitted lib (after lib done) payload idem key ∧ evaluate lib (after lib done) payload = .ok decision ∧
          digest = canonicalHash payload ∧ response = status (decided payload id decision) now := by
      intro idem digest response h
      obtain ⟨done, payload, id, now, rest, key, decision, hcalls, h⟩ := hentries idem digest response h
      exact ⟨done, payload, id, now, rest ++ [c], key, decision, by rw [hcalls]; simp, h⟩
    refine ⟨call_keys hkeys c, fun key e he => ?_, fun idem digest response h => ?_⟩
    · rcases call_cases hkeys c with ⟨payload, id, now, rfl⟩ | ⟨h, -⟩
      · have hset : ∀ idem key' event, (evaluating payload id).Same event →
            Admitted lib (runFrom (call lib) {} before) payload idem key' →
            ((runFrom (call lib) {} before).events.set key' event).get key = some e →
            ∃ payload' id' now', .receive payload' id' now' ∈ before ++ [Call.receive payload id now] ∧
              e.Same (evaluating payload' id') ∧ eventKey lib payload' = some key := by
          intro idem key' event hsame admitted hget
          rw [OrderedDict.get_set] at hget
          split at hget
          · rename_i hk
            cases hget
            refine ⟨payload, id, now, by simp, ⟨hsame.1.symm, hsame.2.symm, hsame.3.symm⟩, ?_⟩
            rw [hk]
            exact admitted.key
          · exact hdrawn' key e hget
        change (receive lib payload id now _).2.events.get key = some e at he
        have hreceives := receive_receives lib (runFrom (call lib) {} before) payload id now
        generalize receive lib payload id now (runFrom (call lib) {} before) = x at hreceives he
        cases hreceives with
        | refused => exact hdrawn' key e he
        | replayed => exact hdrawn' key e he
        | raised idem key' _ admitted => exact hset idem key' _ (.refl _) admitted he
        | decided idem key' decision admitted => exact hset idem key' _ (.decided payload id decision) admitted he
      · -- another call keeps the events it does not write, and writes the others under their own keys
        have hmem : key ∈ (runFrom (call lib) {} before).events.keys := by
          rw [← h.keys]
          exact OrderedDict.mem_keys_of_get he
        obtain ⟨old, hold⟩ := Option.ne_none_iff_exists'.1 (fun hnone => OrderedDict.get_eq_none.1 hnone hmem)
        obtain ⟨e', he', hsame⟩ := h.same hkeys hold
        rw [he] at he'
        cases he'
        obtain ⟨payload, id, now, hreceived, hfrom, hkey⟩ := hdrawn' key old hold
        exact ⟨payload, id, now, hreceived, ⟨hfrom.1.trans hsame.1.symm, hfrom.2.trans hsame.2.symm,
          hfrom.3.trans hsame.3.symm⟩, hkey⟩
    · rcases call_cases hkeys c with ⟨payload, id, now, rfl⟩ | ⟨-, hidem⟩
      · change (receive lib payload id now _).2.idempotency.get idem = _ at h
        have hreceives := receive_receives lib (runFrom (call lib) {} before) payload id now
        generalize receive lib payload id now (runFrom (call lib) {} before) = x at hreceives h
        cases hreceives with
        | refused => exact hentries' idem digest response h
        | replayed => exact hentries' idem digest response h
        | raised => exact hentries' idem digest response h
        | decided idem' key' decision admitted evaluated =>
          rw [OrderedDict.get_set] at h
          split at h
          · rename_i hk
            cases h
            rw [hk]
            exact ⟨before, payload, id, now, [], key', decision, rfl, admitted, evaluated, rfl, rfl⟩
          · exact hentries' idem digest response h
      · rw [hidem] at h
        exact hentries' idem digest response h

/-- What is stored under a condition on the calls stays, however far it comes. -/
theorem after_same {before between : List Call} (h : Always (call lib) (Clean lib) (after lib before) between)
    {key : ScopedKey} {e : Event} (he : (after lib before).events.get key = some e) :
    ∃ e', (after lib (before ++ between)).events.get key = some e' ∧ e.Same e' := by
  unfold after
  rw [runFrom_append]
  have hkept := h.invariant (I := fun s => s.events.keys.Nodup ∧ ∃ e', s.events.get key = some e' ∧ e.Same e')
    ⟨(recorded lib before).keys, e, he, .refl e⟩ fun s c hs hc => by
      obtain ⟨hn, e', he', hsame⟩ := hs
      obtain ⟨e'', he'', hsame'⟩ := call_same hn hc he'
      exact ⟨call_keys hn c, e'', he'', hsame.trans hsame'⟩
  exact hkept.2

theorem after_entry {before : List Call} (between : List Call)
    (h : (after lib before).idempotency.get idem = some entry) :
    (after lib (before ++ between)).idempotency.get idem = some entry := by
  unfold after
  rw [runFrom_append]
  have hkept : (runFrom (call lib) (after lib before) between).events.keys.Nodup ∧
      (runFrom (call lib) (after lib before) between).idempotency.get idem = some entry :=
    runFrom_invariant
      (I := fun s : LeadAutomationService => s.events.keys.Nodup ∧ s.idempotency.get idem = some entry)
      ⟨(recorded lib before).keys, h⟩ fun s c hs => ⟨call_keys hs.1 c, call_entry hs.1 c hs.2⟩
  exact hkept.2

variable {s : LeadAutomationService}

/-- A payload whose digest stands under its idempotency key is answered with the stored response. -/
theorem receive_replays {payload : Obj} {response : Obj} (id now : String)
    (hidem : idempotencyKey lib payload = some idem) (h : s.idempotency.get idem = some (canonicalHash payload, response)) :
    receive lib payload id now s = (.ok response, s) := by
  have hnew : ∀ idem' key, ¬ Admitted lib s payload idem' key := by
    intro idem' key admitted
    have := admitted.new
    rw [← Option.some.inj (hidem.symm.trans admitted.named), h] at this
    cases this
  have hreceives := receive_receives lib s payload id now
  generalize receive lib payload id now s = x at hreceives ⊢
  cases hreceives with
  | refused e rows unstored other => exact absurd rfl (other idem _ response hidem h)
  | replayed idem' response' hidem' found =>
    rw [← Option.some.inj (hidem.symm.trans hidem'), h] at found
    cases found
    rfl
  | raised idem' key _ admitted => exact absurd admitted (hnew idem' key)
  | decided idem' key _ admitted => exact absurd admitted (hnew idem' key)

theorem receive_entry {payload : Obj} {id now : String} {response : Obj}
    (h : (receive lib payload id now s).1 = .ok response) : ∃ idem, idempotencyKey lib payload = some idem ∧
      (receive lib payload id now s).2.idempotency.get idem = some (canonicalHash payload, response) := by
  have hreceives := receive_receives lib s payload id now
  generalize receive lib payload id now s = x at hreceives h ⊢
  cases hreceives with
  | refused => cases h
  | replayed idem response' hidem found =>
    cases h
    exact ⟨idem, hidem, found⟩
  | raised => cases h
  | decided idem key decision admitted =>
    cases h
    exact ⟨idem, admitted.named, OrderedDict.get_set_self⟩

end Runs

/-! ## Digests -/

section Digests

variable {lib : Library} {a b : Obj} {name : String}

theorem canonicalHash_congr (h : (Json.obj a).canon = (Json.obj b).canon) : canonicalHash a = canonicalHash b := by
  rw [canonicalHash, canonicalHash, dumps_of_canon h]

theorem key_canon {v w : Json} (h : v.canon = w.canon) : lib.key v = lib.key w := by
  cases v <;> cases w <;> simp_all [Json.canon, Library.key]

theorem canon_lookup_some (h : (Json.obj a).canon = (Json.obj b).canon) (hb : (b.map Prod.fst).Nodup) {v : Json}
    (hv : a.lookup name = some v) : ∃ w, b.lookup name = some w ∧ v.canon = w.canon := by
  obtain ⟨l₁, l₂, hl, -⟩ := List.lookup_eq_some_iff.1 hv
  obtain ⟨⟨k', w⟩, hm, hk, hc⟩ := canon_obj_mem h (show (name, v) ∈ a by rw [hl]; simp)
  subst hk
  exact ⟨w, lookup_of_mem hb hm, hc.symm⟩

theorem getText_canon (h : (Json.obj a).canon = (Json.obj b).canon) (ha : (a.map Prod.fst).Nodup)
    (hb : (b.map Prod.fst).Nodup) : lib.key (getText a name) = lib.key (getText b name) := by
  unfold getText
  cases hv : a.lookup name with
  | some v =>
    obtain ⟨w, hw, hc⟩ := canon_lookup_some h hb hv
    rw [hw]
    exact key_canon hc
  | none =>
    cases hw : b.lookup name with
    | none => rfl
    | some w =>
      obtain ⟨v, hv', -⟩ := canon_lookup_some h.symm ha hw
      rw [hv] at hv'
      cases hv'

/-- Payloads of a run with the same digest are equal up to the order of members. -/
theorem Wellformed.canon {calls : List Call} (h : Wellformed calls) {id now id' now' : String}
    (ha : .receive a id now ∈ calls) (hb : .receive b id' now' ∈ calls) (hhash : canonicalHash a = canonicalHash b) :
    (Json.obj a).canon = (Json.obj b).canon :=
  dumps_inj (h.json a id now ha).1 (h.json b id' now' hb).1
    (h.collisionFree ⟨a, id, now, ha, rfl⟩ ⟨b, id', now', hb, rfl⟩ hhash)

theorem Wellformed.eventKey {calls : List Call} (h : Wellformed calls) {id now id' now' : String}
    (ha : .receive a id now ∈ calls) (hb : .receive b id' now' ∈ calls) (hhash : canonicalHash a = canonicalHash b)
    (hidem : idempotencyKey lib a = idempotencyKey lib b) (hsome : ∃ idem, idempotencyKey lib a = some idem) :
    Lead.eventKey lib a = Lead.eventKey lib b := by
  obtain ⟨idem, ha'⟩ := hsome
  have hscope : TenantScope.fromPayload lib a = TenantScope.fromPayload lib b := by
    have hb' := hidem.symm.trans ha'
    obtain ⟨k, -, hk⟩ := Option.map_eq_some_iff.1 ha'
    obtain ⟨k', -, hk'⟩ := Option.map_eq_some_iff.1 hb'
    exact (Prod.mk.inj (hk.trans hk'.symm)).1
  rw [Lead.eventKey, Lead.eventKey, hscope,
    getText_canon (h.canon ha hb hhash) (h.json a id now ha).2 (h.json b id' now' hb).2]

end Digests

/-! ## The event store -/

/-- What the event store promises over a run. -/
structure EventStore (lib : Library) (calls : List Call) : Prop where
  /-- A stored event is never replaced or lost. -/
  kept : ∀ (before between rest : List Call),
    calls = before ++ between ++ rest → ∀ key e, (after lib before).events.get key = some e →
    ∃ e', (after lib (before ++ between)).events.get key = some e' ∧ e.Same e'
  /-- A stored event id with other content is refused. -/
  refused : ∀ (before : List Call) payload id now (rest : List Call), calls = before ++ Call.receive payload id now :: rest → ∀ key e,
    eventKey lib payload = some key → (after lib before).events.get key = some e →
    (Json.obj payload).canon ≠ (Json.obj e.payload).canon →
    ∃ error, (receive lib payload id now (after lib before)).1 = .error error
  /-- A repeat returns the first response without effect. -/
  replayed : ∀ (before : List Call) payload id now (between : List Call) payload' id' now' (rest : List Call) response,
    calls = before ++ Call.receive payload id now :: between ++ Call.receive payload' id' now' :: rest →
    (receive lib payload id now (after lib before)).1 = .ok response →
    idempotencyKey lib payload' = idempotencyKey lib payload → (Json.obj payload').canon = (Json.obj payload).canon →
    receive lib payload' id' now' (after lib (before ++ Call.receive payload id now :: between)) =
      (.ok response, after lib (before ++ Call.receive payload id now :: between))
  /-- A call that raises leaves the events, the outbox, the entries and the policies. -/
  raised : ∀ (before : List Call) payload id now (rest : List Call) error, calls = before ++ Call.receive payload id now :: rest →
    (receive lib payload id now (after lib before)).1 = .error error →
    (receive lib payload id now (after lib before)).2.events = (after lib before).events ∧
    (receive lib payload id now (after lib before)).2.outbox = (after lib before).outbox ∧
    (receive lib payload id now (after lib before)).2.idempotency = (after lib before).idempotency ∧
    (receive lib payload id now (after lib before)).2.policies = (after lib before).policies

section EventStore

variable {lib : Library} {calls : List Call}

theorem after_receive (before : List Call) (payload : Obj) (id now : String) :
    after lib (before ++ [Call.receive payload id now]) = (receive lib payload id now (after lib before)).2 := runFrom_concat

/-- A run whose calls meet the condition keeps the event store. -/
theorem eventStore_of_clean (hw : Wellformed calls) (h : Always (call lib) (Clean lib) {} calls) : EventStore lib calls where
  kept before between rest hcalls key e he := by
    rw [hcalls] at h
    exact after_same (always_append.1 (always_append.1 h).1).2 he
  refused before payload id now rest hcalls key e hkey he hother := by
    have hclean : Clean lib (after lib before) (.receive payload id now) := always_iff.1 h before _ rest hcalls
    have hadmitted : ∀ idem key', ¬ Admitted lib (after lib before) payload idem key' := by
      intro idem key' admitted
      have hnew := (hclean idem key' admitted).new
      rw [← Option.some.inj (hkey.symm.trans admitted.key), he] at hnew
      cases hnew
    have hreceives := receive_receives lib (after lib before) payload id now
    generalize receive lib payload id now (after lib before) = x at hreceives ⊢
    cases hreceives with
    | refused error => exact ⟨error, rfl⟩
    | raised idem key' _ admitted => exact absurd admitted (hadmitted idem key')
    | decided idem key' _ admitted => exact absurd admitted (hadmitted idem key')
    | replayed idem response hidem found =>
      -- the entry comes from a payload with the same digest, whose event is the one that is stored
      exfalso
      obtain ⟨done, payload₀, id₀, now₀, rest₀, key₀, decision, hbefore, hadmitted₀, hevaluated, hhash, -⟩ :=
        (recorded lib before).entries idem _ response found
      have hmem₀ : Call.receive payload₀ id₀ now₀ ∈ calls := by rw [hcalls, hbefore]; simp
      have hmem : Call.receive payload id now ∈ calls := by rw [hcalls]; simp
      have hkeys : eventKey lib payload = eventKey lib payload₀ :=
        hw.eventKey hmem hmem₀ hhash (hidem.trans hadmitted₀.named.symm) ⟨idem, hidem⟩
      have hkey₀ : key₀ = key := Option.some.inj (hadmitted₀.key.symm.trans (hkeys.symm.trans hkey))
      have hstored : (after lib (done ++ [Call.receive payload₀ id₀ now₀])).events.get key₀ = some (decided payload₀ id₀ decision) := by
        rw [after_receive]
        rcases receive_admitted id₀ now₀ hadmitted₀ with ⟨error, herror, -⟩ | ⟨decision', hdecision, -, hevents⟩
        · rw [hevaluated] at herror
          cases herror
        · rw [hevaluated] at hdecision
          cases hdecision
          rw [hevents]
          exact OrderedDict.get_set_self
      have hsplit : before = done ++ [Call.receive payload₀ id₀ now₀] ++ rest₀ := by rw [hbefore]; simp
      have halways : Always (call lib) (Clean lib) (after lib (done ++ [Call.receive payload₀ id₀ now₀])) rest₀ := by
        rw [hcalls, hsplit] at h
        exact (always_append.1 (always_append.1 h).1).2
      obtain ⟨e', he', hsame⟩ := after_same halways hstored
      rw [← hsplit, hkey₀, he] at he'
      cases he'
      have hpayload : e.payload = payload₀ := hsame.payload.trans (Event.Same.decided payload₀ id₀ decision).payload
      rw [hpayload] at hother
      exact hother (hw.canon hmem hmem₀ hhash)
  replayed before payload id now between payload' id' now' rest response hcalls hok hidem hcanon := by
    obtain ⟨idem, hidem', hentry⟩ := receive_entry hok
    rw [← after_receive] at hentry
    have hlater := after_entry between hentry
    rw [List.append_assoc, List.singleton_append, ← canonicalHash_congr hcanon] at hlater
    exact receive_replays id' now' (hidem.trans hidem') hlater
  raised before payload id now rest error hcalls herror := by
    have hclean : Clean lib (after lib before) (.receive payload id now) := always_iff.1 h before _ rest hcalls
    have hreceives := receive_receives lib (after lib before) payload id now
    generalize receive lib payload id now (after lib before) = x at hreceives herror ⊢
    cases hreceives with
    | refused => exact ⟨rfl, rfl, rfl, rfl⟩
    | replayed => exact ⟨rfl, rfl, rfl, rfl⟩
    | raised idem key _ admitted evaluated =>
      obtain ⟨decision, hdecision⟩ := evaluate_ok.2 (hclean idem key admitted).evaluable
      rw [hdecision] at evaluated
      cases evaluated
    | decided => cases herror

theorem draws_append (calls more : List Call) : draws (calls ++ more) = draws calls ++ draws more := by
  simp [draws, List.filterMap_append]

theorem fresh_id {before rest : List Call} (hfresh : (draws (before ++ rest)).Nodup) {id : String} (hid : id ∈ draws rest)
    {key : ScopedKey} {e : Event} (he : (after lib before).events.get key = some e) : e.automationEventId ≠ "LAE-" ++ id := by
  obtain ⟨payload₀, id₀, now₀, hmem, hsame, -⟩ := (recorded lib before).drawn key e he
  have hdrawn : id₀ ∈ draws before := List.mem_filterMap.2 ⟨_, hmem, rfl⟩
  rw [draws_append] at hfresh
  have hne : id₀ ≠ id := (List.nodup_append.1 hfresh).2.2 id₀ hdrawn id hid
  intro heq
  have htext : "LAE-" ++ id₀ = "LAE-" ++ id := hsame.automationEventId.trans heq
  exact hne (String.append_right_inj _ |>.1 htext)

theorem clean_of_eventStore (hw : Wellformed calls) (h : EventStore lib calls) : Always (call lib) (Clean lib) {} calls := by
  rw [always_iff]
  intro before c rest hcalls
  cases c with
  | receive payload id now =>
    intro idem key admitted
    -- whatever the evaluation says, the drawn event is stored under the key
    have hstored : ∃ e, (evaluating payload id).Same e ∧
        (receive lib payload id now (after lib before)).2.events.get key = some e := by
      rcases receive_admitted id now admitted with ⟨error, -, hraised⟩ | ⟨decision, -, -, hevents⟩
      · rw [hraised]
        exact ⟨_, .refl _, OrderedDict.get_set_self⟩
      · rw [hevents]
        exact ⟨_, .decided payload id decision, OrderedDict.get_set_self⟩
    obtain ⟨new, hnew, hget⟩ := hstored
    have hnone : (after lib before).events.get key = none := by
      by_contra hsome
      obtain ⟨e, he⟩ := Option.ne_none_iff_exists'.1 hsome
      obtain ⟨e', he', hsame⟩ := h.kept before [.receive payload id now] rest (by rw [hcalls]; simp) key e he
      rw [after_receive, hget] at he'
      cases he'
      have hfresh := hw.fresh
      rw [hcalls] at hfresh
      exact fresh_id hfresh (by simp [draws]) he (hsame.automationEventId.symm.trans hnew.automationEventId)
    refine ⟨hnone, evaluate_ok.1 ?_⟩
    -- an evaluation that raises leaves the event behind
    rcases receive_admitted id now admitted with ⟨error, -, hraised⟩ | ⟨decision, hdecision, -⟩
    · have hevents := (h.raised before payload id now rest error hcalls (by rw [hraised])).1
      rw [hevents, hnone] at hget
      cases hget
    · exact ⟨decision, hdecision⟩
  | _ => trivial

/-- The event store is kept by exactly the runs in which every payload that is new under its idempotency key names a new
event, whose policy can be looked up and evaluated. -/
theorem event_store_iff (lib : Library) (calls : List Call) (hw : Wellformed calls) :
    EventStore lib calls ↔ Always (call lib) (Clean lib) {} calls :=
  ⟨clean_of_eventStore hw, eventStore_of_clean hw⟩

end EventStore

/-! ## Two payloads of one event -/

namespace Synthetic

def lib : Library where
  str _ := ""
  integral _ := none
  isUuid _ := true
  fromisoformat _ := some true

def scope : TenantScope := ⟨"test", "farming", "spring"⟩

/-- An event of a lead that asks for the creation of the lead. -/
def lead (eventId idempotencyKey : String) : Obj :=
  [("contract_version", .str "1.1"), ("event_id", .str eventId), ("idempotency_key", .str idempotencyKey),
    ("event_type", .str "lead.created"), ("environment", .str "test"), ("company_key", .str "COMPANY-1"),
    ("business_unit_key", .str "farming"), ("campaign_key", .str "spring"), ("automation_action", .str "CREATE_LEAD"),
    ("policy_version", .str "p1"), ("attributes_schema_key", .str "farming-lead-v1"), ("attributes", .obj []),
    ("consent_snapshot", .obj [])]

/-- A payload that is sent twice. -/
def repeated : List Call := [.receive (lead "e-1" "i-1") "1" "t1", .receive (lead "e-1" "i-1") "2" "t2"]

/-- The second payload names the first one's event under another idempotency key. -/
def renamed : List Call := [.receive (lead "e-1" "i-1") "1" "t1", .receive (lead "e-1" "i-2") "2" "t2"]

theorem lead_valid (eventId idempotencyKey : String) : (Json.obj (lead eventId idempotencyKey)).valid = true ∧
    ((lead eventId idempotencyKey).map Prod.fst).Nodup := ⟨rfl, by simp [lead]⟩

theorem repeated_wellformed : Wellformed repeated where
  fresh := by simp [draws, repeated]
  json payload id now h := by
    simp only [repeated, List.mem_cons, Call.receive.injEq, List.not_mem_nil, or_false] at h
    rcases h with ⟨rfl, -⟩ | ⟨rfl, -⟩ <;> exact lead_valid _ _
  collisionFree := by
    rintro t ⟨payload, id, now, h, rfl⟩ t' ⟨payload', id', now', h', rfl⟩ -
    simp only [repeated, List.mem_cons, Call.receive.injEq, List.not_mem_nil, or_false] at h h'
    rcases h with ⟨rfl, -⟩ | ⟨rfl, -⟩ <;> rcases h' with ⟨rfl, -⟩ | ⟨rfl, -⟩ <;> rfl

end Synthetic

theorem repeated_event_kept : EventStore Synthetic.lib Synthetic.repeated := by
  refine (event_store_iff Synthetic.lib Synthetic.repeated Synthetic.repeated_wellformed).2 ⟨?_, ?_, trivial⟩
  · intro idem key admitted
    exact ⟨rfl, evaluate_ok.1 ⟨.denied "DEFAULT_DENY", rfl⟩⟩
  · -- the repeat finds the entry of the first payload
    intro idem key admitted
    have hidem := Option.some.inj (admitted.named.symm.trans (show idempotencyKey Synthetic.lib
      (Synthetic.lead "e-1" "i-1") = some (Synthetic.scope, .str "i-1") from rfl))
    have hnew := admitted.new
    rw [hidem] at hnew
    cases hnew

/-- The second payload is accepted and replaces the event of the first. -/
theorem second_payload_replaces_event : ¬ EventStore Synthetic.lib Synthetic.renamed := by
  intro h
  obtain ⟨e', he', hsame⟩ := h.kept [.receive (Synthetic.lead "e-1" "i-1") "1" "t1"]
    [.receive (Synthetic.lead "e-1" "i-2") "2" "t2"] [] rfl (Synthetic.scope, .str "e-1")
    (decided (Synthetic.lead "e-1" "i-1") "1" (.denied "DEFAULT_DENY")) rfl
  have hid : ((after Synthetic.lib Synthetic.renamed).events.get (Synthetic.scope, .str "e-1")).map (·.automationEventId) =
    some "LAE-2" := by decide +kernel
  rw [show (after Synthetic.lib Synthetic.renamed).events.get (Synthetic.scope, .str "e-1") = some e' from he'] at hid
  have hsecond : e'.automationEventId = "LAE-2" := Option.some.inj hid
  rw [hsame.automationEventId] at hsecond
  exact absurd hsecond (by decide)

end Middleware.Lead

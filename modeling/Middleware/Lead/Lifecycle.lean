/-
The lifecycle of the stored events over whole runs. Every entry of an audit list comes from a checked transition, so the
list is a path of the table; the state is its last entry unless an error path has quarantined the event by assignment.
No operation takes an edge out of RETRY_PENDING except the one to FAILED_TERMINAL.
-/
import Middleware.Lead.Events

namespace Middleware.Lead

open Lib LeadAutomationService

/-! ## Paths -/

/-- A path of `TRANSITIONS` from a state. -/
def Trail : State → List State → Prop
  | _, [] => True
  | state, next :: rest => next ∈ state.transitions ∧ Trail next rest

def endOf (state : State) (path : List State) : State := path.getLastD state

namespace Event

def path (e : Event) : List State := e.audit.map Prod.fst

/-- The audit list is a path from RECEIVED whose last entry is the state. -/
structure Filed (e : Event) : Prop where
  trail : Trail .received e.path
  last : e.path.getLast? = some e.state

/-- The audit list is a path; the state is its last entry, or the event was quarantined past it. -/
structure Walked (e : Event) : Prop where
  trail : Trail .received e.path
  last : e.path.getLast? = some e.state ∨ e.path ≠ [] ∧ e.state = .quarantined

end Event

section Paths

variable {state target : State} {path : List State} {e : Event} {code : Json}

theorem trail_concat : Trail state (path ++ [target]) ↔ Trail state path ∧ target ∈ (endOf state path).transitions := by
  induction path generalizing state with
  | nil => simp [Trail, endOf]
  | cons next rest ih =>
    rw [List.cons_append, Trail, Trail, ih, and_assoc]
    cases rest with
    | nil => rfl
    | cons => rfl

/-- Where the audit list ends in a state that is not QUARANTINED, that is the event's state. -/
theorem Event.Walked.endOf (h : e.Walked) (hs : e.state ≠ .quarantined) : Lead.endOf .received e.path = e.state := by
  rcases h.last with hlast | ⟨-, hq⟩
  · rw [Lead.endOf, List.getLastD_eq_getLast?, hlast]
    rfl
  · exact absurd hq hs

theorem Event.Walked.moved (h : e.Walked) (hmem : target ∈ e.state.transitions) : (e.moved target code).Filed := by
  have hs : e.state ≠ .quarantined := by
    intro hq
    rw [hq] at hmem
    cases hmem
  have hpath : (e.moved target code).path = e.path ++ [target] := by simp [Event.path, Event.moved]
  refine ⟨?_, ?_⟩
  · rw [hpath, trail_concat, h.endOf hs]
    exact ⟨h.trail, hmem⟩
  · rw [hpath, List.getLast?_concat]
    rfl

theorem Event.Filed.walked (h : e.Filed) : e.Walked := ⟨h.trail, .inl h.last⟩

theorem Event.Walked.ne_nil (h : e.Walked) : e.path ≠ [] := by
  rcases h.last with hlast | ⟨hne, -⟩
  · intro hnil
    rw [hnil] at hlast
    cases hlast
  · exact hne

/-- The assignment of an error path keeps the path. -/
theorem Event.Walked.misfiled (h : e.Walked) : e.misfiled.Walked := ⟨h.trail, .inr ⟨h.ne_nil, rfl⟩⟩

/-- A walk whose steps are all allowed. -/
def allowedFrom : State → List State → Bool
  | _, [] => true
  | state, next :: rest => state.transitions.contains next && allowedFrom next rest

theorem Event.Walked.walk (h : e.Walked) {steps : List (State × Json)} (hne : steps ≠ [])
    (hsteps : allowedFrom e.state (steps.map Prod.fst) = true) : (e.walk steps).2.Filed := by
  induction steps generalizing e with
  | nil => exact absurd rfl hne
  | cons step rest ih =>
    obtain ⟨target, code⟩ := step
    simp only [List.map_cons, allowedFrom, Bool.and_eq_true, List.contains_eq_mem, decide_eq_true_eq] at hsteps
    rw [Event.walk_cons_of_mem hsteps.1]
    have hmoved : (e.moved target code).Filed := h.moved hsteps.1
    cases rest with
    | nil => exact hmoved
    | cons next rest => exact ih hmoved.walked (by simp) hsteps.2

end Paths

/-! ## The acknowledgement -/

section Acknowledgement

variable {e : Event} {ack : Obj} {classification : Classification}

/-- Where an acknowledgement leaves an event that waits for it. -/
theorem ackSteps_allowed (ack : Obj) (classification : Classification) :
    allowedFrom .odooApplyPending ((ackSteps ack classification).map Prod.fst) = true ∧ ackSteps ack classification ≠ [] := by
  unfold ackSteps
  cases classification with
  | complete => exact ⟨rfl, by simp⟩
  | retry => exact ⟨rfl, by simp⟩
  | permanent =>
    dsimp only
    split <;> exact ⟨rfl, by simp⟩

theorem withAck_state (h : e.state = .odooApplyPending) :
    (classification = .complete ∧ (e.withAck ack classification).state = .completed) ∨
    (classification = .retry ∧ (e.withAck ack classification).state = .retryPending) ∨
    (classification = .permanent ∧
      (e.withAck ack classification).state ∈ [State.policyDenied, .consentBlocked, .dncBlocked, .quarantined]) := by
  unfold Event.withAck ackSteps
  cases classification with
  | complete =>
    left
    simp [Event.walk, h, State.transitions]
  | retry =>
    right; left
    simp [Event.walk, h, State.transitions]
  | permanent =>
    right; right
    dsimp only
    split <;> simp [Event.walk, h, State.transitions]

theorem withAck_filed (h : e.Walked) (hs : e.state = .odooApplyPending) : (e.withAck ack classification).Filed := by
  have hwalked : Event.Walked { e with odooAck := some ack } := ⟨h.trail, h.last⟩
  obtain ⟨hallowed, hne⟩ := ackSteps_allowed ack classification
  rw [← hs] at hallowed
  exact hwalked.walk hne hallowed

end Acknowledgement

/-! ## Audit lists -/

section Audit

variable {lib : Library} {s : LeadAutomationService} {c : Call} {key : ScopedKey} {e : Event}

theorem evaluating_filed (payload : Obj) (id : String) : (evaluating payload id).Filed := by
  have htrail : Trail .received [.schemaValidated, .policyEvaluating] := ⟨by decide, by decide, trivial⟩
  exact ⟨htrail, rfl⟩

theorem decided_filed (payload : Obj) (id : String) (decision : Decision) : (decided payload id decision).Filed := by
  refine (evaluating_filed payload id).walked.walk ?_ ?_
  · cases decision <;> simp [Decision.steps]
  · cases decision <;> rfl

/-- How one event may change: by checked transitions, or by the assignment of an error path. -/
theorem Changes.filed {events : OrderedDict ScopedKey Event} (hn : s.events.keys.Nodup) (h : Changes lib s c events)
    (hwalked : ∀ key e, s.events.get key = some e → e.Walked) (he : events.get key = some e) :
    s.events.get key = some e ∨ e.Filed ∨ ∃ old, s.events.get key = some old ∧ Misfiles lib s c key old ∧ e = old.misfiled := by
  have hset : ∀ {key' : ScopedKey} {event' : Event}, event'.Filed → (s.events.set key' event').get key = some e →
      s.events.get key = some e ∨ e.Filed ∨ ∃ old, s.events.get key = some old ∧ Misfiles lib s c key old ∧ e = old.misfiled := by
    intro key' event' hfiled hget
    rw [OrderedDict.get_set] at hget
    split at hget
    · cases hget
      exact .inr (.inl hfiled)
    · exact .inl hget
  cases h with
  | kept => exact .inl he
  | reserved eventId scope key event found pending =>
    exact hset ((hwalked _ _ (find_get hn found)).moved (by rw [pending]; decide)) he
  | dispatched eventId scope key event found reserved =>
    exact hset ((hwalked _ _ (find_get hn found)).moved (by rw [reserved]; decide)) he
  | acknowledged eventId scope key event found dispatched =>
    exact hset ((hwalked _ _ (find_get hn found)).moved (by rw [dispatched]; decide)) he
  | accepted payload scope key event h =>
    have hfiled : (event.walk resultSteps).2.Filed :=
      (hwalked _ _ (find_get hn h.found)).walk (by simp [resultSteps]) (by rw [h.acknowledged]; rfl)
    have hwalk : (event.walk resultSteps).2.path = (event.withResult payload).path ∧
        (event.walk resultSteps).2.state = (event.withResult payload).state := by
      have := h.acknowledged
      constructor <;>
        simp [resultSteps, Event.walk, this, State.transitions, Event.path, Event.withResult]
    exact hset ⟨hwalk.1 ▸ hfiled.trail, by rw [← hwalk.1, ← hwalk.2]; exact hfiled.last⟩ he
  | taken eventId ack scope now key event classification h =>
    exact hset (withAck_filed (hwalked _ _ (find_get hn h.found)) h.pending) he
  | misfiled _ key' event found h =>
    rw [OrderedDict.get_set] at he
    split at he
    · rename_i hk
      cases he
      subst hk
      exact .inr (.inr ⟨event, found, h, rfl⟩)
    · exact .inl he
  | retried eventId scope attempts maximumAttempts key event found below h =>
    exact hset ((hwalked _ _ (find_get hn found)).moved h) he
  | failed eventId scope attempts maximumAttempts key event found exhausted h =>
    exact hset ((hwalked _ _ (find_get hn found)).moved (by rw [h]; decide)) he
  | retriedFailed eventId scope attempts maximumAttempts key event found exhausted h =>
    have hmoved : (event.moved .retryPending (.str "")).Filed := (hwalked _ _ (find_get hn found)).moved h
    exact hset (hmoved.walked.moved (by simp [Event.moved, State.transitions])) he

theorem receive_filed {payload : Obj} {id now : String} (he : (receive lib payload id now s).2.events.get key = some e) :
    s.events.get key = some e ∨ (e.automationEventId = "LAE-" ++ id ∧ e.Filed) := by
  have hset : ∀ {key' : ScopedKey} {event' : Event}, event'.automationEventId = "LAE-" ++ id → event'.Filed →
      (s.events.set key' event').get key = some e →
      s.events.get key = some e ∨ (e.automationEventId = "LAE-" ++ id ∧ e.Filed) := by
    intro key' event' hid hfiled hget
    rw [OrderedDict.get_set] at hget
    split at hget
    · cases hget
      exact .inr ⟨hid, hfiled⟩
    · exact .inl hget
  have hreceives := receive_receives lib s payload id now
  generalize receive lib payload id now s = x at hreceives he
  cases hreceives with
  | refused => exact .inl he
  | replayed => exact .inl he
  | raised => exact hset rfl (evaluating_filed payload id) he
  | decided idem key decision => exact hset (Event.Same.decided payload id decision).1 (decided_filed payload id decision) he

theorem call_filed (hn : s.events.keys.Nodup) (hwalked : ∀ key e, s.events.get key = some e → e.Walked)
    (he : (call lib c s).events.get key = some e) :
    s.events.get key = some e ∨ e.Filed ∨ ∃ old, s.events.get key = some old ∧ Misfiles lib s c key old ∧ e = old.misfiled := by
  rcases call_cases hn c with ⟨payload, id, now, rfl⟩ | ⟨h, -⟩
  · rcases receive_filed he with h | ⟨-, h⟩
    · exact .inl h
    · exact .inr (.inl h)
  · exact h.filed hn hwalked he

/-- In every run the audit lists are paths, and the states are their ends or QUARANTINED. -/
theorem walked (lib : Library) (calls : List Call) (key : ScopedKey) (e : Event)
    (he : (after lib calls).events.get key = some e) : e.Walked := by
  induction calls using List.reverseRecOn generalizing key e with
  | nil => cases he
  | append_singleton before c ih =>
    unfold after at ih he
    rw [runFrom_concat] at he
    rcases call_filed (recorded lib before).keys ih he with h | h | ⟨old, hold, -, rfl⟩
    · exact ih key e h
    · exact h.walked
    · exact (ih key old hold).misfiled

end Audit

/-! ## The ids of a run -/

section Ids

variable {lib : Library} {calls before rest : List Call} {c : Call} {key key' : ScopedKey} {e e' : Event} {payload : Obj}
  {id now : String}

theorem call_stored (hcalls : calls = before ++ c :: rest) (hfresh : (draws calls).Nodup)
    (he : (after lib before).events.get key = some e) (he' : (call lib c (after lib before)).events.get key' = some e')
    (hid : e'.automationEventId = e.automationEventId) :
    (∃ payload id now, c = .receive payload id now ∧ (after lib before).events.get key' = some e') ∨
    Changes lib (after lib before) c (call lib c (after lib before)).events := by
  rcases call_cases (recorded lib before).keys c with ⟨payload, id, now, rfl⟩ | ⟨h, -⟩
  · refine .inl ⟨payload, id, now, rfl, ?_⟩
    rcases receive_filed he' with h | ⟨hnew, -⟩
    · exact h
    · rw [hcalls] at hfresh
      exact absurd (hid.symm.trans hnew) (fresh_id hfresh (by simp [draws]) he)
  · exact .inr h

end Ids

/-! ## States that are not left -/

/-- How a call other than `receive` may change the state of an event. -/
inductive Advance : State → State → Prop
  | reserved : Advance .outboxPending .dispatchReserved
  | dispatched : Advance .dispatchReserved .dispatched
  | acknowledged : Advance .dispatched .n8nAcknowledged
  | accepted : Advance .n8nAcknowledged .odooApplyPending
  | taken (target : State)
      (h : target ∈ [State.completed, .retryPending, .policyDenied, .consentBlocked, .dncBlocked, .quarantined]) :
      Advance .odooApplyPending target
  | misfiled (state : State) : Advance state .quarantined
  | retried (state : State) (h : State.retryPending ∈ state.transitions) : Advance state .retryPending
  | failed : Advance .retryPending .failedTerminal
  | retriedFailed (state : State) (h : State.retryPending ∈ state.transitions) : Advance state .failedTerminal

section States

variable {lib : Library} {s : LeadAutomationService} {c : Call} {key : ScopedKey} {e e' : Event}
  {events : OrderedDict ScopedKey Event} {state state' : State}

theorem Changes.advance (hn : s.events.keys.Nodup) (h : Changes lib s c events) (he : s.events.get key = some e)
    (he' : events.get key = some e') : e' = e ∨ Advance e.state e'.state := by
  have hset : ∀ {key' : ScopedKey} {event event' : Event}, s.events.get key' = some event →
      Advance event.state event'.state → (s.events.set key' event').get key = some e' → e' = e ∨ Advance e.state e'.state := by
    intro key' event event' hget hadvance hlookup
    rw [OrderedDict.get_set] at hlookup
    split at hlookup
    · rename_i hk
      subst hk
      rw [he] at hget
      cases hget
      cases hlookup
      exact .inr hadvance
    · rw [he] at hlookup
      cases hlookup
      exact .inl rfl
  cases h with
  | kept =>
    rw [he] at he'
    cases he'
    exact .inl rfl
  | reserved eventId scope key event found pending => exact hset (find_get hn found) (by rw [pending]; exact .reserved) he'
  | dispatched eventId scope key event found reserved =>
    exact hset (find_get hn found) (by rw [reserved]; exact .dispatched) he'
  | acknowledged eventId scope key event found dispatched =>
    exact hset (find_get hn found) (by rw [dispatched]; exact .acknowledged) he'
  | accepted payload scope key event h =>
    exact hset (find_get hn h.found) (by rw [h.acknowledged]; exact .accepted) he'
  | taken eventId ack scope now key event classification h =>
    refine hset (find_get hn h.found) ?_ he'
    rw [h.pending]
    apply Advance.taken
    rcases @withAck_state event ack classification h.pending with ⟨-, hs⟩ | ⟨-, hs⟩ | ⟨-, hs⟩
    · rw [hs]
      simp
    · rw [hs]
      simp
    · simp only [List.mem_cons, List.not_mem_nil, or_false] at hs ⊢
      exact .inr (.inr hs)
  | misfiled _ key event found => exact hset found (.misfiled _) he'
  | retried eventId scope attempts maximumAttempts key event found below h =>
    exact hset (find_get hn found) (.retried _ h) he'
  | failed eventId scope attempts maximumAttempts key event found exhausted h =>
    exact hset (find_get hn found) (by rw [h]; exact .failed) he'
  | retriedFailed eventId scope attempts maximumAttempts key event found exhausted h =>
    exact hset (find_get hn found) (.retriedFailed _ h) he'

theorem Advance.terminal (h : Advance state state') (hs : state.terminal = true) : state' = .quarantined := by
  cases h with
  | misfiled => rfl
  | retried _ h => cases state <;> simp_all [State.terminal, State.transitions]
  | retriedFailed _ h => cases state <;> simp_all [State.terminal, State.transitions]
  | _ => cases hs

/-- The states an event in RETRY_PENDING can come to. -/
def Stuck (state : State) : Prop := state = .retryPending ∨ state = .failedTerminal ∨ state = .quarantined

theorem Advance.stuck (h : Advance state state') (hs : Stuck state) : Stuck state' := by
  cases h with
  | misfiled => exact .inr (.inr rfl)
  | retried => exact .inl rfl
  | failed => exact .inr (.inl rfl)
  | retriedFailed => exact .inr (.inl rfl)
  | _ => rcases hs with hs | hs | hs <;> cases hs

end States

section Runs

variable {lib : Library} {calls before more rest : List Call} {c : Call} {key : ScopedKey} {e e' : Event}

theorem call_advance (hcalls : calls = before ++ c :: rest) (hfresh : (draws calls).Nodup)
    (he : (after lib before).events.get key = some e) (he' : (after lib (before ++ [c])).events.get key = some e')
    (hid : e'.automationEventId = e.automationEventId) : e' = e ∨ Advance e.state e'.state := by
  unfold after at he'
  rw [runFrom_concat] at he'
  rcases call_stored hcalls hfresh he he' hid with ⟨payload, id, now, -, hold⟩ | h
  · rw [he] at hold
    cases hold
    exact .inl rfl
  · exact h.advance (recorded lib before).keys he he'

theorem receive_unique (hfresh : (draws calls).Nodup) {payload payload' : Obj} {id now now' : String}
    (h : .receive payload id now ∈ calls) (h' : .receive payload' id now' ∈ calls) : payload = payload' := by
  induction calls with
  | nil => cases h
  | cons c rest ih =>
    have hcons : draws (c :: rest) = draws [c] ++ draws rest := draws_append [c] rest
    rw [hcons, List.nodup_append] at hfresh
    have hdrawn : ∀ {payload now}, Call.receive payload id now ∈ rest → id ∈ draws rest :=
      fun hmem => List.mem_filterMap.2 ⟨_, hmem, rfl⟩
    rcases List.mem_cons.1 h with rfl | hmem
    · rcases List.mem_cons.1 h' with heq | hmem'
      · exact (Call.receive.inj heq).1.symm
      · exact absurd rfl (hfresh.2.2 id (by simp [draws]) id (hdrawn hmem'))
    · rcases List.mem_cons.1 h' with rfl | hmem'
      · exact absurd rfl (hfresh.2.2 id (by simp [draws]) id (hdrawn hmem))
      · exact ih hfresh.2.1 hmem hmem'

theorem stored_unique (hfresh : (draws calls).Nodup) {key' : ScopedKey} (he : (after lib calls).events.get key = some e)
    (he' : (after lib calls).events.get key' = some e') (hid : e'.automationEventId = e.automationEventId) : key' = key := by
  obtain ⟨payload, id, now, hmem, hsame, hkey⟩ := (recorded lib calls).drawn key e he
  obtain ⟨payload', id', now', hmem', hsame', hkey'⟩ := (recorded lib calls).drawn key' e' he'
  have hid' : "LAE-" ++ id' = "LAE-" ++ id :=
    hsame'.automationEventId.trans (hid.trans hsame.automationEventId.symm)
  have hids : id' = id := String.append_right_inj _ |>.1 hid'
  subst hids
  rw [receive_unique hfresh hmem' hmem] at hkey'
  exact Option.some.inj (hkey'.symm.trans hkey)

/-- An event in RETRY_PENDING is never brought to COMPLETED. -/
theorem retryPending_stuck (hfresh : (draws (calls ++ more)).Nodup) (he : (after lib calls).events.get key = some e)
    (hs : e.state = .retryPending) {key' : ScopedKey} (he' : (after lib (calls ++ more)).events.get key' = some e')
    (hid : e'.automationEventId = e.automationEventId) : Stuck e'.state := by
  induction more using List.reverseRecOn generalizing key' e' with
  | nil =>
    rw [List.append_nil] at he' hfresh
    have hkey := stored_unique hfresh he he' hid
    subst hkey
    rw [he] at he'
    cases he'
    exact .inl hs
  | append_singleton more c ih =>
    rw [← List.append_assoc] at hfresh he'
    have hprefix : (draws (calls ++ more)).Nodup := by
      rw [draws_append] at hfresh
      exact (List.nodup_append.1 hfresh).1
    have hstored := he'
    unfold after at hstored
    rw [runFrom_concat] at hstored
    -- the event was stored before the call, since a new one has a new id
    have hold : ∃ old, (after lib (calls ++ more)).events.get key' = some old ∧ old.automationEventId = e.automationEventId := by
      rcases call_cases (recorded lib (calls ++ more)).keys c with ⟨payload, id, now, rfl⟩ | ⟨h, -⟩
      · rcases receive_filed hstored with h | ⟨hnew, -⟩
        · exact ⟨e', h, hid⟩
        · rw [List.append_assoc] at hfresh
          exact absurd (hid.symm.trans hnew) (fresh_id hfresh (by simp [draws]) he)
      · have hmem : key' ∈ (after lib (calls ++ more)).events.keys := by
          rw [← h.keys]
          exact OrderedDict.mem_keys_of_get hstored
        obtain ⟨old, hold⟩ := Option.ne_none_iff_exists'.1 (fun hnone => OrderedDict.get_eq_none.1 hnone hmem)
        obtain ⟨e'', he'', hsame⟩ := h.same (recorded lib (calls ++ more)).keys hold
        rw [hstored] at he''
        cases he''
        exact ⟨old, hold, hsame.automationEventId.symm.trans hid⟩
    obtain ⟨old, hold, hoid⟩ := hold
    have hstuck := ih hprefix hold hoid
    have hlast : calls ++ more ++ [c] = calls ++ more ++ c :: [] := rfl
    rcases call_advance hlast hfresh hold he' (hid.trans hoid.symm) with rfl | hadvance
    · exact hstuck
    · exact hadvance.stuck hstuck

end Runs

/-! ## The way to COMPLETED -/

/-- The policy of a payload allows it: it is switched on, contact is not blocked, consent is given where it is required,
and the attributes are among the allowed fields. -/
structure PolicyAllowed (lib : Library) (s : LeadAutomationService) (payload : Obj) (policy : Policy) : Prop where
  stored : ∃ key, policyKey lib payload = .ok key ∧ s.policies.get key = some policy
  enabled : policy.enabled = true ∧ policy.allow = true ∧ s.enabled = true
  switched : ∃ action, get payload "automation_action" = .str action ∧ s.actionSwitches.get action = some true
  contact : policy.contactEligible = true →
    ∃ v, consentField (get payload "consent_snapshot") "dnc_status" = .ok v ∧ v ≠ .bool true
  consent : policy.requiresConsent = true →
    ∃ v, consentField (get payload "consent_snapshot") "consent_status" = .ok v ∧ lib.same v (.str "granted") = true
  attributes : ∀ name ∈ attributeNames payload, name ∈ policy.allowedFields

/-- How a run brings an event to a state, each stage after the one before it. -/
inductive Course (lib : Library) (payload : Obj) (id : String) : State → List Call → Prop
  | allowed (before : List Call) (draw now : String) (policy : Policy) (hid : id = "LAE-" ++ draw)
      (h : PolicyAllowed lib (after lib before) payload policy) :
      Course lib payload id .outboxPending (before ++ [Call.receive payload draw now])
  | reserved (before : List Call) (eventId : String) (scope : TenantScope) (key : ScopedKey) (e : Event)
      (course : Course lib payload id .outboxPending before)
      (found : (after lib before).find lib (.str eventId) scope = some (key, e)) (hid : e.automationEventId = id)
      (pending : e.state = .outboxPending) :
      Course lib payload id .dispatchReserved (before ++ [Call.reserveDispatch eventId scope])
  | dispatched (before : List Call) (eventId : String) (scope : TenantScope) (key : ScopedKey) (e : Event)
      (course : Course lib payload id .dispatchReserved before)
      (found : (after lib before).find lib (.str eventId) scope = some (key, e)) (hid : e.automationEventId = id)
      (reserved : e.state = .dispatchReserved) :
      Course lib payload id .dispatched (before ++ [Call.markDispatched eventId scope])
  | acknowledged (before : List Call) (eventId : String) (scope : TenantScope) (key : ScopedKey) (e : Event)
      (course : Course lib payload id .dispatched before)
      (found : (after lib before).find lib (.str eventId) scope = some (key, e)) (hid : e.automationEventId = id)
      (dispatched : e.state = .dispatched) :
      Course lib payload id .n8nAcknowledged (before ++ [Call.acknowledgeN8n eventId scope])
  | validated (before : List Call) (result : Obj) (scope : TenantScope) (key : ScopedKey) (e : Event)
      (course : Course lib payload id .n8nAcknowledged before)
      (h : Accepted lib (after lib before) result scope key e) (hid : e.automationEventId = id) :
      Course lib payload id .odooApplyPending (before ++ [Call.receiveResult result scope])
  | completed (before : List Call) (eventId : String) (ack : Obj) (scope : TenantScope) (now : String) (key : ScopedKey)
      (e : Event) (course : Course lib payload id .odooApplyPending before)
      (h : Acknowledged lib (after lib before) eventId ack scope key e .complete) (hid : e.automationEventId = id) :
      Course lib payload id .completed (before ++ [Call.applyOdooAck eventId ack scope now])
  | later (state : State) (before : List Call) (c : Call) (course : Course lib payload id state before) :
      Course lib payload id state (before ++ [c])

/-- The states on the way to COMPLETED in which a call can leave an event. -/
def line : List State := [.outboxPending, .dispatchReserved, .dispatched, .n8nAcknowledged, .odooApplyPending, .completed]

section Course

variable {lib : Library} {s : LeadAutomationService} {payload : Obj}

theorem judge_allowed {policy : Policy} (h : judge lib policy payload = .ok .allowed) :
    contactBlocked policy (get payload "consent_snapshot") = .ok false ∧
    consentMissing lib policy (get payload "consent_snapshot") = .ok false ∧
    ∀ name ∈ attributeNames payload, name ∈ policy.allowedFields := by
  unfold judge at h
  simp only [bind, Except.bind, pure, Except.pure] at h
  split at h
  · cases h
  rename_i blocked hblocked
  split at h
  · cases h
  rename_i hnot
  split at h
  · cases h
  rename_i missing hmissing
  split at h
  · cases h
  rename_i hgiven
  split at h
  · cases h
  rename_i hattributes
  simp only [Bool.not_eq_true] at hnot hgiven
  simp only [Bool.not_eq_true', Bool.not_eq_false, List.all_eq_true, List.contains_eq_mem, decide_eq_true_eq] at hattributes
  exact ⟨hnot ▸ hblocked, hgiven ▸ hmissing, hattributes⟩

theorem contactBlocked_false {policy : Policy} {consent : Json} (h : contactBlocked policy consent = .ok false)
    (hc : policy.contactEligible = true) : ∃ v, consentField consent "dnc_status" = .ok v ∧ v ≠ .bool true := by
  unfold contactBlocked at h
  rw [if_pos hc] at h
  cases hv : consentField consent "dnc_status" with
  | error e =>
    rw [hv] at h
    cases h
  | ok v =>
    refine ⟨v, rfl, ?_⟩
    rintro rfl
    rw [hv] at h
    cases h

theorem consentMissing_false {policy : Policy} {consent : Json} (h : consentMissing lib policy consent = .ok false)
    (hc : policy.requiresConsent = true) :
    ∃ v, consentField consent "consent_status" = .ok v ∧ lib.same v (.str "granted") = true := by
  unfold consentMissing at h
  rw [if_pos hc] at h
  cases hv : consentField consent "consent_status" with
  | error e =>
    rw [hv] at h
    cases h
  | ok v =>
    rw [hv] at h
    simp only [Except.map, Except.ok.injEq, Bool.not_eq_false'] at h
    exact ⟨v, rfl, h⟩

theorem evaluate_allowed (h : evaluate lib s payload = .ok .allowed) : ∃ policy, PolicyAllowed lib s payload policy := by
  unfold evaluate at h
  cases hk : policyKey lib payload with
  | error e =>
    rw [hk] at h
    cases h
  | ok k =>
    rw [hk] at h
    simp only [bind, Except.bind] at h
    cases hp : admittedPolicy s payload (s.policies.get k) with
    | none =>
      rw [hp] at h
      cases h
    | some policy =>
      rw [hp] at h
      obtain ⟨hcontact, hconsent, hattributes⟩ := judge_allowed h
      obtain ⟨hget, hon⟩ := Option.filter_eq_some_iff.1 hp
      simp only [Bool.and_eq_true] at hon
      refine ⟨policy, ⟨k, hk, hget⟩, ⟨hon.1.1.1, hon.1.1.2, hon.1.2⟩, ?_,
        contactBlocked_false hcontact, consentMissing_false hconsent, hattributes⟩
      have hswitch := hon.2
      split at hswitch
      · rename_i action haction
        refine ⟨action, haction, ?_⟩
        cases hg : s.actionSwitches.get action with
        | none =>
          rw [hg] at hswitch
          cases hswitch
        | some on =>
          rw [hg] at hswitch
          exact congrArg some hswitch
      · cases hswitch

theorem Changes.course {calls : List Call} {c : Call} {events : OrderedDict ScopedKey Event} {key : ScopedKey} {e : Event}
    (h : Changes lib (after lib calls) c events)
    (ih : ∀ key e, (after lib calls).events.get key = some e → e.state ∈ line →
      Course lib e.payload e.automationEventId e.state calls)
    (he : events.get key = some e) (hline : e.state ∈ line) :
    Course lib e.payload e.automationEventId e.state (calls ++ [c]) := by
  have hn := (recorded lib calls).keys
  have hold : (after lib calls).events.get key = some e → Course lib e.payload e.automationEventId e.state (calls ++ [c]) :=
    fun hget => .later _ _ _ (ih key e hget hline)
  -- the event is the one that the call writes, or was there
  have hset : ∀ {key' : ScopedKey} {event event' : Event}, event.Same event' →
      (event'.state ∈ line → Course lib event.payload event.automationEventId event'.state (calls ++ [c])) →
      ((after lib calls).events.set key' event').get key = some e →
      Course lib e.payload e.automationEventId e.state (calls ++ [c]) := by
    intro key' event event' hsame hcourse hget
    rw [OrderedDict.get_set] at hget
    split at hget
    · cases hget
      rw [hsame.payload, hsame.automationEventId]
      exact hcourse hline
    · exact hold hget
  have hcome : ∀ {event : Event} {state : State} {eventId scope key'}, (after lib calls).find lib eventId scope = some (key', event) →
      event.state = state → state ∈ line → Course lib event.payload event.automationEventId state calls := by
    intro event state eventId scope key' hfound hstate hmem
    rw [← hstate]
    exact ih _ _ (find_get hn hfound) (hstate ▸ hmem)
  cases h with
  | kept => exact hold he
  | reserved eventId scope key' event found pending =>
    exact hset ⟨rfl, rfl, rfl⟩ (fun _ => .reserved calls eventId scope key' event
      (hcome found pending (by decide)) found rfl pending) he
  | dispatched eventId scope key' event found reserved =>
    exact hset ⟨rfl, rfl, rfl⟩ (fun _ => .dispatched calls eventId scope key' event
      (hcome found reserved (by decide)) found rfl reserved) he
  | acknowledged eventId scope key' event found dispatched =>
    exact hset ⟨rfl, rfl, rfl⟩ (fun _ => .acknowledged calls eventId scope key' event
      (hcome found dispatched (by decide)) found rfl dispatched) he
  | accepted payload scope key' event h =>
    exact hset ⟨rfl, rfl, rfl⟩ (fun _ => .validated calls payload scope key' event
      (hcome h.found h.acknowledged (by decide)) h rfl) he
  | taken eventId ack scope now key' event classification h =>
    refine hset (.withAck event ack classification) (fun hmem => ?_) he
    rcases @withAck_state event ack classification h.pending with ⟨hclass, hs⟩ | ⟨-, hs⟩ | ⟨-, hs⟩
    · subst hclass
      rw [hs]
      exact .completed calls eventId ack scope now key' event (hcome h.found h.pending (by decide)) h rfl
    · rw [hs] at hmem
      exact absurd hmem (by decide)
    · exfalso
      revert hs hmem
      generalize (event.withAck ack classification).state = state
      revert state
      decide
  | misfiled _ key' event found h =>
    exact @hset key' event event.misfiled ⟨rfl, rfl, rfl⟩
      (fun hmem => absurd (show State.quarantined ∈ line from hmem) (by decide)) he
  | retried eventId scope attempts maximumAttempts key' event found below h =>
    exact @hset key' event (event.moved .retryPending (.str "")) ⟨rfl, rfl, rfl⟩
      (fun hmem => absurd (show State.retryPending ∈ line from hmem) (by decide)) he
  | failed eventId scope attempts maximumAttempts key' event found exhausted h =>
    exact @hset key' event (event.moved .failedTerminal (.str "")) ⟨rfl, rfl, rfl⟩
      (fun hmem => absurd (show State.failedTerminal ∈ line from hmem) (by decide)) he
  | retriedFailed eventId scope attempts maximumAttempts key' event found exhausted h =>
    exact @hset key' event ((event.moved .retryPending (.str "")).moved .failedTerminal (.str "")) ⟨rfl, rfl, rfl⟩
      (fun hmem => absurd (show State.failedTerminal ∈ line from hmem) (by decide)) he

theorem decided_state (payload : Obj) (id : String) (decision : Decision) (h : (decided payload id decision).state ∈ line) :
    decision = .allowed ∧ (decided payload id decision).state = .outboxPending := by
  cases decision with
  | allowed => exact ⟨rfl, rfl⟩
  | denied code => exact absurd h (by simp [decided_eq, Decision.steps, Event.moved, line])
  | dncBlocked => exact absurd h (by simp [decided_eq, Decision.steps, Event.moved, line])
  | consentBlocked => exact absurd h (by simp [decided_eq, Decision.steps, Event.moved, line])

/-- In every run an event on the line has come through the stages before its own. -/
theorem course (lib : Library) (calls : List Call) (key : ScopedKey) (e : Event)
    (he : (after lib calls).events.get key = some e) (hline : e.state ∈ line) :
    Course lib e.payload e.automationEventId e.state calls := by
  induction calls using List.reverseRecOn generalizing key e with
  | nil => cases he
  | append_singleton before c ih =>
    unfold after at he
    rw [runFrom_concat] at he
    rcases call_cases (recorded lib before).keys c with ⟨payload, id, now, rfl⟩ | ⟨h, -⟩
    · change (receive lib payload id now (after lib before)).2.events.get key = some e at he
      have hold : (after lib before).events.get key = some e →
          Course lib e.payload e.automationEventId e.state (before ++ [Call.receive payload id now]) :=
        fun hget => .later _ _ _ (ih key e hget hline)
      have hreceives := receive_receives lib (after lib before) payload id now
      generalize receive lib payload id now (after lib before) = x at hreceives he
      cases hreceives with
      | refused => exact hold he
      | replayed => exact hold he
      | raised idem key' error admitted evaluated =>
        change (OrderedDict.set _ key' _).get key = some e at he
        rw [OrderedDict.get_set] at he
        split at he
        · cases he
          exact absurd hline (by simp [evaluating_eq, line])
        · exact hold he
      | decided idem key' decision admitted evaluated =>
        change (OrderedDict.set _ key' _).get key = some e at he
        rw [OrderedDict.get_set] at he
        split at he
        · cases he
          obtain ⟨rfl, hs⟩ := decided_state payload id decision hline
          obtain ⟨policy, hpolicy⟩ := evaluate_allowed evaluated
          exact .allowed before id now policy rfl hpolicy
        · exact hold he
    · exact h.course ih he hline

end Course

/-! ## The lifecycle -/

/-- The calls that bring an event to RETRY_PENDING below the limit of attempts. -/
inductive Retries (lib : Library) (s : LeadAutomationService) : Call → ScopedKey → Event → Prop
  | taken (eventId : String) (ack : Obj) (scope : TenantScope) (now : String) (key : ScopedKey) (event : Event)
      (h : Acknowledged lib s eventId ack scope key event .retry) :
      Retries lib s (.applyOdooAck eventId ack scope now) key event
  | recorded (eventId : String) (scope : TenantScope) (attempts maximumAttempts : Int) (key : ScopedKey) (event : Event)
      (found : s.find lib (.str eventId) scope = some (key, event)) (below : attempts < maximumAttempts)
      (h : State.retryPending ∈ event.state.transitions) :
      Retries lib s (.recordRetry eventId scope attempts maximumAttempts) key event

/-- The condition on a call: it quarantines no event by assignment, unless it is quarantined already, and leaves none in
RETRY_PENDING. -/
structure Tidy (lib : Library) (s : LeadAutomationService) (c : Call) : Prop where
  filed : ∀ key e, Misfiles lib s c key e → e.state = .quarantined
  settled : ∀ key e, ¬ Retries lib s c key e

/-- The event can still be brought to COMPLETED, by calls that draw new ids. -/
def Resumable (lib : Library) (calls : List Call) (e : Event) : Prop :=
  ∃ more, (draws (calls ++ more)).Nodup ∧ ∃ key e', (after lib (calls ++ more)).events.get key = some e' ∧
    e'.automationEventId = e.automationEventId ∧ e'.state = .completed

/-- What the lifecycle promises in every state of a run. -/
structure Lifecycle (lib : Library) (calls : List Call) : Prop where
  /-- The audit list is a path of the table whose last entry is the state. -/
  filed : ∀ before, before <+: calls → ∀ key e, (after lib before).events.get key = some e → e.Filed
  /-- QUARANTINED is not left, and the other terminal states only to QUARANTINED. -/
  absorbing : ∀ before c rest, calls = before ++ c :: rest → ∀ key e e', (after lib before).events.get key = some e →
    (after lib (before ++ [c])).events.get key = some e' → e'.automationEventId = e.automationEventId →
    e.state.terminal = true → e'.state = e.state ∨ e'.state = .quarantined
  /-- A completed event has come through policy, dispatch, acknowledgement and result, and then Odoo. -/
  completed : ∀ before, before <+: calls → ∀ key e, (after lib before).events.get key = some e → e.state = .completed →
    Course lib e.payload e.automationEventId .completed before
  /-- An event in RETRY_PENDING can still be completed. -/
  resumable : ∀ before, before <+: calls → ∀ key e, (after lib before).events.get key = some e →
    e.state = .retryPending → Resumable lib before e

section Lifecycle

variable {lib : Library} {s : LeadAutomationService} {c : Call} {calls : List Call} {key : ScopedKey} {e : Event}

theorem applyOdooAck_takes {eventId : String} {ack : Obj} {scope : TenantScope} {now : String}
    (found : s.find lib (.str eventId) scope = some (key, e)) (enabled : s.odooApplyEnabled = true)
    (takes : Takes lib ack e) : applyOdooAck lib eventId ack scope now s = takeAck lib ack now key e s := by
  unfold applyOdooAck
  cases takes with
  | first hnone => simp [found, enabled, hnone]
  | again previous stored other retry pending => simp [found, enabled, stored, other, retry, pending]

theorem Misfiles.get (hn : s.events.keys.Nodup) (h : Misfiles lib s c key e) : s.events.get key = some e := by
  cases h with
  | resultConflict payload scope key event hash hscope found => exact find_get hn found
  | resultRefused payload scope key event hscope found => exact find_get hn found
  | ackConflict eventId ack scope now key event previous classification found => exact find_get hn found
  | ackUnexpected eventId ack scope now key event found => exact find_get hn found
  | ackInvalid eventId ack scope now key event result request message found => exact find_get hn found

/-- An error path leaves the event quarantined past its audit list. -/
theorem Misfiles.events (h : Misfiles lib s c key e) : (call lib c s).events = s.events.set key e.misfiled := by
  cases h with
  | resultConflict payload scope key event hash hscope found stored other =>
    simp [call, receiveResult, hscope.symm, found, stored, other, put, LeadAutomationService.quarantined, Event.misfiled]
  | resultRefused payload scope key event hscope found first enabled checked h =>
    have hcall : (call lib (.receiveResult payload scope) s).events = (acceptResult lib payload key e s).2.events := by
      simp [call, receiveResult, hscope.symm, found, first, enabled, checked]
    rw [hcall]
    cases h with
    | unbound h => simp [acceptResult, h, put, Event.misfiled]
    | outside allowed fields hbound hallowed hfields h => simp [acceptResult, hbound, hallowed, hfields, h, put, Event.misfiled]
    | duplicate allowed fields workflow hbound hallowed hfields inside hworkflow h =>
      simp [acceptResult, hbound, hallowed, hfields, inside, hworkflow, h, put, Event.misfiled]
  | ackConflict eventId ack scope now key event previous classification found enabled stored other classified h =>
    simp [call, applyOdooAck, found, enabled, stored, other, classified, h, put, LeadAutomationService.quarantined, Event.misfiled]
  | ackUnexpected eventId ack scope now key event found enabled takes h =>
    rw [call, applyOdooAck_takes found enabled takes, takeAck]
    split
    · rfl
    · rename_i result hresult
      rw [if_pos (h.resolve_left (by rw [hresult]; simp))]
      rfl
  | ackInvalid eventId ack scope now key event result request message found enabled takes waiting pending built h =>
    rw [call, applyOdooAck_takes found enabled takes]
    simp [takeAck, applyPending, waiting, pending, built, h, put, LeadAutomationService.quarantined, Event.misfiled]

theorem Retries.events (h : Retries lib s c key e) : ∃ e', e.Same e' ∧ e'.state = .retryPending ∧
    (call lib c s).events = s.events.set key e' := by
  cases h with
  | taken eventId ack scope now key event h =>
    refine ⟨e.withAck ack .retry, .withAck e ack .retry, ?_, ?_⟩
    · rcases @withAck_state e ack .retry h.pending with ⟨hclass, -⟩ | ⟨-, hs⟩ | ⟨hclass, -⟩
      · cases hclass
      · exact hs
      · cases hclass
    · obtain ⟨result, request, hresult, hbuilt, hvalid⟩ := h.valid
      have htake : takeAck lib ack now key e s = applyPending lib ack now key e result s := by
        simp [takeAck, hresult, h.pending]
      rw [call, applyOdooAck_takes h.found h.enabled h.takes, htake, applyPending]
      simp only [hbuilt, hvalid, h.classified]
      rw [Event.withAck]
      split <;> rename_i hwalk <;> rw [hwalk] <;> rfl
  | recorded eventId scope attempts maximumAttempts key event found below h =>
    refine ⟨e.moved .retryPending (.str ""), ⟨rfl, rfl, rfl⟩, rfl, ?_⟩
    have hbelow : ¬ maximumAttempts ≤ attempts := by omega
    simp only [call, recordRetry, found, if_neg hbelow]
    rw [Event.walk_one h]
    rfl

theorem filed_of_tidy (h : Always (call lib) (Tidy lib) {} calls) (he : (after lib calls).events.get key = some e) : e.Filed := by
  have hfiled := h.induction (I := fun before s => s = after lib before ∧ ∀ key e, s.events.get key = some e → e.Filed)
    ⟨rfl, fun key e he => by cases he⟩ fun before c _ hI htidy => by
      obtain ⟨hs, hI⟩ := hI
      refine ⟨runFrom_concat.symm, fun key e he => ?_⟩
      rcases call_filed (recorded lib before).keys (walked lib before) he with h | h | ⟨old, hold, hmisfiles, rfl⟩
      · exact hI key e h
      · exact h
      · -- the event was quarantined already
        have hq := htidy.filed key old hmisfiles
        have hsame : old.misfiled = old := by
          unfold Event.misfiled
          rw [← hq]
        rw [hsame]
        exact hI key old hold
  exact hfiled.2 key e he

theorem Changes.retries {events : OrderedDict ScopedKey Event} (h : Changes lib s c events) (he : events.get key = some e)
    (hs : e.state = .retryPending) : s.events.get key = some e ∨ ∃ key old, Retries lib s c key old := by
  have hset : ∀ {key' : ScopedKey} {event' : Event}, (event'.state = .retryPending → ∃ key old, Retries lib s c key old) →
      (s.events.set key' event').get key = some e → s.events.get key = some e ∨ ∃ key old, Retries lib s c key old := by
    intro key' event' hretries hget
    rw [OrderedDict.get_set] at hget
    split at hget
    · cases hget
      exact .inr (hretries hs)
    · exact .inl hget
  cases h with
  | kept => exact .inl he
  | reserved => exact hset (fun h => by cases h) he
  | dispatched => exact hset (fun h => by cases h) he
  | acknowledged => exact hset (fun h => by cases h) he
  | accepted => exact hset (fun h => by cases h) he
  | taken eventId ack scope now key' event classification h =>
    refine hset (fun hretry => ?_) he
    rcases @withAck_state event ack classification h.pending with ⟨-, hstate⟩ | ⟨hclass, -⟩ | ⟨-, hstate⟩
    · rw [hretry] at hstate
      cases hstate
    · subst hclass
      exact ⟨key', event, .taken eventId ack scope now key' event h⟩
    · rw [hretry] at hstate
      exact absurd hstate (by decide)
  | misfiled => exact hset (fun h => by cases h) he
  | retried eventId scope attempts maximumAttempts key' event found below h =>
    exact hset (fun _ => ⟨key', event, .recorded eventId scope attempts maximumAttempts key' event found below h⟩) he
  | failed => exact hset (fun h => by cases h) he
  | retriedFailed => exact hset (fun h => by cases h) he

theorem receive_settled {payload : Obj} {id now : String} (he : (receive lib payload id now s).2.events.get key = some e)
    (hs : e.state = .retryPending) : s.events.get key = some e := by
  have hset : ∀ {key' : ScopedKey} {event' : Event}, event'.state ≠ .retryPending →
      (s.events.set key' event').get key = some e → s.events.get key = some e := by
    intro key' event' hne hget
    rw [OrderedDict.get_set] at hget
    split at hget
    · cases hget
      exact absurd hs hne
    · exact hget
  have hreceives := receive_receives lib s payload id now
  generalize receive lib payload id now s = x at hreceives he
  cases hreceives with
  | refused => exact he
  | replayed => exact he
  | raised => exact hset (by simp [evaluating_eq]) he
  | decided idem key decision =>
    refine hset ?_ he
    cases decision <;> simp [decided_eq, Decision.steps, Event.moved]

theorem settled_of_tidy (h : Always (call lib) (Tidy lib) {} calls) (he : (after lib calls).events.get key = some e) :
    e.state ≠ .retryPending := by
  have hsettled := h.induction (I := fun before s => s = after lib before ∧
      ∀ key e, s.events.get key = some e → e.state ≠ .retryPending)
    ⟨rfl, fun key e he => by cases he⟩ fun before c _ hI htidy => by
      obtain ⟨-, hI⟩ := hI
      refine ⟨runFrom_concat.symm, fun key e he hs => ?_⟩
      rcases call_cases (recorded lib before).keys c with ⟨payload, id, now, rfl⟩ | ⟨h, -⟩
      · exact hI key e (receive_settled he hs) hs
      · rcases h.retries he hs with hold | ⟨key', old, hretries⟩
        · exact hI key e hold hs
        · exact htidy.settled key' old hretries
  exact hsettled.2 key e he

/-- A run whose calls meet the condition keeps the lifecycle. -/
theorem lifecycle_of_tidy (hfresh : (draws calls).Nodup) (h : Always (call lib) (Tidy lib) {} calls) : Lifecycle lib calls where
  filed before hbefore key e he := filed_of_tidy (h.take hbefore) he
  absorbing before c rest hcalls key e e' he he' hid hterminal := by
    rcases call_advance hcalls hfresh he he' hid with rfl | hadvance
    · exact .inl rfl
    · exact .inr (hadvance.terminal hterminal)
  completed before hbefore key e he hs := by
    have hcourse := course lib before key e he (by rw [hs]; decide)
    rwa [hs] at hcourse
  resumable before hbefore key e he hs := absurd hs (settled_of_tidy (h.take hbefore) he)

theorem tidy_of_lifecycle (h : Lifecycle lib calls) : Always (call lib) (Tidy lib) {} calls := by
  rw [always_iff]
  intro before c rest hcalls
  have hbefore : before <+: calls := ⟨c :: rest, hcalls.symm⟩
  have hafter : before ++ [c] <+: calls := ⟨rest, by rw [hcalls]; simp⟩
  have hstep : after lib (before ++ [c]) = call lib c (after lib before) := runFrom_concat
  refine ⟨fun key e hmisfiles => ?_, fun key e hretries => ?_⟩
  · -- a misfiled event keeps an audit list that ends in its old state
    have hstored : (after lib (before ++ [c])).events.get key = some e.misfiled := by
      rw [hstep, hmisfiles.events]
      exact OrderedDict.get_set_self
    have hget := hmisfiles.get (recorded lib before).keys
    have hlast := (h.filed before hbefore key e hget).last
    have hlast' := (h.filed _ hafter key _ hstored).last
    have hpath : e.misfiled.path = e.path := rfl
    rw [hpath, hlast] at hlast'
    exact Option.some.inj hlast'
  · -- an event in RETRY_PENDING is stuck
    obtain ⟨e', hsame, hs, hevents⟩ := hretries.events
    have hstored : (after lib (before ++ [c])).events.get key = some e' := by
      rw [hstep, hevents]
      exact OrderedDict.get_set_self
    obtain ⟨more, hfresh, key', e'', he'', hid, hcompleted⟩ := h.resumable _ hafter key e' hstored hs
    have hstuck := retryPending_stuck hfresh hstored hs he'' hid
    rw [hcompleted] at hstuck
    rcases hstuck with hstuck | hstuck | hstuck <;> cases hstuck

/-- The lifecycle is kept by exactly the runs in which no call quarantines an event by assignment, unless it is quarantined
already, and none leaves an event in RETRY_PENDING. -/
theorem lifecycle_iff (lib : Library) (calls : List Call) (hfresh : (draws calls).Nodup) :
    Lifecycle lib calls ↔ Always (call lib) (Tidy lib) {} calls :=
  ⟨tidy_of_lifecycle, lifecycle_of_tidy hfresh⟩

end Lifecycle

/-! ## An acknowledgement of a denied event -/

namespace Synthetic

/-- An event that is denied by default, and an acknowledgement of it. -/
def acknowledgedDenied : List Call :=
  [.switch true true true true, .receive (lead "e-1" "i-1") "1" "t1", .applyOdooAck "e-1" [] scope "t2"]

end Synthetic

theorem tidy_receive (lib : Library) (s : LeadAutomationService) (payload : Obj) (id now : String) :
    Tidy lib s (.receive payload id now) where
  filed key e h := by cases h
  settled key e h := by cases h

theorem received_lifecycle : Lifecycle Synthetic.lib [.receive (Synthetic.lead "e-1" "i-1") "1" "t1"] := by
  have hfresh : (draws [.receive (Synthetic.lead "e-1" "i-1") "1" "t1"]).Nodup := by simp [draws]
  rw [lifecycle_iff _ _ hfresh, Always, Always]
  exact ⟨tidy_receive _ _ _ _ _, trivial⟩

/-- The denied event is quarantined, and its audit list ends in POLICY_DENIED. -/
theorem acknowledgement_misfiles_event : ¬ Lifecycle Synthetic.lib Synthetic.acknowledgedDenied := by
  intro h
  have hstored : ((after Synthetic.lib Synthetic.acknowledgedDenied).events.get (Synthetic.scope, .str "e-1")).map
      (fun e => (e.state, e.path)) = some (.quarantined, [.schemaValidated, .policyEvaluating, .policyDenied]) := by
    decide +kernel
  obtain ⟨e, he, hpair⟩ := Option.map_eq_some_iff.1 hstored
  have hlast := (h.filed _ (List.prefix_refl _) _ e he).last
  rw [(Prod.mk.inj hpair).1, (Prod.mk.inj hpair).2] at hlast
  exact absurd hlast (by decide)

end Middleware.Lead

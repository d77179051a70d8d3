/-
What a call does to the stored events: it leaves them, it stores a new event, or it changes the one event it finds. The
error paths that quarantine an event by assignment are listed apart from the checked transitions.
-/
import Middleware.Lead.Service

namespace Middleware.Lead

open Lib LeadAutomationService

namespace Event

def moved (event : Event) (target : State) (code : Json) : Event :=
  { event with state := target, audit := event.audit ++ [(target, code)] }

/-- The assignment of an error path, past the audit. -/
def misfiled (event : Event) : Event := { event with state := .quarantined }

variable {event : Event} {target : State} {code : Json} {rest : List (State × Json)}

theorem walk_cons_of_mem (h : target ∈ event.state.transitions) :
    event.walk ((target, code) :: rest) = (event.moved target code).walk rest := by
  rw [walk, if_pos (by simpa using h)]
  rfl

theorem walk_refused (h : target ∉ event.state.transitions) : (event.walk ((target, code) :: rest)).2 = event ∧
    ∃ e, (event.walk ((target, code) :: rest)).1 = .error e := by
  rw [walk, if_neg (by simpa using h)]
  exact ⟨rfl, _, rfl⟩

theorem walk_one (h : target ∈ event.state.transitions) : event.walk [(target, code)] = (.ok (), event.moved target code) :=
  walk_cons_of_mem h

end Event

theorem evaluating_eq (payload : Obj) (id : String) : evaluating payload id =
    { automationEventId := "LAE-" ++ id
      payload := payload
      payloadHash := canonicalHash payload
      state := .policyEvaluating
      audit := [(.schemaValidated, .str ""), (.policyEvaluating, .str "")] } := rfl

def decided (payload : Obj) (id : String) (decision : Decision) : Event := ((evaluating payload id).walk decision.steps).2

theorem decided_eq (payload : Obj) (id : String) (decision : Decision) : decided payload id decision =
    decision.steps.foldl (fun event step => event.moved step.1 step.2) (evaluating payload id) := by
  cases decision <;> rfl

/-! ## Receiving -/

def idempotencyKey (lib : Library) (payload : Obj) : Option ScopedKey :=
  (lib.key (getText payload "idempotency_key")).map fun idem => (TenantScope.fromPayload lib payload, idem)

def eventKey (lib : Library) (payload : Obj) : Option ScopedKey :=
  (lib.key (getText payload "event_id")).map fun eventId => (TenantScope.fromPayload lib payload, eventId)

/-- The payload is new under its idempotency key, passes the checks and is stored under a key. -/
structure Admitted (lib : Library) (s : LeadAutomationService) (payload : Obj) (idem key : ScopedKey) : Prop where
  named : idempotencyKey lib payload = some idem
  new : s.idempotency.get idem = none
  checked : checkEvent lib payload = .ok ()
  key : eventKey lib payload = some key

/-- What `receive` does. -/
inductive Receives (lib : Library) (s : LeadAutomationService) (payload : Obj) (id now : String) : Result Obj → Prop
  | refused (e : Error) (rows : List (Json × String)) (unstored : ∀ idem key, ¬ Admitted lib s payload idem key)
      (other : ∀ idem digest response, idempotencyKey lib payload = some idem →
        s.idempotency.get idem = some (digest, response) → digest ≠ canonicalHash payload) :
      Receives lib s payload id now (.error e, { s with quarantine := rows })
  | replayed (idem : ScopedKey) (response : Obj) (hidem : idempotencyKey lib payload = some idem)
      (found : s.idempotency.get idem = some (canonicalHash payload, response)) :
      Receives lib s payload id now (.ok response, s)
  | raised (idem key : ScopedKey) (e : Error) (admitted : Admitted lib s payload idem key)
      (evaluated : evaluate lib s payload = .error e) :
      Receives lib s payload id now (.error e, s.put key (evaluating payload id))
  | decided (idem key : ScopedKey) (decision : Decision) (admitted : Admitted lib s payload idem key)
      (evaluated : evaluate lib s payload = .ok decision) :
      Receives lib s payload id now (.ok (status (decided payload id decision) now),
        { s.put key (decided payload id decision) with
          outbox := outboxAfter s (TenantScope.fromPayload lib payload) ("LAE-" ++ id) decision
          idempotency := s.idempotency.set idem (canonicalHash payload, status (decided payload id decision) now) })

theorem receive_receives (lib : Library) (s : LeadAutomationService) (payload : Obj) (id now : String) :
    Receives lib s payload id now (receive lib payload id now s) := by
  unfold receive
  dsimp only
  split
  · rename_i hidem
    have hnone : idempotencyKey lib payload = none := by rw [idempotencyKey, hidem]; rfl
    refine .refused _ s.quarantine (fun idem key h => ?_) fun idem digest response h => ?_
    · have := h.named
      rw [hnone] at this
      cases this
    · rw [hnone] at h
      cases h
  rename_i idem hidem
  have hkey : idempotencyKey lib payload = some (TenantScope.fromPayload lib payload, idem) := by
    rw [idempotencyKey, hidem]
    rfl
  split
  · rename_i previousHash response hfound
    have hadmitted : ∀ idem key, ¬ Admitted lib s payload idem key := by
      intro idem' key h
      have := h.new
      rw [← Option.some.inj (hkey.symm.trans h.named), hfound] at this
      cases this
    split
    · rename_i hne
      refine .refused _ _ hadmitted fun idem' digest response' h hget => ?_
      rw [← Option.some.inj (hkey.symm.trans h), hfound] at hget
      cases hget
      exact hne
    · rename_i heq
      rw [not_ne_iff] at heq
      rw [heq] at hfound
      exact .replayed _ response hkey hfound
  rename_i hnew
  have hother : ∀ idem' digest response, idempotencyKey lib payload = some idem' →
      s.idempotency.get idem' = some (digest, response) → digest ≠ canonicalHash payload := by
    intro idem' digest response h hget
    rw [← Option.some.inj (hkey.symm.trans h), hnew] at hget
    cases hget
  split
  · rename_i e hchecked
    refine .refused _ s.quarantine (fun idem' key h => ?_) hother
    have := h.checked
    rw [hchecked] at this
    cases this
  rename_i hchecked
  split
  · rename_i hevent
    refine .refused _ s.quarantine (fun idem' key h => ?_) hother
    have := h.key
    rw [eventKey, hevent] at this
    cases this
  rename_i eventId hevent
  have hadmitted : Admitted lib s payload (TenantScope.fromPayload lib payload, idem)
      (TenantScope.fromPayload lib payload, eventId) := ⟨hkey, hnew, hchecked, by rw [eventKey, hevent]; rfl⟩
  split
  · rename_i e hevaluated
    exact .raised _ _ e hadmitted hevaluated
  · rename_i decision hevaluated
    have hput : ∀ event, (s.put (TenantScope.fromPayload lib payload, eventId) (evaluating payload id)).put
        (TenantScope.fromPayload lib payload, eventId) event = s.put (TenantScope.fromPayload lib payload, eventId) event := by
      intro event
      simp only [put, OrderedDict.set_set]
    rw [hput]
    have hid : (decided payload id decision).automationEventId = "LAE-" ++ id := by cases decision <;> rfl
    have := @Receives.decided lib s payload id now _ _ decision hadmitted hevaluated
    rw [← hid] at this
    exact this

theorem receive_admitted {lib : Library} {s : LeadAutomationService} {payload : Obj} (id now : String) {idem key : ScopedKey}
    (h : Admitted lib s payload idem key) :
    (∃ e, evaluate lib s payload = .error e ∧
      receive lib payload id now s = (.error e, s.put key (evaluating payload id))) ∨
    ∃ decision, evaluate lib s payload = .ok decision ∧
      (receive lib payload id now s).1 = .ok (status (decided payload id decision) now) ∧
      (receive lib payload id now s).2.events = s.events.set key (decided payload id decision) := by
  have hreceives := receive_receives lib s payload id now
  generalize receive lib payload id now s = x at hreceives ⊢
  cases hreceives with
  | refused e rows unstored => exact absurd h (unstored idem key)
  | replayed idem' response hidem found =>
    have hnew := h.new
    rw [Option.some.inj (h.named.symm.trans hidem), found] at hnew
    cases hnew
  | raised idem' key' e admitted evaluated =>
    rw [Option.some.inj (h.key.symm.trans admitted.key)]
    exact .inl ⟨e, evaluated, rfl⟩
  | decided idem' key' decision admitted evaluated =>
    rw [Option.some.inj (h.key.symm.trans admitted.key)]
    exact .inr ⟨decision, evaluated, rfl, rfl⟩

/-! ## The other calls -/

/-- The event goes on to take an acknowledgement: it has none, or a retryable one while it waits for the next. -/
inductive Takes (lib : Library) (ack : Obj) (event : Event) : Prop
  | first (none : event.odooAck = none)
  | again (previous : Obj) (stored : event.odooAck = some previous) (other : canonicalHash previous ≠ canonicalHash ack)
      (retry : classifyAck lib previous = .ok .retry) (pending : event.state = .odooApplyPending)

/-- A result that is not accepted for the event it names. -/
inductive Unacceptable (lib : Library) (s : LeadAutomationService) (payload : Obj) (event : Event) : Prop
  | unbound (h : bound lib payload event.payload = false)
  | outside (allowed : List String) (fields : List Key) (hbound : bound lib payload event.payload = true)
      (hallowed : allowedFields lib s event.payload = .ok allowed) (hfields : resultFields lib payload = .ok fields)
      (h : fieldsOutside fields allowed = true)
  | duplicate (allowed : List String) (fields : List Key) (workflow : Key × Key)
      (hbound : bound lib payload event.payload = true)
      (hallowed : allowedFields lib s event.payload = .ok allowed) (hfields : resultFields lib payload = .ok fields)
      (inside : fieldsOutside fields allowed = false) (hworkflow : workflowKey lib payload = .ok workflow)
      (h : workflow ∈ s.workflowIds)

/-- The error paths that quarantine an event by assignment. -/
inductive Misfiles (lib : Library) (s : LeadAutomationService) : Call → ScopedKey → Event → Prop
  | resultConflict (payload : Obj) (scope : TenantScope) (key : ScopedKey) (event : Event) (hash : String)
      (hscope : scope = TenantScope.fromPayload lib payload)
      (found : s.find lib (getText payload "event_id") scope = some (key, event))
      (stored : event.resultHash = some hash) (other : hash ≠ canonicalHash payload) :
      Misfiles lib s (.receiveResult payload scope) key event
  | resultRefused (payload : Obj) (scope : TenantScope) (key : ScopedKey) (event : Event)
      (hscope : scope = TenantScope.fromPayload lib payload)
      (found : s.find lib (getText payload "event_id") scope = some (key, event))
      (first : event.resultHash = none) (enabled : s.resultProcessingEnabled = true)
      (checked : checkResult lib payload = .ok ()) (h : Unacceptable lib s payload event) :
      Misfiles lib s (.receiveResult payload scope) key event
  | ackConflict (eventId : String) (ack : Obj) (scope : TenantScope) (now : String) (key : ScopedKey) (event : Event)
      (previous : Obj) (classification : Classification)
      (found : s.find lib (.str eventId) scope = some (key, event)) (enabled : s.odooApplyEnabled = true)
      (stored : event.odooAck = some previous) (other : canonicalHash previous ≠ canonicalHash ack)
      (classified : classifyAck lib previous = .ok classification)
      (h : ¬ (classification = .retry ∧ event.state = .odooApplyPending)) :
      Misfiles lib s (.applyOdooAck eventId ack scope now) key event
  | ackUnexpected (eventId : String) (ack : Obj) (scope : TenantScope) (now : String) (key : ScopedKey) (event : Event)
      (found : s.find lib (.str eventId) scope = some (key, event)) (enabled : s.odooApplyEnabled = true)
      (takes : Takes lib ack event) (h : event.resultPayload = none ∨ event.state ≠ .odooApplyPending) :
      Misfiles lib s (.applyOdooAck eventId ack scope now) key event
  | ackInvalid (eventId : String) (ack : Obj) (scope : TenantScope) (now : String) (key : ScopedKey) (event : Event)
      (result request : Obj) (message : String)
      (found : s.find lib (.str eventId) scope = some (key, event)) (enabled : s.odooApplyEnabled = true)
      (takes : Takes lib ack event) (waiting : event.resultPayload = some result) (pending : event.state = .odooApplyPending)
      (built : buildApplyPayload lib event.payload result event.automationEventId = .ok request)
      (h : validateAck lib ack request = .error (.ackValidation message)) :
      Misfiles lib s (.applyOdooAck eventId ack scope now) key event

/-- The event after an accepted result. -/
def Event.withResult (event : Event) (payload : Obj) : Event :=
  { event with
    state := .odooApplyPending
    audit := event.audit ++ resultSteps
    resultHash := some (canonicalHash payload)
    resultResponse := some
      [("automation_event_id", .str event.automationEventId), ("state", .str "ODOO_APPLY_PENDING"), ("accepted", .bool true)]
    resultPayload := some payload }

/-- A result that is accepted for the event it names. -/
structure Accepted (lib : Library) (s : LeadAutomationService) (payload : Obj) (scope : TenantScope) (key : ScopedKey)
    (event : Event) : Prop where
  inScope : scope = TenantScope.fromPayload lib payload
  found : s.find lib (getText payload "event_id") scope = some (key, event)
  first : event.resultHash = none
  enabled : s.resultProcessingEnabled = true
  checked : checkResult lib payload = .ok ()
  bound : bound lib payload event.payload = true
  inside : ∃ allowed fields, allowedFields lib s event.payload = .ok allowed ∧ resultFields lib payload = .ok fields ∧
    fieldsOutside fields allowed = false
  unique : ∃ workflow, workflowKey lib payload = .ok workflow ∧ workflow ∉ s.workflowIds
  acknowledged : event.state = .n8nAcknowledged

structure Acknowledged (lib : Library) (s : LeadAutomationService) (eventId : String) (ack : Obj) (scope : TenantScope)
    (key : ScopedKey) (event : Event) (classification : Classification) : Prop where
  found : s.find lib (.str eventId) scope = some (key, event)
  enabled : s.odooApplyEnabled = true
  takes : Takes lib ack event
  pending : event.state = .odooApplyPending
  valid : ∃ result request, event.resultPayload = some result ∧
    buildApplyPayload lib event.payload result event.automationEventId = .ok request ∧ validateAck lib ack request = .ok ()
  classified : classifyAck lib ack = .ok classification

/-- The event after an acknowledgement. -/
def Event.withAck (event : Event) (ack : Obj) (classification : Classification) : Event :=
  (Event.walk { event with odooAck := some ack } (ackSteps ack classification)).2

inductive Changes (lib : Library) (s : LeadAutomationService) : Call → OrderedDict ScopedKey Event → Prop
  | kept (c : Call) : Changes lib s c s.events
  | reserved (eventId : String) (scope : TenantScope) (key : ScopedKey) (event : Event)
      (found : s.find lib (.str eventId) scope = some (key, event)) (pending : event.state = .outboxPending) :
      Changes lib s (.reserveDispatch eventId scope) (s.events.set key (event.moved .dispatchReserved (.str "")))
  | dispatched (eventId : String) (scope : TenantScope) (key : ScopedKey) (event : Event)
      (found : s.find lib (.str eventId) scope = some (key, event)) (reserved : event.state = .dispatchReserved) :
      Changes lib s (.markDispatched eventId scope) (s.events.set key (event.moved .dispatched (.str "")))
  | acknowledged (eventId : String) (scope : TenantScope) (key : ScopedKey) (event : Event)
      (found : s.find lib (.str eventId) scope = some (key, event)) (dispatched : event.state = .dispatched) :
      Changes lib s (.acknowledgeN8n eventId scope) (s.events.set key (event.moved .n8nAcknowledged (.str "")))
  | accepted (payload : Obj) (scope : TenantScope) (key : ScopedKey) (event : Event)
      (accepted : Accepted lib s payload scope key event) :
      Changes lib s (.receiveResult payload scope) (s.events.set key (event.withResult payload))
  | taken (eventId : String) (ack : Obj) (scope : TenantScope) (now : String) (key : ScopedKey) (event : Event)
      (classification : Classification) (h : Acknowledged lib s eventId ack scope key event classification) :
      Changes lib s (.applyOdooAck eventId ack scope now) (s.events.set key (event.withAck ack classification))
  | misfiled (c : Call) (key : ScopedKey) (event : Event) (found : s.events.get key = some event)
      (h : Misfiles lib s c key event) : Changes lib s c (s.events.set key event.misfiled)
  | retried (eventId : String) (scope : TenantScope) (attempts maximumAttempts : Int) (key : ScopedKey) (event : Event)
      (found : s.find lib (.str eventId) scope = some (key, event)) (below : attempts < maximumAttempts)
      (h : State.retryPending ∈ event.state.transitions) :
      Changes lib s (.recordRetry eventId scope attempts maximumAttempts)
        (s.events.set key (event.moved .retryPending (.str "")))
  | failed (eventId : String) (scope : TenantScope) (attempts maximumAttempts : Int) (key : ScopedKey) (event : Event)
      (found : s.find lib (.str eventId) scope = some (key, event)) (exhausted : maximumAttempts ≤ attempts)
      (h : event.state = .retryPending) :
      Changes lib s (.recordRetry eventId scope attempts maximumAttempts)
        (s.events.set key (event.moved .failedTerminal (.str "")))
  | retriedFailed (eventId : String) (scope : TenantScope) (attempts maximumAttempts : Int) (key : ScopedKey)
      (event : Event) (found : s.find lib (.str eventId) scope = some (key, event)) (exhausted : maximumAttempts ≤ attempts)
      (h : State.retryPending ∈ event.state.transitions) :
      Changes lib s (.recordRetry eventId scope attempts maximumAttempts)
        (s.events.set key ((event.moved .retryPending (.str "")).moved .failedTerminal (.str "")))

section Calls

variable {lib : Library} {s : LeadAutomationService} {key : ScopedKey} {event : Event} {eventId : Json} {scope : TenantScope}

theorem find_mem (h : s.find lib eventId scope = some (key, event)) : (key, event) ∈ s.events := List.mem_of_find?_eq_some h

theorem find_get (hn : s.events.keys.Nodup) (h : s.find lib eventId scope = some (key, event)) :
    s.events.get key = some event := OrderedDict.get_of_mem hn (find_mem h)

theorem transitions_dispatched {state : State} (h : State.dispatched ∈ state.transitions) : state = .dispatchReserved := by
  cases state <;> simp_all [State.transitions]

theorem transitions_n8nAcknowledged {state : State} (h : State.n8nAcknowledged ∈ state.transitions) :
    state = .dispatched := by
  cases state <;> simp_all [State.transitions]

theorem transitions_resultReceived {state : State} (h : State.resultReceived ∈ state.transitions) :
    state = .n8nAcknowledged := by
  cases state <;> simp_all [State.transitions]

/-- One transition of the event found: it is made, or nothing changes. -/
theorem transition_cases (hn : s.events.keys.Nodup) (target : State) :
    (transition lib eventId scope target s).2.events = s.events ∨
    ∃ key event, s.find lib eventId scope = some (key, event) ∧ target ∈ event.state.transitions ∧
      (transition lib eventId scope target s).2.events = s.events.set key (event.moved target (.str "")) := by
  unfold transition
  split
  · exact .inl rfl
  rename_i key event hfound
  by_cases h : target ∈ event.state.transitions
  · refine .inr ⟨key, event, hfound, h, ?_⟩
    rw [Event.walk_one h]
    rfl
  · left
    show s.events.set key (event.walk [(target, .str "")]).2 = s.events
    rw [(Event.walk_refused h).1, OrderedDict.set_get (find_get hn hfound)]

theorem acceptResult_changes (hn : s.events.keys.Nodup) {payload : Obj} (hscope : scope = TenantScope.fromPayload lib payload)
    (hfound : s.find lib (getText payload "event_id") scope = some (key, event)) (hfirst : event.resultHash = none)
    (henabled : s.resultProcessingEnabled = true) (hchecked : checkResult lib payload = .ok ()) :
    Changes lib s (.receiveResult payload scope) (acceptResult lib payload key event s).2.events := by
  have hget := find_get hn hfound
  unfold acceptResult
  split
  · rename_i hbound
    exact .misfiled _ key event hget
      (.resultRefused payload scope key event hscope hfound hfirst henabled hchecked (.unbound (by simpa using hbound)))
  rename_i hbound
  have hbound : bound lib payload event.payload = true := by simpa using hbound
  split
  · exact .kept _
  rename_i allowed hallowed
  split
  · exact .kept _
  rename_i fields hfields
  split
  · rename_i houtside
    exact .misfiled _ key event hget (.resultRefused payload scope key event hscope hfound hfirst henabled hchecked
      (.outside allowed fields hbound hallowed hfields houtside))
  rename_i hinside
  have hinside : fieldsOutside fields allowed = false := by simpa using hinside
  split
  · exact .kept _
  rename_i workflow hworkflow
  split
  · rename_i hduplicate
    exact .misfiled _ key event hget (.resultRefused payload scope key event hscope hfound hfirst henabled hchecked
      (.duplicate allowed fields workflow hbound hallowed hfields hinside hworkflow (by simpa using hduplicate)))
  rename_i hunique
  by_cases h : State.resultReceived ∈ event.state.transitions
  · have hwalk : event.walk resultSteps = (.ok (), { event with
        state := .odooApplyPending, audit := event.audit ++ resultSteps }) := by
      unfold resultSteps
      rw [Event.walk_cons_of_mem h]
      simp [Event.walk, Event.moved, State.transitions]
    rw [hwalk]
    exact .accepted payload scope key event ⟨hscope, hfound, hfirst, henabled, hchecked, hbound,
      ⟨allowed, fields, hallowed, hfields, hinside⟩, ⟨workflow, hworkflow, by simpa using hunique⟩,
      transitions_resultReceived h⟩
  · obtain ⟨hsame, e, herror⟩ : (event.walk resultSteps).2 = event ∧ ∃ e, (event.walk resultSteps).1 = .error e :=
      Event.walk_refused h
    have hwalk : event.walk resultSteps = (.error e, event) := Prod.ext herror hsame
    rw [hwalk]
    show Changes lib s _ (s.events.set key event)
    rw [OrderedDict.set_get hget]
    exact .kept _

theorem receiveResult_changes (hn : s.events.keys.Nodup) (payload : Obj) (scope : TenantScope) :
    Changes lib s (.receiveResult payload scope) (receiveResult lib payload scope s).2.events := by
  unfold receiveResult
  split
  · exact .kept _
  rename_i hscope
  rw [not_ne_iff] at hscope
  split
  · exact .kept _
  rename_i key event hfound
  split
  · rename_i hash hstored
    split
    · rename_i hother
      exact .misfiled _ key event (find_get hn hfound) (.resultConflict payload scope key event hash hscope hfound hstored hother)
    · exact .kept _
  rename_i hfirst
  split
  · exact .kept _
  rename_i henabled
  split
  · exact .kept _
  · rename_i hchecked
    exact acceptResult_changes hn hscope hfound hfirst (by simpa using henabled) hchecked

theorem takeAck_changes (hn : s.events.keys.Nodup) {eventId ack now : _}
    (hfound : s.find lib (.str eventId) scope = some (key, event)) (henabled : s.odooApplyEnabled = true)
    (htakes : Takes lib ack event) :
    Changes lib s (.applyOdooAck eventId ack scope now) (takeAck lib ack now key event s).2.events := by
  have hget := find_get hn hfound
  unfold takeAck
  split
  · rename_i hnone
    exact .misfiled _ key event hget (.ackUnexpected eventId ack scope now key event hfound henabled htakes (.inl hnone))
  rename_i result hresult
  split
  · rename_i hstate
    exact .misfiled _ key event hget (.ackUnexpected eventId ack scope now key event hfound henabled htakes (.inr hstate))
  rename_i hpending
  rw [not_ne_iff] at hpending
  unfold applyPending
  split
  · exact .kept _
  rename_i request hbuilt
  split
  · rename_i message hinvalid
    exact .misfiled _ key event hget (.ackInvalid eventId ack scope now key event result request message hfound henabled
      htakes hresult hpending hbuilt hinvalid)
  · exact .kept _
  rename_i hvalid
  split
  · exact .kept _
  rename_i classification hclassified
  have htaken : Changes lib s (.applyOdooAck eventId ack scope now) (s.events.set key (event.withAck ack classification)) :=
    .taken eventId ack scope now key event classification ⟨hfound, henabled, htakes, hpending,
      ⟨result, request, hresult, hbuilt, hvalid⟩, hclassified⟩
  split
  · rename_i e event' hwalk
    rw [Event.withAck, hwalk] at htaken
    exact htaken
  · rename_i event' hwalk
    rw [Event.withAck, hwalk] at htaken
    exact htaken

theorem applyOdooAck_changes (hn : s.events.keys.Nodup) (eventId : String) (ack : Obj) (scope : TenantScope) (now : String) :
    Changes lib s (.applyOdooAck eventId ack scope now) (applyOdooAck lib eventId ack scope now s).2.events := by
  unfold applyOdooAck
  split
  · exact .kept _
  rename_i key event hfound
  split
  · exact .kept _
  rename_i henabled
  have henabled : s.odooApplyEnabled = true := by simpa using henabled
  split
  · rename_i hnone
    exact takeAck_changes hn hfound henabled (.first hnone)
  rename_i previous hstored
  split
  · exact .kept _
  rename_i hother
  split
  · exact .kept _
  rename_i classification hclassified
  split
  · rename_i h
    rw [h.1] at hclassified
    exact takeAck_changes hn hfound henabled (.again previous hstored hother hclassified h.2)
  · rename_i h
    exact .misfiled _ key event (find_get hn hfound) (.ackConflict eventId ack scope now key event previous classification
      hfound henabled hstored hother hclassified h)

theorem recordRetry_changes (hn : s.events.keys.Nodup) (eventId : String) (scope : TenantScope)
    (attempts maximumAttempts : Int) : Changes lib s (.recordRetry eventId scope attempts maximumAttempts)
      (recordRetry lib eventId scope attempts maximumAttempts s).2.events := by
  unfold recordRetry
  split
  · exact .kept _
  rename_i key event hfound
  have hget := find_get hn hfound
  have hrefused : ∀ {target rest}, target ∉ event.state.transitions →
      Changes lib s (.recordRetry eventId scope attempts maximumAttempts)
        (s.events.set key (event.walk ((target, .str "") :: rest)).2) := by
    intro target rest h
    rw [(Event.walk_refused h).1, OrderedDict.set_get hget]
    exact .kept _
  show Changes lib s _ (s.events.set key (event.walk _).2)
  split
  · rename_i hexhausted
    split
    · rename_i hstate
      rw [Event.walk_one (by rw [hstate]; decide)]
      exact .failed eventId scope attempts maximumAttempts key event hfound hexhausted hstate
    · by_cases h : State.retryPending ∈ event.state.transitions
      · rw [Event.walk_cons_of_mem h, Event.walk_one (by simp [Event.moved, State.transitions])]
        exact .retriedFailed eventId scope attempts maximumAttempts key event hfound hexhausted h
      · exact hrefused h
  · by_cases h : State.retryPending ∈ event.state.transitions
    · rw [Event.walk_one h]
      exact .retried eventId scope attempts maximumAttempts key event hfound (by omega) h
    · exact hrefused h

theorem call_changes (hn : s.events.keys.Nodup) (c : Call) (hc : ∀ payload id now, c ≠ .receive payload id now) :
    Changes lib s c (call lib c s).events := by
  cases c with
  | switch enabled bindingEnabled resultProcessingEnabled odooApplyEnabled => exact .kept _
  | switchAction action on => exact .kept _
  | addPolicy policy => exact .kept _
  | receive payload id now => exact absurd rfl (hc payload id now)
  | reserveDispatch eventId scope =>
    show Changes lib s _ (reserveDispatch lib eventId scope s).2.events
    unfold reserveDispatch
    split
    · exact .kept _
    rename_i key event hfound
    split
    · exact .kept _
    · rename_i h
      have hpending : event.state = .outboxPending := by
        by_contra hne
        exact h (by simp [hne])
      rw [Event.walk_one (by rw [hpending]; decide)]
      exact .reserved eventId scope key event hfound hpending
  | markDispatched eventId scope =>
    show Changes lib s _ (transition lib (.str eventId) scope .dispatched s).2.events
    rcases transition_cases hn .dispatched with h | ⟨key, event, hfound, hmem, h⟩
    · rw [h]
      exact .kept _
    · rw [h]
      exact .dispatched eventId scope key event hfound (transitions_dispatched hmem)
  | acknowledgeN8n eventId scope =>
    show Changes lib s _ (transition lib (.str eventId) scope .n8nAcknowledged s).2.events
    rcases transition_cases hn .n8nAcknowledged with h | ⟨key, event, hfound, hmem, h⟩
    · rw [h]
      exact .kept _
    · rw [h]
      exact .acknowledged eventId scope key event hfound (transitions_n8nAcknowledged hmem)
  | receiveResult payload scope => exact receiveResult_changes hn payload scope
  | applyOdooAck eventId ack scope now => exact applyOdooAck_changes hn eventId ack scope now
  | recordRetry eventId scope attempts maximumAttempts => exact recordRetry_changes hn eventId scope attempts maximumAttempts
  | reconcile scope => exact .kept _

end Calls

end Middleware.Lead

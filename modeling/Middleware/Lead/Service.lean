/-
`LeadAutomationService` of `app/core/lead_automation.py`: one process whose calls run one after the other. A call that
raises keeps what it has written up to there, so every operation returns its answer beside the state it leaves.
-/
import Middleware.Lead.Contract

namespace Middleware.Lead

open Lib

/-- `ATTRIBUTE_SCHEMA_FIELDS`. -/
def attributeSchemaFields : OrderedDict String (List String) := attributeSchema.map fun m => (m.1, m.2.keys)

inductive State where
  | received
  | schemaValidated
  | policyEvaluating
  | policyAllowed
  | policyDenied
  | consentBlocked
  | dncBlocked
  | outboxPending
  | dispatchReserved
  | dispatched
  | n8nAcknowledged
  | resultReceived
  | resultValidated
  | odooApplyPending
  | odooApplied
  | completed
  | retryPending
  | quarantined
  | failedTerminal
  deriving DecidableEq

namespace State

def value : State → String
  | received => "RECEIVED"
  | schemaValidated => "SCHEMA_VALIDATED"
  | policyEvaluating => "POLICY_EVALUATING"
  | policyAllowed => "POLICY_ALLOWED"
  | policyDenied => "POLICY_DENIED"
  | consentBlocked => "CONSENT_BLOCKED"
  | dncBlocked => "DNC_BLOCKED"
  | outboxPending => "OUTBOX_PENDING"
  | dispatchReserved => "DISPATCH_RESERVED"
  | dispatched => "DISPATCHED"
  | n8nAcknowledged => "N8N_ACKNOWLEDGED"
  | resultReceived => "RESULT_RECEIVED"
  | resultValidated => "RESULT_VALIDATED"
  | odooApplyPending => "ODOO_APPLY_PENDING"
  | odooApplied => "ODOO_APPLIED"
  | completed => "COMPLETED"
  | retryPending => "RETRY_PENDING"
  | quarantined => "QUARANTINED"
  | failedTerminal => "FAILED_TERMINAL"

/-- `TRANSITIONS`. -/
def transitions : State → List State
  | received => [schemaValidated, quarantined]
  | schemaValidated => [policyEvaluating]
  | policyEvaluating => [policyAllowed, policyDenied, consentBlocked, dncBlocked]
  | policyAllowed => [outboxPending]
  | outboxPending => [dispatchReserved]
  | dispatchReserved => [dispatched, retryPending, quarantined]
  | dispatched => [n8nAcknowledged, retryPending, quarantined]
  | n8nAcknowledged => [resultReceived, retryPending]
  | resultReceived => [resultValidated, quarantined]
  | resultValidated => [odooApplyPending]
  | odooApplyPending => [odooApplied, policyDenied, consentBlocked, dncBlocked, retryPending, quarantined]
  | odooApplied => [completed, quarantined]
  | retryPending => [dispatchReserved, odooApplyPending, failedTerminal]
  | policyDenied | consentBlocked | dncBlocked | completed | quarantined | failedTerminal => []

/-- `TERMINAL`. -/
def terminal : State → Bool
  | policyDenied | consentBlocked | dncBlocked | quarantined | failedTerminal | completed => true
  | _ => false

end State

structure PolicyKey where
  environment : Key
  businessUnitKey : Key
  campaignKey : Key
  eventType : Key
  action : Key
  policyVersion : Key
  deriving DecidableEq

structure Policy where
  environment : String
  businessUnitKey : String
  campaignKey : String
  eventType : String
  action : String
  policyVersion : String
  allow : Bool := false
  requiresConsent : Bool := false
  contactEligible : Bool := false
  allowedFields : List String := []
  enabled : Bool := false

def Policy.key (p : Policy) : PolicyKey :=
  ⟨.str p.environment, .str p.businessUnitKey, .str p.campaignKey, .str p.eventType, .str p.action, .str p.policyVersion⟩

structure TenantScope where
  environment : String
  businessUnitKey : String
  campaignKey : String
  deriving DecidableEq

/-- `TenantScope.from_payload`. -/
def TenantScope.fromPayload (lib : Library) (payload : Obj) : TenantScope :=
  ⟨lib.text (getText payload "environment"), lib.text (getText payload "business_unit_key"),
    lib.text (getText payload "campaign_key")⟩

structure Event where
  automationEventId : String
  payload : Obj
  payloadHash : String
  state : State := .received
  resultHash : Option String := none
  resultResponse : Option Obj := none
  resultPayload : Option Obj := none
  odooAck : Option Obj := none
  audit : List (State × Json) := []

/-- `_transition`, one target after the other up to the first that is refused. -/
def Event.walk (event : Event) : List (State × Json) → Except Error Unit × Event
  | [] => (.ok (), event)
  | (target, code) :: rest =>
    if event.state.transitions.contains target then
      Event.walk { event with state := target, audit := event.audit ++ [(target, code)] } rest
    else (.error (.leadAutomation s!"invalid transition {event.state.value}->{target.value}"), event)

structure OutboxRow where
  automationEventId : String
  bindingKey : String
  environment : String
  businessUnitKey : String
  campaignKey : String
  enabled : Bool
  attempts : Nat

/-- A key within a scope: of an event or of an idempotency entry. -/
abbrev ScopedKey := TenantScope × Key

structure LeadAutomationService where
  enabled : Bool := false
  bindingEnabled : Bool := false
  resultProcessingEnabled : Bool := false
  odooApplyEnabled : Bool := false
  actionSwitches : OrderedDict String Bool := actions.map fun action => (action, false)
  policies : OrderedDict PolicyKey Policy := []
  events : OrderedDict ScopedKey Event := []
  idempotency : OrderedDict ScopedKey (String × Obj) := []
  workflowIds : List (Key × Key) := []
  outbox : List OutboxRow := []
  quarantine : List (Json × String) := []
  odooOperations : Nat := 0

/-- The answer of a call and the state it leaves. -/
abbrev Result (α : Type) := Except Error α × LeadAutomationService

/-- `canonical_hash`. -/
def canonicalHash (value : Obj) : String := Sha256.hexdigest (dumps true (.obj value))

/-- `status`. -/
def status (event : Event) (now : String) : Obj :=
  [("contract_version", .str "1.0"), ("automation_event_id", .str event.automationEventId),
    ("event_id", get event.payload "event_id"), ("environment", get event.payload "environment"),
    ("state", .str event.state.value), ("policy_version", get event.payload "policy_version"),
    ("updated_at", .str now)]

namespace LeadAutomationService

variable (lib : Library) (s : LeadAutomationService)

/-- The event object under a key changes. -/
def put (key : ScopedKey) (event : Event) : LeadAutomationService := { s with events := s.events.set key event }

def quarantined (eventId : Json) (reason : String) : LeadAutomationService :=
  { s with quarantine := s.quarantine ++ [(eventId, reason)] }

/-- `add_policy`. -/
def addPolicy (policy : Policy) : LeadAutomationService := { s with policies := s.policies.set policy.key policy }

/-- `_find`: the first event of the scope under the id, its own or the automation's. -/
def find (eventId : Json) (scope : TenantScope) : Option (ScopedKey × Event) :=
  List.find? (fun m => decide (m.1.1 = scope) &&
    (lib.key eventId == some m.1.2 || lib.key eventId == some (.str m.2.automationEventId))) s.events

end LeadAutomationService

def notFound : Error := .leadAutomation "event not found"

/-! ## Receiving an event -/

def requiredEventFields : List String :=
  ["contract_version", "event_id", "event_type", "environment", "company_key", "business_unit_key", "campaign_key",
    "automation_action", "policy_version", "attributes", "consent_snapshot"]

/-- `re.fullmatch` on a company key; a value that is no string raises. -/
def companyKeyMatches : Json → Except Error Bool
  | .str s => .ok (isCompanyKey s)
  | _ => .error .typeError

/-- The checks of `receive` on the payload itself. -/
def checkEvent (lib : Library) (payload : Obj) : Except Error Unit := do
  if !lib.same (get payload "contract_version") (.str "1.1") then throw (.leadAutomation "schema violation")
  if !hasKeys payload requiredEventFields then throw (.leadAutomation "schema violation")
  if !(← lib.isIn (get payload "automation_action") actions) then throw (.leadAutomation "schema violation")
  if !(← companyKeyMatches (getText payload "company_key")) then throw (.leadAutomation "schema violation")
  let schemaKey ← lib.hash (get payload "attributes_schema_key")
  match schemaKey, get payload "attributes" with
  | .str name, .obj attributes =>
    match attributeSchemaFields.get name with
    | some fields =>
      if !keysIn attributes fields then throw (.leadAutomation "business-unit attribute schema violation")
    | none => throw (.leadAutomation "business-unit attribute schema violation")
  | _, _ => throw (.leadAutomation "business-unit attribute schema violation")

/-- The policy key of an event; a member that cannot be hashed raises when the key is looked up. -/
def policyKey (lib : Library) (payload : Obj) : Except Error PolicyKey := do
  let environment ← lib.hash (getText payload "environment")
  let businessUnitKey ← lib.hash (get payload "business_unit_key")
  let campaignKey ← lib.hash (get payload "campaign_key")
  let eventType ← lib.hash (get payload "event_type")
  let action ← lib.hash (get payload "automation_action")
  let policyVersion ← lib.hash (get payload "policy_version")
  return ⟨environment, businessUnitKey, campaignKey, eventType, action, policyVersion⟩

/-- `consent.get(name)`. -/
def consentField (consent : Json) (name : String) : Except Error Json :=
  match consent with
  | .obj members => .ok (get members name)
  | _ => .error .attributeError

/-- What the policy of an event decides, as the transitions that follow. -/
inductive Decision where
  | denied (code : String)
  | dncBlocked
  | consentBlocked
  | allowed
  deriving DecidableEq

def Decision.steps : Decision → List (State × Json)
  | denied code => [(.policyDenied, .str code)]
  | dncBlocked => [(.dncBlocked, .str "DNC_BLOCKED")]
  | consentBlocked => [(.consentBlocked, .str "CONSENT_REQUIRED")]
  | allowed => [(.policyAllowed, .str ""), (.outboxPending, .str "")]

def attributeNames (payload : Obj) : List String :=
  match get payload "attributes" with
  | .obj members => members.map (·.1)
  | _ => []

/-- The policy stands and is switched on. -/
def admittedPolicy (s : LeadAutomationService) (payload : Obj) (policy : Option Policy) : Option Policy :=
  policy.filter fun p => p.enabled && p.allow && s.enabled &&
    (match get payload "automation_action" with
      | .str action => (s.actionSwitches.get action).getD false
      | _ => false)

/-- `policy.contact_eligible and consent.get("dnc_status") is True`. -/
def contactBlocked (policy : Policy) (consent : Json) : Except Error Bool :=
  if policy.contactEligible then
    (consentField consent "dnc_status").map fun v => match v with
      | .bool b => b
      | _ => false
  else .ok false

/-- `policy.requires_consent and consent.get("consent_status") != "granted"`. -/
def consentMissing (lib : Library) (policy : Policy) (consent : Json) : Except Error Bool :=
  if policy.requiresConsent then (consentField consent "consent_status").map fun v => !lib.same v (.str "granted")
  else .ok false

/-- The decision of a policy that stands: contact, consent and the attributes, in this order. -/
def judge (lib : Library) (policy : Policy) (payload : Obj) : Except Error Decision := do
  if ← contactBlocked policy (get payload "consent_snapshot") then return .dncBlocked
  if ← consentMissing lib policy (get payload "consent_snapshot") then return .consentBlocked
  if !(attributeNames payload).all fun name => policy.allowedFields.contains name then
    return .denied "ATTRIBUTE_NOT_ALLOWED"
  return .allowed

/-- The decision of `receive` on a checked event. -/
def evaluate (lib : Library) (s : LeadAutomationService) (payload : Obj) : Except Error Decision := do
  let key ← policyKey lib payload
  match admittedPolicy s payload (s.policies.get key) with
  | none => return .denied "DEFAULT_DENY"
  | some policy => judge lib policy payload

/-- The event of a checked payload, up to the evaluation of its policy. -/
def evaluating (payload : Obj) (id : String) : Event :=
  (Event.walk
    { automationEventId := "LAE-" ++ id
      payload := payload
      payloadHash := canonicalHash payload }
    [(.schemaValidated, .str ""), (.policyEvaluating, .str "")]).2

def outboxAfter (s : LeadAutomationService) (scope : TenantScope) (automationEventId : String) : Decision → List OutboxRow
  | .allowed => s.outbox ++
      [⟨automationEventId, "n8n.leads.ingest", scope.environment, scope.businessUnitKey, scope.campaignKey, s.bindingEnabled, 0⟩]
  | _ => s.outbox

/-- `receive`, with the id it draws and its reading of the clock. -/
def receive (lib : Library) (payload : Obj) (id now : String) (s : LeadAutomationService) : Result Obj :=
  let scope := TenantScope.fromPayload lib payload
  let digest := canonicalHash payload
  match lib.key (getText payload "idempotency_key") with
  | none => (.error .typeError, s)
  | some idem =>
    match s.idempotency.get (scope, idem) with
    | some (previousHash, response) =>
      if previousHash ≠ digest then
        (.error (.conflict "conflicting event replay"), s.quarantined (getText payload "event_id") "IDEMPOTENCY_CONFLICT")
      else (.ok response, s)
    | none =>
      match checkEvent lib payload with
      | .error e => (.error e, s)
      | .ok () =>
        match lib.key (getText payload "event_id") with
        | none => (.error .typeError, s)
        | some eventId =>
          -- the event is stored before its policy is looked up
          let s := s.put (scope, eventId) (evaluating payload id)
          match evaluate lib s payload with
          | .error e => (.error e, s)
          | .ok decision =>
            let event := ((evaluating payload id).walk decision.steps).2
            let response := status event now
            (.ok response,
              { s.put (scope, eventId) event with
                outbox := outboxAfter s scope event.automationEventId decision
                idempotency := s.idempotency.set (scope, idem) (digest, response) })

/-! ## Dispatch -/

/-- One `_transition` of the event that a call finds. -/
def transition (lib : Library) (eventId : Json) (scope : TenantScope) (target : State)
    (s : LeadAutomationService) : Result Unit :=
  match s.find lib eventId scope with
  | none => (.error notFound, s)
  | some (key, event) =>
    let (answer, event) := event.walk [(target, .str "")]
    (answer, s.put key event)

/-- `reserve_dispatch`. -/
def reserveDispatch (lib : Library) (eventId : String) (scope : TenantScope) (s : LeadAutomationService) : Result Bool :=
  match s.find lib (.str eventId) scope with
  | none => (.error notFound, s)
  | some (key, event) =>
    if event.state ≠ .outboxPending || !s.enabled || !s.bindingEnabled then (.ok false, s)
    else (.ok true, s.put key (event.walk [(.dispatchReserved, .str "")]).2)

/-- `mark_dispatched`. -/
def markDispatched (lib : Library) (eventId : String) (scope : TenantScope) : LeadAutomationService → Result Unit :=
  transition lib (.str eventId) scope .dispatched

/-- `acknowledge_n8n`. -/
def acknowledgeN8n (lib : Library) (eventId : String) (scope : TenantScope) : LeadAutomationService → Result Unit :=
  transition lib (.str eventId) scope .n8nAcknowledged

/-! ## The result of the workflow -/

def requiredResultFields : List String :=
  ["contract_version", "event_id", "workflow_execution_id", "binding_key", "environment", "company_key",
    "business_unit_key", "campaign_key", "automation_action", "result_status", "result_code", "result_payload",
    "occurred_at", "idempotency_key"]

def immutableKeys : List String :=
  ["environment", "company_key", "business_unit_key", "campaign_key", "automation_action"]

def immutableFields : List String :=
  ["consent_status", "dnc_status", "environment", "business_unit_key", "campaign_key", "policy_version"]

def checkResult (lib : Library) (payload : Obj) : Except Error Unit := do
  if !hasKeys payload requiredResultFields || !keysIn payload requiredResultFields then
    throw (.leadAutomation "result schema violation")
  if !lib.same (get payload "contract_version") (.str "1.1") then throw (.leadAutomation "result schema violation")
  if !(← companyKeyMatches (getText payload "company_key")) then throw (.leadAutomation "result schema violation")

/-- The result is bound to the event it names. -/
def bound (lib : Library) (payload original : Obj) : Bool :=
  (immutableKeys.all fun name => lib.same (get payload name) (get original name)) &&
    lib.same (get payload "binding_key") (.str "n8n.leads.ingest")

/-- `set(payload.get("result_payload", {}).get("field_updates", {}))`. -/
def resultFields (lib : Library) (payload : Obj) : Except Error (List Key) :=
  match (payload.lookup "result_payload").getD (.obj []) with
  | .obj members =>
    match (members.lookup "field_updates").getD (.obj []) with
    | .obj updates => .ok (updates.map fun m => .str m.1)
    | .arr items => items.mapM lib.hash
    | .str s => .ok (s.toList.map fun c => .str (String.ofList [c]))
    | _ => .error .typeError
  | _ => .error .attributeError

/-- The allowlist of the event's policy, as it stands when the result comes in. -/
def allowedFields (lib : Library) (s : LeadAutomationService) (original : Obj) : Except Error (List String) := do
  let key ← policyKey lib original
  match s.policies.get key with
  | some policy => return policy.allowedFields
  | none => throw (.keyError "policy")

/-- The result touches fields outside the allowlist, or immutable ones. -/
def fieldsOutside (fields : List Key) (allowed : List String) : Bool :=
  fields.any (fun field => !allowed.any fun name => field = .str name) ||
    fields.any fun field => immutableFields.any fun name => field = .str name

/-- `workflow_key`. -/
def workflowKey (lib : Library) (payload : Obj) : Except Error (Key × Key) := do
  let environment ← lib.hash (get payload "environment")
  let workflowExecutionId ← lib.hash (get payload "workflow_execution_id")
  return (environment, workflowExecutionId)

def resultSteps : List (State × Json) :=
  [(.resultReceived, .str ""), (.resultValidated, .str ""), (.odooApplyPending, .str "")]

/-- `receive_result` on the event it found, whose result is still missing. -/
def acceptResult (lib : Library) (payload : Obj) (key : ScopedKey) (event : Event) (s : LeadAutomationService) : Result Obj :=
  if !bound lib payload event.payload then
    (.error (.conflict "immutable binding conflict"), s.put key { event with state := .quarantined })
  else
    match allowedFields lib s event.payload with
    | .error e => (.error e, s)
    | .ok allowed =>
      match resultFields lib payload with
      | .error e => (.error e, s)
      | .ok fields =>
        if fieldsOutside fields allowed then
          (.error (.conflict "result field outside policy allowlist"), s.put key { event with state := .quarantined })
        else
          match workflowKey lib payload with
          | .error e => (.error e, s)
          | .ok workflow =>
            if s.workflowIds.contains workflow then
              (.error (.conflict "duplicate workflow execution"), s.put key { event with state := .quarantined })
            else
              let s := { s with workflowIds := s.workflowIds ++ [workflow] }
              match event.walk resultSteps with
              | (.error e, event) => (.error e, s.put key event)
              | (.ok (), event) =>
                let response : Obj :=
                  [("automation_event_id", .str event.automationEventId), ("state", .str event.state.value), ("accepted", .bool true)]
                (.ok response, s.put key
                  { event with
                    resultHash := some (canonicalHash payload)
                    resultResponse := some response
                    resultPayload := some payload })

/-- `receive_result`. -/
def receiveResult (lib : Library) (payload : Obj) (scope : TenantScope) (s : LeadAutomationService) : Result Obj :=
  if scope ≠ TenantScope.fromPayload lib payload then (.error notFound, s)
  else
    match s.find lib (getText payload "event_id") scope with
    | none => (.error notFound, s)
    | some (key, event) =>
      match event.resultHash with
      | some hash =>
        if hash ≠ canonicalHash payload then
          (.error (.conflict "conflicting result replay"),
            (s.put key { event with state := .quarantined }).quarantined (getText payload "event_id") "RESULT_CONFLICT")
        else (.ok (event.resultResponse.getD []), s)
      | none =>
        if !s.resultProcessingEnabled then (.error (.leadAutomation "result processing disabled"), s)
        else
          match checkResult lib payload with
          | .error e => (.error e, s)
          | .ok () => acceptResult lib payload key event s

/-! ## The acknowledgement of Odoo -/

def ackSteps (ack : Obj) : Classification → List (State × Json)
  | .complete => [(.odooApplied, .str ""), (.completed, .str "")]
  | .retry => [(.retryPending, get ack "result_code")]
  | .permanent =>
    match get ack "result" with
    | .str "DENIED" => [(.policyDenied, (ack.lookup "result_code").getD (.str "DENIED"))]
    | .str "CONSENT_BLOCKED" => [(.consentBlocked, (ack.lookup "result_code").getD (.str "CONSENT_BLOCKED"))]
    | .str "DNC_BLOCKED" => [(.dncBlocked, (ack.lookup "result_code").getD (.str "DNC_BLOCKED"))]
    | result => [(.quarantined, (ack.lookup "result_code").getD result)]

/-- `apply_odoo_ack` on an event that waits for it. -/
def applyPending (lib : Library) (ack : Obj) (now : String) (key : ScopedKey) (event : Event) (result : Obj)
    (s : LeadAutomationService) : Result Obj :=
  match buildApplyPayload lib event.payload result event.automationEventId with
  | .error e => (.error e, s)
  | .ok request =>
    match validateAck lib ack request with
    | .error (.ackValidation _) =>
      (.error (.conflict "Odoo acknowledgement schema or binding mismatch"),
        (s.put key { event with state := .quarantined }).quarantined (get event.payload "event_id") "ODOO_ACK_INVALID")
    | .error e => (.error e, s)
    | .ok () =>
      match classifyAck lib ack with
      | .error e => (.error e, s)
      | .ok classification =>
        let s := { s with odooOperations := s.odooOperations + 1 }
        match Event.walk { event with odooAck := some ack } (ackSteps ack classification) with
        | (.error e, event) => (.error e, s.put key event)
        | (.ok (), event) => (.ok (status event now), s.put key event)

/-- An acknowledgement that the event cannot take. -/
def refuseAck (key : ScopedKey) (event : Event) (s : LeadAutomationService) : Result Obj :=
  (.error (.conflict "Odoo acknowledgement without pending apply"), s.put key { event with state := .quarantined })

/-- The event takes the acknowledgement when it waits for one, and is quarantined otherwise. -/
def takeAck (lib : Library) (ack : Obj) (now : String) (key : ScopedKey) (event : Event)
    (s : LeadAutomationService) : Result Obj :=
  match event.resultPayload with
  | none => refuseAck key event s
  | some result =>
    if event.state ≠ .odooApplyPending then refuseAck key event s else applyPending lib ack now key event result s

/-- `apply_odoo_ack`. -/
def applyOdooAck (lib : Library) (eventId : String) (ack : Obj) (scope : TenantScope) (now : String)
    (s : LeadAutomationService) : Result Obj :=
  match s.find lib (.str eventId) scope with
  | none => (.error notFound, s)
  | some (key, event) =>
    if !s.odooApplyEnabled then (.error (.leadAutomation "Odoo apply disabled"), s)
    else
      match event.odooAck with
      | none => takeAck lib ack now key event s
      | some previous =>
        if canonicalHash previous = canonicalHash ack then (.ok (status event now), s)
        else
          match classifyAck lib previous with
          | .error e => (.error e, s)
          | .ok classification =>
            if classification = .retry ∧ event.state = .odooApplyPending then takeAck lib ack now key event s
            else
              (.error (.conflict "conflicting Odoo acknowledgement replay"),
                (s.put key { event with state := .quarantined }).quarantined (get event.payload "event_id") "ODOO_ACK_CONFLICT")

/-! ## Retries and reconciliation -/

/-- `record_retry`. -/
def recordRetry (lib : Library) (eventId : String) (scope : TenantScope) (attempts maximumAttempts : Int)
    (s : LeadAutomationService) : Result State :=
  match s.find lib (.str eventId) scope with
  | none => (.error notFound, s)
  | some (key, event) =>
    let steps : List (State × Json) :=
      if maximumAttempts ≤ attempts then
        if event.state = .retryPending then [(.failedTerminal, .str "")]
        else [(.retryPending, .str ""), (.failedTerminal, .str "")]
      else [(.retryPending, .str "")]
    let (answer, event) := event.walk steps
    (answer.map fun _ => event.state, s.put key event)

/-- `reconcile`. -/
def reconcile (lib : Library) (scope : TenantScope) (s : LeadAutomationService) : List String :=
  s.events.flatMap fun (_, event) =>
    if TenantScope.fromPayload lib event.payload ≠ scope then []
    else
      (if !event.state.terminal && !(["RECEIVED", "SCHEMA_VALIDATED", "POLICY_EVALUATING"].contains event.state.value) &&
          !s.outbox.any (fun row => row.automationEventId = event.automationEventId)
        then [event.automationEventId ++ ":event_without_outbox"] else []) ++
      (if event.state = .odooApplied && (match event.odooAck with
          | none => true
          | some ack => ack.isEmpty)
        then [event.automationEventId ++ ":missing_acknowledgement"] else [])

/-! ## Calls -/

/-- A call of the service, or an assignment to one of its switches. -/
inductive Call where
  | switch (enabled bindingEnabled resultProcessingEnabled odooApplyEnabled : Bool)
  | switchAction (action : String) (on : Bool)
  | addPolicy (policy : Policy)
  | receive (payload : Obj) (id now : String)
  | reserveDispatch (eventId : String) (scope : TenantScope)
  | markDispatched (eventId : String) (scope : TenantScope)
  | acknowledgeN8n (eventId : String) (scope : TenantScope)
  | receiveResult (payload : Obj) (scope : TenantScope)
  | applyOdooAck (eventId : String) (ack : Obj) (scope : TenantScope) (now : String)
  | recordRetry (eventId : String) (scope : TenantScope) (attempts maximumAttempts : Int)
  | reconcile (scope : TenantScope)

/-- The state a call leaves, answered or raised. -/
def call (lib : Library) (c : Call) (s : LeadAutomationService) : LeadAutomationService :=
  match c with
  | .switch enabled bindingEnabled resultProcessingEnabled odooApplyEnabled =>
    { s with
      enabled := enabled
      bindingEnabled := bindingEnabled
      resultProcessingEnabled := resultProcessingEnabled
      odooApplyEnabled := odooApplyEnabled }
  | .switchAction action on => { s with actionSwitches := s.actionSwitches.set action on }
  | .addPolicy policy => s.addPolicy policy
  | .receive payload id now => (Lead.receive lib payload id now s).2
  | .reserveDispatch eventId scope => (Lead.reserveDispatch lib eventId scope s).2
  | .markDispatched eventId scope => (Lead.markDispatched lib eventId scope s).2
  | .acknowledgeN8n eventId scope => (Lead.acknowledgeN8n lib eventId scope s).2
  | .receiveResult payload scope => (Lead.receiveResult lib payload scope s).2
  | .applyOdooAck eventId ack scope now => (Lead.applyOdooAck lib eventId ack scope now s).2
  | .recordRetry eventId scope attempts maximumAttempts => (Lead.recordRetry lib eventId scope attempts maximumAttempts s).2
  | .reconcile _ => s

end Middleware.Lead

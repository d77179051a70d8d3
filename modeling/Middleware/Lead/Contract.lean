/-
The Odoo contract of the lead automation (`app/adapters/odoo/lead_automation.py`) as `LeadAutomationService` uses it:
the apply payload built from an event and a result, its validation, and the validation and classification of an
acknowledgement.

Payloads are arbitrary JSON objects, so a value may be one that Python cannot hash, compare or index; what then raises is
an `Error` like the source's own.
-/
import Middleware.Data.Json
import Middleware.Lib.OrderedDict

namespace Middleware.Lead

open Lib

/-- A value as the key of a dictionary or the member of a set: `True`, `1` and `1.0` are one key. -/
inductive Key where
  | none
  | number (n : Int)
  | float (repr : String)
  | str (s : String)
  deriving DecidableEq

/-- What the language and its library answer. -/
structure Library where
  /-- `str(value)` of a value that is not a string. -/
  str : Json → String
  /-- The integer a float is equal to, if there is one. -/
  integral : String → Option Int
  /-- Whether `UUID(text)` accepts a text. -/
  isUuid : String → Bool
  /-- `datetime.fromisoformat(text)`: nothing for a `ValueError`, else whether the instant is timezone-aware. -/
  fromisoformat : String → Option Bool

inductive Error where
  | leadAutomation (message : String)
  | conflict (message : String)
  | typeError
  | attributeError
  | keyError (key : String)
  | applySchema (message : String)
  | ackValidation (message : String)
  deriving DecidableEq

namespace Library

variable (lib : Library)

/-- `str(value)`. -/
def text : Json → String
  | .str s => s
  | value => lib.str value

/-- The key a value is stored under; a list or a mapping cannot be hashed. -/
def key : Json → Option Key
  | .null => some .none
  | .bool b => some (.number (if b then 1 else 0))
  | .int n => some (.number n)
  | .float r => some (match lib.integral r with
    | some n => .number n
    | none => .float r)
  | .str s => some (.str s)
  | .arr _ => none
  | .obj _ => none

/-- `hash(value)`. -/
def hash (value : Json) : Except Error Key :=
  match lib.key value with
  | some k => .ok k
  | none => .error .typeError

/-- `value in names`, for a set of strings. -/
def isIn (value : Json) (names : List String) : Except Error Bool :=
  (lib.hash value).map fun k => names.any fun name => k = .str name

mutual

/-- `a == b`. -/
def same : Json → Json → Bool
  | .arr items, .arr items' => sameItems items items'
  | .obj members, .obj members' => members.length == members'.length && sameMembers members members'
  | a, b =>
    match lib.key a, lib.key b with
    | some k, some k' => k = k'
    | _, _ => false

def sameItems : List Json → List Json → Bool
  | [], [] => true
  | a :: rest, b :: rest' => same a b && sameItems rest rest'
  | _, _ => false

def sameMembers : Obj → Obj → Bool
  | [], _ => true
  | (name, value) :: rest, members =>
    (match members.lookup name with
      | some value' => same value value'
      | none => false) && sameMembers rest members

end

end Library

/-- `payload[name]`. -/
def index (payload : Obj) (name : String) : Except Error Json :=
  match payload.lookup name with
  | some value => .ok value
  | none => .error (.keyError name)

/-- `payload.get(name)`. -/
def get (payload : Obj) (name : String) : Json := (payload.lookup name).getD .null

/-- `payload.get(name, "")`. -/
def getText (payload : Obj) (name : String) : Json := (payload.lookup name).getD (.str "")

/-- `set(names) <= payload.keys()`. -/
def hasKeys (payload : Obj) (names : List String) : Bool := names.all fun name => (payload.lookup name).isSome

/-- `payload.keys() <= set(names)`. -/
def keysIn (payload : Obj) (names : List String) : Bool := payload.all fun m => names.contains m.1

/-! ## The attribute schemas -/

/-- A pattern `^lead[letters]{low,high}$`. -/
structure Pattern where
  lead : String
  letters : Char → Bool
  low : Nat
  high : Nat

/-- `re.fullmatch(pattern, value)`. -/
def Pattern.fullmatch (p : Pattern) (value : String) : Bool :=
  p.lead.toList.isPrefixOf value.toList &&
    (let rest := value.toList.drop p.lead.toList.length
     rest.all p.letters && decide (p.low ≤ rest.length) && decide (rest.length ≤ p.high))

/-- `re.fullmatch(r"COMPANY-[1-9][0-9]{0,9}", value)`. -/
def isCompanyKey (value : String) : Bool :=
  match ("COMPANY-".toList.isPrefixOf value.toList, value.toList.drop "COMPANY-".toList.length) with
  | (true, c :: rest) => c.isDigit && c != '0' && rest.all Char.isDigit && decide (rest.length ≤ 9)
  | _ => false

/-- The rule of an attribute in its registered schema. -/
inductive Rule where
  | enum (values : List String)
  | boolean
  | string (pattern : Pattern)

def reference (lead : String) : Pattern :=
  ⟨lead, fun c => c.isAlphanum || c == '_' || c == '-', 8, 64⟩

def code (high : Nat) : Pattern :=
  ⟨"", fun c => c.isUpper || c.isDigit || c == '_' || c == '-', 2, high⟩

/-- The `properties` of the schemas in `schemas/lead-automation`; each has as many as its `maxProperties`. -/
def attributeSchema : OrderedDict String (OrderedDict String Rule) :=
  [("transportation-logistics-lead-v1",
      [("contact_reference", .string (reference "CONTACT-")),
        ("shipment_mode", .enum ["GROUND", "AIR", "SEA", "MULTIMODAL"]),
        ("origin_region", .string (code 16)),
        ("destination_region", .string (code 16)),
        ("load_class", .enum ["PARCEL", "LTL", "FTL", "CONTAINER"]),
        ("estimated_volume_band", .enum ["LOW", "MEDIUM", "HIGH"])]),
    ("web-mobile-ai-lead-v1",
      [("contact_reference", .string (reference "CONTACT-")),
        ("solution_type", .enum ["WEB", "MOBILE", "AI", "INTEGRATION"]),
        ("company_size_band", .enum ["MICRO", "SMALL", "MEDIUM", "ENTERPRISE"]),
        ("budget_band", .enum ["LOW", "MEDIUM", "HIGH"]),
        ("delivery_window", .enum ["IMMEDIATE", "QUARTER", "HALF_YEAR", "UNSPECIFIED"])]),
    ("senior-citizen-products-lead-v1",
      [("contact_reference", .string (reference "CONTACT-")),
        ("product_category", .enum ["MOBILITY", "SAFETY", "WELLNESS", "HOME_SUPPORT"]),
        ("service_region", .string (code 16)),
        ("accessibility_support", .boolean)]),
    ("business-loan-lead-v1",
      [("contact_reference", .string (reference "CONTACT-")),
        ("loan_purpose", .enum ["WORKING_CAPITAL", "EQUIPMENT", "EXPANSION", "REFINANCE"]),
        ("amount_band", .enum ["MICRO", "SMALL", "MEDIUM", "LARGE"]),
        ("business_age_band", .enum ["STARTUP", "ONE_TO_THREE", "FOUR_PLUS"]),
        ("industry_key", .string (code 24))]),
    ("real-estate-lead-v1",
      [("contact_reference", .string (reference "CONTACT-")),
        ("transaction_type", .enum ["BUY", "SELL", "RENT", "INVEST"]),
        ("property_type", .enum ["RESIDENTIAL", "COMMERCIAL", "LAND"]),
        ("region_key", .string (code 16)),
        ("budget_band", .enum ["LOW", "MEDIUM", "HIGH", "PREMIUM"])]),
    ("fundraising-lead-v1",
      [("contact_reference", .string (reference "CONTACT-")),
        ("campaign_type", .enum ["NONPROFIT", "COMMUNITY", "EDUCATION", "MEDICAL"]),
        ("interest_band", .enum ["LOW", "MEDIUM", "HIGH"]),
        ("region_key", .string (code 16))]),
    ("trading-ai-lead-v1",
      [("contact_reference", .string (reference "CONTACT-")),
        ("experience_band", .enum ["BEGINNER", "INTERMEDIATE", "ADVANCED"]),
        ("product_interest", .enum ["ANALYTICS", "AUTOMATION", "EDUCATION"]),
        ("risk_profile_reference", .string (reference "RISK-"))]),
    ("farming-lead-v1",
      [("contact_reference", .string (reference "CONTACT-")),
        ("operation_type", .enum ["CROP", "LIVESTOCK", "MIXED", "PROCESSING"]),
        ("acreage_band", .enum ["SMALL", "MEDIUM", "LARGE"]),
        ("region_key", .string (code 16)),
        ("solution_interest", .enum ["EQUIPMENT", "INPUTS", "FINANCE", "TECHNOLOGY"])])]

/-! ## The apply payload -/

def actions : List String :=
  ["CREATE_LEAD", "UPDATE_ALLOWLISTED_FIELDS", "ASSIGN_AUTHORIZED_TEAM", "ASSIGN_AUTHORIZED_USER",
    "CHANGE_AUTHORIZED_STAGE", "CREATE_INTERNAL_CALLBACK_ACTIVITY"]

def environments : List String := ["test", "staging", "production"]

def ackResults : List String :=
  ["APPLIED", "NO_CHANGE", "DENIED", "CONSENT_BLOCKED", "DNC_BLOCKED", "QUARANTINED", "FAILED"]

def retryableResultCodes : List String := ["TEMPORARY_UNAVAILABLE", "ODOO_TEMPORARY_UNAVAILABLE"]

def requiredApplyFields : List String :=
  ["contract_version", "automation_event_id", "idempotency_key", "environment", "company_key",
    "business_unit_key", "campaign_key", "automation_action", "policy_version", "correlation_id",
    "attributes_schema_key", "attributes", "consent_snapshot", "workflow_execution_id", "result_code"]

def optionalApplyFields : List String := ["lead_uid", "source_reference"]

def requiredAckFields : List String :=
  ["contract_version", "automation_event_id", "automation_action", "lead_uid", "odoo_record_id", "result",
    "applied_fields", "unchanged_fields", "rejected_fields", "company_key", "business_unit_key",
    "campaign_key", "policy_version", "updated_at", "idempotent_replay"]

def ackOptionalFields : List String := ["result_code"]

/-- `_bounded_string`. -/
def boundedString (value : Json) (label : String) (maximum : Nat) (start : String := "") : Except Error String :=
  match value with
  | .str s =>
    if s.isEmpty || decide (maximum < s.length) then .error (.applySchema s!"invalid {label}")
    else if !start.isEmpty && !start.toList.isPrefixOf s.toList then .error (.applySchema s!"invalid {label}")
    else .ok s
  | _ => .error (.applySchema s!"invalid {label}")

def checkAttribute (rule : Rule) (value : Json) : Bool :=
  match rule, value with
  | .enum values, .str s => values.contains s
  | .boolean, .bool _ => true
  | .string pattern, .str s => pattern.fullmatch s
  | _, _ => false

/-- `_validate_attributes`. -/
def validateAttributes (schemaKey : String) (attributes : Json) : Except Error Unit :=
  match attributeSchema.get schemaKey with
  | none => .error (.applySchema "unknown attributes_schema_key")
  | some properties =>
    match attributes with
    | .obj members =>
      if properties.length < members.length then .error (.applySchema "invalid attributes")
      else if !keysIn members properties.keys then .error (.applySchema "attribute outside registered schema")
      else members.forM fun m =>
        match properties.get m.1 with
        | none => .error (.keyError m.1)
        | some rule => if checkAttribute rule m.2 then .ok () else .error (.applySchema s!"invalid attribute {m.1}")
    | _ => .error (.applySchema "invalid attributes")

/-- The fields of an apply payload that are bounded strings, with their bounds. -/
def boundedFields : List (String × Nat) :=
  [("company_key", 18), ("business_unit_key", 63), ("campaign_key", 64), ("policy_version", 32),
    ("attributes_schema_key", 64), ("result_code", 48)]

/-- The optional fields of an apply payload, with how they start and their bounds. -/
def optionalFields : List (String × String × Nat) :=
  [("lead_uid", "LEAD-", 69), ("source_reference", "SRC-", 68)]

def consentFields : List String :=
  ["consent_status", "consent_purpose", "consent_source", "consent_updated_at", "dnc_status",
    "dnc_updated_at", "jurisdiction", "source_system"]

/-- The last check of `validate_apply`. -/
def validateConsent (lib : Library) (consent : Json) : Except Error Unit :=
  match consent with
  | .obj members =>
    if !hasKeys members consentFields || !keysIn members consentFields then
      .error (.applySchema "invalid consent_snapshot")
    else do
      let known ← lib.isIn (get members "consent_status") ["granted", "denied", "expired", "unknown"]
      match known, get members "dnc_status" with
      | true, .bool _ => .ok ()
      | _, _ => .error (.applySchema "invalid consent_snapshot")
  | _ => .error (.applySchema "invalid consent_snapshot")

/-- `validate_apply`. -/
def validateApply (lib : Library) (payload : Obj) : Except Error Unit := do
  if !hasKeys payload requiredApplyFields || !keysIn payload (requiredApplyFields ++ optionalApplyFields) then
    throw (.applySchema "apply fields do not match contract")
  if !lib.same (get payload "contract_version") (.str "1.1") then throw (.applySchema "contract version mismatch")
  let _ ← boundedString (get payload "automation_event_id") "automation_event_id" 68 "LAE-"
  let idem ← boundedString (get payload "idempotency_key") "idempotency_key" 64
  if idem.length ≠ 64 || !idem.toList.all (fun c => "0123456789abcdefABCDEF".toList.contains c) then
    throw (.applySchema "invalid idempotency_key")
  if !(← lib.isIn (get payload "environment") environments) then throw (.applySchema "invalid apply enum")
  if !(← lib.isIn (get payload "automation_action") actions) then throw (.applySchema "invalid apply enum")
  boundedFields.forM fun f => discard (boundedString (get payload f.1) f.1 f.2)
  if !isCompanyKey (lib.text (get payload "company_key")) then throw (.applySchema "invalid company_key")
  if !lib.isUuid (lib.text (get payload "correlation_id")) then throw (.applySchema "invalid correlation_id")
  let _ ← boundedString (get payload "workflow_execution_id") "workflow_execution_id" 68 "N8N-"
  optionalFields.forM fun f =>
    match payload.lookup f.1 with
    | some value => discard (boundedString value f.1 f.2.2 f.2.1)
    | none => pure ()
  validateAttributes (lib.text (get payload "attributes_schema_key")) (get payload "attributes")
  validateConsent lib (get payload "consent_snapshot")

/-- `build_apply_payload`. -/
def buildApplyPayload (lib : Library) (event result : Obj) (automationEventId : String) : Except Error Obj := do
  let idempotencyKey ← index event "idempotency_key"
  let environment ← index event "environment"
  let companyKey ← index event "company_key"
  let businessUnitKey ← index event "business_unit_key"
  let campaignKey ← index event "campaign_key"
  let automationAction ← index event "automation_action"
  let policyVersion ← index event "policy_version"
  let correlationId ← index event "correlation_id"
  let attributesSchemaKey ← index event "attributes_schema_key"
  let attributes ← index event "attributes"
  let consentSnapshot ← index event "consent_snapshot"
  let workflowExecutionId ← index result "workflow_execution_id"
  let resultCode ← index result "result_code"
  let payload : Obj :=
    [("contract_version", .str "1.1"), ("automation_event_id", .str automationEventId),
      ("idempotency_key", idempotencyKey), ("environment", environment), ("company_key", companyKey),
      ("business_unit_key", businessUnitKey), ("campaign_key", campaignKey),
      ("automation_action", automationAction), ("policy_version", policyVersion),
      ("correlation_id", correlationId), ("attributes_schema_key", attributesSchemaKey),
      ("attributes", attributes), ("consent_snapshot", consentSnapshot),
      ("workflow_execution_id", workflowExecutionId), ("result_code", resultCode)] ++
    optionalApplyFields.filterMap fun name => (event.lookup name).map fun value => (name, value)
  validateApply lib payload
  return payload

/-! ## Acknowledgements -/

/-- The fields an acknowledgement repeats from the request. -/
def boundAckFields : List String :=
  ["automation_event_id", "automation_action", "company_key", "business_unit_key", "campaign_key", "policy_version"]

/-- `isinstance(value, int) and value >= 1`; a boolean is an integer. -/
def positiveInt : Json → Bool
  | .int n => decide (1 ≤ n)
  | .bool b => b
  | _ => false

/-- The check of one of the lists of fields in an acknowledgement. -/
def validateFieldList (lib : Library) (field : String) (value : Json) : Except Error Unit :=
  match value with
  | .arr values =>
    if 20 < values.length then .error (.ackValidation s!"invalid {field}")
    else do
      let keys ← values.mapM lib.hash
      if decide keys.Nodup && values.all (fun v => match v with
          | .str s => !s.isEmpty && decide (s.length ≤ 48)
          | _ => false) then .ok ()
      else .error (.ackValidation s!"invalid {field}")
  | _ => .error (.ackValidation s!"invalid {field}")

/-- `validate_ack`. -/
def validateAck (lib : Library) (ack request : Obj) : Except Error Unit := do
  if !hasKeys ack requiredAckFields || !keysIn ack (requiredAckFields ++ ackOptionalFields) then
    throw (.ackValidation "ack fields do not match contract")
  if !lib.same (get ack "contract_version") (.str "1.1") then
    throw (.ackValidation "unknown acknowledgement contract or result")
  if !(← lib.isIn (get ack "result") ackResults) then
    throw (.ackValidation "unknown acknowledgement contract or result")
  boundAckFields.forM fun field => do
    let expected ← index request field
    if !lib.same (get ack field) expected then throw (.ackValidation s!"ack {field} mismatch")
  match get request "lead_uid" with
  | .null => pure ()
  | expectedLead => if !lib.same (get ack "lead_uid") expectedLead then throw (.ackValidation "ack lead_uid mismatch")
  match boundedString (get ack "lead_uid") "lead_uid" 69 "LEAD-" with
  | .ok _ => pure ()
  | .error _ => throw (.ackValidation "invalid lead_uid")
  match get ack "odoo_record_id" with
  | .null =>
    if (← lib.isIn (get ack "result") ["APPLIED", "NO_CHANGE"]) then
      throw (.ackValidation "successful ack requires odoo_record_id")
  | value => if !positiveInt value then throw (.ackValidation "invalid odoo_record_id")
  ["applied_fields", "unchanged_fields", "rejected_fields"].forM fun field => validateFieldList lib field (get ack field)
  match get ack "idempotent_replay" with
  | .bool _ => pure ()
  | _ => throw (.ackValidation "invalid idempotent_replay")
  match get ack "updated_at" with
  | .str s => if lib.fromisoformat s ≠ some true then throw (.ackValidation "invalid updated_at")
  | _ => throw .typeError
  if lib.same (get ack "result") (.str "FAILED") then
    match get ack "result_code" with
    | .null => throw (.ackValidation "FAILED requires result_code")
    | _ => pure ()

inductive Classification where
  | complete
  | retry
  | permanent
  deriving DecidableEq

/-- `classify_ack`. -/
def classifyAck (lib : Library) (ack : Obj) : Except Error Classification := do
  let result ← index ack "result"
  if (← lib.isIn result ["APPLIED", "NO_CHANGE"]) then return .complete
  if lib.same result (.str "FAILED") then
    if (← lib.isIn (get ack "result_code") retryableResultCodes) then return .retry
  return .permanent

end Middleware.Lead

/-
The alerts of Alertmanager and the notification commands built from them (`app/observability_alert_contract.py`).

An instant is a reading of a clock in microseconds; what a client sends carries the offset of its time zone as well, which
shows in its text only. The functions of other libraries are parameters, and so is what the ledger's `CommandEnvelope`
refuses.
-/
import Middleware.Ledger.Memory
import Middleware.Lib.OrderedDict

namespace Middleware.Incidents

open Ledger Lib

/-- A `datetime` with its time zone. -/
structure Moment where
  instant : Time
  utcoffset : Time
  deriving DecidableEq

/-- `datetime.now(UTC)`. -/
def Moment.utc (now : Time) : Moment := ⟨now, 0⟩

structure Library where
  /-- `uuid.uuid5(uuid.NAMESPACE_URL, text)`. -/
  uuid5 : String → Uuid
  isoformat : Moment → String
  jsonTime : Moment → String
  upper : String → String
  /-- What `CommandEnvelope(...)` raises for a command. -/
  refuses : CommandEnvelope → Option Exc

def seconds (n : Nat) : Time := n * 1000000

structure AlertPolicy where
  tenantId : String
  receiver : String
  recipientPolicyId : String
  senderPolicyId : String
  recipient : String
  sender : String
  replyTo : String
  warningGroupWaitSeconds : Nat
  warningRepeatIntervalSeconds : Nat
  wait : 30 ≤ warningGroupWaitSeconds ∧ warningGroupWaitSeconds ≤ 3600
  interval : 900 ≤ warningRepeatIntervalSeconds ∧ warningRepeatIntervalSeconds ≤ 86400
  exceeds : warningGroupWaitSeconds < warningRepeatIntervalSeconds

inductive AlertStatus where
  | firing
  | resolved
  deriving DecidableEq

def AlertStatus.value : AlertStatus → String
  | firing => "firing"
  | resolved => "resolved"

/-- `require_core_labels`. -/
def requiredLabels : List String :=
  ["alertname", "severity", "service", "environment", "host", "codestra_business", "owner"]

def requiredAnnotations : List String := ["summary", "description", "runbook_url"]

structure AlertmanagerAlert where
  status : AlertStatus
  labels : OrderedDict String String
  annotations : OrderedDict String String
  startsAt : Moment
  endsAt : Moment
  generatorUrl : String
  fingerprint : String
  labelled : ∀ label ∈ requiredLabels, label ∈ labels.keys
  annotated : ∀ annotation ∈ requiredAnnotations, annotation ∈ annotations.keys
  ended : status = .resolved → startsAt.instant < endsAt.instant

namespace AlertmanagerAlert

variable (alert : AlertmanagerAlert)

/-- `alert.labels[label]` of a required label. -/
def label (name : String) : String := (alert.labels.get name).getD ""

def annotation (name default : String) : String := (alert.annotations.get name).getD default

end AlertmanagerAlert

def members (d : OrderedDict String String) : Json := .obj (d.map fun m => (m.1, .str m.2))

/-- `model_dump(mode="json")`. -/
def AlertmanagerAlert.modelDump (lib : Library) (alert : AlertmanagerAlert) : Obj :=
  [("status", .str alert.status.value), ("labels", members alert.labels), ("annotations", members alert.annotations),
    ("starts_at", .str (lib.jsonTime alert.startsAt)), ("ends_at", .str (lib.jsonTime alert.endsAt)),
    ("generator_url", .str alert.generatorUrl), ("fingerprint", .str alert.fingerprint)]

/-! ## Commands -/

/-- `"\n".join(lines)`. -/
def joinLines (lines : List String) : String := "\n".intercalate lines

/-- `idempotency_identity`. -/
def idempotencyIdentity (lib : Library) (policy : AlertPolicy) (alert : AlertmanagerAlert) (groupKey receiver : String) : String :=
  "obs-alert-v1:" ++ Sha256.hexdigest (joinLines
    ["codestra-observability-alert-v1", groupKey, alert.fingerprint, alert.status.value, receiver, alert.label "environment",
      policy.recipientPolicyId, lib.isoformat alert.startsAt])

/-- `subject`. -/
def subject (lib : Library) (alert : AlertmanagerAlert) : String :=
  let state := if alert.status = .firing then "FIRING" else "RESOLVED"
  let severity := lib.upper (alert.label "severity")
  clip 998 ("[Codestra][" ++ state ++ "][" ++ severity ++ "] " ++ alert.label "alertname" ++ " on " ++ alert.label "host")

/-- The lines of a notification, as names and values. -/
def bodyFields (lib : Library) (alert : AlertmanagerAlert) (correlationId : String) (incidentId : Uuid) (firstSeen : Moment) :
    List (String × String) :=
  [("State", lib.upper alert.status.value), ("Severity", alert.label "severity"), ("Environment", alert.label "environment"),
    ("Business", alert.label "codestra_business"), ("Service", alert.label "service"), ("Host", alert.label "host"),
    ("Incident ID", incidentId), ("Summary", alert.annotation "summary" (alert.label "alertname")),
    ("Description", alert.annotation "description" ""), ("First seen", lib.isoformat firstSeen),
    ("Ended", if alert.status = .resolved then lib.isoformat alert.endsAt else ""), ("Fingerprint", alert.fingerprint),
    ("Runbook", alert.annotation "runbook_url" ""), ("Dashboard", alert.annotation "dashboard_url" ""),
    ("Correlation ID", correlationId), ("Release ID", (alert.labels.get "release_id").getD "")]

/-- `text_body`. -/
def textBody (lib : Library) (alert : AlertmanagerAlert) (correlationId : String) (incidentId : Uuid) (firstSeen : Moment) : String :=
  joinLines ((bodyFields lib alert correlationId incidentId firstSeen).map fun field => s!"{field.1}: {field.2}")

/-- `html.escape`. -/
def escapeHtml (text : String) : String :=
  String.ofList (text.toList.flatMap fun c =>
    if c = '&' then "&amp;".toList
    else if c = '<' then "&lt;".toList
    else if c = '>' then "&gt;".toList
    else if c.toNat = 34 then "&quot;".toList
    else if c.toNat = 39 then "&#x27;".toList
    else [c])

/-- `html_body`. -/
def htmlBody (lib : Library) (alert : AlertmanagerAlert) (correlationId : String) (incidentId : Uuid) (firstSeen : Moment) : String :=
  let rows := String.join ((bodyFields lib alert correlationId incidentId firstSeen).map fun field =>
    "<tr><th align='left'>" ++ escapeHtml field.1 ++ "</th><td>" ++ escapeHtml field.2 ++ "</td></tr>")
  "<!doctype html><html><body><h1>Codestra Observability Alert</h1><table>" ++ rows ++ "</table></body></html>"

/-- `build_command`, before the envelope's checks. -/
def commandOf (lib : Library) (policy : AlertPolicy) (alert : AlertmanagerAlert) (groupKey receiver actor correlationId : String)
    (incidentId : Uuid) (firstSeen : Moment) : CommandEnvelope :=
  let idempotencyKey := idempotencyIdentity lib policy alert groupKey receiver
  let commandId := lib.uuid5 s!"https://operations.codestra.co/observability/alerts/{idempotencyKey}"
  { commandId := commandId
    commandType := "observability.alert.email.send.v1"
    commandVersion := "1.0"
    target := "klyrow-alert-email"
    tenantId := policy.tenantId
    requestedBy := actor
    correlationId := correlationId
    idempotencyKey := idempotencyKey
    capability := "OBSERVABILITY_ALERT_EMAIL_DELIVERY"
    payload :=
      [("schema_version", .str "1.0"), ("message_id", .str commandId), ("from", .str policy.sender),
        ("to", .arr [.str policy.recipient]), ("reply_to", .str policy.replyTo),
        ("content", .obj [("subject", .str (subject lib alert)),
          ("text", .str (textBody lib alert correlationId incidentId firstSeen)),
          ("html", .str (htmlBody lib alert correlationId incidentId firstSeen))]),
        ("classification", .str "operational-alert"), ("recipient_policy_id", .str policy.recipientPolicyId),
        ("sender_policy_id", .str policy.senderPolicyId),
        ("alert", .obj [("incident_id", .str incidentId), ("group_key", .str groupKey), ("fingerprint", .str alert.fingerprint),
          ("state", .str alert.status.value), ("severity", .str (alert.label "severity")),
          ("service", .str (alert.label "service")), ("host", .str (alert.label "host")),
          ("environment", .str (alert.label "environment")), ("codestra_business", .str (alert.label "codestra_business")),
          ("first_seen_at", .str (lib.isoformat firstSeen)), ("starts_at", .str (lib.isoformat alert.startsAt)),
          ("ends_at", .str (lib.isoformat alert.endsAt)), ("generator_url", .str alert.generatorUrl),
          ("labels", members alert.labels), ("annotations", members alert.annotations)])] }

/-- `CommandEnvelope(...)`, which checks the command. -/
def Library.envelope (lib : Library) (command : CommandEnvelope) : Except Exc CommandEnvelope :=
  match lib.refuses command with
  | some e => .error e
  | none => .ok command

/-- `build_command`. -/
def buildCommand (lib : Library) (policy : AlertPolicy) (alert : AlertmanagerAlert) (groupKey receiver actor correlationId : String)
    (incidentId : Uuid) (firstSeen : Moment) : Except Exc CommandEnvelope :=
  lib.envelope (commandOf lib policy alert groupKey receiver actor correlationId incidentId firstSeen)

end Middleware.Incidents

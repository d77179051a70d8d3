/-
The channel policy `evaluate` of `app/core/policy_engine.py`. A decision is read off the list of its reasons: it allows
when there is none. The texts of `data_freshness`, which nothing reads, are left out.

Instants and times of day are in microseconds. A naive datetime is its reading of the clock; `evaluated_at` without a
time zone is taken as UTC. The time zone database is a parameter: the offset of a zone at an instant.
-/
import Middleware.Ledger.Types

namespace Middleware.Policy

open Ledger

/-- A `datetime`: its instant, or the reading of a naive one. -/
structure Datetime where
  instant : Time
  aware : Bool := true

def hours (n : Int) : Time := n * 3600 * 1000000
def seconds (n : Int) : Time := n * 1000000

/-- `MAX_FRESHNESS`. -/
def maxFreshness : Time := hours 24

inductive DecisionAction where
  | voice | sms | email | callback | transfer | recording | sync
deriving DecidableEq

def DecisionAction.value : DecisionAction → String
  | .voice => "voice"
  | .sms => "sms"
  | .email => "email"
  | .callback => "callback"
  | .transfer => "transfer"
  | .recording => "recording"
  | .sync => "sync"

/-- A `PolicyRequest`; `environment` is not read. -/
structure PolicyRequest where
  correlationId : String
  action : DecisionAction
  subject : String
  resource : String
  evaluatedAt : Option Datetime := none
  consentAllowed : Option Bool := none
  consentObservedAt : Option Datetime := none
  dncSuppressed : Option Bool := none
  dncObservedAt : Option Datetime := none
  customerTimezone : Option String := none
  jurisdiction : Option String := none
  callingWindowStart : Option Time := none
  callingWindowEnd : Option Time := none
  attempts : Option Nat := none
  maxAttempts : Option Nat := none
  lastAttemptAt : Option Datetime := none
  minimumSpacingSeconds : Option Nat := none
  channelEligible : Option Bool := none
  businessUnit : Option String := none
  allowedBusinessUnits : Option (List String) := none
  campaign : Option String := none
  allowedCampaigns : Option (List String) := none
  agent : Option String := none
  allowedAgents : Option (List String) := none
  callbackAllowed : Option Bool := none
  transferAllowed : Option Bool := none
  recordingRequired : Option Bool := none
  disclosurePresent : Option Bool := none
  emergencyKillSwitch : Option Bool := none
  shadowMode : Bool := true

/-- The `Field` bounds; `extra="forbid"` and the types hold by construction. -/
def PolicyRequest.valid (r : PolicyRequest) : Bool :=
  [r.correlationId, r.subject, r.resource].all (fun s => decide (1 ≤ s.length ∧ s.length ≤ 128)) &&
    r.maxAttempts.all fun n => decide (1 ≤ n)

/-- A `PolicyResult`, as far as it is read. -/
structure PolicyResult where
  correlationId : String
  action : DecisionAction
  subject : String
  resource : String
  allow : Bool
  enforced : Bool
  reasonCodes : List String
  evaluatedAt : Datetime
  expiration : Datetime

/-- How `ZoneInfo(key)` fails: the zone is not found, which is caught, or the key is no path. -/
inductive ZoneError where
  | notFound
  | invalid
deriving DecidableEq

/-- The offset of a zone at an instant. -/
abbrev ZoneInfo := String → Except ZoneError (Time → Time)

/-- `local.timetz().replace(tzinfo=None)`. -/
def timeOfDay (local_ : Time) : Time := local_ % hours 24

/-- `_in_window`. -/
def inWindow (current start finish : Time) : Bool :=
  if start = finish then false
  else if start < finish then decide (start ≤ current ∧ current < finish)
  else decide (start ≤ current ∨ current < finish)

/-- The values `evaluate` requires, in its order. -/
def missing (r : PolicyRequest) : List String :=
  [("consent", r.consentAllowed.isSome && r.consentObservedAt.isSome),
    ("dnc", r.dncSuppressed.isSome && r.dncObservedAt.isSome),
    ("timezone", r.customerTimezone.isSome),
    ("jurisdiction", r.jurisdiction.isSome),
    ("channel", r.channelEligible.isSome),
    ("business_unit", r.businessUnit.isSome && r.allowedBusinessUnits.isSome),
    ("campaign", r.campaign.isSome && r.allowedCampaigns.isSome),
    ("agent", r.agent.isSome && r.allowedAgents.isSome),
    ("kill_switch", r.emergencyKillSwitch.isSome)].filterMap fun c =>
      if c.2 then none else some ("missing_" ++ c.1 ++ "_data")

/-- An aware observation from the future or older than `MAX_FRESHNESS`; any other one is only missing. -/
def stale (name : String) (now : Time) : Option Datetime → List String
  | some ⟨observed, true⟩ =>
    if now - observed < 0 ∨ maxFreshness < now - observed then ["stale_" ++ name ++ "_data"] else []
  | _ => []

/-- A value that is not among the allowed ones, where both are given. -/
def denied (reason : String) : Option String → Option (List String) → List String
  | some v, some allowed => if allowed.contains v then [] else [reason]
  | _, _ => []

/-- The first reasons: values missing, stale or denied. -/
def evidenceReasons (now : Time) (r : PolicyRequest) : List String :=
  missing r ++ stale "consent" now r.consentObservedAt ++ stale "dnc" now r.dncObservedAt ++
    (if r.emergencyKillSwitch = some true then ["emergency_kill_switch"] else []) ++
    (if r.consentAllowed = some false then ["consent_denied"] else []) ++
    (if r.dncSuppressed = some true then ["dnc_suppressed"] else []) ++
    (if r.channelEligible = some false then [r.action.value ++ "_ineligible"] else []) ++
    denied "business_unit_denied" r.businessUnit r.allowedBusinessUnits ++
    denied "campaign_denied" r.campaign r.allowedCampaigns ++ denied "agent_denied" r.agent r.allowedAgents ++
    (if r.action = .callback ∧ r.callbackAllowed ≠ some true then ["callback_denied"] else []) ++
    (if r.action = .transfer ∧ r.transferAllowed ≠ some true then ["transfer_denied"] else []) ++
    (if r.action = .recording ∧ r.recordingRequired = some true ∧ r.disclosurePresent ≠ some true then
      ["recording_disclosure_missing"] else [])

/-- The attempts so far and the spacing since the last one. -/
def attemptReasons (now : Time) (r : PolicyRequest) : List String :=
  (match r.attempts, r.maxAttempts with
    | some attempts, some maxAttempts => if maxAttempts ≤ attempts then ["attempt_limit_reached"] else []
    | _, _ => ["missing_attempt_limit_data"]) ++
    match r.minimumSpacingSeconds, r.lastAttemptAt with
    | none, _ => ["missing_attempt_spacing_data"]
    | some _, none => []
    | some spacing, some last =>
      if last.aware = false then ["invalid_last_attempt_time"]
      else if now - last.instant < seconds spacing then ["minimum_attempt_spacing"] else []

/-- The calling hours in the customer's zone; an empty text is no zone. -/
def hoursReasons (zone : ZoneInfo) (now : Time) (r : PolicyRequest) : Except ZoneError (List String) :=
  let unset := if r.callingWindowStart.isSome && r.callingWindowEnd.isSome then [] else ["missing_calling_hours_data"]
  match r.customerTimezone with
  | none | some "" => .ok unset
  | some key =>
    match zone key with
    | .error .notFound => .ok (unset ++ ["invalid_customer_timezone"])
    | .error .invalid => .error .invalid
    | .ok offset =>
      match r.callingWindowStart, r.callingWindowEnd with
      | some start, some finish =>
        .ok (unset ++ if inWindow (timeOfDay (now + offset now)) start finish then [] else ["outside_calling_hours"])
      | _, _ => .ok unset

/-- `evaluate` at a reading of the clock. -/
def evaluate (zone : ZoneInfo) (clock : Time) (r : PolicyRequest) : Except ZoneError PolicyResult := do
  let now := (r.evaluatedAt.map (·.instant)).getD clock
  let hours ← hoursReasons zone now r
  let reasons := evidenceReasons now r ++ attemptReasons now r ++ hours
  return {
    correlationId := r.correlationId, action := r.action, subject := r.subject, resource := r.resource,
    allow := reasons.isEmpty, enforced := !r.shadowMode, reasonCodes := if reasons.isEmpty then ["allowed"] else reasons,
    evaluatedAt := ⟨now, true⟩, expiration := ⟨now + seconds 300, true⟩ }

end Middleware.Policy

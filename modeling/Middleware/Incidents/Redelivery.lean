/-
Redelivery of alerts: a call of `ingest` that was answered is repeated later, after any other calls. The staleness check
against the incident comes before the lookup of the request, so the repeat is answered from the record exactly while the
alert is not older than the incident's occurrence.
-/
import Middleware.Incidents.Effects

namespace Middleware.Incidents

open Ledger Lib

/-- Two calls of one delivery: the same client, idempotency key, policy, group and alert. -/
structure Ingest.Same (a a' : Ingest) : Prop where
  client : a'.authenticatedClientId = a.authenticatedClientId
  key : a'.requestIdempotencyKey = a.requestIdempotencyKey
  policy : a'.policy = a.policy
  group : a'.groupKey = a.groupKey
  alert : a'.alert = a.alert

/-- The call returns the recorded result marked as a duplicate, and nothing changes. -/
def Idempotent (lib : Library) (a : Ingest) (value : IncidentIngestionResult) (w : World) : Prop :=
  ingest lib a w = (.ok value.duplicated, w)

section Redelivery

variable {lib : Library} {w : World} {a a' : Ingest} {value : IncidentIngestionResult}

theorem Ingest.Same.requestKey (h : a.Same a') : a'.requestKey = a.requestKey := by
  unfold Ingest.requestKey
  rw [h.client, h.key, h.alert]

theorem Ingest.Same.digest (h : a.Same a') : a'.digest lib = a.digest lib := by
  unfold Ingest.digest
  rw [h.group, h.alert]

theorem ingest_records (hkeyed : w.store.Keyed) (hfirst : (ingest lib a w).1 = .ok value) (hfresh : value.duplicate = false) :
    a.Records lib (call lib (.ingest a) w).store value := by
  have heffect : Effect lib w (.ingest a) (asResult (ingest lib a w)) := ingest_effect hkeyed a
  have hcall : call lib (.ingest a) w = (asResult (ingest lib a w)).2 := rfl
  have hreply : (asResult (ingest lib a w)).1 = .ok (.result value) := by
    unfold asResult
    rw [hfirst]
    rfl
  rw [hcall]
  generalize asResult (ingest lib a w) = x at heffect hreply ⊢
  cases heffect with
  | refused => cases hreply
  | repeated _ reply duplicate =>
    cases hreply
    rw [show (Reply.result value).duplicate = value.duplicate from rfl, hfresh] at duplicate
    cases duplicate
  | suppressed _ current value' s duplicate =>
    cases hreply
    rw [hfresh] at duplicate
    cases duplicate
  | renewed _ current value' operation added scheduledAt s ledger passes unknown found firing burning spaced notifies written records =>
    cases hreply
    exact records
  | arrived _ value' operation added s settled ledger new cancelled announced notifies written records =>
    cases hreply
    exact records

/-- A request on record is answered from it, if the alert is not older than the incident's occurrence. -/
theorem redelivered_answered_iff (hrequest : w.store.eventReplays.get (replayKey a.policy.tenantId a.requestKey) =
    some (a.digest lib, .result value)) : Idempotent lib a value w ↔ a.Current lib w.store := by
  unfold Idempotent ingest Ingest.Current
  dsimp only
  rw [hrequest]
  dsimp only
  rw [if_neg (not_not.2 rfl)]
  cases hpredates : (w.store.incidents.get (a.key lib)).any fun r => webhookTransitionPredatesProjection a.alert r.startsAt r.endsAt with
  | true =>
    refine iff_of_false ?_ nofun
    intro h
    cases congrArg Prod.fst h
  | false => exact iff_of_true rfl rfl

end Redelivery

/-! ## A firing alert that is delivered again -/

def sampleLibrary : Library where
  uuid5 text := text
  isoformat m := if m.instant = 0 then "0" else "1"
  jsonTime m := if m.instant = 0 then "0" else "1"
  upper text := text
  refuses _ := none

def samplePolicy : AlertPolicy where
  tenantId := "codestra-platform"
  receiver := "klyrow"
  recipientPolicyId := "operations"
  senderPolicyId := "alerts"
  recipient := "ops@codestra.co"
  sender := "alerts@codestra.co"
  replyTo := "ops@codestra.co"
  warningGroupWaitSeconds := 30
  warningRepeatIntervalSeconds := 900
  wait := by decide
  interval := by decide
  exceeds := by decide

/-- A warning about a disk. -/
def sampleAlert (status : AlertStatus) : AlertmanagerAlert where
  status := status
  labels := [("alertname", "DiskFull"), ("severity", "warning"), ("service", "db"), ("environment", "prod"), ("host", "h"),
    ("codestra_business", "b"), ("owner", "o")]
  annotations := [("summary", "s"), ("description", "d"), ("runbook_url", "u")]
  startsAt := ⟨0, 0⟩
  endsAt := ⟨1, 0⟩
  generatorUrl := ""
  fingerprint := "f"
  labelled := by decide
  annotated := by decide
  ended _ := by decide

/-- A delivery of the alert that wants no notification. -/
def sampleDelivery (status : AlertStatus) (requestIdempotencyKey : String) (now : Time) : Ingest where
  policy := samplePolicy
  groupKey := "g"
  alert := sampleAlert status
  actorId := "alertmanager"
  correlationId := "c"
  sourceDeployment := "d"
  requestIdempotencyKey := requestIdempotencyKey
  command := none
  authenticatedClientId := "alertmanager"
  notificationKind := "grouped"
  now := now
  clock _ := now

/-- The answer to the first delivery. -/
def sampleResult : IncidentIngestionResult where
  incident := (sampleDelivery .firing "k" 2).incident sampleLibrary none
  operation := none
  notificationStatus := "disabled"
  timelineEventId := 1
  duplicate := false

theorem sample_first : (ingest sampleLibrary (sampleDelivery .firing "k" 2) (after sampleLibrary [])).1 = .ok sampleResult := rfl

end Middleware.Incidents

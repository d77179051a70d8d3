/-
`SalesLeadService` (`app/sales/service.py`) with the compliance gate (`app/sales/compliance.py`): candidates that are resolved
against Odoo, and verification jobs that resolve a page of them.

Odoo's answers are inputs, and so are the identifiers that are drawn. `self.idempotency` is kept apart by operation. The times
of the records are left out: nothing reads them.
-/
import Middleware.Sales.Identity

namespace Middleware.Sales

open Lib
open Platform (strip)

/-! ## Compliance -/

structure ComplianceSnapshot where
  tenantId : String
  campaignId : String
  available : Bool := true
  globalDnc : Bool := false
  tenantDnc : Bool := false
  campaignDnc : Bool := false
  internalSuppression : Bool := false
  emailSuppressed : Bool := false
  phoneSuppressed : Bool := false
  optedOut : Bool := false
  legalRestriction : Bool := false
  consent : String := "UNKNOWN"
  channelEligible : Bool := false

structure ComplianceDecision where
  status : String
  gates : Gates
  reasons : List String
  blocked : Bool
  reviewRequired : Bool

/-- `_unavailable`. -/
def unavailable (reason : String) : ComplianceDecision where
  status := "DEPENDENCY_UNAVAILABLE"
  gates := ⟨.dependencyUnavailable, .dependencyUnavailable, .dependencyUnavailable, .dependencyUnavailable, .dependencyUnavailable⟩
  reasons := [reason]
  blocked := true
  reviewRequired := true

namespace ComplianceSnapshot

variable (s : ComplianceSnapshot)

def gates : Gates where
  globalDnc := if s.globalDnc then .blocked else .eligible
  campaignDnc := if s.campaignDnc then .blocked else .eligible
  suppression := if s.internalSuppression then .blocked else .eligible
  consent := if s.consent = "WITHDRAWN" then .blocked else if s.consent = "GRANTED" then .eligible else .reviewRequired
  channelEligibility := if s.channelEligible then .eligible else .reviewRequired

/-- What blocks a candidate, in the order in which it is looked at, with the status. -/
def restrictions : List (Bool × String × String) :=
  [(s.globalDnc, "BLOCKED_GLOBAL_DNC", "GLOBAL_DNC"), (s.tenantDnc, "BLOCKED_INTERNAL_SUPPRESSION", "TENANT_DNC"),
    (s.campaignDnc, "BLOCKED_CAMPAIGN_DNC", "CAMPAIGN_DNC"), (s.emailSuppressed, "BLOCKED_INTERNAL_SUPPRESSION", "EMAIL_SUPPRESSED"),
    (s.phoneSuppressed, "BLOCKED_INTERNAL_SUPPRESSION", "PHONE_SUPPRESSED"), (s.optedOut, "BLOCKED_INTERNAL_SUPPRESSION", "OPTED_OUT"),
    (s.legalRestriction, "BLOCKED_INTERNAL_SUPPRESSION", "LEGAL_RESTRICTION"),
    (s.internalSuppression, "BLOCKED_INTERNAL_SUPPRESSION", "INTERNAL_SUPPRESSION"),
    (decide (s.consent = "WITHDRAWN"), "BLOCKED_CONSENT_WITHDRAWN", "CONSENT_DENIED")]

/-- `evaluate`. -/
def evaluate (tenantId campaignId : String) : ComplianceDecision :=
  if s.tenantId ≠ tenantId ∨ s.campaignId ≠ campaignId then unavailable "COMPLIANCE_SCOPE_MISMATCH"
  else if !s.available then unavailable "COMPLIANCE_DEPENDENCY_UNAVAILABLE"
  else
    match s.restrictions.find? (·.1) with
    | some (_, status, reason) => { status, gates := s.gates, reasons := [reason], blocked := true, reviewRequired := false }
    | none =>
      if s.consent ≠ "GRANTED" then
        { status := "REVIEW_CONSENT_UNKNOWN", gates := s.gates, reasons := ["CONSENT_UNKNOWN"], blocked := false,
          reviewRequired := true }
      else
        { status := "ELIGIBLE", gates := s.gates, reasons := ["COMPLIANCE_ELIGIBLE"], blocked := false,
          reviewRequired := !s.channelEligible }

end ComplianceSnapshot

/-! ## Resolutions -/

/-- `OdooLookup`. -/
structure OdooLookup where
  companies : List OdooCompany := []
  contacts : List OdooContact := []
  compliance : Option ComplianceSnapshot := none

section Resolve

variable (lib : Library) (policy : MatchPolicy) (candidate : LeadCandidate)

/-- The snapshot that stands for a missing one. -/
def noSnapshot : ComplianceSnapshot :=
  { tenantId := candidate.tenantId, campaignId := candidate.campaignId, available := false }

def matchResolution (matched : Bool) (score : Int) (reasons : List String) (odooCompanyId odooLeadId : Option String) :
    MatchResolution :=
  { matched, odooCompanyId := odooCompanyId.map strip, odooLeadId := odooLeadId.map strip, score, reasons := reasons.map strip }

/-- The resolution while Odoo is unavailable. -/
def manualReview (candidateId correlationId : String) : LeadResolution where
  candidateId := strip candidateId
  decision := .manualReview
  decisionCode := "ODOO_UNAVAILABLE"
  companyResolution := matchResolution false 0 ["ODOO_LOOKUP_UNAVAILABLE"] none none
  contactResolution := matchResolution false 0 ["ODOO_LOOKUP_UNAVAILABLE"] none none
  gates := ((noSnapshot candidate).evaluate candidate.tenantId candidate.campaignId).gates
  rejectionReasons := ["ODOO_UNAVAILABLE"]
  manualReviewReasons := ["ODOO_UNAVAILABLE"]
  providerValidationSummaries := [("odoo", "UNAVAILABLE")]
  auditReference := strip candidateId
  reviewRequired := true
  correlationId := strip correlationId

/-- The decision on the highest score and what the compliance gate says. -/
def decision (compliance : ComplianceDecision) (highest : Int) : Decision :=
  if compliance.blocked then .suppressed
  else if policy.exactThreshold ≤ highest then .exactDuplicate
  else if policy.reviewThreshold ≤ highest then .possibleDuplicate
  else if compliance.reviewRequired then .manualReview
  else .accepted

def resolutionOf (candidateId correlationId : String) (company contact : Match) (compliance : ComplianceDecision) : LeadResolution :=
  let highest := max company.score contact.score
  let decision := decision policy compliance highest
  let reviewRequired := compliance.reviewRequired || decide (decision = .possibleDuplicate)
  { candidateId := strip candidateId
    decision := decision
    decisionCode := decision.value
    eligibleForOutreach := decide (decision = .accepted) && !compliance.blocked && !compliance.reviewRequired
    duplicateStatus := if decision = .exactDuplicate then "EXACT" else if decision = .possibleDuplicate then "POSSIBLE" else "NONE"
    matchType := if decision = .exactDuplicate then "EXACT" else if decision = .possibleDuplicate then "FUZZY" else "NONE"
    matchedEntityReferences := ([nonempty company.publicId, nonempty contact.publicId].filterMap id).map strip
    matchConfidence := highest
    companyResolution := matchResolution (decide (policy.exactThreshold ≤ company.score)) company.score company.reasons
      company.publicId none
    contactResolution := matchResolution (decide (policy.exactThreshold ≤ contact.score)) contact.score contact.reasons none
      contact.publicId
    gates := compliance.gates
    rejectionReasons := if compliance.blocked then compliance.reasons else []
    manualReviewReasons := if reviewRequired && !compliance.blocked then compliance.reasons else []
    suppressionResults := if compliance.blocked then compliance.reasons else []
    consentResults := compliance.reasons.filter fun reason => "CONSENT_".toList.isPrefixOf reason.toList
    providerValidationSummaries := [("odoo", "AVAILABLE")]
    auditReference := strip candidateId
    reviewRequired := reviewRequired
    correlationId := strip correlationId }

/-- The best company and the best contact. -/
def compared (lookup : OdooLookup) : Except Exc (Match × Match) := do
  let company ← bestCompany lib candidate lookup.companies
  let contact ← bestContact lib candidate lookup.contacts company
  .ok (company, contact)

def OdooLookup.evaluate (lookup : OdooLookup) : ComplianceDecision :=
  (lookup.compliance.getD (noSnapshot candidate)).evaluate candidate.tenantId candidate.campaignId

/-- What is made of a lookup, with the matches behind it if Odoo answered. -/
def resolution (candidateId correlationId : String) : Except Exc OdooLookup → Except Exc (LeadResolution × Option (Match × Match))
  | .ok lookup => do
    let found ← compared lib candidate lookup
    .ok (resolutionOf policy candidateId correlationId found.1 found.2 (lookup.evaluate candidate), some found)
  | .error (.odooReadUnavailable _) => .ok (manualReview candidate candidateId correlationId, none)
  | .error .timeoutError => .ok (manualReview candidate candidateId correlationId, none)
  | .error e => .error e

end Resolve

/-! ## The service -/

inductive VerificationJobState where
  | queued
  | running
  | completed
  | completedWithWarnings
  | failed
  | canceled
  deriving DecidableEq

structure JobResult where
  candidateId : Option String := none
  classification : String
  reasonCodes : List String
  deriving DecidableEq

structure VerificationJob where
  jobId : String
  request : VerificationJobRequest
  correlationId : String
  state : VerificationJobState := .queued
  total : Nat := 0
  processed : Nat := 0
  warnings : Nat := 0
  results : List JobResult := []

structure DuplicateReview where
  reviewId : String
  tenantId : String
  campaignId : String
  candidateId : String
  odooCompanyId : Option String
  odooLeadId : Option String
  companyScore : Int
  contactScore : Int
  matchReasons : List String
  evidenceHashes : List String
  policyVersion : String
  state : String := "PENDING"

structure AuditRecord where
  eventType : String
  tenantId : String
  actor : String := "codestra-sales-lead-service"
  correlationId : String
  subjectId : String
  decision : String
  reasonCodes : List String
  payloadHash : String
  sourceProvider : String

structure IdempotencyEntry (A : Type) where
  payloadHash : String
  result : A
  correlationId : String

/-- The tenant and the hash of the key. -/
abbrev Scope := String × String

structure Service where
  resolutionEntries : OrderedDict Scope (IdempotencyEntry LeadResolution) := []
  jobEntries : OrderedDict Scope (IdempotencyEntry String) := []
  candidates : OrderedDict String LeadCandidate := []
  resolutions : OrderedDict String LeadResolution := []
  reviews : OrderedDict String DuplicateReview := []
  jobs : OrderedDict String VerificationJob := []
  audits : List AuditRecord := []
  /-- How many identifiers were drawn. -/
  drawn : Nat := 0

def scopeOf (tenantId idempotencyKey : String) : Scope := (tenantId, Sha256.hexdigest idempotencyKey)

/-- The arguments of `resolve`. -/
structure Resolve where
  candidate : LeadCandidate
  idempotencyKey : String
  correlationId : String

namespace Resolve

variable (lib : Library) (policy : MatchPolicy) (a : Resolve)

def scope : Scope := scopeOf a.candidate.tenantId a.idempotencyKey

def payloadHash : String := canonicalHash (a.candidate.modelDump lib.jsonTime)

/-- The check before the lock is taken. -/
def bounded : Bool := decide (16 ≤ a.idempotencyKey.length ∧ a.idempotencyKey.length ≤ 255)

/-- `_audit`. -/
def audit (eventType correlationId subjectId decision : String) (reasons : List String) (s : Service) : Service :=
  { s with
    audits := s.audits ++ [
      { eventType
        tenantId := a.candidate.tenantId
        correlationId
        subjectId
        decision
        reasonCodes := reasons
        payloadHash := a.payloadHash lib
        sourceProvider := a.candidate.source.provider }] }

/-- What `resolve` does once it has the lock: it answers, or it has drawn an identifier and waits for Odoo. -/
def enter (s : Service) : (Except Exc (LeadResolution × Bool) ⊕ String) × Service :=
  match s.resolutionEntries.get a.scope with
  | some prior =>
    if prior.payloadHash ≠ a.payloadHash lib then
      (.inl (.error (.salesConflict "idempotency key was already used for another payload")),
        a.audit lib "idempotency_conflict.rejected" a.correlationId "conflict" "CONFLICT" ["PAYLOAD_HASH_MISMATCH"] s)
    else
      (.inl (.ok (prior.result, true)),
        a.audit lib "idempotent_replay.returned" prior.correlationId prior.result.candidateId "REPLAY" ["IDEMPOTENT_REPLAY"] s)
  | none =>
    let candidateId := "LDC-" ++ lib.uuid4 s.drawn
    (.inr candidateId,
      a.audit lib "lead_candidate.received" a.correlationId candidateId "RECEIVED" ["SCHEMA_VALID"] { s with drawn := s.drawn + 1 })

/-- The review of a possible duplicate. -/
def review (candidateId : String) (found : Match × Match) (s : Service) : Service :=
  let review : DuplicateReview :=
    { reviewId := "LDR-" ++ lib.uuid4 s.drawn
      tenantId := a.candidate.tenantId
      campaignId := a.candidate.campaignId
      candidateId := candidateId
      odooCompanyId := found.1.publicId
      odooLeadId := found.2.publicId
      companyScore := found.1.score
      contactScore := found.2.score
      matchReasons := found.1.reasons ++ found.2.reasons
      evidenceHashes := a.candidate.evidence.map fun item =>
        if "sha256:".toList.isPrefixOf item.contentHash.toList then String.ofList (item.contentHash.toList.drop 7) else item.contentHash
      policyVersion := policy.version }
  a.audit lib "duplicate_review.created" a.correlationId review.reviewId "PENDING" review.matchReasons
    { s with drawn := s.drawn + 1, reviews := s.reviews.set review.reviewId review }

def store (candidateId : String) (r : LeadResolution) (s : Service) : Service :=
  let s :=
    { s with
      candidates := s.candidates.set candidateId a.candidate
      resolutions := s.resolutions.set candidateId r
      resolutionEntries := s.resolutionEntries.set a.scope
        { payloadHash := a.payloadHash lib, result := r, correlationId := a.correlationId } }
  let reasons := r.companyResolution.reasons ++ r.contactResolution.reasons ++ r.rejectionReasons
  let s := a.audit lib "identity_resolution.completed" a.correlationId candidateId r.decision.value
    (if reasons = [] then ["ACCEPTED"] else reasons) s
  a.audit lib "compliance_gate.evaluated" a.correlationId candidateId r.decision.value
    (if r.rejectionReasons = [] then ["GATES_EVALUATED"] else r.rejectionReasons) s

/-- What `resolve` does with Odoo's answer. -/
def finish (candidateId : String) (reply : Except Exc OdooLookup) (s : Service) : Except Exc (LeadResolution × Bool) × Service :=
  match resolution lib policy a.candidate candidateId a.correlationId reply with
  | .error e => (.error e, s)
  | .ok (r, found) =>
    let s := match found with
      | some found => if r.decision = .possibleDuplicate then a.review lib policy candidateId found s else s
      | none => s
    (.ok (r, false), a.store lib candidateId r s)

end Resolve

/-- `resolve`, with Odoo's answer to its lookup, when nothing comes in between. -/
def resolve (lib : Library) (policy : MatchPolicy) (a : Resolve) (reply : Except Exc OdooLookup) (s : Service) :
    Except Exc (LeadResolution × Bool) × Service :=
  if !a.bounded then (.error (.salesError "idempotency key is outside bounded limits"), s)
  else
    match a.enter lib s with
    | (.inl answer, s) => (answer, s)
    | (.inr candidateId, s) => a.finish lib policy candidateId reply s

end Middleware.Sales

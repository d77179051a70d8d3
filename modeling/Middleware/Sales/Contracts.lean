/-
The contracts of the sales lead service (`app/sales/contracts.py`): candidates, verification requests and the resolutions that
answer them, with the hashes of the requests. A candidate or a request has passed the checks of its model before the service
sees it; of these only the bounds that the service relies on are kept.

An instant is a reading of a clock in microseconds.
-/
import Middleware.Data.Json
import Middleware.Lib.OrderedDict

namespace Middleware.Sales

open Lib

abbrev Time := Int

/-- The exceptions that the service raises or tells apart; `other` is any further one. -/
inductive Exc where
  | valueError (message : String)
  | salesError (message : String)
  | salesConflict (message : String)
  | odooReadUnavailable (message : String)
  | timeoutError
  | other (name message : String)
  deriving DecidableEq

/-! ## Candidates -/

structure Source where
  provider : String
  jobId : String
  requestId : String
  collectedAt : Time
  requestIdBounds : 1 ≤ requestId.length ∧ requestId.length ≤ 128

structure Address where
  line1 : Option String := none
  line2 : Option String := none
  city : Option String := none
  region : Option String := none
  postalCode : Option String := none
  countryCode : Option String := none

structure Company where
  name : String
  legalName : Option String := none
  domain : Option String := none
  websiteUrl : Option String := none
  registrationNumber : Option String := none
  taxIdentifier : Option String := none
  tradingName : Option String := none
  businessTelephone : Option String := none
  countryCode : String
  industry : Option String := none
  services : List String := []
  address : Address := {}

structure Contact where
  firstName : Option String := none
  lastName : Option String := none
  fullName : Option String := none
  title : Option String := none
  department : Option String := none
  businessEmail : Option String := none
  businessPhone : Option String := none
  countryCode : Option String := none
  companyAssociation : Option String := none
  publicProfileUrl : Option String := none

inductive ProvenanceClassification where
  | verifiedFact
  | publicObservation
  | systemInference
  | unknown

def ProvenanceClassification.value : ProvenanceClassification → String
  | verifiedFact => "VERIFIED_FACT"
  | publicObservation => "PUBLIC_OBSERVATION"
  | systemInference => "SYSTEM_INFERENCE"
  | unknown => "UNKNOWN"

structure Evidence where
  field : String
  sourceUrl : String
  pageTitle : Option String := none
  snippet : String
  contentHash : String
  observedAt : Time
  classification : ProvenanceClassification := .publicObservation
  extractionMethod : String := "structured"
  fieldPaths : List String := []
  robotsPolicyReference : Option String := none
  providerVerificationReference : Option String := none

structure SourceClaims where
  consentClaimed : Bool := false
  consentSource : Option String := none
  consentTimestamp : Option Time := none

structure LeadCandidate where
  schemaVersion : String := "codestra.sales.lead-candidate.v1"
  tenantId : String
  campaignId : String
  candidateId : Option String := none
  scraperJobId : Option String := none
  sourceType : String := "public_web"
  source : Source
  company : Company
  contact : Contact := {}
  evidence : List Evidence := []
  sourceClaims : SourceClaims := {}
  provenance : List ProvenanceClassification := []
  providerResults : Obj := []
  extractionTimestamp : Option Time := none
  contentHashes : List String := []
  idempotencyMetadata : Obj := []
  metadata : Obj := []

structure VerificationFilters where
  verificationStatus : List String := ["UNVERIFIED", "STALE"]
  updatedBefore : Option Time := none

structure VerificationJobRequest where
  source : String := "odoo"
  tenantId : String
  campaignId : Option String := none
  filters : VerificationFilters := {}
  dryRun : Bool := true
  writeChanges : Bool := false
  publishToVicidial : Bool := false
  batchSize : Nat

/-! ## Dumps -/

/-- A value that may be `None`. -/
def optional {A : Type} (f : A → Json) : Option A → Json
  | some a => f a
  | none => .null

def text : Option String → Json := optional .str

def texts (values : List String) : Json := .arr (values.map .str)

section Dumps

-- `jsonTime` is the form of an instant in a dump.
variable (jsonTime : Time → String)

def Source.modelDump (s : Source) : Json :=
  .obj [("provider", .str s.provider), ("job_id", .str s.jobId), ("request_id", .str s.requestId),
    ("collected_at", .str (jsonTime s.collectedAt))]

def Address.modelDump (a : Address) : Json :=
  .obj [("line1", text a.line1), ("line2", text a.line2), ("city", text a.city), ("region", text a.region),
    ("postal_code", text a.postalCode), ("country_code", text a.countryCode)]

def Company.modelDump (c : Company) : Json :=
  .obj [("name", .str c.name), ("legal_name", text c.legalName), ("domain", text c.domain), ("website_url", text c.websiteUrl),
    ("registration_number", text c.registrationNumber), ("tax_identifier", text c.taxIdentifier),
    ("trading_name", text c.tradingName), ("business_telephone", text c.businessTelephone), ("country_code", .str c.countryCode),
    ("industry", text c.industry), ("services", texts c.services), ("address", c.address.modelDump)]

def Contact.modelDump (c : Contact) : Json :=
  .obj [("first_name", text c.firstName), ("last_name", text c.lastName), ("full_name", text c.fullName), ("title", text c.title),
    ("department", text c.department), ("business_email", text c.businessEmail), ("business_phone", text c.businessPhone),
    ("country_code", text c.countryCode), ("company_association", text c.companyAssociation),
    ("public_profile_url", text c.publicProfileUrl)]

def Evidence.modelDump (e : Evidence) : Json :=
  .obj [("field", .str e.field), ("source_url", .str e.sourceUrl), ("page_title", text e.pageTitle), ("snippet", .str e.snippet),
    ("content_hash", .str e.contentHash), ("observed_at", .str (jsonTime e.observedAt)),
    ("classification", .str e.classification.value), ("extraction_method", .str e.extractionMethod),
    ("field_paths", texts e.fieldPaths), ("robots_policy_reference", text e.robotsPolicyReference),
    ("provider_verification_reference", text e.providerVerificationReference)]

def SourceClaims.modelDump (c : SourceClaims) : Json :=
  .obj [("consent_claimed", .bool c.consentClaimed), ("consent_source", text c.consentSource),
    ("consent_timestamp", optional (fun t => .str (jsonTime t)) c.consentTimestamp)]

def LeadCandidate.modelDump (c : LeadCandidate) : Json :=
  .obj [("schema_version", .str c.schemaVersion), ("tenant_id", .str c.tenantId), ("campaign_id", .str c.campaignId),
    ("candidate_id", text c.candidateId), ("scraper_job_id", text c.scraperJobId), ("source_type", .str c.sourceType),
    ("source", c.source.modelDump jsonTime), ("company", c.company.modelDump), ("contact", c.contact.modelDump),
    ("evidence", .arr (c.evidence.map (·.modelDump jsonTime))), ("source_claims", c.sourceClaims.modelDump jsonTime),
    ("provenance", texts (c.provenance.map (·.value))), ("provider_results", .obj c.providerResults),
    ("extraction_timestamp", optional (fun t => .str (jsonTime t)) c.extractionTimestamp), ("content_hashes", texts c.contentHashes),
    ("idempotency_metadata", .obj c.idempotencyMetadata), ("metadata", .obj c.metadata)]

def VerificationJobRequest.modelDump (r : VerificationJobRequest) : Json :=
  .obj [("source", .str r.source), ("tenant_id", .str r.tenantId), ("campaign_id", text r.campaignId),
    ("filters", .obj [("verification_status", texts r.filters.verificationStatus),
      ("updated_before", optional (fun t => .str (jsonTime t)) r.filters.updatedBefore)]),
    ("dry_run", .bool r.dryRun), ("write_changes", .bool r.writeChanges), ("publish_to_vicidial", .bool r.publishToVicidial),
    ("batch_size", .int r.batchSize)]

/-- `canonical_hash`, of what a request dumps. -/
def canonicalHash (body : Json) : String := Sha256.hexdigest (dumps false body)

end Dumps

/-! ## Resolutions -/

inductive Decision where
  | accepted
  | exactDuplicate
  | possibleDuplicate
  | suppressed
  | manualReview
  deriving DecidableEq

def Decision.value : Decision → String
  | accepted => "ACCEPTED"
  | exactDuplicate => "EXACT_DUPLICATE"
  | possibleDuplicate => "POSSIBLE_DUPLICATE"
  | suppressed => "SUPPRESSED"
  | manualReview => "MANUAL_REVIEW"

inductive GateState where
  | eligible
  | blocked
  | reviewRequired
  | dependencyUnavailable
  deriving DecidableEq

structure Gates where
  globalDnc : GateState
  campaignDnc : GateState
  suppression : GateState
  consent : GateState
  channelEligibility : GateState
  deriving DecidableEq

structure MatchResolution where
  matched : Bool
  odooCompanyId : Option String := none
  odooLeadId : Option String := none
  score : Int
  reasons : List String
  deriving DecidableEq

structure LeadResolution where
  candidateId : String
  decision : Decision
  decisionCode : String
  eligibleForOutreach : Bool := false
  duplicateStatus : String := "NONE"
  matchType : String := "NONE"
  matchedEntityReferences : List String := []
  matchConfidence : Int := 0
  companyResolution : MatchResolution
  contactResolution : MatchResolution
  gates : Gates
  rejectionReasons : List String := []
  manualReviewReasons : List String := []
  suppressionResults : List String := []
  consentResults : List String := []
  providerValidationSummaries : OrderedDict String String
  auditReference : String
  reviewRequired : Bool
  correlationId : String
  deriving DecidableEq

end Middleware.Sales

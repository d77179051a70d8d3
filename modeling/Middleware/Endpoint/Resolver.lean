/-
`RegistryResolver.resolve` over `SignedSnapshotCache` of `app/core/endpoint_registry.py`: a cache in the process, a signed
snapshot in Redis, and the repository. Several processes, each with its own first cache, share Redis.

A call is answered at one instant. The repository's answer, whether Redis can be reached and the loss of a key of Redis are
inputs of a run; a value in Redis stands for its JSON text.
-/
import Middleware.Data.Canonical
import Middleware.Lib.Lru
import Middleware.Lib.Runs

namespace Middleware.Endpoint

open Lib

structure ResolutionRequest where
  environment : String
  serviceKey : String
  endpointKey : String
  apiVersion : String := "v1"
  organizationPublicId : String := ""
  businessUnitPublicId : String := ""
  campaignPublicId : String := ""
  workflowKey : String := ""
  eventType : String := ""
  mutation : Bool := false
  deriving DecidableEq

/-- `asdict(self)`. -/
def ResolutionRequest.members (r : ResolutionRequest) : Obj :=
  [("environment", .str r.environment), ("service_key", .str r.serviceKey), ("endpoint_key", .str r.endpointKey),
    ("api_version", .str r.apiVersion), ("organization_public_id", .str r.organizationPublicId),
    ("business_unit_public_id", .str r.businessUnitPublicId), ("campaign_public_id", .str r.campaignPublicId),
    ("workflow_key", .str r.workflowKey), ("event_type", .str r.eventType), ("mutation", .bool r.mutation)]

/-- The text that `cache_hash` hashes. -/
def ResolutionRequest.canonical (r : ResolutionRequest) : String := dumps true (.obj r.members)

/-- `cache_hash`. -/
def ResolutionRequest.cacheHash (r : ResolutionRequest) : String := Sha256.hexdigest r.canonical

structure ResolvedEndpoint where
  endpointId : String
  endpointVersionId : String
  serviceKey : String
  endpointKey : String
  apiVersion : String
  method : String
  baseUrl : String
  path : String
  authenticationProfile : String
  requiredAudience : String
  requiredScopes : List String
  credentialReferenceId : String
  tlsProfileId : String
  timeoutMs : Int
  connectionTimeoutMs : Int
  redirectsAllowed : Bool
  targetAttestationRequired : Bool
  staleReadSafe : Bool
  configurationVersion : Int
  configurationChecksum : String
  effectiveAt : String
  expiresAt : Option String
  registryGeneration : Int

def optionalValue : Option String → Json
  | some t => .str t
  | none => .null

/-- `asdict(endpoint)`; the tuple of scopes is an array in JSON. -/
def ResolvedEndpoint.members (e : ResolvedEndpoint) : Obj :=
  [("endpoint_id", .str e.endpointId), ("endpoint_version_id", .str e.endpointVersionId), ("service_key", .str e.serviceKey),
    ("endpoint_key", .str e.endpointKey), ("api_version", .str e.apiVersion), ("method", .str e.method),
    ("base_url", .str e.baseUrl), ("path", .str e.path), ("authentication_profile", .str e.authenticationProfile),
    ("required_audience", .str e.requiredAudience), ("required_scopes", .arr (e.requiredScopes.map .str)),
    ("credential_reference_id", .str e.credentialReferenceId), ("tls_profile_id", .str e.tlsProfileId),
    ("timeout_ms", .int e.timeoutMs), ("connection_timeout_ms", .int e.connectionTimeoutMs),
    ("redirects_allowed", .bool e.redirectsAllowed), ("target_attestation_required", .bool e.targetAttestationRequired),
    ("stale_read_safe", .bool e.staleReadSafe), ("configuration_version", .int e.configurationVersion),
    ("configuration_checksum", .str e.configurationChecksum), ("effective_at", .str e.effectiveAt),
    ("expires_at", optionalValue e.expiresAt), ("registry_generation", .int e.registryGeneration)]

def textOf : Json → Option String
  | .str s => some s
  | _ => none

def optionalTextOf : Json → Option (Option String)
  | .str s => some (some s)
  | .null => some none
  | _ => none

def intOf : Json → Option Int
  | .int n => some n
  | _ => none

def boolOf : Json → Option Bool
  | .bool b => some b
  | _ => none

def textsOf : Json → Option (List String)
  | .arr items => items.mapM textOf
  | _ => none

/-- `ResolvedEndpoint(**fields)` on the fields of a snapshot; nothing for a field that is missing or of another type. -/
def ResolvedEndpoint.ofMembers (m : Obj) : Option ResolvedEndpoint := do
  let text (key : String) : Option String := do textOf (← m.lookup key)
  let int (key : String) : Option Int := do intOf (← m.lookup key)
  let bool (key : String) : Option Bool := do boolOf (← m.lookup key)
  return {
    endpointId := ← text "endpoint_id"
    endpointVersionId := ← text "endpoint_version_id"
    serviceKey := ← text "service_key"
    endpointKey := ← text "endpoint_key"
    apiVersion := ← text "api_version"
    method := ← text "method"
    baseUrl := ← text "base_url"
    path := ← text "path"
    authenticationProfile := ← text "authentication_profile"
    requiredAudience := ← text "required_audience"
    requiredScopes := ← textsOf (← m.lookup "required_scopes")
    credentialReferenceId := ← text "credential_reference_id"
    tlsProfileId := ← text "tls_profile_id"
    timeoutMs := ← int "timeout_ms"
    connectionTimeoutMs := ← int "connection_timeout_ms"
    redirectsAllowed := ← bool "redirects_allowed"
    targetAttestationRequired := ← bool "target_attestation_required"
    staleReadSafe := ← bool "stale_read_safe"
    configurationVersion := ← int "configuration_version"
    configurationChecksum := ← text "configuration_checksum"
    effectiveAt := ← text "effective_at"
    expiresAt := ← optionalTextOf (← m.lookup "expires_at")
    registryGeneration := ← int "registry_generation" }

structure ResolutionDenied where
  reason : String
  retryable : Bool := false
  deriving DecidableEq

structure Config where
  /-- `hmac.new(self.signing_key, payload, sha256).hexdigest()`. -/
  sign : String → String
  l1TtlSeconds : Nat := 15
  l2TtlSeconds : Nat := 60
  staleGraceSeconds : Nat := 300
  maxEntries : Nat := 512

structure L1Entry where
  endpoint : ResolvedEndpoint
  expiresMonotonic : ℚ
  staleUntilMonotonic : ℚ

structure RedisEntry where
  envelope : Json
  expires : ℚ

/-- The caches that a process works on: its own and Redis. -/
structure Caches where
  l1 : OrderedDict String L1Entry
  redis : OrderedDict String RedisEntry

inductive RepositoryReply where
  | candidates (endpoints : List ResolvedEndpoint)
  | denied (e : ResolutionDenied)
  /-- `RegistryDependencyUnavailable`. -/
  | unavailable

/-- Why the second cache gives nothing. -/
inductive L2Error where
  | redisError
  | keyError
  | typeError
  | denied (e : ResolutionDenied)

section Cache

variable (cfg : Config) (c : Caches) (request : ResolutionRequest) (now : ℚ)

/-- `_key`. -/
def key (request : ResolutionRequest) (generation : Int) : String :=
  "registry:" ++ request.environment ++ ":" ++ toString generation ++ ":" ++ request.cacheHash

/-- What `put` writes to Redis. -/
def envelope (endpoint : ResolvedEndpoint) : Json :=
  .obj [("resolved_endpoint", .obj endpoint.members), ("signature", .str (cfg.sign (dumps true (.obj endpoint.members))))]

/-- `get`. -/
def get (allowStale : Bool) : Option ResolvedEndpoint × Caches :=
  match c.l1.get request.cacheHash with
  | none => (none, c)
  | some entry =>
    if now ≤ entry.expiresMonotonic ∨ (allowStale ∧ entry.endpoint.staleReadSafe ∧ now ≤ entry.staleUntilMonotonic) then
      (some entry.endpoint, { c with l1 := c.l1.moveToEnd request.cacheHash })
    else (none, { c with l1 := c.l1.pop request.cacheHash })

/-- The first cache with an entry more, before the oldest ones go. -/
def grown (endpoint : ResolvedEndpoint) : OrderedDict String L1Entry :=
  (c.l1.set request.cacheHash
    { endpoint := endpoint
      expiresMonotonic := now + cfg.l1TtlSeconds
      staleUntilMonotonic := now + cfg.l1TtlSeconds + cfg.staleGraceSeconds }).moveToEnd request.cacheHash

/-- `_put_l1`. -/
def putL1 (endpoint : ResolvedEndpoint) : Caches :=
  { c with l1 := (grown cfg c request now endpoint).keepLast cfg.maxEntries }

/-- `self.redis.get(key)`, where Redis can be reached. -/
def redisGet (key : String) : Option Json :=
  match c.redis.get key with
  | some entry => if now ≤ entry.expires then some entry.envelope else none
  | none => none

/-- `get_l2` without the refill. -/
def getL2 (redisUp : Bool) (generation : Int) : Except L2Error (Option ResolvedEndpoint) :=
  if !redisUp then .error .redisError
  else
    match redisGet c now (key request generation) with
    | none => .ok none
    | some (.obj envelope) =>
      match envelope.lookup "resolved_endpoint", envelope.lookup "signature" with
      | some payload, some (.str signature) =>
        if signature ≠ cfg.sign (dumps true payload) then .error (.denied { reason := "INVALID_SNAPSHOT_SIGNATURE" })
        else
          match payload with
          | .obj members =>
            match ResolvedEndpoint.ofMembers members with
            | some endpoint => .ok (some endpoint)
            | none => .error .typeError
          | _ => .error .typeError
      | none, _ | _, none => .error .keyError
      | _, _ => .error .typeError
    | some _ => .error .typeError

/-- `put`, where Redis can be reached. -/
def put (endpoint : ResolvedEndpoint) : Caches :=
  putL1 cfg
    { c with
      redis := c.redis.set (key request endpoint.registryGeneration)
        { envelope := envelope cfg endpoint
          expires := now + cfg.l2TtlSeconds } }
    request now endpoint

/-- `resolve`. -/
def resolve (generation : Int) (repository : RepositoryReply) (redisUp : Bool) :
    Except ResolutionDenied ResolvedEndpoint × Caches :=
  match get c request now false with
  | (some endpoint, c) => (.ok endpoint, c)
  | (none, c) =>
    match repository with
    | .denied e => (.error e, c)
    | .unavailable =>
      match getL2 cfg c request now redisUp generation with
      | .error (.denied e) => (.error e, c)
      | .ok (some endpoint) => (.ok endpoint, putL1 cfg c request now endpoint)
      | .ok none | .error .redisError | .error .keyError | .error .typeError =>
        match get c request now !request.mutation with
        | (some endpoint, c) => (.ok endpoint, c)
        | (none, c) => (.error { reason := "ENDPOINT_REGISTRY_UNAVAILABLE", retryable := true }, c)
    | .candidates [] => (.error { reason := "NO_ACTIVE_ROUTE" }, c)
    | .candidates (endpoint :: _) =>
      if redisUp then (.ok endpoint, put cfg c request now endpoint) else (.ok endpoint, c)

end Cache

/-! ## Runs -/

variable {ι : Type} [DecidableEq ι]

structure World (ι : Type) where
  l1 : ι → OrderedDict String L1Entry := fun _ => []
  redis : OrderedDict String RedisEntry := []

structure Call (ι : Type) where
  process : ι
  request : ResolutionRequest
  now : ℚ
  repository : RepositoryReply
  redisUp : Bool

inductive Act (ι : Type) where
  | call (c : Call ι)
  | lose (key : String)

def World.caches (w : World ι) (p : ι) : Caches := ⟨w.l1 p, w.redis⟩

/-- What a call answers and leaves of the caches it works on. -/
def Call.resolve (cfg : Config) (generation : ι → Int) (c : Call ι) (w : World ι) :
    Except ResolutionDenied ResolvedEndpoint × Caches :=
  Endpoint.resolve cfg (w.caches c.process) c.request c.now (generation c.process) c.repository c.redisUp

def step (cfg : Config) (generation : ι → Int) (act : Act ι) (w : World ι) : World ι :=
  match act with
  | .call c =>
    let caches := (c.resolve cfg generation w).2
    { l1 := Function.update w.l1 c.process caches.l1, redis := caches.redis }
  | .lose key => { w with redis := w.redis.pop key }

end Middleware.Endpoint

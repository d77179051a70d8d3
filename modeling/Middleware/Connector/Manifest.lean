/-
Connector manifests, `middleware/connector_sdk/manifest.py`: what `parse_manifest` reads and checks of the fields that
the registry works with, and the digest of a manifest.

The fields that neither the registry nor the webhook processor reads are checked by `others`, which stands for the rest
of the errors that `parse_manifest` collects (`_secret_errors`, the runtime binding, authentication, the limits and
retries of commands, forbidden prefixes and keys); everything holds whatever these checks say. Only whether there are
errors matters, not the order they are listed in.
-/
import Middleware.Connector.Standards
import Middleware.Data.Json

namespace Middleware.Connector

structure CommandPolicy where
  commandPrefix : String
deriving DecidableEq, Repr

structure EventPolicy where
  eventType : String
  direction : String
deriving DecidableEq, Repr

structure WebhookPolicy where
  endpointKey : String
  routePath : String
  signatureAlgorithm : String
  signatureHeader : String
  timestampHeader : String
  eventIdHeader : String
  maximumClockSkewSeconds : Int
  maximumBodyBytes : Int
  acknowledgementDeadlineSeconds : Int
  secretReference : String
  replayRetentionSeconds : Int := 604800
deriving DecidableEq, Repr

structure ConnectorManifest where
  connectorId : String
  version : String
  commandPolicies : List CommandPolicy
  eventPolicies : List EventPolicy
  webhookPolicies : List WebhookPolicy
  named : connectorId ≠ ""
  versioned : ∃ v, SemanticVersion.parse version = .ok v
  routed : (webhookPolicies.map (·.routePath)).Nodup
deriving DecidableEq

/-! ## Reading -/

/-- `_object`. -/
def object (value : Option Json) (label : String) : Obj × List Problem :=
  match value with
  | some (.obj members) => (members, [])
  | _ => ([], [.text (label ++ " must be an object")])

/-- `_array`. -/
def array (value : Option Json) (label : String) : List Json × List Problem :=
  match value with
  | some (.arr items) => (items, [])
  | _ => ([], [.text (label ++ " must be an array")])

/-- `_string`. -/
def string (data : Obj) (key label : String) : String × List Problem :=
  match data.lookup key with
  | some (.str value) =>
    if value = "" then ("", [.text (label ++ "." ++ key ++ " must be a non-empty string")]) else (value, [])
  | _ => ("", [.text (label ++ "." ++ key ++ " must be a non-empty string")])

/-- `_integer`. -/
def integer (data : Obj) (key label : String) (minimum maximum : Int) : Int × List Problem :=
  match data.lookup key with
  | some (.int value) =>
    if minimum ≤ value ∧ value ≤ maximum then (value, [])
    else
      (value, [.text (label ++ "." ++ key ++ " must be between " ++ toString minimum ++ " and " ++ toString maximum)])
  | _ => (minimum, [.text (label ++ "." ++ key ++ " must be an integer")])

/-- `errors.append(message)` under a condition. -/
def failing (condition : Bool) (message : String) : List Problem := if condition then [.text message] else []

def lowerOrDigit (c : Char) : Bool := c.isLower || c.isDigit

/-- `CONNECTOR_ID`: lower-case words joined by dashes. -/
def isConnectorId (s : String) : Bool :=
  (split '-' s.toList).all fun word => !word.toList.isEmpty && word.toList.all lowerOrDigit

/-- Lower-case words joined by dots or dashes. -/
def isDotted (s : List Char) : Bool :=
  (split '.' (s.map fun c => if c = '-' then '.' else c)).all fun word =>
    !word.toList.isEmpty && word.toList.all lowerOrDigit

/-- `PREFIX`: words, and a dot at the end. -/
def isCommandPrefix (s : String) : Bool :=
  match s.toList.reverse with
  | '.' :: rest => isDotted rest.reverse
  | _ => false

/-- `EVENT`: words, and a version at the end. -/
def isEventType (s : String) : Bool :=
  let reversed := s.toList.reverse
  let version := (reversed.takeWhile (· != '.')).reverse
  match reversed.dropWhile (· != '.') with
  | '.' :: rest =>
    isDotted rest.reverse &&
      match version with
      | 'v' :: first :: digits => first.isDigit && first != '0' && digits.all Char.isDigit
      | _ => false
  | _ => false

/-- `HEADER`. -/
def isHeader (s : String) : Bool :=
  decide (1 ≤ s.toList.length ∧ s.toList.length ≤ 100) &&
    s.toList.all fun c => c.isAlphanum || "!#$%&'*+-.^_`|~".toList.contains c

/-- `SECRET_REF`. -/
def isSecretReference (s : String) : Bool :=
  match s.toList with
  | first :: rest =>
    first.isUpper && decide (2 ≤ rest.length ∧ rest.length ≤ 127) &&
      rest.all fun c => c.isUpper || c.isDigit || c == '_'
  | [] => false

/-- `SAFE_PATH`, the characters after the first. -/
def isPathChar (c : Char) : Bool :=
  c.isAlphanum || "._~!$&'()*+,;=:@/\x7b\x7d-".toList.contains c

/-- `_safe_path` of a path that is no operation template. -/
def safePath (value label : String) : List Problem :=
  let text := value.toList
  failing (text.head? != some '/' || "//".toList.isPrefixOf text) (label ++ " must start with exactly one slash") ++
  failing (text.contains '%') (label ++ " must be canonical and cannot be percent-encoded") ++
  failing (text.contains '?' || text.contains '#' || text.contains '\\') (label ++ " contains a forbidden delimiter") ++
  failing (text.any fun c => c.toNat < 32 || c.toNat == 127) (label ++ " contains an ASCII control character") ++
  failing (decide ("//".toList <:+: text)) (label ++ " contains an empty path segment") ++
  failing ((split '/' text).any fun part => part == "." || part == "..") (label ++ " contains a dot path segment") ++
  failing (!(text.head? == some '/' && (text.drop 1).all isPathChar)) (label ++ " contains a non-canonical path character") ++
  failing (text.contains '\x7b' || text.contains '\x7d') (label ++ " cannot contain a path placeholder")

/-- The version's own check; the interpreter may refuse its numbers. -/
def versionProblems (version : String) : Except Error (List Problem) :=
  if version = "" then .ok []
  else
    match SemanticVersion.parse version with
    | .ok _ => .ok []
    | .error (.standards value) => .ok [.version value]
    | .error e => .error e

/-- The loop over `commands`, from an index on and with the prefixes seen before. -/
def commandPolicies (index : Nat) (seenPrefixes : List String) : List Json → List CommandPolicy × List Problem
  | [] => ([], [])
  | raw :: rest =>
    let label := "commands[" ++ toString index ++ "]"
    let (command, errors) := object (some raw) label
    let (text, named) := string command "prefix" label
    let (policies, later) := commandPolicies (index + 1) (text :: seenPrefixes) rest
    ({ commandPrefix := text } :: policies,
      errors ++ named ++ failing (text != "" && !isCommandPrefix text) (label ++ ".prefix is invalid") ++
        failing (seenPrefixes.contains text) ("duplicate command prefix: " ++ text) ++ later)

def isWebhookRoute (path : String) : Bool :=
  "/v1/webhooks/".toList.isPrefixOf path.toList || "/internal/v1/adapters/".toList.isPrefixOf path.toList

/-- The loop over `events`. -/
def eventPolicies (index : Nat) (seenEvents : List String) : List Json → List EventPolicy × List Problem
  | [] => ([], [])
  | raw :: rest =>
    let label := "events[" ++ toString index ++ "]"
    let (event, errors) := object (some raw) label
    let (eventType, named) := string event "event_type" label
    let (direction, directed) := string event "direction" label
    let (policies, later) := eventPolicies (index + 1) (eventType :: seenEvents) rest
    ({ eventType := eventType, direction := direction } :: policies,
      errors ++ named ++ directed ++
        failing (eventType != "" && !isEventType eventType) (label ++ ".event_type is invalid") ++
        failing (seenEvents.contains eventType) ("duplicate event type: " ++ eventType) ++
        failing (!(["inbound", "outbound"].contains direction)) (label ++ ".direction is unsupported") ++ later)

def header (webhook : Obj) (key label : String) : String × List Problem :=
  let (value, errors) := string webhook key label
  (value, errors ++ failing (value != "" && !isHeader value) (label ++ "." ++ key ++ " is invalid"))

/-- One round of the loop over `webhooks`, but for what was seen before. -/
def webhookPolicy (label : String) (raw : Json) : WebhookPolicy × List Problem :=
  let (webhook, e) := object (some raw) label
  let (endpointKey, e1) := string webhook "endpoint_key" label
  let (routePath, e2) := string webhook "route_path" label
  let (algorithm, e3) := string webhook "signature_algorithm" label
  let (signatureHeader, e4) := header webhook "signature_header" label
  let (timestampHeader, e5) := header webhook "timestamp_header" label
  let (eventIdHeader, e6) := header webhook "event_id_header" label
  let (skew, e7) := integer webhook "maximum_clock_skew_seconds" label 30 900
  let (bodyLimit, e8) := integer webhook "maximum_body_bytes" label 1 (10 * 1024 * 1024)
  let (ack, e9) := integer webhook "acknowledgement_deadline_seconds" label 1 30
  let (secretReference, e10) := string webhook "secret_reference" label
  let lowered := ([signatureHeader, timestampHeader, eventIdHeader].filter (· != "")).map lower
  ({ endpointKey := endpointKey, routePath := routePath, signatureAlgorithm := algorithm
     signatureHeader := signatureHeader, timestampHeader := timestampHeader, eventIdHeader := eventIdHeader
     maximumClockSkewSeconds := skew, maximumBodyBytes := bodyLimit, acknowledgementDeadlineSeconds := ack
     secretReference := secretReference },
    e ++ e1 ++ failing (endpointKey != "" && !isConnectorId endpointKey) (label ++ ".endpoint_key must be kebab-case") ++
      e2 ++ (if routePath = "" then []
      else safePath routePath (label ++ ".route_path") ++
        failing (!isWebhookRoute routePath) (label ++ ".route_path uses an unapproved prefix")) ++
      e3 ++ failing (algorithm != "hmac-sha256") (label ++ ".signature_algorithm must be hmac-sha256") ++
      e4 ++ e5 ++ e6 ++ failing (!decide lowered.Nodup) (label ++ " webhook header names must be distinct") ++
      e7 ++ e8 ++ e9 ++ e10 ++
      failing (secretReference != "" && !isSecretReference secretReference) (label ++ ".secret_reference is invalid"))

/-- The loop over `webhooks`. -/
def webhookPolicies (index : Nat) (seenEndpoints seenRoutes : List String) : List Json → List WebhookPolicy × List Problem
  | [] => ([], [])
  | raw :: rest =>
    let (policy, errors) := webhookPolicy ("webhooks[" ++ toString index ++ "]") raw
    let (policies, later) :=
      webhookPolicies (index + 1) (policy.endpointKey :: seenEndpoints) (policy.routePath :: seenRoutes) rest
    (policy :: policies,
      errors ++ failing (seenEndpoints.contains policy.endpointKey) ("duplicate endpoint key: " ++ policy.endpointKey) ++
        failing (seenRoutes.contains policy.routePath) ("duplicate webhook route: " ++ policy.routePath) ++ later)

/-! ## What a check without errors guarantees -/

theorem string_named {data : Obj} {key label : String} (h : (string data key label).2 = []) :
    (string data key label).1 ≠ "" := by
  unfold string at h ⊢
  split at h
  · split at h
    · simp at h
    · rename_i hne
      simp [hne]
  · simp at h

theorem versionProblems_nil {version : String} (hne : version ≠ "") (h : versionProblems version = .ok []) :
    ∃ v, SemanticVersion.parse version = .ok v := by
  unfold versionProblems at h
  rw [if_neg hne] at h
  split at h
  · rename_i v hv
    exact ⟨v, hv⟩
  · simp at h
  · simp at h

theorem failing_nil {condition : Bool} {message : String} (h : failing condition message = []) : condition = false := by
  cases condition with
  | false => rfl
  | true => simp [failing] at h

theorem webhookPolicies_nodup {index : Nat} {endpoints seen : List String} {raws : List Json}
    (h : (webhookPolicies index endpoints seen raws).2 = []) :
    (((webhookPolicies index endpoints seen raws).1.map (·.routePath)).Nodup) ∧
      ∀ r ∈ (webhookPolicies index endpoints seen raws).1.map (·.routePath), r ∉ seen := by
  induction raws generalizing index endpoints seen with
  | nil => simp [webhookPolicies]
  | cons raw rest ih =>
    simp only [webhookPolicies, List.append_eq_nil_iff] at h ⊢
    obtain ⟨⟨-, hseen⟩, hlater⟩ := h
    obtain ⟨hnodup, hnew⟩ := ih hlater
    have hhead := failing_nil hseen
    simp only [List.contains_eq_mem, decide_eq_false_iff_not] at hhead
    simp only [List.map_cons, List.nodup_cons, List.mem_cons]
    refine ⟨⟨?_, hnodup⟩, ?_⟩
    · intro hmem
      exact hnew _ hmem (by simp)
    · rintro r (rfl | hr)
      · exact hhead
      · intro hs
        exact hnew r hr (by simp [hs])

/-! ## The manifest -/

section Parse

variable (others : Obj → List Problem)

/-- The errors of `parse_manifest`, those of the version given. -/
def manifestErrors (data : Obj) (versionErrors : List Problem) : List Problem :=
  let connectorId := string data "connector_id" "$"
  let version := string data "version" "$"
  let commands := array (data.lookup "commands") "commands"
  let policies := commandPolicies 0 [] commands.1
  let events := array (data.lookup "events") "events"
  let webhooks := array (data.lookup "webhooks") "webhooks"
  let routes := webhookPolicies 0 [] [] webhooks.1
  others data ++ connectorId.2 ++
    failing (connectorId.1 != "" && !isConnectorId connectorId.1) "connector_id must be lowercase kebab-case" ++
    version.2 ++ versionErrors ++ commands.2 ++ policies.2 ++
    failing policies.1.isEmpty "commands cannot be empty" ++ events.2 ++ (eventPolicies 0 [] events.1).2 ++
    webhooks.2 ++ routes.2

theorem manifestErrors_nil {data : Obj} {versionErrors : List Problem} (h : manifestErrors others data versionErrors = []) :
    (string data "connector_id" "$").1 ≠ "" ∧ (string data "version" "$").1 ≠ "" ∧ versionErrors = [] ∧
      ((webhookPolicies 0 [] [] (array (data.lookup "webhooks") "webhooks").1).1.map (·.routePath)).Nodup := by
  simp only [manifestErrors, List.append_eq_nil_iff] at h
  obtain ⟨⟨⟨⟨⟨⟨⟨⟨⟨⟨⟨-, hid⟩, -⟩, hversion⟩, herrors⟩, -⟩, -⟩, -⟩, -⟩, -⟩, -⟩, hroutes⟩ := h
  exact ⟨string_named hid, string_named hversion, herrors, (webhookPolicies_nodup hroutes).1⟩

/-- `parse_manifest`. -/
def parseManifest (data : Obj) : Except Error ConnectorManifest :=
  match hv : versionProblems (string data "version" "$").1 with
  | .error e => .error e
  | .ok versionErrors =>
    if h : manifestErrors others data versionErrors = [] then
      .ok
        { connectorId := (string data "connector_id" "$").1
          version := (string data "version" "$").1
          commandPolicies := (commandPolicies 0 [] (array (data.lookup "commands") "commands").1).1
          eventPolicies := (eventPolicies 0 [] (array (data.lookup "events") "events").1).1
          webhookPolicies := (webhookPolicies 0 [] [] (array (data.lookup "webhooks") "webhooks").1).1
          named := (manifestErrors_nil others h).1
          versioned := by
            obtain ⟨-, hne, rfl, -⟩ := manifestErrors_nil others h
            exact versionProblems_nil hne hv
          routed := (manifestErrors_nil others h).2.2.2 }
    else .error (.manifest (manifestErrors others data versionErrors))

/-- `manifest_digest`: the hash of the sorted compact JSON text of a manifest that parses. -/
def manifestDigest (data : Obj) : Except Error String := do
  let _ ← parseManifest others data
  return "sha256:" ++ Sha256.hexdigest (dumps false (.obj data))

end Parse

end Middleware.Connector

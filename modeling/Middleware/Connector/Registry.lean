/-
`ConnectorRegistry` of `middleware/connector_sdk/registry.py`: registering and replacing manifests, moving a connector
from state to state, loading a directory of manifests, and the check of the invariants across connectors.

A call runs in `RegistryM`, where the registry survives an exception as it does in Python. The adapter factories are
left out: no call here reads them.
-/
import Middleware.Connector.Manifest
import Middleware.Ledger.Types
import Middleware.Lib.Calls

namespace Middleware.Connector

open Ledger (Dict)
open Lib (CallM invoke)

inductive ConnectorState where
  | declared
  | validated
  | installedDisabled
  | active
  | suspended
  | failed
deriving DecidableEq, Repr

def ConnectorState.value : ConnectorState → String
  | declared => "DECLARED"
  | validated => "VALIDATED"
  | installedDisabled => "INSTALLED_DISABLED"
  | active => "ACTIVE"
  | suspended => "SUSPENDED"
  | failed => "FAILED"

/-- `_ALLOWED_TRANSITIONS`. -/
def allowedTransitions : ConnectorState → List ConnectorState
  | .declared => [.validated, .failed]
  | .validated => [.installedDisabled, .failed]
  | .installedDisabled => [.active, .suspended, .failed]
  | .active => [.suspended, .failed]
  | .suspended => [.installedDisabled, .failed]
  | .failed => [.declared]

structure RegisteredConnector where
  manifest : ConnectorManifest
  manifestDigest : String
  state : ConnectorState
deriving DecidableEq

structure ConnectorRegistry where
  connectors : Dict String RegisteredConnector := ∅
  keyed : ∀ id r, connectors.lookup id = some r → r.manifest.connectorId = id := by simp

namespace ConnectorRegistry

def empty : ConnectorRegistry := {}

/-- `self._connectors.get(connector_id)`. -/
def lookup (self : ConnectorRegistry) (connectorId : String) : Option RegisteredConnector :=
  self.connectors.lookup connectorId

/-- `self._connectors[record.manifest.connector_id] = record`. -/
def put (self : ConnectorRegistry) (record : RegisteredConnector) : ConnectorRegistry where
  connectors := self.connectors.insert record.manifest.connectorId record
  keyed := by
    intro id r h
    by_cases hid : id = record.manifest.connectorId
    · subst hid
      rw [AList.lookup_insert] at h
      rw [Option.some.inj h]
    · rw [AList.lookup_insert_ne hid] at h
      exact self.keyed id r h

/-- `list`: the records in the order of their ids. -/
def list (self : ConnectorRegistry) : List RegisteredConnector :=
  (self.connectors.keys.insertionSort (· ≤ ·)).filterMap self.lookup

end ConnectorRegistry

/-! ## Invariants across connectors -/

/-- `overlaps`: one prefix starts with the other. -/
def overlaps (a b : String) : Bool := b.toList.isPrefixOf a.toList || a.toList.isPrefixOf b.toList

/-- The variables of `validate_global_invariants`. -/
structure Audit where
  errors : List String := []
  commandOwners : List (String × String) := []
  webhookRoutes : Dict String String := ∅

/-- One round of the loop over the commands of a manifest. -/
def Audit.command (connectorId : String) (a : Audit) (command : CommandPolicy) : Audit :=
  { a with
    errors := a.errors ++ (a.commandOwners.filter fun prior =>
      overlaps command.commandPrefix prior.1 && prior.2 != connectorId).map fun prior =>
        "command prefixes overlap across connectors: " ++ prior.1 ++ " (" ++ prior.2 ++ ") and " ++
          command.commandPrefix ++ " (" ++ connectorId ++ ")"
    commandOwners := a.commandOwners ++ [(command.commandPrefix, connectorId)] }

/-- One round of the loop over the webhooks of a manifest. -/
def Audit.webhook (connectorId : String) (a : Audit) (webhook : WebhookPolicy) : Audit :=
  { a with
    errors := a.errors ++
      match a.webhookRoutes.lookup webhook.routePath with
      | some prior =>
        if prior ≠ "" then ["webhook route " ++ webhook.routePath ++ " belongs to " ++ prior ++ " and " ++ connectorId]
        else []
      | none => []
    webhookRoutes := a.webhookRoutes.insert webhook.routePath connectorId }

def Audit.record (a : Audit) (record : RegisteredConnector) : Audit :=
  record.manifest.webhookPolicies.foldl (Audit.webhook record.manifest.connectorId)
    (record.manifest.commandPolicies.foldl (Audit.command record.manifest.connectorId) a)

def ConnectorRegistry.validateGlobalInvariants (self : ConnectorRegistry) : List String :=
  (self.list.foldl Audit.record {}).errors

/-! ## Calls -/

abbrev RegistryM := CallM Error ConnectorRegistry

/-- A file of a directory: its path, and the JSON value it holds where it can be read. -/
structure ConnectorFile where
  path : String
  contents : Option Json

section Calls

variable (others : Obj → List Problem)

def registerManifest (rawManifest : Obj) (state : ConnectorState) (replace : Bool) : RegistryM RegisteredConnector :=
  if state ∉ [ConnectorState.declared, .validated, .installedDisabled] then
    throw (.state "manifest registration cannot create an active, suspended, or failed connector")
  else do
    let manifest ← parseManifest others rawManifest
    let digest ← manifestDigest others rawManifest
    let newVersion ← SemanticVersion.parse manifest.version
    let record : RegisteredConnector := { manifest := manifest, manifestDigest := digest, state := state }
    let self ← get
    match self.lookup manifest.connectorId with
    | none =>
      modify fun self => self.put record
      return record
    | some existing =>
      if !replace then
        throw (.versionConflict ("connector already registered: " ++ manifest.connectorId))
      else do
        let existingVersion ← SemanticVersion.parse existing.manifest.version
        let backwards ← newVersion.lt existingVersion
        if backwards then
          throw (.versionConflict "connector version cannot move backwards")
        else if newVersion.eq existingVersion then
          if digest ≠ existing.manifestDigest then
            throw (.versionConflict
              "an existing semantic version is immutable and cannot be replaced with a different manifest digest")
          else return existing
        else
          modify fun self => self.put record
          return record

def setState (connectorId : String) (expectedState newState : ConnectorState) : RegistryM RegisteredConnector := do
  let self ← get
  match self.lookup connectorId with
  | none => throw (.notFound connectorId)
  | some existing =>
    if existing.state ≠ expectedState then
      throw (.versionConflict ("state changed: expected " ++ expectedState.value ++ ", found " ++ existing.state.value))
    else if newState = expectedState then return existing
    else if newState ∉ allowedTransitions expectedState then
      throw (.state ("invalid connector state transition: " ++ expectedState.value ++ " -> " ++ newState.value))
    else
      modify fun self => self.put { existing with state := newState }
      return { existing with state := newState }

/-- The webhooks of one candidate in the loop of `load_directory`. -/
def claimRoutes (connectorId : String) : List WebhookPolicy → Dict String String → Except Error (Dict String String)
  | [], routeOwners => .ok routeOwners
  | webhook :: rest, routeOwners =>
    match routeOwners.lookup webhook.routePath with
    | some owner =>
      .error (.versionConflict
        ("webhook route " ++ webhook.routePath ++ " is shared by " ++ owner ++ " and " ++ connectorId))
    | none => claimRoutes connectorId rest (routeOwners.insert webhook.routePath connectorId)

/-- The loop of `load_directory` over the files. -/
def readCandidates : List ConnectorFile → Dict String String → Except Error (List (Obj × ConnectorManifest))
  | [], _ => .ok []
  | file :: rest, routeOwners =>
    match file.contents with
    | none => .error .json
    | some (.obj raw) => do
      let manifest ← parseManifest others raw
      let routeOwners ← claimRoutes manifest.connectorId manifest.webhookPolicies routeOwners
      return (raw, manifest) :: (← readCandidates rest routeOwners)
    | some _ => .error (.versionConflict ("manifest is not an object: " ++ file.path))

/-- `sorted(directory.glob("*.connector.json"))`. -/
def connectorFiles (directory : List ConnectorFile) : List ConnectorFile :=
  (directory.filter fun file => decide (".connector.json".toList <:+ file.path.toList)).insertionSort
    fun a b => a.path ≤ b.path

/-- Registering the candidates, one after the other. -/
def stage (state : ConnectorState) : List (Obj × ConnectorManifest) → RegistryM (List RegisteredConnector)
  | [] => return []
  | (raw, _) :: rest => do
    let record ← registerManifest others raw state false
    return record :: (← stage state rest)

def loadDirectory (directory : List ConnectorFile) (state : ConnectorState) : RegistryM (List RegisteredConnector) := do
  let candidates ← readCandidates others (connectorFiles directory) ∅
  if ¬(candidates.map (·.2.connectorId)).Nodup then
    throw (.versionConflict "connector directory contains duplicate connector IDs")
  else
    match invoke (stage others state candidates) .empty with
    | (.error e, _) => throw e
    | (.ok loaded, staged) =>
      if staged.validateGlobalInvariants ≠ [] then
        throw (.versionConflict ("; ".intercalate staged.validateGlobalInvariants))
      else do
        let self ← get
        match loaded.find? fun record => (self.lookup record.manifest.connectorId).isSome with
        | some record => throw (.versionConflict ("connector already registered: " ++ record.manifest.connectorId))
        | none =>
          modify fun self => loaded.foldl ConnectorRegistry.put self
          return loaded

inductive RegistryCall where
  | registerManifest (rawManifest : Obj) (state : ConnectorState) (replace : Bool)
  | setState (connectorId : String) (expectedState newState : ConnectorState)
  | loadDirectory (directory : List ConnectorFile) (state : ConnectorState)

/-- A call on a registry: its answer, and the registry it leaves. -/
def exec (call : RegistryCall) (self : ConnectorRegistry) : Except Error (List RegisteredConnector) × ConnectorRegistry :=
  match call with
  | .registerManifest raw state replace => invoke (do return [← registerManifest others raw state replace]) self
  | .setState id expected new => invoke (do return [← setState id expected new]) self
  | .loadDirectory directory state => invoke (loadDirectory others directory state) self

/-- The registry after a sequence of calls on a new one. -/
def runCalls (calls : List RegistryCall) : ConnectorRegistry :=
  calls.foldl (fun self call => (exec others call self).2) .empty

end Calls

end Middleware.Connector

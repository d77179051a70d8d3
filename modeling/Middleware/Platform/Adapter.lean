/-
The adapter contract (`app/platform/adapter.py`) and the adapter registry (`app/platform/registry.py`)
as the execution bus and the reconciler use them. An adapter is code outside this development:
what it answers is input, and only the types of its answers are fixed here.

Timeouts, HTTP clients and secret references are not carried: a call that runs out of time is a call
answered with `Exc.timeout`.
-/
import Middleware.Ledger.Types

namespace Middleware.Platform

open Ledger

inductive Outcome where
  | accepted
  | completed
  | rejected
  | transient
  | unknown
  | cancelled
  | unsupported
deriving DecidableEq, Repr

def Outcome.value : Outcome → String
  | accepted => "ACCEPTED"
  | completed => "COMPLETED"
  | rejected => "REJECTED"
  | transient => "TRANSIENT"
  | unknown => "UNKNOWN"
  | cancelled => "CANCELLED"
  | unsupported => "UNSUPPORTED"

/-- `outcome.value.lower()`. -/
def Outcome.lower : Outcome → String
  | accepted => "accepted"
  | completed => "completed"
  | rejected => "rejected"
  | transient => "transient"
  | unknown => "unknown"
  | cancelled => "cancelled"
  | unsupported => "unsupported"

inductive ReadbackStatus where
  | matched
  | mismatch
  | notFound
  | unavailable
  | unsupported
deriving DecidableEq, Repr

def ReadbackStatus.value : ReadbackStatus → String
  | matched => "MATCHED"
  | mismatch => "MISMATCH"
  | notFound => "NOT_FOUND"
  | unavailable => "UNAVAILABLE"
  | unsupported => "UNSUPPORTED"

/-- `status.value.lower()`. -/
def ReadbackStatus.lower : ReadbackStatus → String
  | matched => "matched"
  | mismatch => "mismatch"
  | notFound => "not_found"
  | unavailable => "unavailable"
  | unsupported => "unsupported"

inductive ErrorClass where
  | retryableBeforeEffect
  | nonRetryable
  | ambiguous
  | providerAuth
  | providerRateLimited
  | unsupported
deriving DecidableEq, Repr

def ErrorClass.value : ErrorClass → String
  | retryableBeforeEffect => "RETRYABLE_BEFORE_EFFECT"
  | nonRetryable => "NON_RETRYABLE"
  | ambiguous => "AMBIGUOUS"
  | providerAuth => "PROVIDER_AUTH"
  | providerRateLimited => "PROVIDER_RATE_LIMITED"
  | unsupported => "UNSUPPORTED"

/-- Everything the kernel hands to an adapter for one attempt. -/
structure AdapterContext where
  tenantId : String
  commandId : Uuid
  correlationId : String
  attempt : Nat
  environment : String
  deploymentSha : String
  traceContext : Obj := []
  testSyn : Bool := false
  payload : Obj := []

structure AdapterResult where
  outcome : Outcome
  providerOperationId : Option String := none
  errorClass : Option ErrorClass := none
  safeErrorCode : Option String := none

structure ReadbackResult where
  status : ReadbackStatus
  providerOperationId : Option String := none
  evidence : Obj := []
  safeErrorCode : Option String := none

structure AdapterReadiness where
  ready : Bool

/-- What an adapter advertises, as far as execution and reconciliation read it. -/
structure AdapterCapabilities where
  connectorIds : List String
  supportsStatus : Bool := true
  safeReexecution : Bool := false

/-! ## Command policies and adapter ownership -/

structure CommandPolicy where
  commandPrefix : String
  target : String
  capability : String
  readbackRequired : Bool

/-- `CommandPolicyRegistry`: the policies, longest prefix first, and the capability switches. -/
structure CommandPolicyRegistry where
  policies : List CommandPolicy
  capabilities : Dict String Bool

/-- The policies whose prefix starts the command type. -/
def CommandPolicyRegistry.matching (r : CommandPolicyRegistry) (commandType : String) : List CommandPolicy :=
  r.policies.filter fun p => p.commandPrefix.toList.isPrefixOf commandType.toList

/-- The one policy that owns a command type, if there is exactly one. -/
def CommandPolicyRegistry.resolve (r : CommandPolicyRegistry) (commandType : String) : Option CommandPolicy :=
  match r.matching commandType with
  | [policy] => some policy
  | _ => none

structure Ownership where
  commandPrefix : String
  target : String
  capability : String
  readbackRequired : Bool
  adapterId : String

/-- `AdapterRegistry`: the adapter that owns each prefix, and what each registered adapter advertised. -/
structure AdapterRegistry where
  policies : CommandPolicyRegistry
  owners : Dict String String
  advertised : Dict String AdapterCapabilities

def AdapterRegistry.ownership (r : AdapterRegistry) (commandType : String) : Option Ownership :=
  match r.policies.resolve commandType with
  | none => none
  | some policy =>
    match r.owners.lookup policy.commandPrefix with
    | none => none
    | some adapterId =>
      some
        { commandPrefix := policy.commandPrefix, target := policy.target, capability := policy.capability,
          readbackRequired := policy.readbackRequired, adapterId := adapterId }

end Middleware.Platform

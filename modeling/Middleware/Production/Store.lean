/-
The stores of the policies (`app/email_production_control.py`): `MemoryEmailProductionPolicyStore`, and
`PostgresEmailProductionPolicyStore` over the events of a tenant. Their methods read and write differently and are otherwise the
same, so they are given once, over what a store reads and writes; `LawfulStore` says what they rely on, and both stores keep it.

A method is one step: the store in memory does not give way in it, the other one runs it in a transaction under the tenant's lock.
A step reads the clock once. Of the ledger only the events of this control are kept, in the order of their sequence.
-/
import Middleware.Production.Policy
import Middleware.Lib.OrderedDict

namespace Middleware.Production

open Ledger Lib
open Incidents (Moment)

/-- What a repeated mutation is known by. -/
structure Slot where
  tenantId : String
  action : String
  actor : String
  idempotencyKey : String
  deriving DecidableEq

structure Mutation where
  slot : Slot
  reason : String
  correlationId : String
  requestSha256 : String
  previous : EmailProductionPolicy
  new : EmailProductionPolicy
  createdAt : Time

structure QuotaReservation where
  tenantId : String
  reservationId : String
  units : Int
  reservedAt : Time
  deriving DecidableEq

def defaultPolicy (tenantId : String) (now : Time) : EmailProductionPolicy := { tenantId, updatedAt := .utc now }

/-! ## What a store reads and writes -/

class PolicyStore (lib : Library) (σ : Type) where
  start : σ
  read : EmailProductionPolicy → Except Exc EmailProductionPolicy
  /-- The policy that was stored last for a tenant. -/
  stored : σ → String → Option EmailProductionPolicy
  /-- The digest and the policy of a mutation. -/
  recorded : σ → Slot → Option (String × EmailProductionPolicy)
  append : Mutation → σ → σ
  /-- The audit records of a tenant, the first one first. -/
  audits : σ → String → List Mutation
  /-- The units that a tenant has reserved since an instant and that are not released. -/
  used : σ → String → Time → Int
  reserve : QuotaReservation → Time → σ → σ
  release : QuotaReservation → Time → σ → σ

export PolicyStore (read stored recorded append audits used)

class LawfulStore (lib : Library) (σ : Type) [PolicyStore lib σ] : Prop where
  read_ok : ∀ p p', read lib σ p = .ok p' → p' = p ∨ p.modelValidate lib = .ok p'
  read_error : ∀ p e, read lib σ p = .error e → p.modelValidate lib = .error e
  stored_start : ∀ tenantId, stored lib (PolicyStore.start lib : σ) tenantId = none
  recorded_start : ∀ slot, recorded lib (PolicyStore.start lib : σ) slot = none
  audits_start : ∀ tenantId, audits lib (PolicyStore.start lib : σ) tenantId = []
  stored_append : ∀ (s : σ) m tenantId, stored lib (append lib m s) tenantId =
    if tenantId = m.slot.tenantId then some m.new else stored lib s tenantId
  recorded_append : ∀ (s : σ) m, recorded lib s m.slot = none →
    recorded lib (append lib m s) m.slot = some (m.requestSha256, m.new)
  recorded_kept : ∀ (s : σ) m slot r, recorded lib s m.slot = none → recorded lib s slot = some r →
    recorded lib (append lib m s) slot = some r
  audits_append : ∀ (s : σ) m tenantId, audits lib (append lib m s) tenantId =
    audits lib s tenantId ++ if tenantId = m.slot.tenantId then [m] else []

/-! ## The store in memory -/

structure MemoryEmailProductionPolicyStore where
  policies : OrderedDict String EmailProductionPolicy := []
  mutations : OrderedDict Slot (String × EmailProductionPolicy) := []
  audits : List Mutation := []
  quotaReservations : OrderedDict String QuotaReservation := []
  quotaReleases : List String := []

namespace MemoryEmailProductionPolicyStore

variable (s : MemoryEmailProductionPolicyStore)

def append (m : Mutation) : MemoryEmailProductionPolicyStore :=
  { s with
    policies := s.policies.set m.slot.tenantId m.new
    mutations := s.mutations.set m.slot (m.requestSha256, m.new)
    audits := s.audits ++ [m] }

/-- `_usage`, since an instant. -/
def used (tenantId : String) (cutoff : Time) : Int :=
  ((s.quotaReservations.filter fun m => m.2.tenantId = tenantId ∧ m.2.reservationId ∉ s.quotaReleases ∧ cutoff ≤ m.2.reservedAt).map
    (·.2.units)).sum

end MemoryEmailProductionPolicyStore

instance (lib : Library) : PolicyStore lib MemoryEmailProductionPolicyStore where
  start := {}
  read p := .ok p
  stored s tenantId := s.policies.get tenantId
  recorded s slot := s.mutations.get slot
  append m s := s.append m
  audits s tenantId := s.audits.filter (·.slot.tenantId = tenantId)
  used s tenantId cutoff := s.used tenantId cutoff
  reserve r _ s := { s with quotaReservations := s.quotaReservations.set r.reservationId r }
  release r _ s := { s with quotaReleases := s.quotaReleases.insert r.reservationId }

instance (lib : Library) : LawfulStore lib MemoryEmailProductionPolicyStore where
  read_ok _ _ h := .inl (Except.ok.inj h).symm
  read_error _ _ h := nomatch (show Except.ok _ = Except.error _ from h)
  stored_start _ := rfl
  recorded_start _ := rfl
  audits_start _ := rfl
  stored_append s m tenantId := OrderedDict.get_set
  recorded_append s m _ := OrderedDict.get_set_self
  recorded_kept s m slot r hnew hslot := by
    have hne : slot ≠ m.slot := by
      rintro rfl
      exact absurd (hnew.symm.trans hslot) nofun
    exact (OrderedDict.get_set_ne hne).trans hslot
  audits_append s m tenantId := by
    show (s.audits ++ [m]).filter _ = _
    rw [List.filter_append]
    by_cases h : tenantId = m.slot.tenantId
    · rw [if_pos h, List.filter_singleton, h, decide_eq_true rfl]
      rfl
    · rw [if_neg h, List.filter_singleton, decide_eq_false (Ne.symm h)]
      rfl

/-! ## The store in PostgreSQL -/

inductive LedgerPayload where
  | policyChanged (mutation : Mutation)
  | quotaReserved (reservation : QuotaReservation)
  | quotaReleased (reservation : QuotaReservation)

structure LedgerEvent where
  tenantId : String
  recordedAt : Time
  payload : LedgerPayload

structure PostgresEmailProductionPolicyStore where
  ledger : List LedgerEvent := []

/-- `_control_idempotency`. -/
def controlIdempotency (slot : Slot) : String :=
  "email-production-control:" ++ Sha256.hexdigest (slot.action ++ "\x00" ++ slot.actor ++ "\x00" ++ slot.idempotencyKey)

/-- The key that an event is written with. -/
def LedgerPayload.idempotencyKey : LedgerPayload → String
  | .policyChanged m => controlIdempotency m.slot
  | .quotaReserved r => "email-quota-reserve:" ++ r.reservationId
  | .quotaReleased r => "email-quota-release:" ++ r.reservationId

/-- The mutation of an event of type `POLICY_EVENT`. -/
def LedgerEvent.mutation (e : LedgerEvent) : Option Mutation :=
  match e.payload with
  | .policyChanged m => some m
  | _ => none

/-- The reservation of an event of type `QUOTA_RESERVED_EVENT`. -/
def LedgerEvent.reserved (e : LedgerEvent) : Option QuotaReservation :=
  match e.payload with
  | .quotaReserved r => some r
  | _ => none

/-- The reservation of an event of type `QUOTA_RELEASED_EVENT`. -/
def LedgerEvent.released (e : LedgerEvent) : Option QuotaReservation :=
  match e.payload with
  | .quotaReleased r => some r
  | _ => none

/-- The event records a mutation under the key of a slot. -/
def LedgerEvent.isRecord (slot : Slot) (e : LedgerEvent) : Bool :=
  decide (e.payload.idempotencyKey = controlIdempotency slot) && e.mutation.isSome

namespace PostgresEmailProductionPolicyStore

variable (s : PostgresEmailProductionPolicyStore)

def ofTenant (tenantId : String) : List LedgerEvent := s.ledger.filter (·.tenantId = tenantId)

/-- The mutations of a tenant, the first one first. -/
def mutations (tenantId : String) : List Mutation := (s.ofTenant tenantId).filterMap (·.mutation)

/-- `SELECT ... WHERE tenant_id=$1 AND idempotency_key=$2 LIMIT 1`, as far as it is a mutation. -/
def recorded (slot : Slot) : Option (String × EmailProductionPolicy) :=
  ((s.ofTenant slot.tenantId).find? (LedgerEvent.isRecord slot)).bind fun e =>
    e.mutation.map fun m => (m.requestSha256, m.new)

/-- `_append_event`. -/
def append (tenantId : String) (now : Time) (payload : LedgerPayload) : PostgresEmailProductionPolicyStore :=
  ⟨s.ledger ++ [{ tenantId, recordedAt := now, payload }]⟩

/-- `_quota_used`. -/
def used (tenantId : String) (cutoff : Time) : Int :=
  let events := s.ofTenant tenantId
  let open_ := events.filter fun e => decide (cutoff ≤ e.recordedAt) && e.reserved.any fun r =>
    !events.any fun x => x.released.any fun r' => decide (r'.reservationId = r.reservationId)
  ((open_.filterMap (·.reserved)).map (·.units)).sum

/-- `release_quota`: a reservation is released once. -/
def release (r : QuotaReservation) (now : Time) : PostgresEmailProductionPolicyStore :=
  if (s.ofTenant r.tenantId).any fun e => decide (e.payload.idempotencyKey = "email-quota-release:" ++ r.reservationId) then s
  else s.append r.tenantId now (.quotaReleased r)

end PostgresEmailProductionPolicyStore

instance (lib : Library) : PolicyStore lib PostgresEmailProductionPolicyStore where
  start := {}
  read p := p.modelValidate lib
  stored s tenantId := (s.mutations tenantId).getLast?.map (·.new)
  recorded s slot := s.recorded slot
  append m s := s.append m.slot.tenantId m.createdAt (.policyChanged m)
  audits s tenantId := s.mutations tenantId
  used s tenantId cutoff := s.used tenantId cutoff
  reserve r now s := s.append r.tenantId now (.quotaReserved r)
  release r now s := s.release r now

theorem ofTenant_append (s : PostgresEmailProductionPolicyStore) (tenantId : String) (now : Time) (payload : LedgerPayload)
    (other : String) : (s.append tenantId now payload).ofTenant other =
      s.ofTenant other ++ if other = tenantId then [{ tenantId, recordedAt := now, payload }] else [] := by
  show (s.ledger ++ [_]).filter _ = _
  rw [List.filter_append]
  by_cases h : other = tenantId
  · rw [if_pos h, List.filter_singleton, h, decide_eq_true rfl]
    rfl
  · rw [if_neg h, List.filter_singleton, decide_eq_false (Ne.symm h)]
    rfl

theorem mutations_append (s : PostgresEmailProductionPolicyStore) (m : Mutation) (tenantId : String) :
    (s.append m.slot.tenantId m.createdAt (.policyChanged m)).mutations tenantId =
      s.mutations tenantId ++ if tenantId = m.slot.tenantId then [m] else [] := by
  unfold PostgresEmailProductionPolicyStore.mutations
  rw [ofTenant_append, List.filterMap_append]
  split <;> rfl

theorem recorded_append_some {s : PostgresEmailProductionPolicyStore} {m : Mutation} {slot : Slot}
    {r : String × EmailProductionPolicy} (h : s.recorded slot = some r) :
    (s.append m.slot.tenantId m.createdAt (.policyChanged m)).recorded slot = some r := by
  unfold PostgresEmailProductionPolicyStore.recorded at h ⊢
  rw [ofTenant_append, List.find?_append]
  obtain ⟨e, he, hr⟩ := Option.bind_eq_some_iff.1 h
  rw [he]
  exact hr

instance (lib : Library) : LawfulStore lib PostgresEmailProductionPolicyStore where
  read_ok _ _ h := .inr h
  read_error _ _ h := h
  stored_start _ := rfl
  recorded_start _ := rfl
  audits_start _ := rfl
  stored_append s m tenantId := by
    show ((s.append _ _ _).mutations tenantId).getLast?.map _ = _
    rw [mutations_append]
    split
    · rw [List.getLast?_concat]
      rfl
    · rw [List.append_nil]
      rfl
  recorded_append s m hnew := by
    show (s.append _ _ _).recorded m.slot = _
    have hnone : (s.ofTenant m.slot.tenantId).find? (LedgerEvent.isRecord m.slot) = none := by
      have hrecorded : s.recorded m.slot = none := hnew
      unfold PostgresEmailProductionPolicyStore.recorded at hrecorded
      rcases hfind : (s.ofTenant m.slot.tenantId).find? (LedgerEvent.isRecord m.slot) with _ | e
      · rfl
      · rw [hfind] at hrecorded
        have hrecord : LedgerEvent.isRecord m.slot e = true := List.find?_some hfind
        have hsome : e.mutation.isSome := (Bool.and_eq_true_iff.1 hrecord).2
        obtain ⟨m', hm'⟩ := Option.isSome_iff_exists.1 hsome
        rw [Option.bind_some, hm'] at hrecorded
        cases hrecorded
    have hself : LedgerEvent.isRecord m.slot
        { tenantId := m.slot.tenantId, recordedAt := m.createdAt, payload := .policyChanged m } = true :=
      Bool.and_eq_true_iff.2 ⟨decide_eq_true rfl, rfl⟩
    unfold PostgresEmailProductionPolicyStore.recorded
    rw [ofTenant_append, if_pos rfl, List.find?_append, hnone, Option.none_or, List.find?_cons_of_pos hself]
    rfl
  recorded_kept s m slot r _ hslot := recorded_append_some hslot
  audits_append s m tenantId := mutations_append s m tenantId

/-! ## The methods -/

/-- The arguments of an operation of `EmailProductionControlService`. -/
structure Call where
  tenantId : String
  actor : String
  correlationId : String
  idempotencyKey : String
  body : ControlBody

def Call.slot (c : Call) : Slot := ⟨c.tenantId, c.body.action, c.actor, c.idempotencyKey⟩

structure Window where
  name : String
  limit : EmailProductionPolicy → Int
  length : Int

def windows : List Window :=
  [⟨"minute", (·.perMinuteLimit), 60000000⟩, ⟨"hour", (·.perHourLimit), 3600000000⟩, ⟨"day", (·.perDayLimit), 86400000000⟩]

/-- `_quota_cutoffs`: when the window that an instant lies in begins. -/
def Window.cutoff (window : Window) (moment : Time) : Time := moment - moment % window.length

section Methods

variable (lib : Library) {σ : Type} [PolicyStore lib σ]

/-- `get`. -/
def get (tenantId : String) (now : Time) (s : σ) : Except Exc EmailProductionPolicy :=
  match stored lib s tenantId with
  | none => .ok (defaultPolicy tenantId now)
  | some policy => read lib σ policy

/-- The policy that a call makes of the current one, as it is stored. -/
def changed (c : Call) (now : Time) (current : EmailProductionPolicy) : Except Exc EmailProductionPolicy :=
  { c.body.transform lib c.actor now current with version := current.version + 1, updatedAt := .utc now }.modelValidate lib

def Call.mutation (c : Call) (now : Time) (previous new : EmailProductionPolicy) : Mutation :=
  { slot := c.slot, reason := c.body.reason, correlationId := c.correlationId, requestSha256 := c.body.requestDigest lib, previous, new,
    createdAt := now }

/-- `mutate`. -/
def mutate (c : Call) (now : Time) (s : σ) : Except Exc EmailProductionPolicy × σ :=
  match recorded lib s c.slot with
  | some (requestSha256, policy) =>
    if requestSha256 ≠ c.body.requestDigest lib then
      (.error (conflict "Idempotency-Key was reused with different production-control content"), s)
    else (policy.modelValidate lib, s)
  | none =>
    match get lib c.tenantId now s with
    | .error e => (.error e, s)
    | .ok current =>
      if current.version ≠ c.body.expectedVersion then (.error (conflict "expectedVersion is stale"), s)
      else
        match changed lib c now current with
        | .error e => (.error e, s)
        | .ok new => (.ok new, append lib (c.mutation lib now current new) s)

/-- `reserve_quota`; the ledger has a clock of its own. -/
def reserveQuota (tenantId reservationId : String) (units : Int) (policy : EmailProductionPolicy) (now recordedAt : Time) (s : σ) :
    Except Exc QuotaReservation × σ :=
  match windows.find? fun window => decide (window.limit policy < used lib s tenantId (window.cutoff now) + units) with
  | some window => (.error (rateLimited (window.name ++ " email quota is exhausted")), s)
  | none =>
    let r : QuotaReservation := { tenantId, reservationId, units, reservedAt := now }
    (.ok r, PolicyStore.reserve lib r recordedAt s)

/-- `quota_status`. -/
def quotaStatus (tenantId : String) (now : Time) (s : σ) : List (String × Int) :=
  windows.map fun window => (window.name, used lib s tenantId (window.cutoff now))

end Methods

end Middleware.Production

/-
Production e-mail submissions of a tenant in flight. A submission reserves its recipients, is handed to the ledger or not, and releases
the reservation if it is answered without a command; between these steps other submissions run, in this process or another one.

An event carries the instant it happens at. A reservation is made under the lock of the store, which it may have waited for. A
submission that finds another one in flight under its key waits too.
-/
import Middleware.Production.Strictness
import Middleware.Production.Reservations

namespace Middleware.Production

open Ledger Lib
open Communications (Submit Durable Store Service CommunicationMessage HandsOver)

/-- The draws of `uuid4`. -/
structure Draws where
  uuid4 : Nat → String
  distinct : ∀ i j, uuid4 i = uuid4 j → i = j

/-- A reservation, and the instant it counts from. -/
structure Held where
  reservation : QuotaReservation
  since : Time

/-- How far a submission has come, with the reservation that it has not given back. -/
inductive Submission (svc : GatedService) where
  | refused (e : Exc)
  | waiting (process : Nat) (c : Submit svc.library) (held : Option Held)
  | releasing (c : Submit svc.library) (held : Held) (answer : Except Exc (CommunicationMessage × Bool))
  | done (c : Submit svc.library) (held : Option Held) (handedAt : Option Time) (answer : Except Exc (CommunicationMessage × Bool))

structure Traffic (svc : GatedService) (σ : Type) where
  caches : Nat → Store
  ledger : MemoryCommandStore := {}
  store : σ
  submissions : List (Submission svc) := []
  drawn : Nat := 0

inductive Event (svc : GatedService) where
  | begin (process : Nat) (c : Submit svc.library) (d : Durable) (g : Readings) (now : Time)
  | submit (pid : Nat) (now : Time)
  | release (pid : Nat) (now : Time)

def Event.now {svc : GatedService} : Event svc → Time
  | begin _ _ _ _ now => now
  | submit _ now => now
  | release _ now => now

section Submissions

variable {svc : GatedService}

namespace Submission

def locks (key : String) : Submission svc → Bool
  | waiting _ c _ => decide (c.idempotencyKey = key)
  | releasing c _ _ => decide (c.idempotencyKey = key)
  | refused _ => false
  | done _ _ _ _ => false

def held : Submission svc → Option Held
  | refused _ => none
  | waiting _ _ held => held
  | releasing _ held _ => some held
  | done _ held _ _ => held

def recipients : Submission svc → Int
  | refused _ => 0
  | waiting _ c _ => c.request.request.recipients.length
  | releasing c _ _ => c.request.request.recipients.length
  | done c _ _ _ => c.request.request.recipients.length

def handedAt : Submission svc → Option Time
  | done _ _ handedAt _ => handedAt
  | _ => none

/-- The reservation as the store keeps it. -/
def hold (x : Submission svc) : Option Hold := x.held.map fun h => ⟨h.reservation.reservationId, h.reservation.units, h.since⟩

/-- The reserved units, if they count behind a cutoff. -/
def behind (cutoff : Time) (x : Submission svc) : Int := (x.hold.map (·.behind cutoff)).getD 0

/-- The reserved units of a submission that is under way. -/
def pending (cutoff : Time) : Submission svc → Int
  | done _ _ _ _ => 0
  | x => x.behind cutoff

/-- The recipients of a command that was handed over in the window of an instant. -/
def handedIn (window : Window) (now : Time) (x : Submission svc) : Int :=
  match x.handedAt with
  | some handed => if window.cutoff handed = window.cutoff now then x.recipients else 0
  | none => 0

end Submission

/-- When the command is handed over, if it is. -/
def handing (svc : Service) (c : Submit svc.library) (cache : Store) (now : Time) : Option Time :=
  match svc.prepare c cache with
  | .ok (.submitting _ _ _ _) => some now
  | _ => none

/-- A submission after the shared part of `submit_message`. -/
def answered (svc : GatedService) (c : Submit svc.library) (held : Option Held) (handedAt : Option Time)
    (answer : Except Exc (CommunicationMessage × Bool)) : Submission svc :=
  match held with
  | some h => if GatedService.unsent answer then .releasing c h answer else .done c (some h) handedAt answer
  | none => .done c none handedAt answer

end Submissions

section Steps

variable (svc : GatedService) (draws : Draws) {σ : Type} [PolicyStore svc.control σ] [QuotaStore svc.control σ]

namespace Traffic

def step (event : Event svc) (t : Traffic svc σ) : Traffic svc σ :=
  match event with
  | .begin process c d g _ =>
    if t.submissions.any (·.locks c.idempotencyKey) then t
    else
      match d.refreshIdempotency c.tenantId c.idempotencyKey (t.caches process) with
      | .error e => { t with submissions := t.submissions ++ [.refused e] }
      | .ok cache =>
        match svc.pass c { g with reservationId := draws.uuid4 t.drawn } cache t.store with
        | (.error e, s) =>
          { t with
            caches := Function.update t.caches process cache, store := s, submissions := t.submissions ++ [.refused e]
            drawn := t.drawn + 1 }
        | (.ok (c', reservation), s) =>
          { t with
            caches := Function.update t.caches process cache, store := s, drawn := t.drawn + 1
            submissions := t.submissions ++
              [.waiting process c' (reservation.map fun r => ⟨r, QuotaStore.since svc.control σ r g.recordedAt⟩)] }
  | .submit pid now =>
    match t.submissions[pid]? with
    | some (.waiting process c held) =>
      let (answer, w) := svc.submitMessage c ⟨t.caches process, t.ledger⟩
      { t with
        caches := Function.update t.caches process w.store, ledger := w.ledger
        submissions := t.submissions.set pid (answered svc c held (handing svc.toService c (t.caches process) now) answer) }
    | _ => t
  | .release pid now =>
    match t.submissions[pid]? with
    | some (.releasing c held answer) =>
      { t with
        store := PolicyStore.release svc.control held.reservation now t.store
        submissions := t.submissions.set pid (.done c none none answer) }
    | _ => t

def after (t : Traffic svc σ) (events : List (Event svc)) : Traffic svc σ := runFrom (Traffic.step svc draws) t events

end Traffic

end Steps

end Middleware.Production

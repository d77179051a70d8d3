/-
The circuit breaker of a provider (`CircuitBreaker` of `app/platform/resilience.py`): its counters, its admissions and the results
of the attempts, which may come in any later state. The clock is the instant each call reads, in any order; the callback of a
transition is left out, since nothing here reads what it does.
-/
import Middleware.Lib.Runs

namespace Middleware.Breaker

open Lib

inductive BreakerState where
  | closed
  | opened
  | halfOpen
deriving DecidableEq

structure CircuitBreaker where
  failureThreshold : Nat := 5
  openSeconds : ℚ := 30
  halfOpenMaxProbes : Nat := 1
  state : BreakerState := .closed
  failures : Nat := 0
  openedAt : ℚ := 0
  probes : Nat := 0

namespace CircuitBreaker

/-- The property `state`: reading it takes an open breaker to HALF_OPEN once its time is over. -/
def read (b : CircuitBreaker) (now : ℚ) : CircuitBreaker :=
  if b.state = .opened ∧ b.openSeconds ≤ now - b.openedAt then { b with state := .halfOpen, probes := 0 } else b

/-- `admit`: whether the attempt is admitted, where the source raises `CircuitOpen`. -/
def admission (b : CircuitBreaker) (now : ℚ) : Bool × CircuitBreaker :=
  let b := b.read now
  match b.state with
  | .closed => (true, b)
  | .halfOpen => if b.probes < b.halfOpenMaxProbes then (true, { b with probes := b.probes + 1 }) else (false, b)
  | .opened => (false, b)

/-- `record_success`. -/
def recordSuccess (b : CircuitBreaker) : CircuitBreaker := { b with failures := 0, state := .closed }

/-- `record_failure`. -/
def recordFailure (b : CircuitBreaker) (now : ℚ) : CircuitBreaker :=
  let b := { b with failures := b.failures + 1 }
  if b.state = .halfOpen ∨ b.failureThreshold ≤ b.failures then { b with openedAt := now, state := .opened } else b

end CircuitBreaker

/-- A use of a breaker, with the reading of its clock. -/
inductive BreakerEvent where
  | read (now : ℚ)
  | attempt (now : ℚ)
  | success
  | failure (now : ℚ)

namespace BreakerEvent

def step : BreakerEvent → CircuitBreaker → CircuitBreaker
  | read now, b => b.read now
  | attempt now, b => (b.admission now).2
  | success, b => b.recordSuccess
  | failure now, b => b.recordFailure now

/-- The use is an attempt, and it is admitted. -/
def admitted : BreakerEvent → CircuitBreaker → Bool
  | attempt now, b => (b.admission now).1
  | _, _ => false

/-- The failures in a row after the use. -/
def counts : Nat → BreakerEvent → Nat
  | _, success => 0
  | n, failure _ => n + 1
  | n, _ => n

/-- The instant of the last failure after the use. -/
def dates : Option ℚ → BreakerEvent → Option ℚ
  | _, failure now => some now
  | last, _ => last

end BreakerEvent

open BreakerEvent

/-- The failures recorded since the last success. -/
def consecutiveFailures (events : List BreakerEvent) : Nat := events.foldl counts 0

/-- The instant of the last failure recorded. -/
def lastFailure (events : List BreakerEvent) : Option ℚ := events.foldl dates none

/-- How many attempts are admitted. -/
def admissions : CircuitBreaker → List BreakerEvent → Nat
  | _, [] => 0
  | b, e :: rest => (if admitted e b then 1 else 0) + admissions (step e b) rest

/-! ## One use -/

section Step

variable {b : CircuitBreaker} {now : ℚ} {e : BreakerEvent}

theorem read_cases (b : CircuitBreaker) (now : ℚ) : b.read now = b ∨
    b.state = .opened ∧ b.read now = { b with state := .halfOpen, probes := 0 } := by
  unfold CircuitBreaker.read
  split
  · rename_i h
    exact .inr ⟨h.1, rfl⟩
  · exact .inl rfl

/-- An attempt is admitted in CLOSED, or as a probe, or it is refused with nothing changed since the reading. -/
theorem admission_cases (b : CircuitBreaker) (now : ℚ) :
    (b.read now).state = .closed ∧ b.admission now = (true, b.read now) ∨
    (b.read now).probes < (b.read now).halfOpenMaxProbes ∧
      b.admission now = (true, { b.read now with probes := (b.read now).probes + 1 }) ∨
    b.admission now = (false, b.read now) := by
  unfold CircuitBreaker.admission
  cases hs : (b.read now).state with
  | closed => exact .inl ⟨rfl, by simp [hs]⟩
  | opened => exact .inr (.inr (by simp [hs]))
  | halfOpen =>
    by_cases hp : (b.read now).probes < (b.read now).halfOpenMaxProbes
    · exact .inr (.inl ⟨hp, by simp [hs, hp]⟩)
    · exact .inr (.inr (by simp [hs, hp]))

theorem admission_opened (hs : b.state = .opened) :
    (b.admission now).1 = true ↔ b.openSeconds ≤ now - b.openedAt ∧ 1 ≤ b.halfOpenMaxProbes := by
  unfold CircuitBreaker.admission CircuitBreaker.read
  by_cases hover : b.openSeconds ≤ now - b.openedAt
  · by_cases hprobes : 0 < b.halfOpenMaxProbes
    · simp [hs, hover, hprobes, Nat.one_le_iff_ne_zero, hprobes.ne']
    · simp [hs, hover, Nat.eq_zero_of_not_pos hprobes]
  · simp [hs, hover]

theorem recordFailure_cases (b : CircuitBreaker) (now : ℚ) :
    (b.state = .halfOpen ∨ b.failureThreshold ≤ b.failures + 1) ∧
      b.recordFailure now = { b with failures := b.failures + 1, openedAt := now, state := .opened } ∨
    b.state ≠ .halfOpen ∧ b.failures + 1 < b.failureThreshold ∧
      b.recordFailure now = { b with failures := b.failures + 1 } := by
  unfold CircuitBreaker.recordFailure
  by_cases h : b.state = .halfOpen ∨ b.failureThreshold ≤ b.failures + 1
  · exact .inl ⟨h, by simp [h]⟩
  · rw [not_or] at h
    exact .inr ⟨h.1, by omega, by simp [h.1, h.2]⟩

/-- Within HALF_OPEN an admitted attempt is one more probe; the one that comes first is a probe too. -/
theorem step_probes (hs : (step e b).state = .halfOpen) :
    (step e b).probes = (if b.state = .halfOpen then b.probes else 0) + if admitted e b then 1 else 0 := by
  have hread : ∀ now, (b.read now).state = .halfOpen →
      (b.read now).probes = if b.state = .halfOpen then b.probes else 0 := by
    intro now hnow
    rcases read_cases b now with h | ⟨hb, h⟩
    · rw [h] at hnow ⊢
      rw [if_pos hnow]
    · rw [h, hb]
      rfl
  cases e with
  | read now => exact hread now hs
  | attempt now =>
    rw [step] at hs ⊢
    rw [admitted]
    rcases admission_cases b now with ⟨hc, h⟩ | ⟨-, h⟩ | h
    · rw [h, hc] at hs
      cases hs
    · rw [h] at hs ⊢
      exact congrArg (· + 1) (hread now hs)
    · rw [h] at hs ⊢
      exact hread now hs
  | success => cases hs
  | failure now =>
    -- a failure leaves HALF_OPEN
    rw [step] at hs
    rcases recordFailure_cases b now with ⟨-, h⟩ | ⟨hb, -, h⟩
    · rw [h] at hs
      cases hs
    · rw [h] at hs
      exact absurd hs hb

end Step

/-! ## A run -/

/-- A breaker after a run: the limits it has had, and what its counters say of the failures recorded. -/
structure Tracked (b : CircuitBreaker) (count : Nat) (last : Option ℚ) (b' : CircuitBreaker) : Prop where
  failureThreshold : b'.failureThreshold = b.failureThreshold
  openSeconds : b'.openSeconds = b.openSeconds
  halfOpenMaxProbes : b'.halfOpenMaxProbes = b.halfOpenMaxProbes
  counted : b'.failures = count
  closed : b'.state = .closed ↔ count < b.failureThreshold
  opened : b'.state = .opened → last = some b'.openedAt
  probes : b'.state = .halfOpen → b'.probes ≤ b.halfOpenMaxProbes

section Run

variable {b b' : CircuitBreaker} {count : Nat} {last : Option ℚ}

theorem Tracked.read (h : Tracked b count last b') (now : ℚ) : Tracked b count last (b'.read now) := by
  rcases read_cases b' now with hread | ⟨hs, hread⟩
  · rw [hread]
    exact h
  · rw [hread]
    have hclosed := h.closed
    rw [hs] at hclosed
    exact { h with closed := by simpa using hclosed, opened := by simp, probes := by simp }

theorem Tracked.step (h : Tracked b count last b') (hthreshold : 1 ≤ b.failureThreshold) (e : BreakerEvent) :
    Tracked b (counts count e) (dates last e) (e.step b') := by
  cases e with
  | read now => exact h.read now
  | attempt now =>
    have hread := h.read now
    rw [BreakerEvent.step]
    rcases admission_cases b' now with ⟨-, hadmission⟩ | ⟨hprobe, hadmission⟩ | hadmission
    · rw [hadmission]
      exact hread
    · rw [hadmission]
      rw [hread.halfOpenMaxProbes] at hprobe
      exact { hread with probes := fun _ => hprobe }
    · rw [hadmission]
      exact hread
  | success =>
    have hclosed : BreakerState.closed = .closed ↔ 0 < b.failureThreshold := ⟨fun _ => hthreshold, fun _ => rfl⟩
    exact { h with counted := rfl, closed := hclosed, opened := by rintro ⟨⟩, probes := by rintro ⟨⟩ }
  | failure now =>
    have hcounted := h.counted
    have hlimit := h.failureThreshold
    have hclosed := h.closed
    rw [BreakerEvent.step, counts, dates]
    rcases recordFailure_cases b' now with ⟨hopens, hfailure⟩ | ⟨-, hbelow, hfailure⟩
    · have hover : ¬ count + 1 < b.failureThreshold := by
        rcases hopens with hs | hle
        · rw [hs] at hclosed
          simp only [reduceCtorEq, false_iff] at hclosed
          omega
        · omega
      rw [hfailure]
      exact { h with counted := by rw [hcounted], closed := by simpa using hover, opened := fun _ => rfl, probes := by simp }
    · -- below the threshold the breaker was CLOSED, and stays so
      have hs : b'.state = .closed := hclosed.2 (by omega)
      rw [hfailure]
      refine { h with counted := by rw [hcounted], closed := ?_, opened := by simp [hs], probes := by simp [hs] }
      simp only [hs, true_iff]
      omega

structure CircuitBreaker.Fresh (b : CircuitBreaker) : Prop where
  state : b.state = .closed
  failures : b.failures = 0

theorem tracked (hfresh : b.Fresh) (hthreshold : 1 ≤ b.failureThreshold) (events : List BreakerEvent) :
    Tracked b (consecutiveFailures events) (lastFailure events) (runFrom step b events) := by
  unfold consecutiveFailures lastFailure
  induction events using List.reverseRecOn with
  | nil =>
    have hclosed : b.state = .closed ↔ 0 < b.failureThreshold := ⟨fun _ => hthreshold, fun _ => hfresh.state⟩
    exact ⟨rfl, rfl, rfl, hfresh.failures, hclosed, by simp [hfresh.state], by simp [hfresh.state]⟩
  | append_singleton events e ih =>
    rw [runFrom_concat, List.foldl_concat, List.foldl_concat]
    exact ih.step hthreshold e

/-- By induction on the stretch, each of whose uses leaves the breaker in HALF_OPEN. -/
theorem admissions_le (b : CircuitBreaker) (stretch : List BreakerEvent)
    (h : ∀ first, first <+: stretch → first ≠ [] → (runFrom step b first).state = .halfOpen) (hne : stretch ≠ []) :
    (if b.state = .halfOpen then b.probes else 0) + admissions b stretch ≤ (runFrom step b stretch).probes := by
  induction stretch generalizing b with
  | nil => exact absurd rfl hne
  | cons e rest ih =>
    have hs : (step e b).state = .halfOpen := h [e] ⟨rest, rfl⟩ (by simp)
    have hprobes := step_probes hs
    rw [admissions, runFrom_cons]
    rcases eq_or_ne rest [] with rfl | hrest
    · rw [runFrom_nil, admissions]
      omega
    · have hle := ih (step e b) (fun first hfirst _ => h (e :: first) (List.cons_prefix_cons.2 ⟨rfl, hfirst⟩) (by simp)) hrest
      rw [if_pos hs] at hle
      omega

structure BreakerProtocol (b : CircuitBreaker) (events : List BreakerEvent) : Prop where
  /-- It is CLOSED exactly while the failures in a row are fewer than the threshold. -/
  closed : (runFrom step b events).state = .closed ↔ consecutiveFailures events < b.failureThreshold
  /-- In OPEN an attempt is admitted exactly when the time since the last failure is over. -/
  cooling : (runFrom step b events).state = .opened → ∃ last, lastFailure events = some last ∧
    ∀ now, ((runFrom step b events).admission now).1 = true ↔ b.openSeconds ≤ now - last ∧ 1 ≤ b.halfOpenMaxProbes
  /-- A stretch in HALF_OPEN admits no more attempts than there are probes. -/
  probing : ∀ before stretch, before ++ stretch = events →
    (∀ first, first <+: stretch → first ≠ [] → (runFrom step b (before ++ first)).state = .halfOpen) →
    admissions (runFrom step b before) stretch ≤ b.halfOpenMaxProbes

/-- Every run of a breaker keeps the protocol, however late the results of its attempts come. -/
theorem breaker_protocol (b : CircuitBreaker) (hfresh : b.Fresh) (hthreshold : 1 ≤ b.failureThreshold)
    (events : List BreakerEvent) : BreakerProtocol b events := by
  have htracked := tracked hfresh hthreshold events
  refine ⟨htracked.closed, fun hs => ⟨_, htracked.opened hs, fun now => ?_⟩, ?_⟩
  · rw [admission_opened hs, htracked.openSeconds, htracked.halfOpenMaxProbes]
  · rintro before stretch rfl hhalf
    rcases eq_or_ne stretch [] with rfl | hne
    · exact Nat.zero_le _
    · have hle := admissions_le (runFrom step b before) stretch (fun first hfirst hfirst' => by
        rw [← runFrom_append]
        exact hhalf first hfirst hfirst') hne
      rw [← runFrom_append] at hle
      have hprobes := htracked.probes (hhalf stretch (List.prefix_refl _) hne)
      omega

/-- A breaker that opens at its first failure, admits a probe after its time, and is closed by a late success. -/
theorem late_success_protocol : BreakerProtocol { failureThreshold := 1 } [.attempt 0, .failure 1, .attempt 31, .success] :=
  breaker_protocol _ ⟨rfl, rfl⟩ le_rfl _

end Run

end Middleware.Breaker

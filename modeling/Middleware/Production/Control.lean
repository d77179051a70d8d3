/-
`EmailProductionControlService` (`app/email_production_control.py`). An operation reads the policy for its checks and then leaves the
mutation to the store. `MemoryEmailProductionPolicyStore` does not give way between the two; with
`PostgresEmailProductionPolicyStore` other operators, of this process or another one, run there, and each process has settings of
its own.
-/
import Middleware.Production.Store
import Middleware.Lib.Runs

namespace Middleware.Production

open Ledger Lib

/-! ## The operations -/

section Service

variable (lib : Library) {σ : Type} [PolicyStore lib σ]

/-- `activation_blockers` leaves nothing to say. -/
def unblocked (settings : Settings) (now : Time) (message : String) (current : EmailProductionPolicy) : Except Exc Unit :=
  match current.activationBlockers settings now with
  | .error e => .error e
  | .ok [] => .ok ()
  | .ok blockers => .error (blocked (message ++ ": " ++ ",".intercalate blockers))

/-- What an operation checks before it calls `mutate`. -/
def checks (settings : Settings) (c : Call) (now : Time) (s : σ) : Except Exc Unit :=
  match c.body with
  | .authorize b =>
    if b.sendersCovered lib then .ok () else .error (invalid "every approved sender must belong to an approved domain")
  | .activate b =>
    match get lib c.tenantId now s with
    | .error e => .error e
    | .ok current =>
      if current.version ≠ b.expectedVersion then .error (conflict "expectedVersion is stale")
      else if current.authorizationState ≠ .authorizedNotActive then
        .error (blocked "production authorization is not awaiting activation")
      else unblocked settings now "production activation blocked" current
  | .revoke _ => .ok ()
  | .killSwitch _ opened =>
    match get lib c.tenantId now s with
    | .error e => .error e
    | .ok current =>
      if opened then
        if current.authorizationState ≠ .active then .error (blocked "kill switch cannot be opened without active authorization")
        else unblocked settings now "kill switch cannot be opened" current
      else .ok ()

/-- An operation whose checks see one state of the store and whose mutation sees another one. -/
def operate (settings : Settings) (c : Call) (now now' : Time) (s s' : σ) : Except Exc EmailProductionPolicy × σ :=
  match checks lib settings c now s with
  | .error e => (.error e, s')
  | .ok _ => mutate lib c now' s'

end Service

/-! ## Operators -/

/-- How far an operation has come. -/
inductive Task where
  | checked (call : Call)
  | over (answer : Except Exc EmailProductionPolicy)

structure World (σ : Type) where
  store : σ
  tasks : List Task := []

inductive Action where
  | begin (settings : Settings) (call : Call) (now : Time)
  | commit (pid : Nat) (now : Time)

section Steps

variable (lib : Library) {σ : Type} [PolicyStore lib σ]

def step (act : Action) (w : World σ) : World σ :=
  match act with
  | .begin settings c now =>
    match checks lib settings c now w.store with
    | .ok _ => { w with tasks := w.tasks ++ [.checked c] }
    | .error e => { w with tasks := w.tasks ++ [.over (.error e)] }
  | .commit pid now =>
    match w.tasks[pid]? with
    | some (.checked c) =>
      { store := (mutate lib c now w.store).2, tasks := w.tasks.set pid (.over (mutate lib c now w.store).1) }
    | _ => w

def run (acts : List Action) : World σ := runFrom (step lib) { store := PolicyStore.start lib } acts

end Steps

/-- The operations one after the other, the first one being the `pid`-th task. -/
def atomically (pid : Nat) : List (Settings × Call × Time × Time) → List Action
  | [] => []
  | (settings, c, now, now') :: rest => .begin settings c now :: .commit pid now' :: atomically (pid + 1) rest

/-! ## What the methods do -/

section Methods

variable {lib : Library} {σ : Type} [PolicyStore lib σ] {settings : Settings} {c : Call} {now now' : Time} {s s' : σ}
  {p p' current : EmailProductionPolicy} {tenantId : String}

/-- The checks of the model leave the state of a policy alone. -/
theorem modelValidate_frame (h : p.modelValidate lib = .ok p') :
    p'.version = p.version ∧ p'.authorizationState = p.authorizationState ∧ p'.enabled = p.enabled ∧
      p'.killSwitchOpen = p.killSwitchOpen := by
  unfold EmailProductionPolicy.modelValidate at h
  split at h
  · split at h
    · rw [← Except.ok.inj h]
      exact ⟨rfl, rfl, rfl, rfl⟩
    · cases h
  · cases h

theorem read_frame [LawfulStore lib σ] (h : read lib σ p = .ok p') :
    p'.version = p.version ∧ p'.authorizationState = p.authorizationState ∧ p'.enabled = p.enabled ∧
      p'.killSwitchOpen = p.killSwitchOpen := by
  rcases LawfulStore.read_ok p p' h with rfl | h
  · exact ⟨rfl, rfl, rfl, rfl⟩
  · exact modelValidate_frame h

theorem get_none (h : stored lib s tenantId = none) : get lib tenantId now s = .ok (defaultPolicy tenantId now) := by
  unfold get
  rw [h]

theorem get_some (h : stored lib s tenantId = some p) : get lib tenantId now s = read lib σ p := by
  unfold get
  rw [h]

theorem get_again (h : get lib tenantId now s = .ok current) (hstate : current.authorizationState ≠ .notAuthorized)
    (hstored : stored lib s' tenantId = stored lib s tenantId) : get lib tenantId now' s' = .ok current := by
  rcases hp : stored lib s tenantId with _ | p
  · rw [get_none hp] at h
    rw [← Except.ok.inj h] at hstate
    exact absurd rfl hstate
  · rw [get_some hp] at h
    rw [get_some (hstored.trans hp), h]

theorem unblocked_ok {message : String} (h : unblocked settings now message current = .ok ()) :
    current.activationBlockers settings now = .ok [] := by
  unfold unblocked at h
  split at h
  · cases h
  · assumption
  · cases h

theorem checks_activate {b : ControlMutation} (hbody : c.body = .activate b) (h : checks lib settings c now s = .ok ()) :
    ∃ current, get lib c.tenantId now s = .ok current ∧ current.version = b.expectedVersion ∧
      current.authorizationState = .authorizedNotActive ∧ current.activationBlockers settings now = .ok [] := by
  unfold checks at h
  rw [hbody] at h
  dsimp only at h
  split at h
  · cases h
  · rename_i current hget
    split_ifs at h with hversion hstate
    · exact ⟨current, hget, not_not.1 hversion, not_not.1 hstate, unblocked_ok h⟩

theorem checks_open {b : ControlMutation} (hbody : c.body = .killSwitch b true) (h : checks lib settings c now s = .ok ()) :
    ∃ current, get lib c.tenantId now s = .ok current ∧ current.authorizationState = .active ∧
      current.activationBlockers settings now = .ok [] := by
  unfold checks at h
  rw [hbody] at h
  dsimp only at h
  split at h
  · cases h
  · rename_i current hget
    rw [if_pos rfl] at h
    split_ifs at h with hstate
    · exact ⟨current, hget, not_not.1 hstate, unblocked_ok h⟩

structure Mutates (lib : Library) {σ : Type} [PolicyStore lib σ] (c : Call) (now : Time) (s : σ) (m : Mutation) : Prop where
  unrecorded : recorded lib s c.slot = none
  got : get lib c.tenantId now s = .ok m.previous
  expected : m.previous.version = c.body.expectedVersion
  changed : changed lib c now m.previous = .ok m.new
  slot : m.slot = c.slot
  digest : m.requestSha256 = c.body.requestDigest lib

/-- `mutate` leaves the store alone or makes one mutation, whose policy it answers. -/
theorem mutate_cases (lib : Library) {σ : Type} [PolicyStore lib σ] (c : Call) (now : Time) (s : σ) :
    (mutate lib c now s).2 = s ∧ (recorded lib s c.slot = none → ∃ e, (mutate lib c now s).1 = .error e) ∨
      ∃ m, Mutates lib c now s m ∧ mutate lib c now s = (.ok m.new, append lib m s) := by
  unfold mutate
  split
  · rename_i requestSha256 policy hrecorded
    refine .inl ⟨?_, fun hnone => absurd (hrecorded.symm.trans hnone) nofun⟩
    split <;> rfl
  · rename_i hnone
    split
    · exact .inl ⟨rfl, fun _ => ⟨_, rfl⟩⟩
    · rename_i current hget
      split
      · exact .inl ⟨rfl, fun _ => ⟨_, rfl⟩⟩
      · rename_i hversion
        split
        · exact .inl ⟨rfl, fun _ => ⟨_, rfl⟩⟩
        · rename_i new hnew
          refine .inr ⟨c.mutation lib now current new, ?_, rfl⟩
          exact { unrecorded := hnone, got := hget, expected := not_not.1 hversion, changed := hnew, slot := rfl, digest := rfl }

theorem changed_frame (h : changed lib c now current = .ok p) :
    p.version = current.version + 1 ∧ p.authorizationState = (c.body.transform lib c.actor now current).authorizationState ∧
      p.enabled = (c.body.transform lib c.actor now current).enabled ∧
      p.killSwitchOpen = (c.body.transform lib c.actor now current).killSwitchOpen :=
  modelValidate_frame h

end Methods

/-! ## What the actions do -/

section Steps

variable {lib : Library} {σ : Type} [PolicyStore lib σ] {act : Action} {w : World σ} {settings : Settings} {c : Call} {now : Time}
  {pid : Nat}

theorem step_begin (lib : Library) {σ : Type} [PolicyStore lib σ] (w : World σ) (settings : Settings) (c : Call) (now : Time) :
    ∃ task, step lib (.begin settings c now) w = { w with tasks := w.tasks ++ [task] } ∧
      (∀ c', task = .checked c' → c' = c ∧ checks lib settings c now w.store = .ok ()) := by
  unfold step
  dsimp only
  split
  · rename_i u h
    refine ⟨.checked c, rfl, ?_⟩
    rintro c' hc
    exact ⟨(Task.checked.inj hc).symm, h⟩
  · rename_i e h
    exact ⟨.over (.error e), rfl, fun c' hc => Task.noConfusion hc⟩

theorem step_commit (h : w.tasks[pid]? = some (.checked c)) : step lib (.commit pid now) w =
    { store := (mutate lib c now w.store).2, tasks := w.tasks.set pid (.over (mutate lib c now w.store).1) } := by
  unfold step
  dsimp only
  rw [h]

theorem step_idle (h : ∀ c, w.tasks[pid]? ≠ some (.checked c)) : step lib (.commit pid now) w = w := by
  unfold step
  dsimp only
  split
  · exact absurd ‹_› (h _)
  · rfl

theorem step_store (lib : Library) {σ : Type} [PolicyStore lib σ] (act : Action) (w : World σ) :
    (step lib act w).store = w.store ∨ ∃ pid now c m, act = .commit pid now ∧ w.tasks[pid]? = some (.checked c) ∧
      Mutates lib c now w.store m ∧ (step lib act w).store = append lib m w.store := by
  cases act with
  | begin settings c now =>
    obtain ⟨task, h, -⟩ := step_begin lib w settings c now
    rw [h]
    exact .inl rfl
  | commit pid now =>
    by_cases h : ∃ c, w.tasks[pid]? = some (.checked c)
    · obtain ⟨c, hc⟩ := h
      rw [step_commit hc]
      rcases mutate_cases lib c now w.store with ⟨hsame, -⟩ | ⟨m, hm, heq⟩
      · exact .inl hsame
      · exact .inr ⟨pid, now, c, m, rfl, hc, hm, by rw [heq]⟩
    · rw [step_idle (not_exists.1 h)]
      exact .inl rfl

/-- A task that is checked after an action was checked before, or is the one that the action has begun. -/
theorem step_checked {pid' : Nat} (h : (step lib act w).tasks[pid']? = some (.checked c)) :
    w.tasks[pid']? = some (.checked c) ∨
      pid' = w.tasks.length ∧ ∃ settings now, act = .begin settings c now ∧ checks lib settings c now w.store = .ok () := by
  cases act with
  | begin settings c' now =>
    obtain ⟨task, heq, htask⟩ := step_begin lib w settings c' now
    rw [heq] at h
    rcases Nat.lt_trichotomy pid' w.tasks.length with hlt | rfl | hgt
    · rw [List.getElem?_append_left hlt] at h
      exact .inl h
    · rw [List.getElem?_concat_length] at h
      obtain ⟨rfl, hok⟩ := htask c (Option.some.inj h)
      exact .inr ⟨rfl, settings, now, rfl, hok⟩
    · rw [List.getElem?_eq_none (by rw [List.length_append]; exact hgt)] at h
      cases h
  | commit pid now =>
    by_cases hc : ∃ c, w.tasks[pid]? = some (.checked c)
    · obtain ⟨c', hc'⟩ := hc
      rw [step_commit hc'] at h
      rw [List.getElem?_set] at h
      split_ifs at h with h1 h2
      · cases h
      · exact .inl h
    · rw [step_idle (not_exists.1 hc)] at h
      exact .inl h

end Steps

end Middleware.Production

/-
Repeated operations. The store keeps what a mutation answered and answers it again, if the policy still passes its model; but an
operation looks at the current policy before it asks the store. An activation is never repeated, as it has changed the version that
its checks ask for.
-/
import Middleware.Production.Operators

namespace Middleware.Production

open Ledger Lib

section Statements

variable (lib : Library) {σ : Type} [PolicyStore lib σ]

/-- The same operation with the same key and body. -/
structure Call.Repeats (c' c : Call) : Prop where
  tenantId : c'.tenantId = c.tenantId
  actor : c'.actor = c.actor
  idempotencyKey : c'.idempotencyKey = c.idempotencyKey
  body : c'.body = c.body

def ControlBody.SameOperation : ControlBody → ControlBody → Prop
  | .authorize _, .authorize _ => True
  | .activate _, .activate _ => True
  | .revoke _, .revoke _ => True
  | .killSwitch _ _, .killSwitch _ _ => True
  | _, _ => False

/-- The same operation with the same key and another body. -/
structure Call.Reuses (c' c : Call) : Prop where
  tenantId : c'.tenantId = c.tenantId
  actor : c'.actor = c.actor
  idempotencyKey : c'.idempotencyKey = c.idempotencyKey
  operation : c'.body.SameOperation c.body
  body : c'.body ≠ c.body

def Readable (tenantId : String) (now : Time) (s : σ) : Prop := ∃ current, get lib tenantId now s = .ok current

/-- The policy is in the state, and nothing keeps it from being active. -/
def Unblocked (state : AuthorizationState) (settings : Settings) (tenantId : String) (now : Time) (s : σ) : Prop :=
  ∃ current, get lib tenantId now s = .ok current ∧ current.authorizationState = state ∧
    current.activationBlockers settings now = .ok []

/-- The version of the policy is another one than the call expects. -/
def Stale (c : Call) (now : Time) (s : σ) : Prop :=
  ∃ current, get lib c.tenantId now s = .ok current ∧ current.version ≠ c.body.expectedVersion

/-- What the checks of an operation ask for. -/
def Ready (settings : Settings) (c : Call) (now : Time) (s : σ) : Prop :=
  match c.body with
  | .authorize b => b.sendersCovered lib = true
  | .activate _ => Unblocked lib .authorizedNotActive settings c.tenantId now s ∧ ¬Stale lib c now s
  | .revoke _ => True
  | .killSwitch _ true => Unblocked lib .active settings c.tenantId now s
  | .killSwitch _ false => Readable lib c.tenantId now s

/-- When a call that has succeeded with a policy is repeated successfully. -/
def Repeatable (settings : Settings) (c : Call) (p : EmailProductionPolicy) (now : Time) (s : σ) : Prop :=
  p.modelValidate lib = .ok p ∧
    match c.body with
    | .authorize _ => True
    | .activate _ => False
    | .revoke _ => True
    | .killSwitch _ true => Unblocked lib .active settings c.tenantId now s
    | .killSwitch _ false => Readable lib c.tenantId now s

/-- What the store refuses: another mutation is recorded for the key of the action, or there is none and the version is stale. -/
def Conflicting (c : Call) (now : Time) (s : σ) : Prop :=
  match recorded lib s c.slot with
  | some (requestSha256, _) => c.body.requestDigest lib ≠ requestSha256
  | none => Stale lib c now s

/-- When a call is refused whose key was used for another body. -/
def Refused (settings : Settings) (c' c : Call) (now now' : Time) (s s' : σ) : Prop :=
  (∃ b, c'.body = .activate b) ∧ Stale lib c' now s ∨
    Ready lib settings c' now s ∧
      (c'.body.action = c.body.action → c'.body.requestDigest lib ≠ c.body.requestDigest lib) ∧
      (c'.body.action ≠ c.body.action → Conflicting lib c' now' s')

/-- What becomes of a call that has succeeded when it is made again, at any later point of the run and with any actions between its
checks and its mutation. -/
def Replays (lib : Library) (σ : Type) [PolicyStore lib σ] : Prop :=
  ∀ before mid late settings pid now now' now'' c p, (run lib (σ := σ) before).tasks[pid]? = some (.checked c) →
    recorded lib (run lib (σ := σ) before).store c.slot = none → (mutate lib c now (run lib (σ := σ) before).store).1 = .ok p →
      let s := (run lib (σ := σ) (before ++ Action.commit pid now :: mid)).store
      let s' := (run lib (σ := σ) (before ++ Action.commit pid now :: mid ++ late)).store
      (∀ c', c'.Repeats c → (operate lib settings c' now' now'' s s' = (.ok p, s') ↔ Repeatable lib settings c' p now' s)) ∧
        ∀ c', c'.Reuses c → ((∃ message, operate lib settings c' now' now'' s s' = (.error (conflict message), s')) ↔
          Refused lib settings c' c now' now'' s s')

end Statements

/-! ## What the checks answer -/

section Checks

variable {lib : Library} {σ : Type} [PolicyStore lib σ] {settings : Settings} {c c' : Call} {now now' now'' : Time} {s s' : σ}
  {tenantId message : String} {e : Exc} {current p : EmailProductionPolicy}

theorem modelValidate_error (h : p.modelValidate lib = .error e) (message : String) : e ≠ conflict message := by
  unfold EmailProductionPolicy.modelValidate at h
  split at h
  · split at h
    · cases h
    · cases h
      exact fun heq => absurd (Exc.other.inj heq).1 (by decide)
  · cases h
    exact fun heq => absurd (Exc.other.inj heq).1 (by decide)

theorem unblocked_iff : unblocked settings now message current = .ok () ↔ current.activationBlockers settings now = .ok [] := by
  refine ⟨unblocked_ok, fun h => ?_⟩
  unfold unblocked
  rw [h]

theorem unblocked_error {message' : String} : unblocked settings now message current ≠ .error (conflict message') := by
  unfold unblocked
  split
  · rename_i e h
    unfold EmailProductionPolicy.activationBlockers at h
    split at h
    · cases h
      intro heq
      exact absurd (Exc.other.inj (Except.error.inj heq)).1 (by decide)
    · cases h
  · exact nofun
  · intro heq
    exact absurd (Exc.other.inj (Except.error.inj heq)).1 (by decide)

theorem checks_iff : checks lib settings c now s = .ok () ↔ Ready lib settings c now s := by
  unfold checks Ready
  cases hbody : c.body with
  | authorize b =>
    dsimp only
    split_ifs with h
    · exact iff_of_true rfl h
    · exact iff_of_false nofun h
  | revoke b => exact iff_of_true rfl trivial
  | activate b =>
    unfold Unblocked Stale
    rw [hbody]
    generalize get lib c.tenantId now s = r
    rcases r with e | current
    · exact iff_of_false nofun (by rintro ⟨⟨_, h, _⟩, _⟩; cases h)
    · dsimp only
      split_ifs with hversion hstate
      · refine iff_of_false nofun ?_
        rintro ⟨-, hfresh⟩
        exact hfresh ⟨current, rfl, hversion⟩
      · refine iff_of_false nofun ?_
        rintro ⟨⟨_, h, h', -⟩, -⟩
        rw [Except.ok.inj h] at hstate
        exact hstate h'
      · rw [unblocked_iff]
        constructor
        · intro h
          refine ⟨⟨current, rfl, not_not.1 hstate, h⟩, ?_⟩
          rintro ⟨_, h', hne⟩
          rw [← Except.ok.inj h'] at hne
          exact hversion hne
        · rintro ⟨⟨_, h, -, hblockers⟩, -⟩
          rw [Except.ok.inj h]
          exact hblockers
  | killSwitch b opened =>
    unfold Unblocked Readable
    generalize get lib c.tenantId now s = r
    rcases r with e | current
    · cases opened
      · exact iff_of_false nofun (by rintro ⟨_, h⟩; cases h)
      · exact iff_of_false nofun (by rintro ⟨_, h, _⟩; cases h)
    · cases opened
      · exact iff_of_true rfl ⟨current, rfl⟩
      · dsimp only
        rw [if_pos rfl]
        split_ifs with hstate
        · refine iff_of_false nofun ?_
          rintro ⟨_, h, h', -⟩
          rw [Except.ok.inj h] at hstate
          exact hstate h'
        · rw [unblocked_iff]
          constructor
          · intro h
            exact ⟨current, rfl, not_not.1 hstate, h⟩
          · rintro ⟨_, h, -, hblockers⟩
            rw [Except.ok.inj h]
            exact hblockers

variable [LawfulStore lib σ]

theorem get_error (h : get lib tenantId now s = .error e) (message : String) : e ≠ conflict message := by
  rcases hp : stored lib s tenantId with _ | p
  · rw [get_none hp] at h
    cases h
  · rw [get_some hp] at h
    exact modelValidate_error (LawfulStore.read_error p e h) message

theorem checks_conflict : (∃ message, checks lib settings c now s = .error (conflict message)) ↔
    (∃ b, c.body = .activate b) ∧ Stale lib c now s := by
  unfold checks Stale
  cases hbody : c.body with
  | authorize b =>
    refine iff_of_false ?_ (by rintro ⟨⟨_, h⟩, _⟩; cases h)
    rintro ⟨message, h⟩
    dsimp only at h
    split_ifs at h
    exact absurd (Exc.other.inj (Except.error.inj h)).1 (by decide)
  | revoke b => exact iff_of_false (by rintro ⟨_, h⟩; cases h) (by rintro ⟨⟨_, h⟩, _⟩; cases h)
  | killSwitch b opened =>
    refine iff_of_false ?_ (by rintro ⟨⟨_, h⟩, _⟩; cases h)
    rintro ⟨message, h⟩
    dsimp only at h
    split at h
    · rename_i e hget
      exact get_error hget message (Except.error.inj h)
    · split_ifs at h
      · exact absurd (Exc.other.inj (Except.error.inj h)).1 (by decide)
      · exact unblocked_error h
  | activate b =>
    dsimp only
    constructor
    · rintro ⟨message, h⟩
      refine ⟨⟨b, rfl⟩, ?_⟩
      split at h
      · rename_i e hget
        exact absurd (Except.error.inj h) (get_error hget message)
      · rename_i current hget
        split_ifs at h with hversion hstate
        · exact ⟨current, hget, hversion⟩
        · exact absurd (Exc.other.inj (Except.error.inj h)).1 (by decide)
        · exact absurd h unblocked_error
    · rintro ⟨-, current, hget, hversion⟩
      rw [hget]
      exact ⟨_, if_pos hversion⟩

/-- The store speaks of a conflict when the call is conflicting, and leaves everything as it is. -/
theorem mutate_conflict : (∃ message, mutate lib c now s = (.error (conflict message), s)) ↔ Conflicting lib c now s := by
  unfold mutate Conflicting
  generalize recorded lib s c.slot = r
  rcases r with _ | ⟨requestSha256, policy⟩
  · dsimp only
    constructor
    · rintro ⟨message, h⟩
      split at h
      · rename_i e hget
        exact absurd (Except.error.inj (Prod.mk.inj h).1) (get_error hget message)
      · rename_i current hget
        split_ifs at h with hversion
        · exact ⟨current, hget, hversion⟩
        · split at h
          · rename_i e hchanged
            exact absurd (Except.error.inj (Prod.mk.inj h).1) (modelValidate_error hchanged message)
          · cases (Prod.mk.inj h).1
    · rintro ⟨current, hget, hversion⟩
      rw [hget]
      dsimp only
      rw [if_pos hversion]
      exact ⟨_, rfl⟩
  · dsimp only
    split_ifs with hdigest
    · exact iff_of_true ⟨_, rfl⟩ hdigest.symm
    · refine iff_of_false ?_ fun hne => hdigest hne.symm
      rintro ⟨message, h⟩
      rcases hp : policy.modelValidate lib with e | p
      · rw [hp] at h
        exact modelValidate_error hp message (Except.error.inj (Prod.mk.inj h).1)
      · rw [hp] at h
        cases (Prod.mk.inj h).1

end Checks

/-! ## What stays of a mutation -/

section Runs

variable {lib : Library} {σ : Type} [PolicyStore lib σ] {acts : List Action} {act : Action} {w : World σ} {c c' : Call} {now : Time}
  {slot : Slot} {r : String × EmailProductionPolicy} {tenantId : String} {p : EmailProductionPolicy}

theorem Call.Repeats.slot_eq (h : c'.Repeats c) : c'.slot = c.slot := by
  unfold Call.slot
  rw [h.tenantId, h.actor, h.idempotencyKey, h.body]

theorem Call.Reuses.slot_eq (h : c'.Reuses c) (haction : c'.body.action = c.body.action) : c'.slot = c.slot := by
  unfold Call.slot
  rw [h.tenantId, h.actor, h.idempotencyKey, haction]

/-- An authorization that has passed its checks names senders of its domains. -/
theorem covered_run (acts : List Action) : ∀ (pid : Nat) c b, (run lib (σ := σ) acts).tasks[pid]? = some (.checked c) →
    c.body = .authorize b → b.sendersCovered lib = true := by
  refine runFrom_invariant (I := fun w : World σ => ∀ (pid : Nat) c b, w.tasks[pid]? = some (.checked c) →
    c.body = .authorize b → b.sendersCovered lib = true) ?_ ?_
  · intro pid c b h
    cases h
  · intro w act hw pid c b h hbody
    rcases step_checked h with h | ⟨-, settings, now, rfl, hok⟩
    · exact hw pid c b h hbody
    · have hready := checks_iff.1 hok
      unfold Ready at hready
      rw [hbody] at hready
      exact hready

variable [LawfulStore lib σ]

theorem recorded_step (h : recorded lib w.store slot = some r) : recorded lib (step lib act w).store slot = some r := by
  rcases step_store lib act w with hidle | ⟨pid, now, c, m, -, -, hm, hstore⟩
  · rw [hidle]
    exact h
  · rw [hstore]
    refine LawfulStore.recorded_kept _ m slot r ?_ h
    rw [hm.slot]
    exact hm.unrecorded

theorem version_step : version lib w.store tenantId ≤ version lib (step lib act w).store tenantId := by
  rcases step_store lib act w with hidle | ⟨pid, now, c, m, -, -, hm, hstore⟩
  · rw [hidle]
  · rw [hstore]
    by_cases ht : tenantId = m.slot.tenantId
    · subst ht
      rw [version_append_self, hm.version, hm.slot_tenantId]
      omega
    · rw [version_append_other ht]

theorem recorded_runFrom (h : recorded lib w.store slot = some r) : recorded lib (runFrom (step lib) w acts).store slot = some r :=
  runFrom_invariant (I := fun w : World σ => recorded lib w.store slot = some r) h fun _ _ => recorded_step

theorem version_runFrom : version lib w.store tenantId ≤ version lib (runFrom (step lib) w acts).store tenantId :=
  runFrom_invariant (I := fun w' : World σ => version lib w.store tenantId ≤ version lib w'.store tenantId) le_rfl
    fun _ _ h => h.trans version_step

/-- After a call has succeeded its answer is recorded, and the version that it expected is gone. -/
theorem of_succeeded {before : List Action} (mid : List Action) {pid : Nat} (htask : (run lib (σ := σ) before).tasks[pid]? = some (.checked c))
    (hnew : recorded lib (run lib (σ := σ) before).store c.slot = none)
    (hok : (mutate lib c now (run lib (σ := σ) before).store).1 = .ok p) :
    recorded lib (run lib (σ := σ) (before ++ Action.commit pid now :: mid)).store c.slot = some (c.body.requestDigest lib, p) ∧
      c.body.expectedVersion < version lib (run lib (σ := σ) (before ++ Action.commit pid now :: mid)).store c.tenantId := by
  have hrun : run lib (σ := σ) (before ++ Action.commit pid now :: mid) =
      runFrom (step lib) (step lib (.commit pid now) (run lib before)) mid := runFrom_append
  rw [hrun]
  rcases mutate_cases lib c now (run lib (σ := σ) before).store with ⟨-, herror⟩ | ⟨m, hm, heq⟩
  · obtain ⟨e, he⟩ := herror hnew
    rw [he] at hok
    cases hok
  · rw [heq] at hok
    have hp : m.new = p := Except.ok.inj hok
    have hstore : (step lib (.commit pid now) (run lib (σ := σ) before)).store = append lib m (run lib (σ := σ) before).store := by
      rw [step_commit htask, heq]
    constructor
    · refine recorded_runFrom ?_
      rw [hstore, ← hm.slot, LawfulStore.recorded_append _ _ (by rw [hm.slot]; exact hnew), hm.digest, hp]
    · refine lt_of_lt_of_le ?_ version_runFrom
      rw [hstore, ← hm.slot_tenantId, version_append_self, hm.version, ← hm.previous_version, hm.expected]
      omega

end Runs

/-! ## The call and its repeat -/

section Main

variable {lib : Library} {σ : Type} [PolicyStore lib σ] {settings : Settings} {c c' : Call} {now now' : Time} {s s' : σ}
  {p : EmailProductionPolicy}

theorem operate_ready (h : Ready lib settings c now s) : operate lib settings c now now' s s' = mutate lib c now' s' := by
  unfold operate
  rw [checks_iff.2 h]

theorem mutate_recorded (h : recorded lib s c.slot = some (c.body.requestDigest lib, p)) :
    mutate lib c now s = (p.modelValidate lib, s) := by
  unfold mutate
  rw [h]
  exact if_neg fun hne => hne rfl

variable [LawfulStore lib σ]

theorem repeat_iff (hrecorded : recorded lib s' c.slot = some (c.body.requestDigest lib, p))
    (hversion : c.body.expectedVersion < version lib s c.tenantId)
    (hcovered : ∀ b, c.body = .authorize b → b.sendersCovered lib = true) :
    operate lib settings c now now' s s' = (.ok p, s') ↔ Repeatable lib settings c p now s := by
  have hready : operate lib settings c now now' s s' = (.ok p, s') ↔
      Ready lib settings c now s ∧ p.modelValidate lib = .ok p := by
    by_cases h : Ready lib settings c now s
    · rw [operate_ready h, mutate_recorded hrecorded, Prod.mk.injEq]
      exact ⟨fun heq => ⟨h, heq.1⟩, fun heq => ⟨heq.2, rfl⟩⟩
    · refine iff_of_false ?_ fun heq => h heq.1
      intro heq
      unfold operate at heq
      split at heq
      · cases (Prod.mk.inj heq).1
      · exact h (checks_iff.1 ‹_›)
  rw [hready, and_comm]
  unfold Ready Repeatable
  refine and_congr_right fun _ => ?_
  cases hbody : c.body with
  | authorize b => exact iff_of_true (hcovered b hbody) trivial
  | activate b =>
    refine iff_of_false ?_ not_false
    rintro ⟨⟨current, hget, -⟩, hfresh⟩
    refine hfresh ⟨current, hget, ?_⟩
    rw [get_version hget]
    exact ne_of_gt hversion
  | revoke b => exact Iff.rfl
  | killSwitch b opened => cases opened <;> exact Iff.rfl

theorem reuse_iff (hrecorded : recorded lib s' c.slot = some (c.body.requestDigest lib, p)) (h : c'.Reuses c) :
    (∃ message, operate lib settings c' now now' s s' = (.error (conflict message), s')) ↔
      Refused lib settings c' c now now' s s' := by
  have hconflicting : Conflicting lib c' now' s' ↔ (c'.body.action = c.body.action →
      c'.body.requestDigest lib ≠ c.body.requestDigest lib) ∧ (c'.body.action ≠ c.body.action → Conflicting lib c' now' s') := by
    by_cases haction : c'.body.action = c.body.action
    · have hdigest : Conflicting lib c' now' s' ↔ c'.body.requestDigest lib ≠ c.body.requestDigest lib := by
        unfold Conflicting
        rw [h.slot_eq haction, hrecorded]
      rw [hdigest]
      exact ⟨fun hne => ⟨fun _ => hne, fun hne' => absurd haction hne'⟩, fun hne => hne.1 haction⟩
    · exact ⟨fun hc => ⟨fun heq => absurd heq haction, fun _ => hc⟩, fun hc => hc.2 haction⟩
  unfold Refused
  rw [← hconflicting, ← checks_conflict, ← mutate_conflict]
  by_cases hready : Ready lib settings c' now s
  · rw [operate_ready hready]
    constructor
    · exact fun hc => .inr ⟨hready, hc⟩
    · rintro (⟨message, hc⟩ | ⟨-, hc⟩)
      · exact absurd (hc.symm.trans (checks_iff.2 hready)) nofun
      · exact hc
  · have hchecks : ∃ e, checks lib settings c' now s = .error e := by
      rcases hchecks : checks lib settings c' now s with e | _
      · exact ⟨e, rfl⟩
      · exact absurd (checks_iff.1 hchecks) hready
    obtain ⟨e, he⟩ := hchecks
    unfold operate
    rw [he]
    constructor
    · rintro ⟨message, heq⟩
      exact .inl ⟨message, congrArg Except.error (Except.error.inj (Prod.mk.inj heq).1)⟩
    · rintro (⟨message, heq⟩ | ⟨hready', -⟩)
      · exact ⟨message, by rw [Except.error.inj heq]⟩
      · exact absurd hready' hready

theorem replays : Replays lib σ := by
  intro before mid late settings pid now now' now'' c p htask hnew hok
  obtain ⟨-, hversion⟩ := of_succeeded mid htask hnew hok
  have hrecorded := (of_succeeded (mid ++ late) htask hnew hok).1
  rw [← List.cons_append, ← List.append_assoc] at hrecorded
  refine ⟨fun c' hc' => repeat_iff ?_ ?_ ?_, fun c' hc' => reuse_iff hrecorded hc'⟩
  · rw [hc'.slot_eq, hc'.body]
    exact hrecorded
  · rw [hc'.body, hc'.tenantId]
    exact hversion
  · intro b hbody
    rw [hc'.body] at hbody
    exact covered_run before pid c b htask hbody

end Main

/-- What is answered when a call that has succeeded is made again, over both stores. -/
theorem replays_iff (lib : Library) : Replays lib MemoryEmailProductionPolicyStore ∧ Replays lib PostgresEmailProductionPolicyStore :=
  ⟨replays, replays⟩

/-! ## An activation that is repeated -/

def sampleActivation : Call := sampleCall "key-2" (.activate ⟨2, "start"⟩)

/-- The tenant is authorized and its activation has been checked. -/
def sampleChecked : List Action :=
  [.begin sampleSettings (sampleCall "key-1" (.authorize sampleAuthorize)) 1, .commit 0 1, .begin sampleSettings sampleActivation 2]

/-- The repeat of the activation is refused. -/
theorem activation_not_repeated : ¬∀ (lib : Library) before settings pid now now' now'' c p,
    (run lib (σ := MemoryEmailProductionPolicyStore) before).tasks[pid]? = some (.checked c) →
      (mutate lib c now (run lib (σ := MemoryEmailProductionPolicyStore) before).store).1 = .ok p →
        (operate lib settings c now' now'' (run lib (σ := MemoryEmailProductionPolicyStore) (before ++ [Action.commit pid now])).store
          (run lib (σ := MemoryEmailProductionPolicyStore) (before ++ [Action.commit pid now])).store).1 = .ok p := by
  intro h
  have hok : (mutate sampleLib sampleActivation 2
      (run sampleLib (σ := MemoryEmailProductionPolicyStore) sampleChecked).store).1.toBool = true := by
    decide +kernel
  have hrefused : (operate sampleLib sampleSettings sampleActivation 3 3
      (run sampleLib (σ := MemoryEmailProductionPolicyStore) (sampleChecked ++ [Action.commit 1 2])).store
      (run sampleLib (σ := MemoryEmailProductionPolicyStore) (sampleChecked ++ [Action.commit 1 2])).store).1.toBool = false := by
    decide +kernel
  rcases hp : (mutate sampleLib sampleActivation 2
      (run sampleLib (σ := MemoryEmailProductionPolicyStore) sampleChecked).store).1 with e | p
  · rw [hp] at hok
    cases hok
  · rw [h sampleLib sampleChecked sampleSettings 1 2 3 3 sampleActivation p rfl hp] at hrefused
    cases hrefused

end Middleware.Production

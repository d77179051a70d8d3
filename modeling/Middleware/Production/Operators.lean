/-
The policy of a tenant under any interleaving of operators. Its version counts the mutations, the trail tells them, and what
activates it was checked on the policy that is activated. Only the kill switch can go wrong, in the store that other operators reach
between its checks and its mutation: the version that it was given is not compared with the one that was checked.
-/
import Middleware.Production.Trail

namespace Middleware.Production

open Ledger Lib

section Statements

variable (lib : Library) {σ : Type} [PolicyStore lib σ]

/-- The action completes an operation on the policy of a tenant that was not made before, and that answers the policy. -/
def World.Succeeds (w : World σ) (act : Action) (tenantId : String) (p : EmailProductionPolicy) : Prop :=
  ∃ pid now c, act = .commit pid now ∧ w.tasks[pid]? = some (.checked c) ∧ c.tenantId = tenantId ∧
    recorded lib w.store c.slot = none ∧ (mutate lib c now w.store).1 = .ok p

/-- The kill switch is about to be opened on a policy that is not active: another one than the checks have seen. -/
def World.Overtaken (w : World σ) (act : Action) : Prop :=
  ∃ pid now c b current p, act = .commit pid now ∧ w.tasks[pid]? = some (.checked c) ∧ c.body = .killSwitch b true ∧
    recorded lib w.store c.slot = none ∧ get lib c.tenantId now w.store = .ok current ∧ current.version = b.expectedVersion ∧
      current.authorizationState ≠ .active ∧ changed lib c now current = .ok p

end Statements

structure Controlled (lib : Library) (σ : Type) [PolicyStore lib σ] (acts : List Action) : Prop where
  counted : ∀ (before : List Action) act,
    before ++ [act] <+: acts → ∀ tenantId p, (run lib (σ := σ) before).Succeeds lib act tenantId p →
    stored lib (run lib (σ := σ) (before ++ [act])).store tenantId = some p ∧
      p.version = version lib (run lib (σ := σ) before).store tenantId + 1
  kept : ∀ (before : List Action) act,
    before ++ [act] <+: acts → ∀ tenantId, (∀ p, ¬(run lib (σ := σ) before).Succeeds lib act tenantId p) →
    stored lib (run lib (σ := σ) (before ++ [act])).store tenantId = stored lib (run lib (σ := σ) before).store tenantId ∧
      audits lib (run lib (σ := σ) (before ++ [act])).store tenantId = audits lib (run lib (σ := σ) before).store tenantId
  once : ∀ before, before <+: acts → ∀ tenantId,
    ((audits lib (run lib (σ := σ) before).store tenantId).map (·.previous.version)).Nodup
  opened : ∀ before, before <+: acts → ∀ tenantId p, stored lib (run lib (σ := σ) before).store tenantId = some p →
    p.killSwitchOpen = true → p.authorizationState = .active ∧ p.enabled = true
  activated : ∀ before, before <+: acts → ∀ tenantId, ∀ m ∈ audits lib (run lib (σ := σ) before).store tenantId,
    m.new.authorizationState = .active → m.previous.authorizationState ≠ .active →
      m.slot.action = "activate" ∧ m.previous.authorizationState = .authorizedNotActive ∧
        ∃ earlier : List Action, ∃ settings c now, earlier ++ [Action.begin settings c now] <+: before ∧ c.slot = m.slot ∧
          c.body.expectedVersion = m.previous.version ∧ get lib tenantId now (run lib (σ := σ) earlier).store = .ok m.previous ∧
            m.previous.activationBlockers settings now = .ok []
  reauthorized : ∀ before, before <+: acts → ∀ tenantId (as : List Mutation) m (bs : List Mutation) m' (cs : List Mutation),
    audits lib (run lib (σ := σ) before).store tenantId = as ++ m :: (bs ++ m' :: cs) → m.new.authorizationState = .revoked →
      m'.new.authorizationState = .active → ∃ n ∈ bs, n.slot.action = "authorize"
  audited : ∀ (before : List Action) act,
    before ++ [act] <+: acts → ∀ tenantId p, (run lib (σ := σ) before).Succeeds lib act tenantId p →
    ∃ m : Mutation, audits lib (run lib (σ := σ) (before ++ [act])).store tenantId =
        audits lib (run lib (σ := σ) before).store tenantId ++ [m] ∧ m.new = p ∧
      ∃ now, get lib tenantId now (run lib (σ := σ) before).store = .ok m.previous

/-! ## The kill switch -/

section KillSwitch

variable {lib : Library} {σ : Type} [PolicyStore lib σ] {acts before : List Action} {act : Action} {w : World σ} {tenantId : String}
  {p : EmailProductionPolicy}

theorem World.Succeeds.mutates (h : w.Succeeds lib act tenantId p) : ∃ pid now c m, act = .commit pid now ∧
    w.tasks[pid]? = some (.checked c) ∧ c.tenantId = tenantId ∧ Mutates lib c now w.store m ∧ m.new = p ∧
      (step lib act w).store = append lib m w.store := by
  obtain ⟨pid, now, c, rfl, htask, htenant, hnone, hok⟩ := h
  rcases mutate_cases lib c now w.store with ⟨-, herror⟩ | ⟨m, hm, heq⟩
  · obtain ⟨e, he⟩ := herror hnone
    rw [he] at hok
    cases hok
  · refine ⟨pid, now, c, m, rfl, htask, htenant, hm, ?_, ?_⟩
    · rw [heq] at hok
      exact Except.ok.inj hok
    · rw [step_commit htask, heq]

theorem Mutates.succeeds {pid : Nat} {now : Time} {c : Call} {m : Mutation} (h : Mutates lib c now w.store m)
    (htask : w.tasks[pid]? = some (.checked c)) : w.Succeeds lib (.commit pid now) c.tenantId m.new := by
  refine ⟨pid, now, c, rfl, htask, rfl, h.unrecorded, ?_⟩
  unfold mutate
  rw [h.unrecorded, h.got]
  dsimp only
  rw [if_neg (not_not.2 h.expected), h.changed]

theorem World.Overtaken.opens (h : w.Overtaken lib act) : ∃ p tenantId, w.Succeeds lib act tenantId p ∧ p.killSwitchOpen = true ∧
    p.authorizationState ≠ .active := by
  obtain ⟨pid, now, c, b, current, p, rfl, htask, hbody, hnone, hget, hversion, hstate, hchanged⟩ := h
  have hm : Mutates lib c now w.store (c.mutation lib now current p) :=
    { unrecorded := hnone, got := hget, expected := by rw [hbody]; exact hversion, changed := hchanged, slot := rfl, digest := rfl }
  have hframe := hm.state
  rw [hbody] at hframe
  refine ⟨p, c.tenantId, hm.succeeds htask, hframe.2.2, ?_⟩
  rw [show p.authorizationState = current.authorizationState from hframe.1]
  exact hstate

variable [LawfulStore lib σ]

theorem World.Succeeds.stored (h : w.Succeeds lib act tenantId p) : Production.stored lib (step lib act w).store tenantId = some p := by
  obtain ⟨pid, now, c, m, -, -, rfl, hm, rfl, hstore⟩ := h.mutates
  rw [hstore, ← hm.slot_tenantId, stored_append_self]

theorem kept_of_not_succeeds (h : ∀ p, ¬w.Succeeds lib act tenantId p) :
    stored lib (step lib act w).store tenantId = stored lib w.store tenantId ∧
      audits lib (step lib act w).store tenantId = audits lib w.store tenantId := by
  rcases step_store lib act w with hidle | ⟨pid, now, c, m, rfl, htask, hm, hstore⟩
  · rw [hidle]
    exact ⟨rfl, rfl⟩
  · have hne : tenantId ≠ m.slot.tenantId := by
      rintro rfl
      exact h m.new (by rw [hm.slot_tenantId]; exact hm.succeeds htask)
    rw [hstore]
    exact ⟨stored_append_other hne _, audits_append_other hne _⟩

/-- The kill switch is open for an active policy only. -/
def EmailProductionPolicy.Guarded (p : EmailProductionPolicy) : Prop :=
  p.killSwitchOpen = true → p.authorizationState = .active

/-- A mutation that is not overtaken keeps the kill switch guarded. -/
theorem step_guarded (hw : ∀ t p, Production.stored lib w.store t = some p → p.Guarded) (hact : ¬w.Overtaken lib act) :
    ∀ t p, Production.stored lib (step lib act w).store t = some p → p.Guarded := by
  intro t p hp
  rcases step_store lib act w with hidle | ⟨pid, now, c, m, rfl, htask, hm, hstore⟩
  · rw [hidle] at hp
    exact hw t p hp
  · rw [hstore] at hp
    by_cases ht : t = m.slot.tenantId
    · subst ht
      rw [stored_append_self] at hp
      rw [← Option.some.inj hp]
      have hstate := hm.state
      cases hbody : c.body with
      | authorize b =>
        rw [hbody] at hstate
        exact fun hopened => absurd (hstate.2.2.symm.trans hopened) nofun
      | activate b =>
        rw [hbody] at hstate
        exact fun _ => hstate.1
      | revoke b =>
        rw [hbody] at hstate
        exact fun hopened => absurd (hstate.2.2.symm.trans hopened) nofun
      | killSwitch b opened =>
        rw [hbody] at hstate
        intro hopened
        rw [hstate.1]
        by_contra hinactive
        have hbody' : c.body = .killSwitch b true := by
          rw [hbody, ← hstate.2.2, hopened]
        have hversion := hm.expected
        rw [hbody'] at hversion
        exact hact ⟨pid, now, c, b, m.previous, m.new, rfl, htask, hbody', hm.unrecorded, hm.got, hversion, hinactive, hm.changed⟩
    · rw [stored_append_other ht] at hp
      exact hw t p hp

end KillSwitch

/-! ## Runs -/

section Main

variable {lib : Library} {σ : Type} [PolicyStore lib σ]

/-- An operation that nobody comes between is not overtaken. -/
theorem atomically_not_overtaken (calls : List (Settings × Call × Time × Time)) (w : World σ) :
    Always (step lib) (fun w act => ¬w.Overtaken lib act) w (atomically w.tasks.length calls) := by
  induction calls generalizing w with
  | nil => trivial
  | cons call calls ih =>
    obtain ⟨settings, c, now, now'⟩ := call
    obtain ⟨task, hbegin, htask⟩ := step_begin lib w settings c now
    have hpid : (step lib (.begin settings c now) w).tasks[w.tasks.length]? = some task := by
      rw [hbegin]
      exact List.getElem?_concat_length
    have hlength : (step lib (.commit w.tasks.length now') (step lib (.begin settings c now) w)).tasks.length =
        w.tasks.length + 1 := by
      by_cases h : ∃ c', task = .checked c'
      · obtain ⟨c', rfl⟩ := h
        rw [step_commit hpid, List.length_set, hbegin, List.length_append]
        rfl
      · rw [step_idle (fun c' hc' => h ⟨c', Option.some.inj (hpid.symm.trans hc')⟩), hbegin, List.length_append]
        rfl
    refine ⟨?_, ?_, ?_⟩
    · rintro ⟨pid, now'', c', b, current, p, hact, -⟩
      cases hact
    · rintro ⟨pid, now'', c', b, current, p, hact, hchecked, hbody, -, hget, -, hstate, -⟩
      obtain ⟨rfl, rfl⟩ := Action.commit.inj hact
      obtain ⟨rfl, hok⟩ := htask c' (Option.some.inj (hpid.symm.trans hchecked))
      obtain ⟨current', hget', hactive, -⟩ := checks_open hbody hok
      rw [hbegin] at hget
      have hagain : get lib c'.tenantId now' w.store = .ok current' := get_again hget' (by rw [hactive]; decide) rfl
      rw [Except.ok.inj (hget.symm.trans hagain)] at hstate
      exact hstate hactive
    · rw [← hlength]
      exact ih _

variable [LawfulStore lib σ] {acts : List Action}

theorem controlled_of_guarded
    (h : ∀ before, before <+: acts → ∀ t p, stored lib (run lib (σ := σ) before).store t = some p → p.Guarded) :
    Controlled lib σ acts where
  counted before act hbefore t p hp := by
    rw [run_concat]
    refine ⟨hp.stored, ?_⟩
    obtain ⟨pid, now, c, m, -, -, rfl, hm, rfl, -⟩ := hp.mutates
    exact hm.version
  kept before act hbefore t ht := by
    rw [run_concat]
    exact kept_of_not_succeeds ht
  once before _ := (inv_run before).once
  opened before hbefore t p hp hopened := by
    have hactive := h before hbefore t p hp hopened
    exact ⟨hactive, (inv_run before).enabled t p hp (.inr hactive)⟩
  activated before _ t m hm hnew hprevious := (inv_run before).activated t m hm hnew hprevious
  reauthorized before _ t as m bs m' cs htrail hm hm' := (inv_run before).reauthorized htrail hm hm'
  audited before act _ t p hp := by
    obtain ⟨pid, now, c, m, -, -, rfl, hm, rfl, hstore⟩ := hp.mutates
    refine ⟨m, ?_, rfl, now, hm.got⟩
    rw [run_concat, hstore, ← hm.slot_tenantId, audits_append_self]

theorem controlled_iff_not_overtaken : Controlled lib σ acts ↔
    Always (step lib) (fun w act => ¬w.Overtaken lib act) { store := (PolicyStore.start lib : σ) } acts := by
  constructor
  · intro h
    rw [always_iff]
    rintro before act after rfl hovertaken
    have hovertaken' : (run lib (σ := σ) before).Overtaken lib act := hovertaken
    obtain ⟨p, t, hp, hopened, hinactive⟩ := hovertaken'.opens
    have hbefore : before ++ [act] <+: before ++ act :: after := ⟨after, by simp⟩
    exact hinactive (h.opened _ hbefore t p (h.counted before act hbefore t p hp).1 hopened).1
  · intro h
    refine controlled_of_guarded fun before hbefore => ?_
    refine (h.take hbefore).invariant (I := fun w : World σ => ∀ t p, stored lib w.store t = some p → p.Guarded) ?_
      fun w act hw hact => step_guarded hw hact
    intro t p hp
    rw [show stored lib (PolicyStore.start lib : σ) t = none from LawfulStore.stored_start t] at hp
    cases hp

end Main

/-- The policy is under control in the store that does not give way, and in the other one unless the kill switch is opened on a policy
that became inactive since its checks. -/
theorem policy_controlled_iff (lib : Library) :
    (∀ calls, Controlled lib MemoryEmailProductionPolicyStore (atomically 0 calls)) ∧
      ∀ acts, Controlled lib PostgresEmailProductionPolicyStore acts ↔
        Always (step lib) (fun w act => ¬w.Overtaken lib act)
          { store := (PolicyStore.start lib : PostgresEmailProductionPolicyStore) } acts :=
  ⟨fun calls => controlled_iff_not_overtaken.2 (atomically_not_overtaken calls { store := PolicyStore.start lib }),
    fun _ => controlled_iff_not_overtaken⟩

/-! ## A call that is overtaken -/

/-- ASCII texts are in lower case already. -/
def sampleLib : Library := ⟨id, fun _ => "", fun _ => ""⟩

def sampleSha : String := "0123456789abcdef0123456789abcdef01234567"

/-- Everything is in order for the one domain. -/
def sampleSettings : Settings :=
  { productionActivationId := some "CHG-1", emailDeliveryEnabled := true, appEnv := "production", sourceSha := sampleSha,
    domainRegistry := .ok [("example.com", ⟨true, false, false, true, true⟩)] }

def sampleAuthorize : AuthorizeEmailProduction :=
  { expectedVersion := 1, mode := .transactionalCanary, approvedDomains := ["example.com"], approvedSenders := ["info@example.com"],
    recipientScope := .allowlist, approvedRecipients := ["user@example.net"], approvedCategories := ["transactional"],
    perMinuteLimit := 1, perHourLimit := 1, perDayLimit := 1, validFrom := .utc 0, validUntil := .utc 1000, changeId := "CHG-1",
    productionOwner := "owner", monitoringOwner := "owner", escalationOwner := "owner", rollbackOwner := "owner",
    killSwitchProcedure := "close the switch", provider := "klyrow-postal", environment := "production",
    approvedReleaseSha := sampleSha, reason := "canary" }

def sampleCall (idempotencyKey : String) (body : ControlBody) : Call :=
  { tenantId := "tenant", actor := "operator", correlationId := "correlation", idempotencyKey, body }

/-- The kill switch is to be opened again for a version that comes only with the revocation. -/
def sampleActions : List Action :=
  [.begin sampleSettings (sampleCall "key-1" (.authorize sampleAuthorize)) 1, .commit 0 1,
    .begin sampleSettings (sampleCall "key-2" (.activate ⟨2, "start"⟩)) 2, .commit 1 2,
    .begin sampleSettings (sampleCall "key-3" (.killSwitch ⟨4, "go on"⟩ true)) 3,
    .begin sampleSettings (sampleCall "key-4" (.revoke ⟨3, "stop"⟩)) 3, .commit 3 3, .commit 2 4]

/-- The switch of a revoked policy is open. -/
theorem revoked_policy_opened :
    ¬∀ lib, (∀ calls, Controlled lib MemoryEmailProductionPolicyStore (atomically 0 calls)) ∧
      ∀ acts, Controlled lib PostgresEmailProductionPolicyStore acts := by
  intro h
  have hopened := (h sampleLib).2 sampleActions
  have hlast : ((stored sampleLib (run sampleLib (σ := PostgresEmailProductionPolicyStore) sampleActions).store "tenant").map
      fun p => (p.killSwitchOpen, p.authorizationState)) = some (true, .revoked) := by
    decide +kernel
  obtain ⟨p, hp, hstate⟩ := Option.map_eq_some_iff.1 hlast
  obtain ⟨hswitch, hrevoked⟩ := Prod.mk.inj hstate
  have hactive := (hopened.opened _ (List.prefix_refl _) "tenant" p hp hswitch).1
  exact absurd (hrevoked.symm.trans hactive) nofun

end Middleware.Production

/-
The trail of a tenant's policy: what one mutation makes of it, and what the mutations of a run keep, whoever makes them. An activation
is pending between its checks and its mutation; as each mutation makes a version of its own, the mutation meets the policy of the
checks or is refused.
-/
import Middleware.Production.Control

namespace Middleware.Production

open Ledger Lib

def version (lib : Library) {σ : Type} [PolicyStore lib σ] (s : σ) (tenantId : String) : Int :=
  (stored lib s tenantId).elim 1 (·.version)

/-! ## What a mutation makes of the policy -/

section Mutations

variable {lib : Library} {σ : Type} [PolicyStore lib σ] {c : Call} {now : Time} {s : σ} {m : Mutation}
  {current p : EmailProductionPolicy} {tenantId : String}

theorem Mutates.slot_tenantId (h : Mutates lib c now s m) : m.slot.tenantId = c.tenantId := by
  rw [h.slot]
  rfl

/-- The policy that a call makes, by the operation. -/
theorem Mutates.state (h : Mutates lib c now s m) :
    match c.body with
    | .authorize _ => m.new.authorizationState = .authorizedNotActive ∧ m.new.enabled = true ∧ m.new.killSwitchOpen = false
    | .activate _ => m.new.authorizationState = .active ∧ m.new.enabled = m.previous.enabled ∧ m.new.killSwitchOpen = true
    | .revoke _ => m.new.authorizationState = .revoked ∧ m.new.enabled = false ∧ m.new.killSwitchOpen = false
    | .killSwitch _ opened => m.new.authorizationState = m.previous.authorizationState ∧ m.new.enabled = m.previous.enabled ∧
        m.new.killSwitchOpen = opened := by
  obtain ⟨-, hstate, henabled, hopen⟩ := changed_frame h.changed
  rw [hstate, henabled, hopen]
  cases c.body <;> exact ⟨rfl, rfl, rfl⟩

theorem Mutates.action (h : Mutates lib c now s m) : m.slot.action = c.body.action := by
  rw [h.slot]
  rfl

/-- A revoked policy stays revoked unless it is authorized or activated. -/
def Mutation.Kept (m : Mutation) : Prop :=
  m.slot.action ≠ "authorize" → m.previous.authorizationState = .revoked → m.new.authorizationState = .revoked

/-- Who is active or awaits its activation is enabled. -/
def EmailProductionPolicy.Enabled (p : EmailProductionPolicy) : Prop :=
  p.authorizationState = .authorizedNotActive ∨ p.authorizationState = .active → p.enabled = true

theorem Mutates.activate (h : Mutates lib c now s m) (hnew : m.new.authorizationState = .active)
    (hprevious : m.previous.authorizationState ≠ .active) : ∃ b, c.body = .activate b := by
  have hstate := h.state
  cases hbody : c.body with
  | activate b => exact ⟨b, rfl⟩
  | authorize b =>
    rw [hbody] at hstate
    exact absurd (hstate.1.symm.trans hnew) nofun
  | revoke b =>
    rw [hbody] at hstate
    exact absurd (hstate.1.symm.trans hnew) nofun
  | killSwitch b opened =>
    rw [hbody] at hstate
    exact absurd (hstate.1.symm.trans hnew) hprevious

theorem Mutates.enabled (h : Mutates lib c now s m) (hprevious : m.previous.Enabled)
    (hactivate : ∀ b, c.body = .activate b → m.previous.authorizationState = .authorizedNotActive) : m.new.Enabled := by
  have hstate := h.state
  intro hactive
  cases hbody : c.body with
  | authorize b =>
    rw [hbody] at hstate
    exact hstate.2.1
  | activate b =>
    rw [hbody] at hstate
    rw [hstate.2.1]
    exact hprevious (.inl (hactivate b hbody))
  | revoke b =>
    rw [hbody] at hstate
    rw [hstate.1] at hactive
    rcases hactive with hactive | hactive <;> cases hactive
  | killSwitch b opened =>
    rw [hbody] at hstate
    rw [hstate.1] at hactive
    rw [hstate.2.1]
    exact hprevious hactive

theorem Mutates.kept (h : Mutates lib c now s m)
    (hactivate : ∀ b, c.body = .activate b → m.previous.authorizationState = .authorizedNotActive) : m.Kept := by
  have hstate := h.state
  intro haction hrevoked
  rw [h.action] at haction
  cases hbody : c.body with
  | authorize b =>
    rw [hbody] at haction
    exact absurd rfl haction
  | activate b => exact absurd (hrevoked.symm.trans (hactivate b hbody)) nofun
  | revoke b =>
    rw [hbody] at hstate
    exact hstate.1
  | killSwitch b opened =>
    rw [hbody] at hstate
    exact hstate.1.trans hrevoked

variable [LawfulStore lib σ]

theorem get_version (h : get lib tenantId now s = .ok current) : current.version = version lib s tenantId := by
  unfold version
  rcases hp : stored lib s tenantId with _ | p
  · rw [get_none hp] at h
    rw [← Except.ok.inj h]
    rfl
  · rw [get_some hp] at h
    exact (read_frame h).1

theorem Mutates.version (h : Mutates lib c now s m) : m.new.version = Production.version lib s c.tenantId + 1 := by
  rw [(changed_frame h.changed).1, get_version h.got]

theorem Mutates.previous_version (h : Mutates lib c now s m) : m.previous.version = Production.version lib s c.tenantId :=
  get_version h.got

theorem get_enabled (hs : ∀ p, stored lib s tenantId = some p → p.Enabled) (h : get lib tenantId now s = .ok current) :
    current.Enabled := by
  rcases hp : stored lib s tenantId with _ | p
  · rw [get_none hp] at h
    rw [← Except.ok.inj h]
    rintro (hstate | hstate) <;> cases hstate
  · rw [get_some hp] at h
    obtain ⟨-, hstate, henabled, -⟩ := read_frame h
    intro hactive
    rw [hstate] at hactive
    rw [henabled]
    exact hs p hp hactive

end Mutations

/-! ## What a run keeps -/

/-- The activation was checked on the policy that it finds, if there is still that version. -/
def Pending (lib : Library) {σ : Type} [PolicyStore lib σ] (acts : List Action) (s : σ) (c : Call) (b : ControlMutation) : Prop :=
  ∃ earlier settings now current, earlier ++ [Action.begin settings c now] <+: acts ∧
    get lib c.tenantId now (run lib (σ := σ) earlier).store = .ok current ∧ current.version = b.expectedVersion ∧
      current.authorizationState = .authorizedNotActive ∧ current.activationBlockers settings now = .ok [] ∧
        (b.expectedVersion < version lib s c.tenantId ∨
          stored lib s c.tenantId = stored lib (run lib (σ := σ) earlier).store c.tenantId)

/-- What an activation in the trail goes back to. -/
def Activated (lib : Library) (σ : Type) [PolicyStore lib σ] (acts : List Action) (tenantId : String) (m : Mutation) : Prop :=
  m.slot.action = "activate" ∧ m.previous.authorizationState = .authorizedNotActive ∧
    ∃ earlier : List Action, ∃ settings c now, earlier ++ [Action.begin settings c now] <+: acts ∧ c.slot = m.slot ∧
      c.body.expectedVersion = m.previous.version ∧ get lib tenantId now (run lib (σ := σ) earlier).store = .ok m.previous ∧
        m.previous.activationBlockers settings now = .ok []

structure Inv (lib : Library) {σ : Type} [PolicyStore lib σ] (acts : List Action) (w : World σ) : Prop where
  last : ∀ tenantId, stored lib w.store tenantId = (audits lib w.store tenantId).getLast?.map (·.new)
  older : ∀ tenantId, ∀ m ∈ audits lib w.store tenantId, m.previous.version < version lib w.store tenantId
  once : ∀ tenantId, ((audits lib w.store tenantId).map (·.previous.version)).Nodup
  enabled : ∀ tenantId p, stored lib w.store tenantId = some p → p.Enabled
  kept : ∀ tenantId, ∀ m ∈ audits lib w.store tenantId, m.Kept
  linked : ∀ tenantId, (audits lib w.store tenantId).IsChain fun m m' => read lib σ m.new = .ok m'.previous
  activated : ∀ tenantId, ∀ m ∈ audits lib w.store tenantId, m.new.authorizationState = .active →
    m.previous.authorizationState ≠ .active → Activated lib σ acts tenantId m
  pending : ∀ (pid : Nat) c b, w.tasks[pid]? = some (.checked c) → c.body = .activate b → Pending lib acts w.store c b

section Invariant

variable {lib : Library} {σ : Type} [PolicyStore lib σ] {acts : List Action} {act : Action} {w : World σ}
  {c : Call} {now : Time} {m : Mutation} {b : ControlMutation} {tenantId : String}

theorem run_concat : run lib (σ := σ) (acts ++ [act]) = step lib act (run lib acts) := runFrom_concat

theorem Activated.mono {acts' : List Action} (h : Activated lib σ acts tenantId m) (hacts : acts <+: acts') :
    Activated lib σ acts' tenantId m := by
  obtain ⟨haction, hstate, earlier, settings, c, now, hbegin, hrest⟩ := h
  exact ⟨haction, hstate, earlier, settings, c, now, hbegin.trans hacts, hrest⟩

theorem pending_of_checks {settings : Settings} (hbody : c.body = .activate b)
    (h : checks lib settings c now (run lib (σ := σ) acts).store = .ok ()) :
    Pending lib (acts ++ [Action.begin settings c now]) (run lib (σ := σ) acts).store c b := by
  obtain ⟨current, hget, hversion, hstate, hblockers⟩ := checks_activate hbody h
  exact ⟨acts, settings, now, current, List.prefix_refl _, hget, hversion, hstate, hblockers, .inr rfl⟩

variable [LawfulStore lib σ]

theorem stored_append_other (hne : tenantId ≠ m.slot.tenantId) (s : σ) :
    stored lib (append lib m s) tenantId = stored lib s tenantId := by
  rw [LawfulStore.stored_append, if_neg hne]

theorem stored_append_self (s : σ) : stored lib (append lib m s) m.slot.tenantId = some m.new := by
  rw [LawfulStore.stored_append, if_pos rfl]

theorem audits_append_other (hne : tenantId ≠ m.slot.tenantId) (s : σ) :
    audits lib (append lib m s) tenantId = audits lib s tenantId := by
  rw [LawfulStore.audits_append, if_neg hne, List.append_nil]

theorem audits_append_self (s : σ) : audits lib (append lib m s) m.slot.tenantId = audits lib s m.slot.tenantId ++ [m] := by
  rw [LawfulStore.audits_append, if_pos rfl]

theorem version_append_other (hne : tenantId ≠ m.slot.tenantId) (s : σ) :
    version lib (append lib m s) tenantId = version lib s tenantId := by
  unfold version
  rw [stored_append_other hne]

theorem version_append_self (s : σ) : version lib (append lib m s) m.slot.tenantId = m.new.version := by
  unfold version
  rw [stored_append_self]
  rfl

/-- The policy that an activation finds is the one that it was checked on. -/
theorem Pending.commit (h : Pending lib acts w.store c b) (hbody : c.body = .activate b) (hm : Mutates lib c now w.store m) :
    m.previous.authorizationState = .authorizedNotActive ∧ Activated lib σ acts c.tenantId m := by
  obtain ⟨earlier, settings, now', current, hbegin, hget, hversion, hstate, hblockers, hlater | hsame⟩ := h
  · have hexpected := hm.expected
    rw [hbody] at hexpected
    rw [← hm.previous_version, hexpected] at hlater
    exact absurd hlater (lt_irrefl _)
  · have hagain : get lib c.tenantId now w.store = .ok current := get_again hget (by rw [hstate]; decide) hsame
    have hprevious : m.previous = current := Except.ok.inj (hm.got.symm.trans hagain)
    refine ⟨by rw [hprevious]; exact hstate, ?_, by rw [hprevious]; exact hstate, earlier, settings, c, now', hbegin, hm.slot.symm,
      hm.expected.symm, by rw [hprevious]; exact hget, by rw [hprevious]; exact hblockers⟩
    rw [hm.action, hbody]
    rfl

theorem Inv.activate (h : Inv lib acts w) {pid : Nat} (htask : w.tasks[pid]? = some (.checked c)) (hm : Mutates lib c now w.store m) :
    ∀ b, c.body = .activate b → m.previous.authorizationState = .authorizedNotActive :=
  fun b hbody => ((h.pending pid c b htask hbody).commit hbody hm).1

/-- What was checked stays so until the policy changes, and then its version is gone. -/
theorem Pending.mono {s' : σ} {acts' : List Action} (h : Pending lib acts w.store c b) (hacts : acts <+: acts')
    (hs : stored lib s' c.tenantId = stored lib w.store c.tenantId ∨
      version lib w.store c.tenantId < version lib s' c.tenantId) : Pending lib acts' s' c b := by
  obtain ⟨earlier, settings, now', current, hbegin, hget, hversion, hstate, hblockers, hor⟩ := h
  refine ⟨earlier, settings, now', current, hbegin.trans hacts, hget, hversion, hstate, hblockers, ?_⟩
  rcases hs with hsame | hlater
  · rcases hor with hlt | heq
    · left
      unfold version at hlt ⊢
      rw [hsame]
      exact hlt
    · exact .inr (hsame.trans heq)
  · left
    rcases hor with hlt | heq
    · exact hlt.trans hlater
    · refine lt_of_le_of_lt (le_of_eq ?_) hlater
      rw [← hversion, get_version hget]
      unfold version
      rw [heq]

theorem inv_start : Inv lib [] (run lib (σ := σ) []) where
  last tenantId := by
    show stored lib (PolicyStore.start lib : σ) tenantId = (audits lib (PolicyStore.start lib : σ) tenantId).getLast?.map _
    rw [LawfulStore.stored_start, LawfulStore.audits_start]
    rfl
  older tenantId m hm := by
    rw [show audits lib (run lib (σ := σ) []).store tenantId = [] from LawfulStore.audits_start tenantId] at hm
    cases hm
  once tenantId := by
    rw [show audits lib (run lib (σ := σ) []).store tenantId = [] from LawfulStore.audits_start tenantId]
    exact List.nodup_nil
  enabled tenantId p hp := by
    rw [show stored lib (run lib (σ := σ) []).store tenantId = none from LawfulStore.stored_start tenantId] at hp
    cases hp
  kept tenantId m hm := by
    rw [show audits lib (run lib (σ := σ) []).store tenantId = [] from LawfulStore.audits_start tenantId] at hm
    cases hm
  linked tenantId := by
    rw [show audits lib (run lib (σ := σ) []).store tenantId = [] from LawfulStore.audits_start tenantId]
    exact List.isChain_nil
  activated tenantId m hm := by
    rw [show audits lib (run lib (σ := σ) []).store tenantId = [] from LawfulStore.audits_start tenantId] at hm
    cases hm
  pending pid c b h := by
    cases h

theorem Inv.append {pid : Nat} (h : Inv lib acts (run lib (σ := σ) acts)) {c : Call} {now : Time}
    (htask : (run lib (σ := σ) acts).tasks[pid]? = some (.checked c)) (hm : Mutates lib c now (run lib (σ := σ) acts).store m)
    (hact : act = .commit pid now)
    (hstore : (step lib act (run lib (σ := σ) acts)).store = Production.append lib m (run lib (σ := σ) acts).store) :
    Inv lib (acts ++ [act]) (step lib act (run lib (σ := σ) acts)) := by
  have hactivate := h.activate htask hm
  have hbefore : acts <+: acts ++ [act] := List.prefix_append _ _
  have htenant := hm.slot_tenantId
  have hnewer : Production.version lib (run lib (σ := σ) acts).store m.slot.tenantId < m.new.version := by
    rw [htenant, hm.version]
    omega
  refine ⟨fun t => ?_, fun t m' hm' => ?_, fun t => ?_, fun t p hp => ?_, fun t m' hm' => ?_, fun t => ?_, fun t m' hm' => ?_,
    fun pid' c' b' hpid hbody => ?_⟩
  all_goals rw [hstore] at *
  · by_cases ht : t = m.slot.tenantId
    · subst ht
      rw [stored_append_self, audits_append_self, List.getLast?_concat]
      rfl
    · rw [stored_append_other ht, audits_append_other ht]
      exact h.last t
  · by_cases ht : t = m.slot.tenantId
    · subst ht
      rw [audits_append_self, List.mem_append, List.mem_singleton] at hm'
      rw [version_append_self]
      rcases hm' with hold | rfl
      · exact (h.older _ m' hold).trans hnewer
      · rw [htenant] at hnewer
        rw [hm.previous_version]
        exact hnewer
    · rw [audits_append_other ht] at hm'
      rw [version_append_other ht]
      exact h.older t m' hm'
  · by_cases ht : t = m.slot.tenantId
    · subst ht
      rw [audits_append_self, List.map_append, List.nodup_append]
      refine ⟨h.once _, List.nodup_singleton _, ?_⟩
      rintro v hv v' hv' rfl
      obtain ⟨m', hmem, rfl⟩ := List.mem_map.1 hv
      have hlt := h.older _ m' hmem
      rw [List.map_singleton, List.mem_singleton] at hv'
      rw [hv', hm.previous_version, htenant] at hlt
      exact lt_irrefl _ hlt
    · rw [audits_append_other ht]
      exact h.once t
  · by_cases ht : t = m.slot.tenantId
    · subst ht
      rw [stored_append_self] at hp
      rw [← Option.some.inj hp]
      exact hm.enabled (get_enabled (h.enabled _) hm.got) hactivate
    · rw [stored_append_other ht] at hp
      exact h.enabled t p hp
  · by_cases ht : t = m.slot.tenantId
    · subst ht
      rw [audits_append_self, List.mem_append, List.mem_singleton] at hm'
      rcases hm' with hold | rfl
      · exact h.kept _ m' hold
      · exact hm.kept hactivate
    · rw [audits_append_other ht] at hm'
      exact h.kept t m' hm'
  · by_cases ht : t = m.slot.tenantId
    · subst ht
      rw [audits_append_self, List.isChain_append]
      refine ⟨h.linked _, List.isChain_singleton _, ?_⟩
      rintro x hx y hy
      rw [List.head?_singleton, Option.mem_some_iff] at hy
      subst hy
      have hlast := h.last m.slot.tenantId
      rw [Option.mem_def.1 hx] at hlast
      have hread : get lib m.slot.tenantId now (run lib acts).store = read lib σ x.new := get_some hlast
      rw [← hread, htenant]
      exact hm.got
    · rw [audits_append_other ht]
      exact h.linked t
  · by_cases ht : t = m.slot.tenantId
    · subst ht
      rw [audits_append_self, List.mem_append, List.mem_singleton] at hm'
      intro hnew hprevious
      rcases hm' with hold | rfl
      · exact (h.activated _ m' hold hnew hprevious).mono hbefore
      · obtain ⟨b, hbody⟩ := hm.activate hnew hprevious
        rw [htenant]
        exact ((h.pending pid c b htask hbody).commit hbody hm).2.mono hbefore
    · rw [audits_append_other ht] at hm'
      exact fun hnew hprevious => (h.activated t m' hm' hnew hprevious).mono hbefore
  · rcases step_checked hpid with hpid | ⟨-, settings, now', hbegin, -⟩
    · refine (h.pending pid' c' b' hpid hbody).mono hbefore ?_
      by_cases ht : c'.tenantId = m.slot.tenantId
      · right
        rw [ht, version_append_self]
        exact hnewer
      · exact .inl (stored_append_other ht _)
    · rw [hact] at hbegin
      cases hbegin

/-- So does an action that leaves the store alone. -/
theorem Inv.idle (h : Inv lib acts (run lib (σ := σ) acts))
    (hstore : (step lib act (run lib (σ := σ) acts)).store = (run lib (σ := σ) acts).store) :
    Inv lib (acts ++ [act]) (step lib act (run lib (σ := σ) acts)) := by
  have hbefore : acts <+: acts ++ [act] := List.prefix_append _ _
  refine ⟨?_, ?_, ?_, ?_, ?_, ?_, ?_, ?_⟩
  · rw [hstore]
    exact h.last
  · rw [hstore]
    exact h.older
  · rw [hstore]
    exact h.once
  · rw [hstore]
    exact h.enabled
  · rw [hstore]
    exact h.kept
  · rw [hstore]
    exact h.linked
  · rw [hstore]
    exact fun t m hm hnew hprevious => (h.activated t m hm hnew hprevious).mono hbefore
  · rw [hstore]
    intro pid c b hpid hbody
    rcases step_checked hpid with hpid | ⟨-, settings, now, rfl, hok⟩
    · exact (h.pending pid c b hpid hbody).mono hbefore (.inl rfl)
    · exact pending_of_checks hbody hok

theorem inv_run (acts : List Action) : Inv lib acts (run lib (σ := σ) acts) := by
  induction acts using List.reverseRecOn with
  | nil => exact inv_start
  | append_singleton acts act ih =>
    rw [run_concat]
    rcases step_store lib act (run lib (σ := σ) acts) with hidle | ⟨pid, now, c, m, hact, htask, hm, hstore⟩
    · exact ih.idle hidle
    · exact ih.append htask hm hact hstore

end Invariant

/-! ## Revoked policies -/

/-- A policy that is revoked in the trail stays so until it is authorized. -/
theorem authorize_between {lib : Library} {σ : Type} [PolicyStore lib σ] [LawfulStore lib σ] {m m' : Mutation} {bs : List Mutation}
    (hlinked : (m :: (bs ++ [m'])).IsChain fun x y => read lib σ x.new = .ok y.previous) (hkept : ∀ n ∈ bs, n.Kept)
    (hm : m.new.authorizationState = .revoked) (hm' : m'.previous.authorizationState ≠ .revoked) :
    ∃ n ∈ bs, n.slot.action = "authorize" := by
  induction bs generalizing m with
  | nil =>
    have hread := (List.isChain_cons_cons.1 hlinked).1
    exact absurd ((read_frame hread).2.1.trans hm) hm'
  | cons n bs ih =>
    obtain ⟨hread, hrest⟩ := List.isChain_cons_cons.1 hlinked
    by_cases hn : n.slot.action = "authorize"
    · exact ⟨n, List.mem_cons_self, hn⟩
    · have hrevoked := hkept n List.mem_cons_self hn ((read_frame hread).2.1.trans hm)
      obtain ⟨n', hmem, hn'⟩ := ih hrest (fun x hx => hkept x (List.mem_cons_of_mem _ hx)) hrevoked
      exact ⟨n', List.mem_cons_of_mem _ hmem, hn'⟩

theorem Inv.reauthorized {lib : Library} {σ : Type} [PolicyStore lib σ] [LawfulStore lib σ] {acts : List Action} {w : World σ}
    (h : Inv lib acts w) {tenantId : String} {as bs cs : List Mutation} {m m' : Mutation}
    (htrail : audits lib w.store tenantId = as ++ m :: (bs ++ m' :: cs)) (hm : m.new.authorizationState = .revoked)
    (hm' : m'.new.authorizationState = .active) : ∃ n ∈ bs, n.slot.action = "authorize" := by
  have hlinked := h.linked tenantId
  have hkept := h.kept tenantId
  have hactivated := h.activated tenantId
  rw [htrail] at hlinked hkept hactivated
  have hmem : m' ∈ as ++ m :: (bs ++ m' :: cs) := by simp
  have hchain : (m :: (bs ++ [m'])).IsChain fun x y => read lib σ x.new = .ok y.previous := by
    have htail := (List.isChain_append.1 hlinked).2.1
    rw [show m :: (bs ++ m' :: cs) = (m :: (bs ++ [m'])) ++ cs by simp] at htail
    exact (List.isChain_append.1 htail).1
  refine authorize_between hchain (fun n hn => hkept n (by simp [hn])) hm ?_
  · by_cases hactive : m'.previous.authorizationState = .active
    · rw [hactive]
      decide
    · rw [(hactivated m' hmem hm' hactive).2.1]
      decide

end Middleware.Production

/-
Command routing: `CommandPolicyRegistry` with its extensions (`app/commands.py`) and `AdapterRegistry.register`
(`app/platform/registry.py`).

A registration runs in `RegistrationM`, where the registry survives an exception. Of an adapter the registration reads its
id, its configuration check and what it advertises.
-/
import Middleware.Platform.Kernel
import Middleware.Lib.Calls
import Middleware.Lib.Prefixes

namespace Middleware.Platform

open Ledger Lib

/-! ## Policies -/

namespace CommandPolicyRegistry

/-- `CommandPolicyRegistry(policies, capabilities)`: the longest prefix first. -/
def ofPolicies (policies : List CommandPolicy) (capabilities : Dict String Bool) : CommandPolicyRegistry where
  policies := policies.insertionSort fun a b => b.commandPrefix.toList.length ≤ a.commandPrefix.toList.length
  capabilities := capabilities

/-- `extended`. -/
def extended (self : CommandPolicyRegistry) (policies : List CommandPolicy) (capabilities : Dict String Bool) :
    Except Exc CommandPolicyRegistry :=
  match capabilities.keys.find? fun name => decide (name ∈ self.capabilities) with
  | some name => .error (.valueError ("capability " ++ name ++ " is owned by config/capabilities.v2.json"))
  | none =>
    match policies.find? fun policy => (self.policies.map (·.commandPrefix)).contains policy.commandPrefix with
    | some policy => .error (.valueError ("command prefix " ++ policy.commandPrefix ++ " already has an owner"))
    | none => .ok (ofPolicies (self.policies ++ policies) (capabilities ∪ self.capabilities))

end CommandPolicyRegistry

/-! ## Adapters -/

/-- What an adapter advertises, as far as registration reads it. -/
structure Advertisement extends AdapterCapabilities where
  adapterId : String
  capabilities : List String
  supportsReadback : Bool := true

/-- A candidate for registration; `missing` are the methods of the adapter contract it does not have. -/
structure AdapterCandidate where
  missing : List String := []
  adapterId : Option String
  validateConfig : Except Exc Unit := .ok ()
  capabilities : Except Exc Advertisement

/-- The exceptions of `register`; those of the candidate are its own. -/
inductive RegistrationError where
  | contract (missing : List String)
  | candidate (error : Exc)
  | differentId (adapterId advertised : String)
  | duplicateId (adapterId : String)
  | noConnector (adapterId : String)
  | noCapability (adapterId target capability commandPrefix : String)
  | noReadback (adapterId commandPrefix : String)
  | twoOwners (commandPrefix existing adapterId : String)
  | noPrefix (adapterId : String)
deriving DecidableEq, Repr

/-- `AdapterRegistry` with what only registration reads and writes: `_adapters`, `_advertised` in full, `_validated`. -/
structure Registration extends AdapterRegistry where
  adapters : Dict String AdapterCandidate := ∅
  advertisements : Dict String Advertisement := ∅
  validated : Bool := false

def Registration.new (policies : CommandPolicyRegistry) : Registration :=
  { policies := policies, owners := ∅, advertised := ∅ }

abbrev RegistrationM := CallM RegistrationError Registration

/-- `assert_adapter`: the candidate's id. -/
def assertAdapter (candidate : AdapterCandidate) : Except RegistrationError String :=
  match candidate.adapterId with
  | some adapterId =>
    if adapterId = "" then .error (.contract ("adapter_id" :: candidate.missing))
    else if candidate.missing ≠ [] then .error (.contract candidate.missing)
    else .ok adapterId
  | none => .error (.contract ("adapter_id" :: candidate.missing))

def ofCandidate {A : Type} : Except Exc A → Except RegistrationError A
  | .ok a => .ok a
  | .error e => .error (.candidate e)

/-- The loop of `register` over the policies: those the adapter will own. -/
def ownedPolicies (owners : Dict String String) (adapterId : String) (advertised : Advertisement) :
    List CommandPolicy → Except RegistrationError (List CommandPolicy)
  | [] => .ok []
  | policy :: rest =>
    if policy.target ∉ advertised.connectorIds then ownedPolicies owners adapterId advertised rest
    else if policy.capability ∉ advertised.capabilities then
      .error (.noCapability adapterId policy.target policy.capability policy.commandPrefix)
    else if policy.readbackRequired && !advertised.supportsReadback then
      .error (.noReadback adapterId policy.commandPrefix)
    else
      match owners.lookup policy.commandPrefix with
      | some existing =>
        if existing ≠ adapterId then .error (.twoOwners policy.commandPrefix existing adapterId)
        else (policy :: ·) <$> ownedPolicies owners adapterId advertised rest
      | none => (policy :: ·) <$> ownedPolicies owners adapterId advertised rest

def Registration.with (self : Registration) (candidate : AdapterCandidate) (adapterId : String)
    (advertised : Advertisement) (owned : List CommandPolicy) : Registration :=
  { self with
    owners := owned.foldl (fun owners policy => owners.insert policy.commandPrefix adapterId) self.owners
    advertised := self.advertised.insert adapterId advertised.toAdapterCapabilities
    adapters := self.adapters.insert adapterId candidate
    advertisements := self.advertisements.insert adapterId advertised
    validated := false }

/-- `AdapterRegistry.register`. -/
def register (candidate : AdapterCandidate) : RegistrationM AdapterCandidate := do
  let adapterId ← assertAdapter candidate
  let _ ← ofCandidate candidate.validateConfig
  let advertised ← ofCandidate candidate.capabilities
  if advertised.adapterId ≠ adapterId then throw (.differentId adapterId advertised.adapterId)
  else do
    let self ← get
    if adapterId ∈ self.adapters then throw (.duplicateId adapterId)
    else if advertised.connectorIds = [] then throw (.noConnector adapterId)
    else do
      let owned ← ownedPolicies self.owners adapterId advertised self.policies.policies
      if owned.isEmpty then throw (.noPrefix adapterId)
      else do
        modify fun self => self.with candidate adapterId advertised owned
        return candidate

/-- Registrations one after the other, whether they succeed or raise. -/
def registerEach (candidates : List AdapterCandidate) (self : Registration) : Registration :=
  candidates.foldl (fun self candidate => (invoke (register candidate) self).2) self

/-! ## Extensions -/

section Extensions

open CommandPolicyRegistry

variable {self ext : CommandPolicyRegistry} {policies : List CommandPolicy} {capabilities : Dict String Bool}

abbrev prefixText (p : CommandPolicy) : List Char := p.commandPrefix.toList

theorem matching_eq (r : CommandPolicyRegistry) (t : String) : r.matching t = Lib.owners prefixText r.policies t.toList := rfl

theorem resolve_eq_some {r : CommandPolicyRegistry} {t : String} {p : CommandPolicy} :
    r.resolve t = some p ↔ r.matching t = [p] := by
  unfold resolve
  split
  · rename_i policy h
    rw [h]
    simp
  · rename_i h
    simp only [reduceCtorEq, false_iff]
    exact h p

theorem extended_ok (h : self.extended policies capabilities = .ok ext) :
    ext = ofPolicies (self.policies ++ policies) (capabilities ∪ self.capabilities) ∧
      ∀ name, name ∈ self.capabilities → name ∉ capabilities := by
  unfold extended at h
  split at h
  · cases h
  · rename_i hnames
    split at h
    · cases h
    · cases h
      refine ⟨rfl, ?_⟩
      intro name hname hnew
      have := List.find?_eq_none.1 hnames name (AList.mem_keys.1 hnew)
      simp [hname] at this

/-- The extension leaves every route alone: no new prefix has exactly one old owner, no old prefix that begins with a new
one has exactly one, and no capability that was missing is switched on for a policy that is the one owner of its prefix. -/
structure Compatible (registry : CommandPolicyRegistry) (policies : List CommandPolicy) (capabilities : Dict String Bool) :
    Prop where
  fresh : ∀ q ∈ policies, ¬Sole prefixText registry.policies (prefixText q)
  apart : ∀ q ∈ policies, ∀ p ∈ registry.policies, prefixText q <+: prefixText p →
    ¬Sole prefixText registry.policies (prefixText p)
  closed : ∀ p ∈ registry.policies, Sole prefixText registry.policies (prefixText p) →
    p.capability ∉ registry.capabilities → capabilities.lookup p.capability ≠ some true

theorem extended_resolve (h : self.extended policies capabilities = .ok ext) {t : String} {p : CommandPolicy}
    (ht : self.matching t = [p]) : ext.resolve t = some p ↔ ∀ q ∈ policies, ¬prefixText q <+: t.toList := by
  obtain ⟨rfl, -⟩ := extended_ok h
  rw [resolve_eq_some, matching_eq]
  exact owner_kept_iff (List.perm_insertionSort _ _) ht

theorem sole_own {p : CommandPolicy} {ps : List CommandPolicy} (hp : p ∈ ps) (h : Sole prefixText ps (prefixText p)) :
    Lib.owners prefixText ps (prefixText p) = [p] := by
  obtain ⟨p', hp'⟩ := List.length_eq_one_iff.1 h
  have hmem : p ∈ Lib.owners prefixText ps (prefixText p) := mem_owners.2 ⟨hp, List.prefix_refl _⟩
  rw [hp'] at hmem ⊢
  rw [List.mem_singleton.1 hmem]

theorem capability_kept (h : self.extended policies capabilities = .ok ext) (name : String) :
    ext.capabilities.lookup name =
      if name ∈ self.capabilities then self.capabilities.lookup name else capabilities.lookup name := by
  obtain ⟨rfl, hnew⟩ := extended_ok h
  show (capabilities ∪ self.capabilities).lookup name = _
  by_cases hname : name ∈ self.capabilities
  · rw [if_pos hname, AList.lookup_union_right (hnew name hname)]
  · rw [if_neg hname]
    by_cases hc : name ∈ capabilities
    · rw [AList.lookup_union_left hc]
    · rw [AList.lookup_union_right hc, AList.lookup_eq_none.2 hc, AList.lookup_eq_none.2 hname]

/-- A command whose type keeps its owner is answered as before, but for a capability that is switched on only now. -/
theorem extended_authorize (h : self.extended policies capabilities = .ok ext) {c : CommandEnvelope} {p : CommandPolicy}
    (hself : self.matching c.commandType = [p]) (hext : ext.matching c.commandType = [p])
    (hclosed : p.capability ∉ self.capabilities → capabilities.lookup p.capability ≠ some true) :
    CommandKernel.authorize ext c = CommandKernel.authorize self c := by
  have hcap : ext.capabilities.lookup p.capability ≠ some true ↔ self.capabilities.lookup p.capability ≠ some true := by
    rw [capability_kept h]
    split
    · rfl
    · rename_i hno
      rw [AList.lookup_eq_none.2 hno]
      simpa using hclosed hno
  simp only [CommandKernel.authorize, hself, hext, hcap]

def commandOf (p : CommandPolicy) : CommandEnvelope :=
  { Synthetic.envelope with commandType := p.commandPrefix, target := p.target, capability := p.capability }

theorem authorize_commandOf {r : CommandPolicyRegistry} {p : CommandPolicy} (h : r.matching p.commandPrefix = [p]) :
    CommandKernel.authorize r (commandOf p) =
      if r.capabilities.lookup p.capability ≠ some true then
        .error (CommandKernel.disabled ("capability " ++ p.capability ++ " is disabled"))
      else if !p.readbackRequired then
        .error (CommandKernel.disabled "effectful command policy must require provider read-back")
      else .ok () := by
  simp [CommandKernel.authorize, commandOf, h]

theorem disabled_ne (name : String) : CommandKernel.disabled ("capability " ++ name ++ " is disabled") ≠
    CommandKernel.disabled "effectful command policy must require provider read-back" := by
  intro h
  have h : "capability " ++ name ++ " is disabled" = "effectful command policy must require provider read-back" := by
    simpa [CommandKernel.disabled] using h
  have hhead := congrArg (fun s : String => s.toList.head?) h
  simp at hhead

theorem extended_keeps_iff (h : self.extended policies capabilities = .ok ext) :
    (∀ t p, self.resolve t = some p → ext.resolve t = some p ∧ ∀ c : CommandEnvelope, c.commandType = t →
      CommandKernel.authorize ext c = CommandKernel.authorize self c) ↔ Compatible self policies capabilities := by
  constructor
  · intro hkeeps
    have hprefix : ∀ t p, Lib.owners prefixText self.policies t = [p] → ∀ q ∈ policies, ¬prefixText q <+: t := by
      intro t p ht
      have hres : self.resolve (String.ofList t) = some p := by
        rw [resolve_eq_some, matching_eq, String.toList_ofList]
        exact ht
      have := (extended_resolve h (resolve_eq_some.1 hres)).1 (hkeeps _ p hres).1
      simpa using this
    obtain ⟨hfresh, hapart⟩ := sole_kept_iff.1 hprefix
    refine ⟨hfresh, hapart, ?_⟩
    intro p hp hsole hno hon
    have hown : self.matching p.commandPrefix = [p] := sole_own hp hsole
    obtain ⟨hres, hauth⟩ := hkeeps p.commandPrefix p (resolve_eq_some.2 hown)
    have hsame := hauth (commandOf p) rfl
    rw [authorize_commandOf hown, authorize_commandOf (resolve_eq_some.1 hres), capability_kept h, if_neg hno, hon,
      AList.lookup_eq_none.2 hno] at hsame
    cases hrb : p.readbackRequired with
    | true => simp [hrb] at hsame
    | false =>
      simp only [hrb, ne_eq, not_true_eq_false, if_false, Bool.not_false, if_true, reduceCtorEq, not_false_eq_true,
        Except.error.injEq] at hsame
      exact disabled_ne _ hsame.symm
  · rintro ⟨hfresh, hapart, hclosed⟩ t p ht
    have hown := resolve_eq_some.1 ht
    have hres : ext.resolve t = some p := (extended_resolve h hown).2 (sole_kept_iff.2 ⟨hfresh, hapart⟩ _ p hown)
    refine ⟨hres, ?_⟩
    rintro c rfl
    obtain ⟨hp, hpt⟩ := mem_owners.1 (show p ∈ Lib.owners prefixText self.policies c.commandType.toList by
      rw [← matching_eq, hown]
      simp)
    exact extended_authorize h hown (resolve_eq_some.1 hres)
      (hclosed p hp (sole_of_owner hown hpt (List.prefix_refl _)))

end Extensions

/-! ## Registration -/

section Registrations

variable {self self' : Registration}

/-- What owning a prefix takes: a policy under the prefix that the advertised adapter can serve. -/
structure Serves (policies : List CommandPolicy) (commandPrefix : String) (adv : Advertisement) (p : CommandPolicy) : Prop where
  policy : p ∈ policies
  keyed : p.commandPrefix = commandPrefix
  target : p.target ∈ adv.connectorIds
  capability : p.capability ∈ adv.capabilities
  readback : p.readbackRequired = true → adv.supportsReadback = true

theorem ownedPolicies_ok {owners : Dict String String} {adapterId : String} {adv : Advertisement}
    {ps owned : List CommandPolicy} (h : ownedPolicies owners adapterId adv ps = .ok owned) :
    ∀ p ∈ owned, Serves ps p.commandPrefix adv p ∧
      (owners.lookup p.commandPrefix = none ∨ owners.lookup p.commandPrefix = some adapterId) := by
  induction ps generalizing owned with
  | nil =>
    cases h
    simp
  | cons policy rest ih =>
    have hlater : ∀ {owned}, ownedPolicies owners adapterId adv rest = .ok owned → ∀ p ∈ owned,
        Serves (policy :: rest) p.commandPrefix adv p ∧
          (owners.lookup p.commandPrefix = none ∨ owners.lookup p.commandPrefix = some adapterId) := by
      intro owned h p hp
      obtain ⟨hs, hfree⟩ := ih h p hp
      exact ⟨⟨by simp [hs.policy], rfl, hs.target, hs.capability, hs.readback⟩, hfree⟩
    unfold ownedPolicies at h
    split at h
    · exact hlater h
    · rename_i htarget
      split at h
      · cases h
      · rename_i hcapability
        split at h
        · cases h
        · rename_i hreadback
          have hserves : Serves (policy :: rest) policy.commandPrefix adv policy :=
            ⟨by simp, rfl, not_not.1 htarget, not_not.1 hcapability, by simpa using hreadback⟩
          have hcons : ∀ {x : Except RegistrationError (List CommandPolicy)} {owned},
              ((policy :: ·) <$> x) = .ok owned → ∃ later, x = .ok later ∧ owned = policy :: later := by
            intro x owned hx
            cases x with
            | error e => cases hx
            | ok later =>
              cases hx
              exact ⟨later, rfl, rfl⟩
          split at h
          · rename_i existing hexisting
            split at h
            · cases h
            · rename_i hsame
              obtain ⟨later, hl, rfl⟩ := hcons h
              intro p hp
              rcases List.mem_cons.1 hp with rfl | hp
              · exact ⟨hserves, .inr (by rw [hexisting, not_not.1 hsame])⟩
              · exact hlater hl p hp
          · rename_i hfree
            obtain ⟨later, hl, rfl⟩ := hcons h
            intro p hp
            rcases List.mem_cons.1 hp with rfl | hp
            · exact ⟨hserves, .inl hfree⟩
            · exact hlater hl p hp

/-- A registration raises and leaves the registry alone, or it adds one adapter under a new id. -/
theorem register_cases (candidate : AdapterCandidate) (self : Registration) :
    (∃ e, invoke (register candidate) self = (.error e, self)) ∨
      ∃ adapterId adv owned, invoke (register candidate) self = (.ok candidate, self.with candidate adapterId adv owned) ∧
        adapterId ∉ self.adapters ∧ ownedPolicies self.owners adapterId adv self.policies.policies = .ok owned := by
  rcases hx : invoke (register candidate) self with ⟨r, self'⟩
  rcases lift_peel hx with ⟨e, rfl, rfl⟩ | ⟨adapterId, -, hx⟩
  · exact .inl ⟨e, rfl⟩
  rcases lift_peel hx with ⟨e, rfl, rfl⟩ | ⟨_, -, hx⟩
  · exact .inl ⟨e, rfl⟩
  rcases lift_peel hx with ⟨e, rfl, rfl⟩ | ⟨adv, -, hx⟩
  · exact .inl ⟨e, rfl⟩
  rcases guard_peel hx with ⟨e, rfl, rfl⟩ | ⟨-, hx⟩
  · exact .inl ⟨e, rfl⟩
  rcases guard_peel hx with ⟨e, rfl, rfl⟩ | ⟨hnew, hx⟩
  · exact .inl ⟨e, rfl⟩
  rcases guard_peel hx with ⟨e, rfl, rfl⟩ | ⟨-, hx⟩
  · exact .inl ⟨e, rfl⟩
  rcases lift_peel hx with ⟨e, rfl, rfl⟩ | ⟨owned, howned, hx⟩
  · exact .inl ⟨e, rfl⟩
  rcases guard_peel hx with ⟨e, rfl, rfl⟩ | ⟨-, hx⟩
  · exact .inl ⟨e, rfl⟩
  obtain ⟨rfl, rfl⟩ := Prod.mk.inj hx
  exact .inr ⟨adapterId, adv, owned, rfl, hnew, howned⟩

theorem lookup_owners (adapterId commandPrefix : String) (owned : List CommandPolicy) (owners : Dict String String) :
    (owned.foldl (fun owners policy => owners.insert policy.commandPrefix adapterId) owners).lookup commandPrefix =
      if commandPrefix ∈ owned.map (·.commandPrefix) then some adapterId else owners.lookup commandPrefix := by
  induction owned generalizing owners with
  | nil => simp
  | cons policy rest ih =>
    rw [List.foldl_cons, ih]
    by_cases hp : commandPrefix = policy.commandPrefix
    · subst hp
      simp
    · simp [hp]

/-- The owner of every prefix is registered and can serve a policy under it. -/
structure Sound (r : Registration) : Prop where
  registered : ∀ commandPrefix adapterId, r.owners.lookup commandPrefix = some adapterId → adapterId ∈ r.adapters ∧
    ∃ adv p, r.advertisements.lookup adapterId = some adv ∧ Serves r.policies.policies commandPrefix adv p

theorem new_sound (policies : CommandPolicyRegistry) : Sound (.new policies) := ⟨by simp [Registration.new]⟩

/-- The later registry knows everything the earlier one knew. -/
structure Extends (r r' : Registration) : Prop where
  policies : r'.policies = r.policies
  owners : ∀ commandPrefix adapterId, r.owners.lookup commandPrefix = some adapterId →
    r'.owners.lookup commandPrefix = some adapterId
  adapters : ∀ adapterId candidate, r.adapters.lookup adapterId = some candidate →
    r'.adapters.lookup adapterId = some candidate

theorem Extends.refl (self : Registration) : Extends self self := ⟨rfl, fun _ _ h => h, fun _ _ h => h⟩

theorem Extends.trans {a b c : Registration} (h : Extends a b) (h' : Extends b c) : Extends a c :=
  ⟨h'.policies.trans h.policies, fun _ _ ho => h'.owners _ _ (h.owners _ _ ho),
    fun _ _ ha => h'.adapters _ _ (h.adapters _ _ ha)⟩

theorem register_step (candidate : AdapterCandidate) (hs : Sound self) :
    Sound (invoke (register candidate) self).2 ∧ Extends self (invoke (register candidate) self).2 := by
  rcases register_cases candidate self with ⟨e, he⟩ | ⟨adapterId, adv, owned, he, hnew, howned⟩
  · rw [he]
    exact ⟨hs, .refl self⟩
  · rw [he]
    have hok := ownedPolicies_ok howned
    -- the new id owns nothing yet, so every prefix it takes was free
    have hfree : ∀ p ∈ owned, self.owners.lookup p.commandPrefix = none := by
      intro p hp
      rcases (hok p hp).2 with h | h
      · exact h
      · exact absurd (hs.registered _ _ h).1 hnew
    have hlookup := lookup_owners adapterId
    refine ⟨⟨?_⟩, rfl, ?_, ?_⟩
    · intro commandPrefix owner hown
      show owner ∈ self.adapters.insert adapterId candidate ∧ _
      have hown : (owned.foldl (fun owners policy => owners.insert policy.commandPrefix adapterId) self.owners).lookup
          commandPrefix = some owner := hown
      rw [hlookup] at hown
      split at hown
      · rename_i hmem
        cases hown
        obtain ⟨p, hp, rfl⟩ := List.mem_map.1 hmem
        refine ⟨by simp, adv, p, ?_, (hok p hp).1⟩
        exact AList.lookup_insert _
      · obtain ⟨hreg, adv', p, hadv, hserves⟩ := hs.registered _ _ hown
        have hne : owner ≠ adapterId := by
          rintro rfl
          exact hnew hreg
        refine ⟨by simp [hreg], adv', p, ?_, hserves⟩
        exact (AList.lookup_insert_ne hne).trans hadv
    · intro commandPrefix owner hown
      show (owned.foldl (fun owners policy => owners.insert policy.commandPrefix adapterId) self.owners).lookup
        commandPrefix = some owner
      rw [hlookup, if_neg, hown]
      intro hmem
      obtain ⟨p, hp, rfl⟩ := List.mem_map.1 hmem
      rw [hfree p hp] at hown
      cases hown
    · intro id other hother
      have hne : id ≠ adapterId := by
        rintro rfl
        exact hnew (AList.lookup_isSome.1 (Option.isSome_of_eq_some hother))
      exact (AList.lookup_insert_ne hne).trans hother

theorem registerEach_step (candidates : List AdapterCandidate) (hs : Sound self) :
    Sound (registerEach candidates self) ∧ Extends self (registerEach candidates self) := by
  induction candidates generalizing self with
  | nil => exact ⟨hs, .refl self⟩
  | cons candidate rest ih =>
    obtain ⟨hs', hext⟩ := register_step candidate hs
    obtain ⟨hs'', hext'⟩ := ih hs'
    exact ⟨hs'', hext.trans hext'⟩

theorem ownership_eq_some {r : AdapterRegistry} {t : String} {o : Ownership} :
    r.ownership t = some o ↔ ∃ p, r.policies.resolve t = some p ∧ r.owners.lookup p.commandPrefix = some o.adapterId ∧
      o = ⟨p.commandPrefix, p.target, p.capability, p.readbackRequired, o.adapterId⟩ := by
  unfold AdapterRegistry.ownership
  cases hp : r.policies.resolve t with
  | none => simp
  | some p =>
    cases hid : r.owners.lookup p.commandPrefix with
    | none => simp [hid]
    | some adapterId =>
      simp only [Option.some.injEq, exists_eq_left', hid]
      constructor
      · rintro rfl
        exact ⟨rfl, rfl⟩
      · rintro ⟨rfl, ho⟩
        exact ho.symm

/-- The adapter that a command type is routed to is registered and advertises what the policy asks for. -/
theorem Sound.ownership (hs : Sound self) {t : String} {o : Ownership} (ho : self.ownership t = some o) :
    ∃ candidate adv, self.adapters.lookup o.adapterId = some candidate ∧
      self.advertisements.lookup o.adapterId = some adv ∧ o.target ∈ adv.connectorIds ∧ o.capability ∈ adv.capabilities ∧
      (o.readbackRequired = true → adv.supportsReadback = true) := by
  obtain ⟨p, hp, hown, ho⟩ := ownership_eq_some.1 ho
  obtain ⟨hreg, adv, p', hadv, hserves⟩ := hs.registered _ _ hown
  obtain ⟨candidate, hcandidate⟩ := Option.isSome_iff_exists.1 (AList.lookup_isSome.2 hreg)
  -- the policy that was served has the prefix of the one that is resolved, so it is that one
  have hpp : p' = p := by
    have hsole := resolve_eq_some.1 hp
    have hmem : p' ∈ self.policies.matching t := by
      rw [matching_eq]
      refine mem_owners.2 ⟨hserves.policy, ?_⟩
      rw [prefixText, hserves.keyed]
      have : p ∈ self.policies.matching t := by simp [hsole]
      exact (mem_owners.1 this).2
    rw [hsole] at hmem
    exact List.mem_singleton.1 hmem
  subst hpp
  rw [ho]
  exact ⟨candidate, adv, hcandidate, hadv, hserves.target, hserves.capability, hserves.readback⟩

theorem Extends.ownership (h : Extends self self') {t : String} {o : Ownership} (ho : self.ownership t = some o) :
    self'.ownership t = some o := by
  obtain ⟨p, hp, hown, ho⟩ := ownership_eq_some.1 ho
  refine ownership_eq_some.2 ⟨p, ?_, h.owners _ _ hown, ho⟩
  rw [h.policies]
  exact hp

end Registrations

/-! ## Routing -/

/-- An extension keeps every route and every answer of `authorize` exactly when it is compatible. Over any sequence of
registrations on any policies, the adapter a command type is routed to is registered and advertises what its policy asks
for, later registrations never change the route, and one that raises changes nothing. -/
theorem routing_stable (self : CommandPolicyRegistry) (policies : List CommandPolicy) (capabilities : Dict String Bool)
    (candidates later : List AdapterCandidate) :
    (∀ ext, self.extended policies capabilities = .ok ext →
      ((∀ t p, self.resolve t = some p → ext.resolve t = some p ∧ ∀ c : CommandEnvelope, c.commandType = t →
        CommandKernel.authorize ext c = CommandKernel.authorize self c) ↔ Compatible self policies capabilities)) ∧
    (∀ (t : String) (o : Ownership), (registerEach candidates (.new self)).ownership t = some o →
      (∃ candidate adv, (registerEach candidates (.new self)).adapters.lookup o.adapterId = some candidate ∧
        (registerEach candidates (.new self)).advertisements.lookup o.adapterId = some adv ∧
        o.target ∈ adv.connectorIds ∧ o.capability ∈ adv.capabilities ∧
        (o.readbackRequired = true → adv.supportsReadback = true)) ∧
      (registerEach (candidates ++ later) (.new self)).ownership t = some o) ∧
    (∀ (candidate : AdapterCandidate) (registration : Registration) (e : RegistrationError),
      (invoke (register candidate) registration).1 = .error e →
      (invoke (register candidate) registration).2 = registration) := by
  refine ⟨fun _ h => extended_keeps_iff h, ?_, ?_⟩
  · intro t o ho
    obtain ⟨hsound, -⟩ := registerEach_step candidates (new_sound self)
    obtain ⟨-, hext⟩ := registerEach_step later hsound
    refine ⟨hsound.ownership ho, ?_⟩
    rw [registerEach, List.foldl_append]
    exact hext.ownership ho
  · intro candidate registration e he
    rcases register_cases candidate registration with ⟨e', h⟩ | ⟨adapterId, adv, owned, h, -, -⟩
    · rw [h]
    · rw [h] at he
      cases he

/-- An extension by a longer prefix is accepted and takes the command types under it from their owner. -/
theorem extension_unroutes : ∃ ext,
    Synthetic.policies.extended [⟨"test.syn.execute.", "test-syn", "TEST_SYN_EXECUTE", true⟩] ∅ = .ok ext ∧
    Synthetic.policies.resolve "test.syn.execute.v1" = some ⟨"test.syn.", "test-syn", "TEST_SYN_EXECUTE", true⟩ ∧
    ext.resolve "test.syn.execute.v1" = none := by
  refine ⟨_, rfl, rfl, rfl⟩

end Middleware.Platform

/-
How strict the gated path is. What it hands over is inside the policy that its metadata names, but for a sender whose normal form is
another one than the policy was asked about. A suppression that is only in the table is missed, as the tenant is not loaded.
-/
import Middleware.Production.Gate
import Middleware.Communications.Suppression

namespace Middleware.Production

open Ledger Communications
open Communications (Submit Durable Store Service HandsOver Admitted ChannelCommand ControlPlaneCaller)

/-! ## What is expected of the gate -/

namespace EmailProductionPolicy

variable (lib : Library) (p : EmailProductionPolicy)

/-- The policy is active, enabled, inside its window, and its kill switch is open. -/
structure Open (now : Time) : Prop where
  active : p.authorizationState = .active
  enabled : p.enabled = true
  killSwitch : p.killSwitchOpen = true
  since : ∀ m ∈ p.validFrom, m.instant ≤ now
  until' : ∀ m ∈ p.validUntil, now < m.instant

def Authorizes (sender : String) : Prop := lastPart (lib.lower sender) ∈ p.approvedDomains ∧ lib.lower sender ∈ p.approvedSenders

/-- The recipient is in the scope of the policy. -/
def Reaches (recipient : String) : Prop :=
  match p.recipientScope with
  | .allowlist => lib.lower recipient ∈ p.approvedRecipients
  | .domainAllowlist => p.coversDomain (lib.lower recipient) = true
  | _ => False

/-- The category and all the recipients are inside the policy; recipients of marketing have to have consented. -/
def Covers (category : String) (recipients : List String) (metadata : Obj) : Prop :=
  if category = "marketing" then
    p.mode = .campaignProduction ∧ p.recipientScope = .consentedMarketing ∧ Service.holds metadata "consent" "granted" = true
  else category ∈ p.approvedCategories ∧ p.transactional = true ∧ ∀ recipient ∈ recipients, p.Reaches lib recipient

end EmailProductionPolicy

/-- The command is inside the policy whose version it names. -/
def Inside (svc : GatedService) (p : EmailProductionPolicy) (command : CommandEnvelope) : Prop :=
  ∃ sender recipients metadata authorization, command.payload.lookup "from" = some (.str sender) ∧
    command.payload.lookup "to" = some (.arr (recipients.map .str)) ∧ command.payload.lookup "metadata" = some (.obj metadata) ∧
      metadata.lookup "productionAuthorization" = some (.obj authorization) ∧
        authorization.lookup "policyVersion" = some (.int p.version) ∧ p.Authorizes svc.control sender ∧
          p.Covers svc.control (svc.category metadata) recipients metadata

section Statements

variable (svc : GatedService) {σ : Type} [PolicyStore svc.control σ] (c : Submit svc.library) (g : Readings) (d : Durable)
  (w : Communications.World) (s : σ)

def HandsOverGated (command : CommandEnvelope) : Prop :=
  ∃ cache c' reservation s', d.refreshIdempotency c.tenantId c.idempotencyKey w.store = .ok cache ∧
    svc.pass c g cache s = (.ok (c', reservation), s') ∧ HandsOver svc.toService c' cache command

/-- The gated path hands nothing over that the ordinary one suppresses, and only what is inside the policy. -/
structure Strict : Prop where
  suppressed : ∀ message duplicate w', svc.submitDurable c d w = (.ok (message, duplicate), w') → message.status = .suppressed →
    ∀ command, ¬HandsOverGated svc c g d w s command
  inside : ∀ command, HandsOverGated svc c g d w s command → ∃ p, get svc.control c.tenantId g.now s = .ok p ∧ p.Open g.now ∧
    Inside svc p command

/-- A new submission passes the policy and is admitted with what is in the cache. -/
structure Passes (settings : Settings) (p : EmailProductionPolicy) (channel : ChannelCommand) (caller : ControlPlaneCaller)
    (sender recipient : String) : Prop where
  tenant : tenantConnection c.tenantId = .ok ()
  durable : d.idempotency.get (c.tenantId, route, c.idempotencyKey) = none
  cached : w.store.idempotency.get (c.tenantId, route, c.idempotencyKey) = none
  unreserved : (c.request.request.metadata.lookup "productionAuthorization").isSome = false
  controlled : svc.productionControl = some settings
  named : GatedService.claimedSender w.store c.tenantId c.request.request ≠ ""
  got : get svc.control c.tenantId g.now s = .ok p
  permitted : refusal (p.guardChecks svc.control settings g.now
    (GatedService.claimedSender w.store c.tenantId c.request.request) (svc.category c.request.request.metadata)
    c.request.request.recipients) = none
  quota : ∀ window ∈ windows,
    used svc.control s c.tenantId (window.cutoff g.reservedAt) + c.request.request.recipients.length ≤ window.limit p
  admitted : Admitted svc.toService (svc.governed c p) w.store channel caller sender recipient

end Statements

/-! ## The policy's checks -/

variable {metadata : Obj}

section Checks

variable {lib : Library} {settings : Settings} {p : EmailProductionPolicy} {now : Time} {sender category : String}
  {recipients : List String} {checks : List (Bool × Exc)}

theorem refusal_none : refusal checks = none ↔ ∀ check ∈ checks, check.1 = false := by
  unfold refusal
  simp

theorem guardChecks_none (h : refusal (p.guardChecks lib settings now sender category recipients) = none) :
    (∀ check ∈ p.openChecks settings now, check.1 = false) ∧ (∀ check ∈ p.senderChecks lib sender, check.1 = false) ∧
      ∀ check ∈ p.contentChecks lib category recipients, check.1 = false := by
  rw [refusal_none] at h
  unfold EmailProductionPolicy.guardChecks at h
  refine ⟨fun check hc => h check ?_, fun check hc => h check ?_, fun check hc => h check ?_⟩ <;> simp [hc]

theorem open_of_checks (h : ∀ check ∈ p.openChecks settings now, check.1 = false) : p.Open now := by
  unfold EmailProductionPolicy.openChecks at h
  simp only [List.forall_mem_cons, Bool.not_eq_false', decide_eq_false_iff_not, not_not, Option.any_eq_false] at h
  obtain ⟨-, hactive, henabled, hopen, hfrom, huntil, -⟩ := h
  refine ⟨hactive, henabled, hopen, fun m hm => ?_, fun m hm => ?_⟩
  · have := hfrom m hm
    simpa using this
  · have := huntil m hm
    simpa using this

theorem covers_of_checks (h : ∀ check ∈ p.contentChecks lib category recipients, check.1 = false)
    (hconsent : category = "marketing" → Service.holds metadata "consent" "granted" = true) :
    p.Covers lib category recipients metadata := by
  unfold EmailProductionPolicy.contentChecks at h
  unfold EmailProductionPolicy.Covers
  split_ifs at h ⊢ with hmarketing
  · simp only [List.forall_mem_cons, decide_eq_false_iff_not, not_not] at h
    exact ⟨h.1, h.2.1, hconsent hmarketing⟩
  · simp only [List.forall_mem_cons, decide_eq_false_iff_not, not_not, Bool.not_eq_false'] at h
    obtain ⟨hcategory, htransactional, hscope, -⟩ := h
    refine ⟨hcategory, htransactional, fun recipient hrecipient => ?_⟩
    unfold EmailProductionPolicy.scopeCheck at hscope
    unfold EmailProductionPolicy.Reaches
    cases hkind : p.recipientScope with
    | allowlist =>
      rw [hkind] at hscope
      have hall := List.any_eq_false.1 hscope recipient hrecipient
      simpa using hall
    | domainAllowlist =>
      rw [hkind] at hscope
      have hall := List.any_eq_false.1 hscope recipient hrecipient
      simpa using hall
    | denyAll | transactionalAny | consentedMarketing =>
      rw [hkind] at hscope
      cases hscope

end Checks

/-! ## What passes the gate -/

section Gate

variable {svc : GatedService} {σ : Type} [PolicyStore svc.control σ] {c c' : Submit svc.library} {g : Readings} {d : Durable}
  {w : Communications.World} {s s' : σ} {cache : Store} {reservation : Option QuotaReservation} {r : QuotaReservation}
  {settings : Settings} {p : EmailProductionPolicy} {sender recipient : String} {channel : ChannelCommand}
  {caller : ControlPlaneCaller} {command : CommandEnvelope}

variable {lib : Library} {tenantId : String} {reservationId : String}

theorem reserveQuota_ok {units : Int} {now recordedAt : Time} {τ : Type}
    [PolicyStore lib τ] {t t' : τ} (h : reserveQuota lib tenantId reservationId units p now recordedAt t = (.ok r, t')) :
    (∀ window ∈ windows, used lib t tenantId (window.cutoff now) + units ≤ window.limit p) ∧
      r = { tenantId, reservationId, units, reservedAt := now } ∧ t' = PolicyStore.reserve lib r recordedAt t := by
  unfold reserveQuota at h
  split at h
  · cases (Prod.mk.inj h).1
  · rename_i hnone
    obtain ⟨hr, ht⟩ := Prod.mk.inj h
    have hr' := Except.ok.inj hr
    subst hr'
    refine ⟨fun window hwindow => ?_, rfl, ht.symm⟩
    have := List.find?_eq_none.1 hnone window hwindow
    rw [decide_eq_true_eq] at this
    omega

theorem reserveQuota_of_quota {units : Int} {now recordedAt : Time} {τ : Type}
    [PolicyStore lib τ] {t : τ} (h : ∀ window ∈ windows, used lib t tenantId (window.cutoff now) + units ≤ window.limit p) :
    reserveQuota lib tenantId reservationId units p now recordedAt t =
      (.ok { tenantId, reservationId, units, reservedAt := now },
        PolicyStore.reserve lib { tenantId, reservationId, units, reservedAt := now } recordedAt t) := by
  unfold reserveQuota
  have hnone : windows.find? (fun window => decide (window.limit p < used lib t tenantId (window.cutoff now) + units)) = none := by
    rw [List.find?_eq_none]
    intro window hwindow
    have := h window hwindow
    rw [decide_eq_true_eq]
    omega
  rw [hnone]

/-- A submission that is new has passed the policy; one that is not goes on as it is. -/
theorem pass_ok (h : svc.pass c g cache s = (.ok (c', reservation), s')) :
    ((cache.idempotency.get (c.tenantId, route, c.idempotencyKey)).isSome = true ∧ c' = c ∧ reservation = none ∧
        s' = s) ∨
      cache.idempotency.get (c.tenantId, route, c.idempotencyKey) = none ∧
        (c.request.request.metadata.lookup "productionAuthorization").isSome = false ∧
          ∃ settings p r, svc.productionControl = some settings ∧
            GatedService.claimedSender cache c.tenantId c.request.request ≠ "" ∧ get svc.control c.tenantId g.now s = .ok p ∧
              refusal (p.guardChecks svc.control settings g.now (GatedService.claimedSender cache c.tenantId c.request.request)
                (svc.category c.request.request.metadata) c.request.request.recipients) = none ∧
              reserveQuota svc.control c.tenantId g.reservationId c.request.request.recipients.length p g.reservedAt g.recordedAt s =
                (.ok r, s') ∧ c' = svc.governed c p ∧ reservation = some r := by
  unfold GatedService.pass at h
  split at h
  · rename_i entry hentry
    obtain ⟨hpair, hs⟩ := Prod.mk.inj h
    obtain ⟨hc, hreservation⟩ := Prod.mk.inj (Except.ok.inj hpair)
    exact .inl ⟨by rw [hentry]; rfl, hc.symm, hreservation.symm, hs.symm⟩
  · rename_i hnew
    dsimp only at h
    split at h
    · cases (Prod.mk.inj h).1
    · rename_i hunreserved
      split at h
      · cases (Prod.mk.inj h).1
      · rename_i settings hcontrol
        split at h
        · cases (Prod.mk.inj h).1
        · rename_i hnamed
          split at h
          · cases (Prod.mk.inj h).1
          · rename_i policy r t hguard
            unfold GatedService.guardRequest at hguard
            split at hguard
            · cases (Prod.mk.inj hguard).1
            · rename_i p hget
              dsimp only at hguard
              split at hguard
              · cases (Prod.mk.inj hguard).1
              · rename_i hpermitted
                split at hguard
                · cases (Prod.mk.inj hguard).1
                · rename_i r' t' hreserve
                  obtain ⟨hpr, rfl⟩ := Prod.mk.inj hguard
                  obtain ⟨rfl, rfl⟩ := Prod.mk.inj (Except.ok.inj hpr)
                  obtain ⟨hpair, rfl⟩ := Prod.mk.inj h
                  obtain ⟨hc, hreservation⟩ := Prod.mk.inj (Except.ok.inj hpair)
                  exact .inr ⟨hnew, Bool.not_eq_true _ ▸ hunreserved, settings, p, r', hcontrol, hnamed, hget, hpermitted,
                    hreserve, hc.symm, hreservation.symm⟩

theorem Passes.pass (h : Passes svc c g d w s settings p channel caller sender recipient) :
    ∃ r s', svc.pass c g w.store s = (.ok (svc.governed c p, some r), s') := by
  obtain ⟨r, s', hreserve⟩ : ∃ r s', reserveQuota svc.control c.tenantId g.reservationId c.request.request.recipients.length p
      g.reservedAt g.recordedAt s = (.ok r, s') := ⟨_, _, reserveQuota_of_quota h.quota⟩
  refine ⟨r, s', ?_⟩
  unfold GatedService.pass
  rw [h.cached]
  rw [if_neg (by rw [h.unreserved]; exact Bool.false_ne_true), h.controlled]
  dsimp only
  rw [if_neg h.named]
  unfold GatedService.guardRequest
  rw [h.got]
  dsimp only
  rw [h.permitted]
  rw [hreserve]

theorem refresh_ok (htenant : tenantConnection c.tenantId = .ok ())
    (hdurable : d.idempotency.get (c.tenantId, route, c.idempotencyKey) = none) :
    d.refreshIdempotency c.tenantId c.idempotencyKey cache = .ok cache := by
  unfold Durable.refreshIdempotency
  rw [htenant, hdurable]
  rfl

variable {cache' : Store}

theorem tenant_of_refresh (h : d.refreshIdempotency c.tenantId c.idempotencyKey cache = .ok cache') :
    tenantConnection c.tenantId = .ok () := by
  unfold Durable.refreshIdempotency at h
  cases htenant : tenantConnection c.tenantId with
  | error e =>
    rw [htenant] at h
    cases h
  | ok u => rfl

theorem handsOverGated_iff : HandsOverGated svc c g d w s command ↔ ∃ settings p channel caller sender recipient,
    Passes svc c g d w s settings p channel caller sender recipient ∧ command = svc.outboundCommand (svc.governed c p) channel
      (svc.commandPayload (svc.governed c p) sender recipient (svc.category c.request.request.metadata)).1 := by
  constructor
  · rintro ⟨cache, c', reservation, s', hrefresh, hpass, hhands⟩
    obtain ⟨channel, caller, sender, recipient, hadmitted, rfl⟩ := handsOver_iff.1 hhands
    rcases pass_ok hpass with ⟨hold, rfl, -, -⟩ | ⟨hnew, hunreserved, settings, p, r, hcontrol, hnamed, hget, hpermitted, hreserve, rfl, -⟩
    · rw [hadmitted.first] at hold
      cases hold
    · obtain ⟨hdurable, hcached⟩ := (refresh_fresh hrefresh).1 hnew
      have hcache := refresh_none hrefresh hdurable
      subst hcache
      exact ⟨settings, p, channel, caller, sender, recipient, ⟨tenant_of_refresh hrefresh, hdurable, hcached, hunreserved, hcontrol,
        hnamed, hget, hpermitted, (reserveQuota_ok hreserve).1, hadmitted⟩, rfl⟩
  · rintro ⟨settings, p, channel, caller, sender, recipient, hpasses, rfl⟩
    obtain ⟨r, s', hpass⟩ := hpasses.pass
    exact ⟨w.store, svc.governed c p, some r, s', refresh_ok hpasses.tenant hpasses.durable, hpass,
      handsOver_iff.2 ⟨channel, caller, sender, recipient, hpasses.admitted, rfl⟩⟩

/-! ## The ordinary path -/

/-- The store that the ordinary path reads for a new submission: suppressions may come in. -/
theorem hydrate_new (svc : GatedService) {c : Submit svc.library} (cache : Store) (htenant : tenantConnection c.tenantId = .ok ())
    (hdurable : d.idempotency.get (c.tenantId, route, c.idempotencyKey) = none) :
    ∃ cache', d.loadTenant c.tenantId cache = .ok cache' ∧ Communications.Service.hydrate svc.toService c d cache = .ok cache' := by
  have hload : ∃ cache', d.loadTenant c.tenantId cache = .ok cache' := by
    unfold Durable.loadTenant
    rw [htenant]
    exact ⟨_, rfl⟩
  obtain ⟨cache', hcache⟩ := hload
  refine ⟨cache', hcache, ?_⟩
  unfold Communications.Service.hydrate
  rw [hcache, Lib.ok_bind]
  exact refresh_ok htenant hdurable

theorem resolveSender_local (h : Communications.Local cache cache') (r : Communications.CreateMessageRequest) :
    svc.resolveSender cache' c.tenantId r = svc.resolveSender cache c.tenantId r := by
  unfold Service.resolveSender Service.namedSender
  rw [h.senderIdentities, h.verifiedSenders]

/-- What the ordinary path prepares for a submission that passes the gate: it is suppressed, refused or handed over. -/
theorem prepare_of_admitted (h : Admitted svc.toService (svc.governed c p) cache channel caller sender recipient)
    (hload : d.loadTenant c.tenantId cache = .ok cache')
    (hdurable : d.idempotency.get (c.tenantId, route, c.idempotencyKey) = none) :
    match Service.suppression cache' c.tenantId c.request.request recipient (svc.category c.request.request.metadata) with
    | some (failureCode, failureMessage) => ∃ counts, svc.prepare c cache' = .ok (.suppressed (svc.requestDigest c)
        (svc.suppressedMessage c channel counts failureCode failureMessage) failureCode)
    | none => (∃ e, svc.prepare c cache' = .error e) ∨
        ∃ digest message command clientId, svc.prepare c cache' = .ok (.submitting digest message command clientId) := by
  have hlocal := loadTenant_local hload
  have hfirst : cache'.idempotency.get (c.tenantId, route, c.idempotencyKey) = none :=
    (loadTenant_idempotency hload hdurable).trans h.first
  have hknown : channelCommand c.request.request.channel = some channel := h.known
  have hauthorized : svc.authorizeSubmit c channel = .ok caller := h.authorized
  have hverified : svc.resolveSender cache' c.tenantId c.request.request = .ok sender :=
    (resolveSender_local hlocal _).trans h.verified
  have haddressed : c.request.request.recipients.head? = some recipient := h.addressed
  have hdomain : ¬(c.request.request.channel = .email ∧ (c.tenantId, Service.senderDomain sender) ∉ cache'.verifiedDomains) := by
    rw [hlocal.verifiedDomains]
    exact h.domain
  have hcategory : ¬(c.request.request.channel = .sms ∧
      svc.category c.request.request.metadata ∉ ["transactional", "service", "marketing"]) := h.category
  unfold Service.prepare
  dsimp only
  rw [hknown]
  dsimp only
  rw [hauthorized, Lib.ok_bind, hfirst]
  rw [hverified, Lib.ok_bind, haddressed]
  dsimp only
  rw [if_neg hdomain, if_neg hcategory]
  rcases Service.suppression cache' c.tenantId c.request.request recipient (svc.category c.request.request.metadata) with
    _ | ⟨failureCode, failureMessage⟩
  · dsimp only
    split
    · exact .inl ⟨_, rfl⟩
    · generalize Platform.CommandKernel.authorize svc.policies _ = x
      rcases x with e | u
      · exact .inl ⟨e, rfl⟩
      · exact .inr ⟨_, _, _, _, rfl⟩
  · exact ⟨_, rfl⟩

/-- A suppression that the tables have suppresses a submission that is admitted without it, and nothing else does. -/
theorem suppression_loaded (h : Admitted svc.toService (svc.governed c p) cache channel caller sender recipient)
    (hchannel : c.request.request.channel = .email) (hload : d.loadTenant c.tenantId cache = .ok cache') :
    (Service.suppression cache' c.tenantId c.request.request recipient (svc.category c.request.request.metadata)).isSome = true ↔
      (c.tenantId, "email", recipient) ∈ d.suppressions := by
  have hlocal := loadTenant_local hload
  have hclear : Service.suppression cache c.tenantId c.request.request recipient (svc.category c.request.request.metadata) = none :=
    h.unsuppressed
  have hchannelValue : c.request.request.channel.value = "email" := by
    rw [hchannel]
    rfl
  unfold Service.suppression at hclear ⊢
  rw [hchannelValue] at hclear ⊢
  rw [hlocal.deniedConsent]
  split at hclear
  · cases hclear
  · rename_i hold
    split at hclear
    · cases hclear
    · have hnew : (cache'.suppressions.contains (.subject c.tenantId recipient) ||
          cache'.suppressions.contains (.onChannel c.tenantId "email" recipient)) = true ↔
            (c.tenantId, "email", recipient) ∈ d.suppressions := by
        simp only [Bool.or_eq_true, not_or, List.contains_iff_mem] at hold ⊢
        rw [loadTenant_subject hload, loadTenant_suppressions hload, or_iff_right hold.1,
          or_iff_right hold.2]
      rw [← hnew]
      split_ifs with hmem
      · exact iff_of_true rfl hmem
      · exact iff_of_false Bool.false_ne_true hmem

/-- The ordinary path suppresses what passes the gate exactly if the tables say so and the message is stored. -/
theorem ordinary_suppressed (h : Passes svc c g d w s settings p channel caller sender recipient)
    (hchannel : c.request.request.channel = .email) :
    (∃ message duplicate w', svc.submitDurable c d w = (.ok (message, duplicate), w') ∧ message.status = .suppressed) ↔
      c.persistFault = none ∧ (c.tenantId, "email", recipient) ∈ d.suppressions := by
  obtain ⟨cache', hload, hhydrate⟩ := hydrate_new svc w.store h.tenant h.durable
  have hprepare := prepare_of_admitted h.admitted hload h.durable
  rw [← suppression_loaded h.admitted hchannel hload]
  unfold Communications.Service.submitDurable
  rw [hhydrate]
  dsimp only
  unfold Service.submitMessage
  rcases hsuppression : Service.suppression cache' c.tenantId c.request.request recipient
    (svc.category c.request.request.metadata) with _ | ⟨failureCode, failureMessage⟩
  · rw [hsuppression] at hprepare
    refine iff_of_false ?_ fun hfalse => Bool.false_ne_true hfalse.2
    rintro ⟨message, duplicate, w', heq, hstatus⟩
    rcases hprepare with ⟨e, he⟩ | ⟨digest, message', command, clientId, hsubmitting⟩
    · rw [he] at heq
      cases (Prod.mk.inj heq).1
    · rw [hsubmitting] at heq
      dsimp only at heq
      split at heq
      · cases (Prod.mk.inj heq).1
      · unfold Service.persist at heq
        split at heq
        · cases (Prod.mk.inj heq).1
        · have hmessage := (Prod.mk.inj (Except.ok.inj (Prod.mk.inj heq).1)).1
          rw [← hmessage] at hstatus
          cases hstatus
  · rw [hsuppression] at hprepare
    obtain ⟨counts, hprepare⟩ := hprepare
    rw [hprepare]
    rcases hfault : c.persistFault with _ | e
    · exact iff_of_true ⟨_, _, _, rfl, rfl⟩ ⟨rfl, rfl⟩
    · refine iff_of_false ?_ fun hfalse => nomatch hfalse.1
      rintro ⟨message, duplicate, w', heq, -⟩
      cases (Prod.mk.inj heq).1

/-! ## The command -/

theorem governed_lookup (key : String) (metadata : Obj) (lib : Library) (tenantId category : String) :
    (Obj.merge metadata (p.governedMetadata lib tenantId category)).lookup key =
      if key = "productionAuthorization" then (p.governedMetadata lib tenantId category).lookup "productionAuthorization"
      else metadata.lookup key := by
  rw [Obj.lookup_merge]
  unfold EmailProductionPolicy.governedMetadata
  rw [List.reverse_singleton, Obj.lookup_cons_ite]
  split
  · rfl
  · rfl

theorem governed_version (metadata : Obj) (lib : Library) (tenantId category : String) : ∃ authorization,
    (Obj.merge metadata (p.governedMetadata lib tenantId category)).lookup "productionAuthorization" = some (.obj authorization) ∧
      authorization.lookup "policyVersion" = some (.int p.version) := by
  rw [governed_lookup, if_pos rfl]
  exact ⟨_, rfl, rfl⟩

variable {category : String}

theorem governed_category :
    svc.category (Obj.merge metadata (p.governedMetadata lib tenantId category)) = svc.category metadata := by
  unfold Service.category
  rw [governed_lookup, if_neg (by decide)]

theorem governed_holds {value : String} :
    Service.holds (Obj.merge metadata (p.governedMetadata lib tenantId category)) "consent" value =
      Service.holds metadata "consent" value := by
  unfold Service.holds
  rw [governed_lookup, if_neg (by decide)]

theorem consent_of_unsuppressed {store : Store} {request : Communications.CreateMessageRequest}
    (h : Service.suppression store tenantId request recipient category = none) (hcategory : category = "marketing") :
    Service.holds request.metadata "consent" "granted" = true := by
  unfold Service.suppression at h
  split_ifs at h with hold hconsent
  by_contra hne
  have hfalse : Service.holds request.metadata "consent" "granted" = false := Bool.not_eq_true _ ▸ hne
  refine hconsent ?_
  rw [hcategory, hfalse]
  simp

theorem email_payload (svc : Service) {c : Submit svc.library} (hchannel : c.request.request.channel = .email)
    (sender recipient category : String) :
    (svc.commandPayload c sender recipient category).1.lookup "from" = some (.str sender) ∧
      (svc.commandPayload c sender recipient category).1.lookup "to" = some (.arr (c.request.request.recipients.map .str)) ∧
      (svc.commandPayload c sender recipient category).1.lookup "metadata" =
        some (.obj (Obj.merge c.request.request.metadata c.governedMetadata)) := by
  unfold Service.commandPayload
  dsimp only
  rw [hchannel]
  exact ⟨rfl, rfl, rfl⟩

theorem Passes.inside (h : Passes svc c g d w s settings p channel caller sender recipient)
    (hchannel : c.request.request.channel = .email) :
    Inside svc p (svc.outboundCommand (svc.governed c p) channel
      (svc.commandPayload (svc.governed c p) sender recipient (svc.category c.request.request.metadata)).1) ↔
        p.Authorizes svc.control sender := by
  have hemail : (svc.governed c p).request.request.channel = .email := hchannel
  have hcovers : p.Covers svc.control (svc.category c.request.request.metadata) c.request.request.recipients
      c.request.request.metadata :=
    covers_of_checks (guardChecks_none h.permitted).2.2 (consent_of_unsuppressed h.admitted.unsuppressed)
  obtain ⟨hfrom, hto, hmetadata⟩ := email_payload svc.toService hemail sender recipient
    (svc.category c.request.request.metadata)
  constructor
  · rintro ⟨sender', recipients, metadata, authorization, hfrom', -, -, -, -, hauthorizes, -⟩
    rw [show sender = sender' from Json.str.inj (Option.some.inj (hfrom.symm.trans hfrom'))]
    exact hauthorizes
  · intro hauthorizes
    have hgoverned : (svc.governed c p).governedMetadata = p.governedMetadata svc.control c.tenantId
        (svc.category c.request.request.metadata) := rfl
    rw [hgoverned] at hmetadata
    obtain ⟨authorization, hauthorization, hversion⟩ := governed_version (p := p) (svc.governed c p).request.request.metadata
      svc.control c.tenantId (svc.category c.request.request.metadata)
    refine ⟨sender, c.request.request.recipients, _, authorization, hfrom, hto, hmetadata, hauthorization, hversion, hauthorizes, ?_⟩
    unfold EmailProductionPolicy.Covers at hcovers ⊢
    rw [governed_category, governed_holds]
    exact hcovers

end Gate

/-- An active policy for one sender and one recipient. -/
def samplePolicy : EmailProductionPolicy :=
  { tenantId := "t", enabled := true, mode := .transactionalCanary, authorizationState := .active, approvedDomains := ["x.co"],
    approvedSenders := ["desk@x.co"], recipientScope := .allowlist, approvedRecipients := ["b@y.co"],
    approvedCategories := ["transactional"], perMinuteLimit := 5, perHourLimit := 5, perDayLimit := 5, killSwitchOpen := true,
    version := 3, updatedAt := .utc 0 }

def gateLib : Library := ⟨fun text => String.ofList (lower text), fun _ => "", fun _ => ""⟩

def gateSettings : Settings := ⟨some "CHG-1", true, "production", "", .ok []⟩

def sampleGate : GatedService := ⟨sampleService, gateLib, some gateSettings, true⟩

def sampleStore : MemoryEmailProductionPolicyStore := { policies := [("t", samplePolicy)] }

/-- Another process has stored that the recipient is suppressed. -/
def sampleTables : Durable := { suppressions := [("t", "email", "b@y.co")], foreignKey := by intro _ _ h; cases h }

def sampleReadings : Readings := ⟨"reservation", 1, 1, 1, 1⟩

theorem sample_passes : Passes sampleGate firstSubmit sampleReadings sampleTables sampleSetup.world
    sampleStore gateSettings samplePolicy ⟨"email.message.send.v1", "klyrow-email", "EMAIL_DELIVERY", "klyrow"⟩
    ⟨"desk", ["email."], ["klyrow-email"], true⟩ "desk@x.co" "b@y.co" where
  tenant := by decide +kernel
  durable := rfl
  cached := rfl
  unreserved := rfl
  controlled := rfl
  named := by decide
  got := rfl
  permitted := by decide +kernel
  quota := by decide +kernel
  admitted := by
    refine ⟨rfl, rfl, ?_, ?_, rfl, ?_, ?_, ?_, rfl, ?_⟩
    · decide +kernel
    · decide +kernel
    · decide +kernel
    · decide +kernel
    · decide +kernel
    · rfl

end Middleware.Production

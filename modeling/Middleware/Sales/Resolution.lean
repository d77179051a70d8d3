/-
What the resolution of a candidate depends on: neither on the order of Odoo's records nor on those of other tenants; with more
records of the tenant the scores are no lower and the candidate is no more eligible; and without a compliance snapshot of its
tenant and campaign it is not eligible at all.
-/
import Middleware.Lib.Calls
import Middleware.Sales.Service

namespace Middleware.Sales

open Lib

/-! ## The best of matches -/

section Best

variable {A B : Type} {f : A → Except Exc Match} {g : B → Except Exc Match} {l : List A} {l' : List B} {m m' : Match}

/-- The best match of values that are compared one after the other. -/
abbrev bestOf (f : A → Except Exc Match) (l : List A) : Except Exc Match := do
  .ok (best Match.score {} (← l.mapM f))

/-- No comparison scores below a missing one. -/
def Scores (f : A → Except Exc Match) : Prop := ∀ a v, f a = .ok v → 0 ≤ v.score

variable {ms : List Match}

theorem mapM_ok (h : l.mapM f = .ok ms) : List.Forall₂ (fun a v => f a = .ok v) l ms := by
  induction l generalizing ms with
  | nil =>
    cases h
    exact .nil
  | cons a rest ih =>
    rw [List.mapM_cons] at h
    rcases ha : f a with e | v
    · rw [ha] at h
      cases h
    rcases hrest : rest.mapM f with e | vs
    · rw [ha, hrest] at h
      cases h
    rw [ha, hrest] at h
    cases h
    exact .cons ha (ih hrest)

theorem mapM_of_all (h : ∀ a ∈ l, ∃ v, f a = .ok v) : ∃ ms, l.mapM f = .ok ms := by
  induction l with
  | nil => exact ⟨[], rfl⟩
  | cons a rest ih =>
    obtain ⟨v, hv⟩ := h a List.mem_cons_self
    obtain ⟨vs, hvs⟩ := ih fun b hb => h b (List.mem_cons_of_mem _ hb)
    refine ⟨v :: vs, ?_⟩
    rw [List.mapM_cons, hv, hvs]
    rfl

variable {R : A → Match → Prop}

theorem forall₂_left (h : List.Forall₂ R l ms) : ∀ a ∈ l, ∃ v ∈ ms, R a v := by
  induction h with
  | nil =>
    intro a ha
    cases ha
  | cons hab _ ih =>
    intro a ha
    rcases List.mem_cons.1 ha with rfl | ha
    · exact ⟨_, List.mem_cons_self, hab⟩
    · obtain ⟨v, hv, hav⟩ := ih a ha
      exact ⟨v, List.mem_cons_of_mem _ hv, hav⟩

theorem forall₂_right (h : List.Forall₂ R l ms) : ∀ v ∈ ms, ∃ a ∈ l, R a v := by
  induction h with
  | nil =>
    intro v hv
    cases hv
  | cons hab _ ih =>
    intro v hv
    rcases List.mem_cons.1 hv with rfl | hv
    · exact ⟨_, List.mem_cons_self, hab⟩
    · obtain ⟨a, ha, hav⟩ := ih v hv
      exact ⟨a, List.mem_cons_of_mem _ ha, hav⟩

theorem bestOf_ok (h : bestOf f l = .ok m) : ∃ ms, List.Forall₂ (fun a v => f a = .ok v) l ms ∧ m = best Match.score {} ms := by
  unfold bestOf at h
  rcases hms : l.mapM f with e | ms
  · rw [hms] at h
    cases h
  · rw [hms] at h
    cases h
    exact ⟨ms, mapM_ok hms, rfl⟩

/-- The best of what each scores is no higher than the best of others, if each that scores has a match there that is no lower. -/
theorem bestOf_mono (hg : Scores g) (h' : bestOf g l' = .ok m')
    (h : ∀ a ∈ l, ∃ v, f a = .ok v ∧ (v.score ≤ 0 ∨ ∃ b ∈ l', ∀ v', g b = .ok v' → v.score ≤ v'.score)) :
    ∃ m, bestOf f l = .ok m ∧ m.score ≤ m'.score := by
  obtain ⟨ms, hms⟩ := mapM_of_all fun a ha => (h a ha).imp fun v hv => hv.1
  obtain ⟨ms', hpairs', rfl⟩ := bestOf_ok h'
  have hpairs := mapM_ok hms
  have hlower : ∀ v ∈ ms', (({} : Match).score) ≤ v.score := by
    intro v hv
    obtain ⟨b, -, hb⟩ := forall₂_right hpairs' v hv
    exact hg b v hb
  refine ⟨best Match.score {} ms, by unfold bestOf; rw [hms]; rfl, ?_⟩
  have htop := (best_le_iff hlower).1 (le_refl (best Match.score {} ms').score)
  have hbound : ∀ v ∈ ms, v.score ≤ (best Match.score {} ms').score := by
    intro v hv
    obtain ⟨a, ha, hav⟩ := forall₂_right hpairs v hv
    obtain ⟨v₁, hv₁, hcase⟩ := h a ha
    rw [hav] at hv₁
    cases hv₁
    rcases hcase with hzero | ⟨b, hb, hle⟩
    · exact le_trans hzero htop.1
    · obtain ⟨v', hv', hbv'⟩ := forall₂_left hpairs' b hb
      exact le_trans (hle v' hbv') (htop.2 v' hv')
  cases ms with
  | nil => exact htop.1
  | cons v rest => exact bestFrom_le_iff.2 (List.forall_mem_cons.1 hbound)

theorem bestOf_all (h : bestOf f l = .ok m) : ∀ a ∈ l, ∃ v, f a = .ok v := by
  obtain ⟨ms, hpairs, -⟩ := bestOf_ok h
  intro a ha
  obtain ⟨v, -, hv⟩ := forall₂_left hpairs a ha
  exact ⟨v, hv⟩

end Best

/-! ## Scores -/

variable {company' : Match}

section Matches

variable {lib : Library} {candidate : LeadCandidate} {company : Match}

theorem nameMatch_score (incoming : Company) (c : OdooCompany) : 0 ≤ (nameMatch lib incoming c).score := by
  unfold nameMatch
  dsimp only
  split
  · show (0 : Int) ≤ 90
    omega
  split
  · show (0 : Int) ≤ min 89 (75 + _ * 4)
    omega
  split
  · show (0 : Int) ≤ min 79 _
    omega
  · exact le_refl 0

theorem companyMatch_scores : Scores (companyMatch lib candidate) := by
  intro c v hv
  unfold companyMatch at hv
  split at hv
  · cases hv
    exact le_refl 0
  dsimp only at hv
  split at hv
  · cases hv
    show (0 : Int) ≤ 100
    omega
  obtain ⟨incomingDomain, -, hv⟩ := bind_ok hv
  obtain ⟨existingDomain, -, hv⟩ := bind_ok hv
  split at hv
  · cases hv
    show (0 : Int) ≤ 95
    omega
  · rw [← Except.ok.inj hv]
    exact nameMatch_score _ _

theorem companyMatch_foreign {c : OdooCompany} (h : c.tenantId ≠ candidate.tenantId) :
    companyMatch lib candidate c = .ok { reasons := ["CROSS_TENANT_DENIED"] } := by
  unfold companyMatch
  rw [if_pos (Ne.symm h)]

theorem contactMatch_foreign {c : OdooContact} (h : c.tenantId ≠ candidate.tenantId) :
    contactMatch lib candidate c company = .ok { reasons := ["CROSS_TENANT_DENIED"] } := by
  unfold contactMatch
  rw [if_pos (Ne.symm h)]

variable {contact : OdooContact} {incoming : Contact}

theorem emailMatch_scores {v : Match}
    (h : emailMatch lib incoming contact = .ok (some v)) : 0 ≤ v.score := by
  unfold emailMatch at h
  split at h
  · obtain ⟨email, -, h⟩ := bind_ok h
    obtain ⟨email', -, h⟩ := bind_ok h
    split at h
    · obtain ⟨role, -, h⟩ := bind_ok h
      split at h
      · cases h
        show (0 : Int) ≤ 75
        omega
      · cases h
        show (0 : Int) ≤ 100
        omega
    · cases h
  · cases h

/-- A company with a higher score makes the telephone's score no lower. -/
theorem phoneMatch_mono (hle : company.score ≤ company'.score)
    {found : Option Match} (h : phoneMatch lib incoming contact company' = .ok found) :
    ∃ found', phoneMatch lib incoming contact company = .ok found' ∧ (found' = none ↔ found = none) ∧
      ∀ v v', found' = some v → found = some v' → 0 ≤ v.score ∧ v.score ≤ v'.score := by
  unfold phoneMatch at h ⊢
  obtain ⟨phone, hphone, h⟩ := bind_ok h
  obtain ⟨phone', hphone', h⟩ := bind_ok h
  rw [hphone, hphone', ok_bind, ok_bind]
  cases phone with
  | none =>
    cases h
    exact ⟨none, rfl, Iff.rfl, nofun⟩
  | some phone =>
    cases phone' with
    | none =>
      cases h
      exact ⟨none, rfl, Iff.rfl, nofun⟩
    | some phone' =>
      dsimp only at h ⊢
      by_cases hsame : phone.e164 = phone'.e164
      · rw [if_pos hsame] at h ⊢
        by_cases hconfirmed : 90 ≤ company.score
        · rw [if_pos (le_trans hconfirmed hle)] at h
          rw [if_pos hconfirmed]
          cases h
          refine ⟨_, rfl, by simp, ?_⟩
          rintro v v' hv hv'
          cases hv
          cases hv'
          exact ⟨by show (0 : Int) ≤ 95; omega, le_refl _⟩
        · rw [if_neg hconfirmed]
          by_cases hconfirmed' : 90 ≤ company'.score
          · rw [if_pos hconfirmed'] at h
            cases h
            refine ⟨_, rfl, by simp, ?_⟩
            rintro v v' hv hv'
            cases hv
            cases hv'
            exact ⟨by show (0 : Int) ≤ 75; omega, by show (75 : Int) ≤ 95; omega⟩
          · rw [if_neg hconfirmed'] at h
            cases h
            refine ⟨_, rfl, by simp, ?_⟩
            rintro v v' hv hv'
            cases hv
            cases hv'
            exact ⟨by show (0 : Int) ≤ 75; omega, le_refl _⟩
      · rw [if_neg hsame] at h ⊢
        cases h
        exact ⟨none, rfl, Iff.rfl, nofun⟩

theorem personMatch_mono (hle : company.score ≤ company'.score) :
    0 ≤ (personMatch lib incoming contact company).score ∧
      (personMatch lib incoming contact company).score ≤ (personMatch lib incoming contact company').score := by
  unfold personMatch
  dsimp only
  generalize (if _ ≠ "" then lib.similarity _ _ else 0) = similarity
  by_cases hexact : similarity = 100 ∧ 90 ≤ company.score ∧ (nonempty incoming.title).isSome = true ∧
      (nonempty contact.title).isSome = true ∧ lib.normalizedPersonName incoming.title = lib.normalizedPersonName contact.title
  · rw [if_pos hexact, if_pos ⟨hexact.1, le_trans hexact.2.1 hle, hexact.2.2⟩]
    exact ⟨by show (0 : Int) ≤ 85; omega, le_refl _⟩
  · rw [if_neg hexact]
    by_cases hfuzzy : 75 ≤ similarity
    · rw [if_pos hfuzzy]
      refine ⟨by show (0 : Int) ≤ min 79 similarity; omega, ?_⟩
      split
      · show min 79 similarity ≤ 85
        omega
      · exact le_refl _
    · rw [if_neg hfuzzy]
      refine ⟨le_refl _, ?_⟩
      split
      · omega
      · exact le_refl _

/-- With a higher score of the company no contact scores lower, and none is refused that was not before. -/
theorem contactMatch_mono (hle : company.score ≤ company'.score) {c : OdooContact} {v' : Match}
    (h : contactMatch lib candidate c company' = .ok v') :
    ∃ v, contactMatch lib candidate c company = .ok v ∧ 0 ≤ v.score ∧ v.score ≤ v'.score := by
  unfold contactMatch at h ⊢
  split at h
  · rename_i hforeign
    rw [if_pos hforeign]
    cases h
    exact ⟨_, rfl, le_refl _, le_refl _⟩
  rename_i hown
  rw [if_neg hown]
  obtain ⟨email, hemail, h⟩ := bind_ok h
  rw [hemail, ok_bind]
  cases email with
  | some value =>
    cases h
    exact ⟨_, rfl, emailMatch_scores hemail, le_refl _⟩
  | none =>
    obtain ⟨phone, hphone, h⟩ := bind_ok h
    obtain ⟨phone', hphone', hnone, hscores⟩ := phoneMatch_mono hle hphone
    rw [hphone', ok_bind]
    cases phone with
    | some value =>
      cases h
      rcases phone' with _ | value'
      · exact absurd (hnone.1 rfl) nofun
      · exact ⟨value', rfl, hscores _ _ rfl rfl⟩
    | none =>
      rw [hnone.2 rfl, ← Except.ok.inj h]
      exact ⟨_, rfl, personMatch_mono hle⟩

theorem contactMatch_scores : Scores fun c => contactMatch lib candidate c company := by
  intro c v hv
  obtain ⟨v', hv', hnonneg, -⟩ := contactMatch_mono (le_refl company.score) hv
  rw [Except.ok.inj (hv.symm.trans hv')]
  exact hnonneg

/-- The records of the candidate's tenant are among others. -/
structure Within (candidate : LeadCandidate) (lookup lookup' : OdooLookup) : Prop where
  companies : ∀ c ∈ lookup.companies, c.tenantId = candidate.tenantId → c ∈ lookup'.companies
  contacts : ∀ c ∈ lookup.contacts, c.tenantId = candidate.tenantId → c ∈ lookup'.contacts

/-- With more records of the tenant neither score is lower. -/
theorem compared_mono {lookup lookup' : OdooLookup} (hwithin : Within candidate lookup lookup') {found' : Match × Match}
    (h' : compared lib candidate lookup' = .ok found') : ∃ found, compared lib candidate lookup = .ok found ∧
      found.1.score ≤ found'.1.score ∧ found.2.score ≤ found'.2.score := by
  unfold compared at h' ⊢
  obtain ⟨company', hcompany', h'⟩ := bind_ok h'
  obtain ⟨contact', hcontact', h'⟩ := bind_ok h'
  cases h'
  have hcompanies := bestOf_all hcompany'
  have hcontacts := bestOf_all hcontact'
  obtain ⟨company, hcompany, hle⟩ := bestOf_mono (f := companyMatch lib candidate) (l := lookup.companies) companyMatch_scores
    hcompany' (by
      intro c hc
      by_cases hown : c.tenantId = candidate.tenantId
      · obtain ⟨v, hv⟩ := hcompanies c (hwithin.companies c hc hown)
        refine ⟨v, hv, .inr ⟨c, hwithin.companies c hc hown, ?_⟩⟩
        intro v' hv'
        rw [hv] at hv'
        cases hv'
        exact le_refl _
      · exact ⟨_, companyMatch_foreign hown, .inl (le_refl _)⟩)
  obtain ⟨contact, hcontact, hle'⟩ := bestOf_mono (f := fun c => contactMatch lib candidate c company) (l := lookup.contacts)
    contactMatch_scores hcontact' (by
      intro c hc
      by_cases hown : c.tenantId = candidate.tenantId
      · obtain ⟨v', hv'⟩ := hcontacts c (hwithin.contacts c hc hown)
        obtain ⟨v, hv, -, hvv'⟩ := contactMatch_mono hle hv'
        refine ⟨v, hv, .inr ⟨c, hwithin.contacts c hc hown, ?_⟩⟩
        intro v'' hv''
        rw [hv'] at hv''
        cases hv''
        exact hvv'
      · exact ⟨_, contactMatch_foreign hown, .inl (le_refl _)⟩)
  refine ⟨(company, contact), ?_, hle, hle'⟩
  have hfirst : bestCompany lib candidate lookup.companies = .ok company := hcompany
  have hsecond : bestContact lib candidate lookup.contacts company = .ok contact := hcontact
  rw [hfirst, ok_bind, hsecond, ok_bind]

end Matches

/-! ## Resolutions -/

section Resolutions

variable {lib : Library} {policy : MatchPolicy} {a : Resolve} {s : Service}

/-- Two lookups with the same snapshot, the first with no record of the tenant that the second does not have: if the second is
answered, so is the first, with scores no higher and no less eligible. -/
theorem resolution_mono {candidate : LeadCandidate} {candidateId correlationId : String} {lookup lookup' : OdooLookup}
    (hwithin : Within candidate lookup lookup') (hsnapshot : lookup'.compliance = lookup.compliance)
    {answer' : LeadResolution × Option (Match × Match)}
    (h' : resolution lib policy candidate candidateId correlationId (.ok lookup') = .ok answer') :
    ∃ (found found' : Match × Match) (compliance : ComplianceDecision) (answer : LeadResolution × Option (Match × Match)),
      resolution lib policy candidate candidateId correlationId (.ok lookup) = .ok answer ∧
      answer.1 = resolutionOf policy candidateId correlationId found.1 found.2 compliance ∧
      answer'.1 = resolutionOf policy candidateId correlationId found'.1 found'.2 compliance ∧
      found.1.score ≤ found'.1.score ∧ found.2.score ≤ found'.2.score := by
  unfold resolution at h' ⊢
  dsimp only at h' ⊢
  obtain ⟨found', hfound', h'⟩ := bind_ok h'
  obtain ⟨found, hfound, hcompany, hcontact⟩ := compared_mono hwithin hfound'
  have hcompliance : lookup'.evaluate candidate = lookup.evaluate candidate := by
    unfold OdooLookup.evaluate
    rw [hsnapshot]
  rw [hfound, ok_bind]
  refine ⟨found, found', lookup.evaluate candidate, _, rfl, rfl, ?_, hcompany, hcontact⟩
  rw [← Except.ok.inj h', hcompliance]

/-- A lower highest score is accepted if a higher one is. -/
theorem eligible_mono {candidateId correlationId : String} {company contact contact' : Match} {compliance : ComplianceDecision}
    (hcompany : company.score ≤ company'.score) (hcontact : contact.score ≤ contact'.score)
    (h : (resolutionOf policy candidateId correlationId company' contact' compliance).eligibleForOutreach = true) :
    (resolutionOf policy candidateId correlationId company contact compliance).eligibleForOutreach = true := by
  have hhighest : max company.score contact.score ≤ max company'.score contact'.score := max_le_max hcompany hcontact
  unfold resolutionOf at h ⊢
  rw [Bool.and_eq_true, Bool.and_eq_true, decide_eq_true_eq] at h ⊢
  refine ⟨⟨?_, h.1.2⟩, h.2⟩
  have haccepted := h.1.1
  unfold decision at haccepted ⊢
  split at haccepted
  · cases haccepted
  split at haccepted
  · cases haccepted
  split at haccepted
  · cases haccepted
  split at haccepted
  · cases haccepted
  rename_i hblocked hexact hreview hrequired
  rw [if_neg hblocked, if_neg (fun h => hexact (le_trans h hhighest)), if_neg (fun h => hreview (le_trans h hhighest)),
    if_neg hrequired]

/-- A candidate whose snapshot is of another scope, or not available, is blocked. -/
theorem evaluate_blocked {snapshot : ComplianceSnapshot} {tenantId campaignId : String}
    (h : snapshot.tenantId ≠ tenantId ∨ snapshot.campaignId ≠ campaignId ∨ snapshot.available = false) :
    (snapshot.evaluate tenantId campaignId).blocked = true := by
  unfold ComplianceSnapshot.evaluate
  by_cases hscope : snapshot.tenantId ≠ tenantId ∨ snapshot.campaignId ≠ campaignId
  · rw [if_pos hscope]
    rfl
  · rw [if_neg hscope]
    rw [← or_assoc] at h
    rw [h.resolve_left hscope]
    rfl

theorem resolve_new (hbounded : a.bounded = true) (hnew : s.resolutionEntries.get a.scope = none) (reply : Except Exc OdooLookup) :
    (resolve lib policy a reply s).1 =
      (resolution lib policy a.candidate ("LDC-" ++ lib.uuid4 s.drawn) a.correlationId reply).map fun r => (r.1, false) := by
  unfold resolve Resolve.enter
  rw [hbounded, hnew]
  show (Resolve.finish lib policy a ("LDC-" ++ lib.uuid4 s.drawn) reply _).1 = _
  unfold Resolve.finish
  rcases resolution lib policy a.candidate ("LDC-" ++ lib.uuid4 s.drawn) a.correlationId reply with e | ⟨r, found⟩
  · rfl
  · rfl

/-- A call that is refused or answered from the record does not look at Odoo's answer. -/
theorem resolve_known (h : a.bounded = false ∨ s.resolutionEntries.get a.scope ≠ none) (reply reply' : Except Exc OdooLookup) :
    resolve lib policy a reply s = resolve lib policy a reply' s := by
  unfold resolve
  cases hbounded : a.bounded with
  | false => rfl
  | true =>
    rw [hbounded] at h
    obtain ⟨prior, hprior⟩ := Option.ne_none_iff_exists'.1 (h.resolve_left nofun)
    unfold Resolve.enter
    rw [hprior]
    dsimp only
    by_cases hsame : prior.payloadHash ≠ a.payloadHash lib
    · rw [if_pos hsame]
    · rw [if_neg hsame]

end Resolutions

/-! ## The laws of resolution -/

/-- What a resolution says about a candidate. -/
def outcome (r : LeadResolution × Bool) : Decision × Int × Int × Bool :=
  (r.1.decision, r.1.companyResolution.score, r.1.contactResolution.score, r.1.eligibleForOutreach)

/-- The resolution of a candidate does not depend on the order of the records or on other tenants, it is monotone in the records
of the tenant, and it is closed without a snapshot of the candidate's scope. -/
structure Lawful (lib : Library) (policy : MatchPolicy) (a : Resolve) (s : Service) : Prop where
  unmoved : ∀ companies contacts foreignCompanies foreignContacts companies' contacts' compliance,
    (∀ c ∈ foreignCompanies, c.tenantId ≠ a.candidate.tenantId) → (∀ c ∈ foreignContacts, c.tenantId ≠ a.candidate.tenantId) →
      companies'.Perm (companies ++ foreignCompanies) → contacts'.Perm (contacts ++ foreignContacts) →
        (resolve lib policy a (.ok ⟨companies', contacts', compliance⟩) s).1.toOption.map outcome =
          (resolve lib policy a (.ok ⟨companies, contacts, compliance⟩) s).1.toOption.map outcome
  monotone : ∀ companies contacts moreCompanies moreContacts companies' contacts' compliance r',
    companies'.Perm (companies ++ moreCompanies) → contacts'.Perm (contacts ++ moreContacts) →
      (resolve lib policy a (.ok ⟨companies', contacts', compliance⟩) s).1 = .ok r' →
        ∃ r, (resolve lib policy a (.ok ⟨companies, contacts, compliance⟩) s).1 = .ok r ∧
          r.1.companyResolution.score ≤ r'.1.companyResolution.score ∧
          r.1.contactResolution.score ≤ r'.1.contactResolution.score ∧
          (r'.1.eligibleForOutreach = true → r.1.eligibleForOutreach = true)
  closed : ∀ companies contacts compliance r, s.resolutionEntries.get a.scope = none →
    (∀ snapshot, compliance = some snapshot → snapshot.tenantId ≠ a.candidate.tenantId ∨
      snapshot.campaignId ≠ a.candidate.campaignId ∨ snapshot.available = false) →
      (resolve lib policy a (.ok ⟨companies, contacts, compliance⟩) s).1 = .ok r → r.1.eligibleForOutreach = false

section Laws

variable {lib : Library} {policy : MatchPolicy} {a : Resolve} {s : Service} {lookup lookup' : OdooLookup}

/-- What `resolve` answers with more records of the tenant, and without them. -/
theorem resolve_mono (hwithin : Within a.candidate lookup lookup') (hsnapshot : lookup'.compliance = lookup.compliance)
    {r' : LeadResolution × Bool} (h' : (resolve lib policy a (.ok lookup') s).1 = .ok r') :
    ∃ r, (resolve lib policy a (.ok lookup) s).1 = .ok r ∧
      r.1.companyResolution.score ≤ r'.1.companyResolution.score ∧ r.1.contactResolution.score ≤ r'.1.contactResolution.score ∧
      (r'.1.eligibleForOutreach = true → r.1.eligibleForOutreach = true) ∧
      (r.1.companyResolution.score = r'.1.companyResolution.score → r.1.contactResolution.score = r'.1.contactResolution.score →
        outcome r = outcome r') := by
  by_cases hknown : a.bounded = false ∨ s.resolutionEntries.get a.scope ≠ none
  · rw [resolve_known hknown (.ok lookup') (.ok lookup)] at h'
    exact ⟨r', h', le_refl _, le_refl _, id, fun _ _ => rfl⟩
  · rw [not_or, Bool.not_eq_false, not_not] at hknown
    obtain ⟨hbounded, hnew⟩ := hknown
    rw [resolve_new hbounded hnew] at h' ⊢
    rcases hanswer' : resolution lib policy a.candidate ("LDC-" ++ lib.uuid4 s.drawn) a.correlationId (.ok lookup') with
      e | answer'
    · rw [hanswer'] at h'
      cases h'
    rw [hanswer'] at h'
    obtain ⟨found, found', compliance, answer, hanswer, hr, hr', hcompany, hcontact⟩ :=
      resolution_mono hwithin hsnapshot hanswer'
    rw [hanswer]
    have hsecond : r' = (answer'.1, false) := (Except.ok.inj h').symm
    rw [hsecond]
    refine ⟨(answer.1, false), rfl, ?_⟩
    rw [hr, hr']
    refine ⟨hcompany, hcontact, eligible_mono hcompany hcontact, ?_⟩
    intro hsame hsame'
    have hcompanies : found.1.score = found'.1.score := hsame
    have hcontacts : found.2.score = found'.2.score := hsame'
    unfold outcome resolutionOf matchResolution
    rw [hcompanies, hcontacts]

/-- The same records of the tenant, among whatever others, give the same outcome. -/
theorem resolve_unmoved (hwithin : Within a.candidate lookup lookup') (hwithin' : Within a.candidate lookup' lookup)
    (hsnapshot : lookup'.compliance = lookup.compliance) :
    (resolve lib policy a (.ok lookup') s).1.toOption.map outcome = (resolve lib policy a (.ok lookup) s).1.toOption.map outcome := by
  rcases h' : (resolve lib policy a (.ok lookup') s).1 with e' | r'
  · rcases h : (resolve lib policy a (.ok lookup) s).1 with e | r
    · rfl
    · obtain ⟨r', hr', -⟩ := resolve_mono hwithin' hsnapshot.symm h
      rw [hr'] at h'
      cases h'
  · obtain ⟨r, hr, hcompany, hcontact, -, hsame⟩ := resolve_mono hwithin hsnapshot h'
    obtain ⟨r'', hr'', hcompany', hcontact', -⟩ := resolve_mono hwithin' hsnapshot.symm hr
    rw [h'] at hr''
    cases hr''
    rw [hr]
    show some (outcome r') = some (outcome r)
    rw [hsame (le_antisymm hcompany hcompany') (le_antisymm hcontact hcontact')]

/-- Every resolution is lawful. -/
theorem resolve_lawful (lib : Library) (policy : MatchPolicy) (a : Resolve) (s : Service) : Lawful lib policy a s := by
  constructor
  · intro companies contacts foreignCompanies foreignContacts companies' contacts' compliance hcompanies hcontacts hperm hperm'
    refine resolve_unmoved ⟨?_, ?_⟩ ⟨?_, ?_⟩ rfl
    · intro c hc _
      exact hperm.mem_iff.2 (List.mem_append_left _ hc)
    · intro c hc _
      exact hperm'.mem_iff.2 (List.mem_append_left _ hc)
    · intro c hc hown
      rcases List.mem_append.1 (hperm.mem_iff.1 hc) with hc | hc
      · exact hc
      · exact absurd hown (hcompanies c hc)
    · intro c hc hown
      rcases List.mem_append.1 (hperm'.mem_iff.1 hc) with hc | hc
      · exact hc
      · exact absurd hown (hcontacts c hc)
  · intro companies contacts moreCompanies moreContacts companies' contacts' compliance r' hperm hperm' hr'
    have hwithin : Within a.candidate ⟨companies, contacts, compliance⟩ ⟨companies', contacts', compliance⟩ := by
      constructor
      · intro c hc _
        exact hperm.mem_iff.2 (List.mem_append_left _ hc)
      · intro c hc _
        exact hperm'.mem_iff.2 (List.mem_append_left _ hc)
    obtain ⟨r, hr, hcompany, hcontact, heligible, -⟩ := resolve_mono hwithin rfl hr'
    exact ⟨r, hr, hcompany, hcontact, heligible⟩
  · intro companies contacts compliance r hnew hscope hr
    cases hbounded : a.bounded with
    | false =>
      unfold resolve at hr
      rw [hbounded] at hr
      cases hr
    | true =>
      rw [resolve_new hbounded hnew] at hr
      rcases hanswer : resolution lib policy a.candidate ("LDC-" ++ lib.uuid4 s.drawn) a.correlationId
        (.ok ⟨companies, contacts, compliance⟩) with e | answer
      · rw [hanswer] at hr
        cases hr
      rw [hanswer] at hr
      have hblocked : (OdooLookup.evaluate a.candidate ⟨companies, contacts, compliance⟩).blocked = true := by
        refine evaluate_blocked ?_
        cases compliance with
        | none => exact .inr (.inr rfl)
        | some snapshot => exact hscope snapshot rfl
      obtain ⟨found, -, hfound⟩ := bind_ok hanswer
      rw [← Except.ok.inj hr, ← Except.ok.inj hfound]
      unfold resolutionOf
      dsimp only
      rw [hblocked, Bool.not_true, Bool.and_false, Bool.false_and]

end Laws

end Middleware.Sales

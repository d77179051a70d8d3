/-
A record of Odoo is compared with a candidate as far as the fields that `company_match` and `contact_match` read have normal
forms; where one of them has none, the error of the normalizer escapes from `resolve`.
-/
import Middleware.Sales.Ends
import Middleware.Sales.Resolution

namespace Middleware.Sales

open Lib

/-! ## Records that can be compared -/

def Normalizes {A : Type} (x : Except Exc A) : Prop := ∃ a, x = .ok a

theorem not_normalizes {A : Type} (e : Exc) : ¬ Normalizes (.error e : Except Exc A) := by
  rintro ⟨a, h⟩
  cases h

theorem normalizes_bind {A B : Type} {x : Except Exc A} {f : A → Except Exc B} (hf : ∀ a, Normalizes (f a)) :
    Normalizes (x >>= f) ↔ Normalizes x := by
  constructor
  · rintro ⟨b, hb⟩
    obtain ⟨a, ha, -⟩ := bind_ok hb
    exact ⟨a, ha⟩
  · rintro ⟨a, rfl⟩
    exact hf a

/-- What is asked for the domain of a candidate. -/
def Company.site (incoming : Company) : Option String := nonempty incoming.domain <|> incoming.websiteUrl

section Comparable

variable (lib : Library) (candidate : LeadCandidate)

/-- The registrations decide, or both domains have a normal form. -/
def Comparable (c : OdooCompany) : Prop :=
  sameRegistration lib candidate.company c = true ∨
    Normalizes (lib.registrableDomain candidate.company.site) ∧ Normalizes (lib.registrableDomain c.domain)

/-- Both e-mail addresses are given. -/
abbrev BothEmails (c : OdooContact) : Prop := (nonempty candidate.contact.businessEmail).isSome ∧ (nonempty c.businessEmail).isSome

/-- The e-mail addresses have a normal form if both are given, and so have the telephone numbers unless the addresses decide. -/
def ComparableContact (c : OdooContact) : Prop :=
  (BothEmails candidate c →
    Normalizes (lib.normalizedEmail candidate.contact.businessEmail) ∧ Normalizes (lib.normalizedEmail c.businessEmail)) ∧
  (BothEmails candidate c ∧ lib.normalizedEmail candidate.contact.businessEmail = lib.normalizedEmail c.businessEmail ∨
    Normalizes (lib.normalizedPhone candidate.contact.businessPhone candidate.contact.countryCode) ∧
      Normalizes (lib.normalizedPhone c.businessPhone c.countryCode))

/-- The candidate can be compared with every record of its tenant. -/
structure Clean (lookup : OdooLookup) : Prop where
  companies : ∀ c ∈ lookup.companies, c.tenantId = candidate.tenantId → Comparable lib candidate c
  contacts : ∀ c ∈ lookup.contacts, c.tenantId = candidate.tenantId → ComparableContact lib candidate c

end Comparable

section Decides

variable {lib : Library} {candidate : LeadCandidate}

theorem companyMatch_normalizes {c : OdooCompany} (hown : c.tenantId = candidate.tenantId) :
    Normalizes (companyMatch lib candidate c) ↔ Comparable lib candidate c := by
  unfold companyMatch Comparable Company.site
  rw [if_neg (not_not.2 hown.symm)]
  dsimp only
  split
  · rename_i hsame
    exact ⟨fun _ => .inl hsame, fun _ => ⟨_, rfl⟩⟩
  rename_i hsame
  constructor
  · rintro ⟨m, hm⟩
    obtain ⟨domain, hdomain, hm⟩ := bind_ok hm
    obtain ⟨domain', hdomain', -⟩ := bind_ok hm
    exact .inr ⟨⟨domain, hdomain⟩, ⟨domain', hdomain'⟩⟩
  · intro h
    obtain ⟨⟨domain, hdomain⟩, ⟨domain', hdomain'⟩⟩ := h.resolve_left hsame
    rw [hdomain, ok_bind, hdomain', ok_bind]
    split
    · exact ⟨_, rfl⟩
    · exact ⟨_, rfl⟩

variable {c : OdooContact} {company : Match}

theorem phoneMatch_normalizes {incoming : Contact} :
    Normalizes (phoneMatch lib incoming c company) ↔
      Normalizes (lib.normalizedPhone incoming.businessPhone incoming.countryCode) ∧
        Normalizes (lib.normalizedPhone c.businessPhone c.countryCode) := by
  unfold phoneMatch
  constructor
  · rintro ⟨m, hm⟩
    obtain ⟨phone, hphone, hm⟩ := bind_ok hm
    obtain ⟨phone', hphone', -⟩ := bind_ok hm
    exact ⟨⟨phone, hphone⟩, ⟨phone', hphone'⟩⟩
  · rintro ⟨⟨phone, hphone⟩, ⟨phone', hphone'⟩⟩
    rw [hphone, ok_bind, hphone', ok_bind]
    split
    · split
      · split
        · exact ⟨_, rfl⟩
        · exact ⟨_, rfl⟩
      · exact ⟨_, rfl⟩
    · exact ⟨_, rfl⟩

/-- What the e-mail addresses say if they have normal forms. -/
theorem emailMatch_ok {email email' : Option String} (hboth : BothEmails candidate c)
    (hemail : lib.normalizedEmail candidate.contact.businessEmail = .ok email)
    (hemail' : lib.normalizedEmail c.businessEmail = .ok email') :
    ∃ m, emailMatch lib candidate.contact c = .ok m ∧ (m.isSome ↔ email = email') := by
  have hrole : Normalizes (lib.roleEmail candidate.contact.businessEmail) := by
    unfold Library.roleEmail
    rw [hemail, ok_bind]
    split
    · exact ⟨_, rfl⟩
    · exact ⟨_, rfl⟩
  obtain ⟨role, hrole⟩ := hrole
  unfold emailMatch
  rw [if_pos hboth, hemail, ok_bind, hemail', ok_bind]
  split
  · rename_i hsame
    rw [hrole, ok_bind]
    split
    · exact ⟨_, rfl, fun _ => hsame, fun _ => rfl⟩
    · exact ⟨_, rfl, fun _ => hsame, fun _ => rfl⟩
  · rename_i hother
    exact ⟨_, rfl, iff_of_false Bool.false_ne_true hother⟩

/-- Behind the telephone numbers nothing raises. -/
theorem personMatch_normalizes (phone : Option Match) : Normalizes (match phone with
    | some value => Except.ok value
    | none => .ok (personMatch lib candidate.contact c company)) := by
  cases phone
  · exact ⟨_, rfl⟩
  · exact ⟨_, rfl⟩

theorem contactMatch_normalizes (hown : c.tenantId = candidate.tenantId) :
    Normalizes (contactMatch lib candidate c company) ↔ ComparableContact lib candidate c := by
  unfold contactMatch ComparableContact
  rw [if_neg (not_not.2 hown.symm)]
  by_cases hboth : BothEmails candidate c
  · rcases hemail : lib.normalizedEmail candidate.contact.businessEmail with e | email
    · unfold emailMatch
      rw [if_pos hboth, hemail]
      exact iff_of_false (not_normalizes _) fun h => not_normalizes _ (h.1 hboth).1
    rcases hemail' : lib.normalizedEmail c.businessEmail with e | email'
    · unfold emailMatch
      rw [if_pos hboth, hemail, hemail', ok_bind]
      exact iff_of_false (not_normalizes _) fun h => not_normalizes _ (h.1 hboth).2
    obtain ⟨m, hm, hsame⟩ := emailMatch_ok hboth hemail hemail'
    rw [hm, ok_bind]
    cases m with
    | some value => exact ⟨fun _ => ⟨fun _ => ⟨⟨_, rfl⟩, ⟨_, rfl⟩⟩, .inl ⟨hboth, congrArg _ (hsame.1 rfl)⟩⟩, fun _ => ⟨_, rfl⟩⟩
    | none =>
      refine ((normalizes_bind personMatch_normalizes).trans phoneMatch_normalizes).trans
        ⟨fun h => ⟨fun _ => ⟨⟨_, rfl⟩, ⟨_, rfl⟩⟩, .inr h⟩, fun h => h.2.resolve_left ?_⟩
      rintro ⟨-, hsame'⟩
      exact Bool.false_ne_true (hsame.2 (Except.ok.inj hsame'))
  · unfold emailMatch
    rw [if_neg hboth]
    refine ((normalizes_bind personMatch_normalizes).trans phoneMatch_normalizes).trans ?_
    exact ⟨fun h => ⟨fun h' => absurd h' hboth, .inr h⟩, fun h => h.2.resolve_left fun h' => hboth h'.1⟩

variable {lookup : OdooLookup}

theorem compared_normalizes : Normalizes (compared lib candidate lookup) ↔ Clean lib candidate lookup := by
  unfold compared
  constructor
  · rintro ⟨found, h⟩
    obtain ⟨company, hcompany, h⟩ := bind_ok h
    obtain ⟨contact, hcontact, -⟩ := bind_ok h
    constructor
    · intro c hc hown
      exact (companyMatch_normalizes hown).1 (bestOf_all hcompany c hc)
    · intro c hc hown
      exact (contactMatch_normalizes hown).1 (bestOf_all hcontact c hc)
  · intro h
    obtain ⟨companies, hcompanies⟩ := mapM_of_all (f := companyMatch lib candidate) (l := lookup.companies) (by
      intro c hc
      by_cases hown : c.tenantId = candidate.tenantId
      · exact (companyMatch_normalizes hown).2 (h.companies c hc hown)
      · exact ⟨_, companyMatch_foreign hown⟩)
    unfold bestCompany bestContact
    rw [hcompanies, ok_bind, ok_bind]
    obtain ⟨contacts, hcontacts⟩ := mapM_of_all (l := lookup.contacts)
      (f := fun c => contactMatch lib candidate c (best Match.score {} companies)) (by
      intro c hc
      by_cases hown : c.tenantId = candidate.tenantId
      · exact (contactMatch_normalizes hown).2 (h.contacts c hc hown)
      · exact ⟨_, contactMatch_foreign hown⟩)
    rw [hcontacts]
    exact ⟨_, rfl⟩

theorem resolution_normalizes {A : Type} {policy : MatchPolicy} {candidateId correlationId : String}
    {f : LeadResolution × Option (Match × Match) → A} :
    Normalizes ((resolution lib policy candidate candidateId correlationId (.ok lookup)).map f) ↔
      Normalizes (compared lib candidate lookup) := by
  unfold resolution
  dsimp only
  rcases compared lib candidate lookup with e | found
  · constructor
    · rintro ⟨answer, h⟩
      cases h
    · rintro ⟨found, h⟩
      cases h
  · exact ⟨fun _ => ⟨found, rfl⟩, fun _ => ⟨_, rfl⟩⟩

end Decides

/-- A candidate is resolved exactly if its key is within its bounds and either was used for the same candidate or is new, and the
candidate can be compared with every record of its tenant. -/
theorem resolve_decides_iff (lib : Library) (policy : MatchPolicy) (a : Resolve) (lookup : OdooLookup) (s : Service) :
    Normalizes (resolve lib policy a (.ok lookup) s).1 ↔ a.bounded = true ∧
      ((∃ prior, s.resolutionEntries.get a.scope = some prior ∧ prior.payloadHash = a.payloadHash lib) ∨
        s.resolutionEntries.get a.scope = none ∧ Clean lib a.candidate lookup) := by
  cases hbounded : a.bounded with
  | false =>
    unfold resolve
    rw [hbounded]
    exact iff_of_false (not_normalizes _) fun h => Bool.false_ne_true h.1
  | true =>
    rcases hprior : s.resolutionEntries.get a.scope with _ | prior
    · rw [resolve_new hbounded hprior, resolution_normalizes, compared_normalizes]
      refine ⟨fun h => ⟨rfl, .inr ⟨rfl, h⟩⟩, ?_⟩
      rintro ⟨-, ⟨prior, hnone, -⟩ | ⟨-, h⟩⟩
      · cases hnone
      · exact h
    · unfold resolve Resolve.enter
      rw [hbounded, hprior]
      dsimp only
      by_cases hsame : prior.payloadHash = a.payloadHash lib
      · rw [if_neg (not_not.2 hsame)]
        exact ⟨fun _ => ⟨rfl, .inl ⟨prior, rfl, hsame⟩⟩, fun _ => ⟨_, rfl⟩⟩
      · rw [if_pos hsame]
        constructor
        · rintro ⟨answer, h⟩
          cases h
        rintro ⟨-, ⟨prior', hprior', hsame'⟩ | ⟨hnone, -⟩⟩
        · exact absurd (Option.some.inj hprior' ▸ hsame') hsame
        · cases hnone

/-- A candidate that knows nothing of its contact. -/
def sampleLead : Resolve where
  candidate :=
    { tenantId := "tenant-a"
      campaignId := "campaign-a"
      source := { provider := "self_hosted_scraper", jobId := "job-1", requestId := "request-1", collectedAt := 0,
                  requestIdBounds := by decide }
      company := { name := "Acme", countryCode := "GB" } }
  idempotencyKey := "resolve-tenant-a-1"
  correlationId := "corr-1"

/-- A stored contact has no number but a note in the field. -/
theorem noted_phone_escapes : ¬ Normalizes (resolve sampleLibrary {} sampleLead
    (.ok { contacts := [{ publicId := "LED-1", tenantId := "tenant-a", fullName := "Ana", businessPhone := some "n/a" }] }) {}).1 := by
  rintro ⟨answer, h⟩
  cases h

end Middleware.Sales

/-
How a candidate is compared with what Odoo has (`app/sales/normalization.py`, `app/sales/identity.py`): fields are brought
into a normal form, each company and each contact gets a score, and the best of each counts.

The functions of other libraries are parameters, those of Unicode among them.
-/
import Middleware.Sales.Contracts
import Middleware.Lib.Best
import Middleware.Postgres.Outbox

namespace Middleware.Sales

open Lib
open Platform (isSpace strip)

structure NormalizedPhone where
  e164 : String
  extension : Option String

structure Library where
  /-- `unicodedata.normalize("NFKC", text)`. -/
  nfkc : String → String
  casefold : String → String
  lower : String → String
  /-- `\w` of one character. -/
  isWord : Char → Bool
  /-- `urlsplit(url).hostname or ""`, with what it raises. -/
  hostname : String → Except Exc String
  /-- `host.encode("idna").decode("ascii")`, unless that raises `UnicodeError`. -/
  idna : String → Option String
  /-- `phonenumbers`: a number that is parsed and valid, in its normal form. -/
  phonenumbers : String → Option String → Option NormalizedPhone
  /-- `int(SequenceMatcher(None, a, b).ratio() * 100)`. -/
  similarity : String → String → Int
  similarity_self : ∀ text, similarity text text = 100
  jsonTime : Time → String
  /-- The hexadecimal form of the n-th identifier that is drawn. -/
  uuid4 : Nat → String
  uuid4_length : ∀ n, (uuid4 n).length = 32

/-! ## Normal forms -/

/-- `text or None`. -/
def nonempty (value : Option String) : Option String := value.filter (· ≠ "")

/-- `text.split()`. -/
def words (value : String) : List String := ((value.toList.splitOnP isSpace).filter (· ≠ [])).map String.ofList

def joinWords (values : List String) : String := " ".intercalate values

namespace Library

variable (lib : Library)

/-- `_text`. -/
def text (value : Option String) : String :=
  let normalized := lib.casefold (lib.nfkc (value.getD ""))
  joinWords (words (String.ofList (normalized.toList.map fun c => if lib.isWord c || isSpace c then c else ' ')))

def legalSuffixes : List String :=
  ["co", "company", "corp", "corporation", "gmbh", "inc", "incorporated", "llc", "llp", "ltd", "limited", "plc", "sa", "sarl", "srl"]

/-- `normalized_company_name`. -/
def normalizedCompanyName (value : String) : String :=
  joinWords ((words (lib.text (some value))).rdropWhile (· ∈ legalSuffixes))

def normalizedPersonName (value : Option String) : String := lib.text value

def normalizedAddressComponent (value : Option String) : String := lib.text value

/-- Whether a text occurs in another. -/
def contains (part : List Char) : List Char → Bool
  | [] => part.isEmpty
  | c :: rest => part.isPrefixOf (c :: rest) || contains part rest

/-- `normalized_domain`. -/
def normalizedDomain (value : Option String) : Except Exc (Option String) :=
  match nonempty value with
  | none => .ok none
  | some value => do
    let candidate := if contains "://".toList value.toList then value else "//" ++ value
    let host := lib.lower (String.ofList ((← lib.hostname candidate).toList.rdropWhile (· = '.')))
    let host := if "www.".toList.isPrefixOf host.toList then String.ofList (host.toList.drop 4) else host
    match lib.idna host with
    | none => .error (.valueError "domain cannot be normalized with IDNA")
    | some host => .ok (nonempty (some host))

def commonSecondLevelSuffixes : List String := ["co.uk", "com.au", "com.br", "com.do", "com.mx", "co.nz", "co.za"]

def joinLabels (labels : List (List Char)) : String := ".".intercalate (labels.map String.ofList)

/-- `registrable_domain`. -/
def registrableDomain (value : Option String) : Except Exc (Option String) := do
  match ← lib.normalizedDomain value with
  | none => .ok none
  | some host =>
    let labels := host.toList.splitOn '.'
    if labels.length ≤ 2 then .ok (some host)
    else
      let suffix2 := joinLabels (labels.drop (labels.length - 2))
      .ok (some (if suffix2 ∈ commonSecondLevelSuffixes then joinLabels (labels.drop (labels.length - 3)) else suffix2))

/-- `text.rpartition("@")`, if there is one. -/
def rpartition (value : List Char) : Option (List Char × List Char) :=
  match value.reverse.span (· ≠ '@') with
  | (_, []) => none
  | (domain, _ :: localPart) => some (localPart.reverse, domain.reverse)

/-- `normalized_email`. -/
def normalizedEmail (value : Option String) : Except Exc (Option String) :=
  match nonempty value with
  | none => .ok none
  | some value =>
    match rpartition (strip value).toList with
    | none => .error (.valueError "email is malformed")
    | some (localPart, domain) =>
      if localPart = [] ∨ domain = [] then .error (.valueError "email is malformed")
      else do
        match ← lib.normalizedDomain (some (String.ofList domain)) with
        | none => .error (.valueError "email domain is malformed")
        | some host => .ok (some (lib.casefold (String.ofList localPart ++ "@" ++ host)))

def roleEmailLocals : List String := ["admin", "contact", "hello", "info", "office", "sales", "support"]

/-- `role_email`. -/
def roleEmail (value : Option String) : Except Exc Bool := do
  match ← lib.normalizedEmail value with
  | none => .ok false
  | some normalized => .ok (decide (String.ofList (normalized.toList.takeWhile (· ≠ '@')) ∈ roleEmailLocals))

/-- `normalized_phone`. -/
def normalizedPhone (value countryCode : Option String) : Except Exc (Option NormalizedPhone) :=
  match nonempty value with
  | none => .ok none
  | some value =>
    match lib.phonenumbers value countryCode with
    | none => .error (.valueError "telephone number is ambiguous or invalid")
    | some phone =>
      if (value.toList.dropWhile isSpace).head? ≠ some '+' ∧ (nonempty countryCode).isNone then
        .error (.valueError "telephone country context is required")
      else .ok (some phone)

end Library

/-! ## Records of Odoo -/

structure OdooCompany where
  publicId : String
  tenantId : String
  name : String
  legalName : Option String := none
  registrationNumber : Option String := none
  countryCode : String := ""
  domain : Option String := none
  city : Option String := none
  region : Option String := none
  addressLine1 : Option String := none

structure OdooContact where
  publicId : String
  tenantId : String
  fullName : String
  businessEmail : Option String := none
  businessPhone : Option String := none
  countryCode : Option String := none
  title : Option String := none

structure Match where
  score : Int := 0
  publicId : Option String := none
  reasons : List String := []
  deriving DecidableEq

structure MatchPolicy where
  exactThreshold : Int := 90
  reviewThreshold : Int := 70
  version : String := "codestra.sales.identity.v1"

/-! ## Scores -/

variable (lib : Library)

/-- Both are given, and their normal forms agree. -/
def sameComponent (incoming existing : Option String) : Bool :=
  (nonempty incoming).isSome && decide (lib.normalizedAddressComponent incoming = lib.normalizedAddressComponent existing)

/-- How many of country, city and region agree. -/
def locationMatches (incoming : Company) (company : OdooCompany) : Nat :=
  (decide (incoming.countryCode = company.countryCode)).toNat + (sameComponent lib incoming.address.city company.city).toNat +
    (sameComponent lib incoming.address.region company.region).toNat

/-- `company_match`, once neither the registration nor the domain decides. -/
def nameMatch (incoming : Company) (company : OdooCompany) : Match :=
  let incomingName := lib.normalizedCompanyName ((nonempty incoming.legalName).getD incoming.name)
  let existingName := lib.normalizedCompanyName ((nonempty company.legalName).getD company.name)
  let incomingAddress := lib.normalizedAddressComponent incoming.address.line1
  let existingAddress := lib.normalizedAddressComponent company.addressLine1
  let addressExact := incomingAddress ≠ "" ∧ existingAddress ≠ "" ∧ incomingAddress = existingAddress
  let similarity := lib.similarity incomingName existingName
  let places := locationMatches lib incoming company
  if incomingName = existingName ∧ addressExact ∧ incoming.countryCode = company.countryCode then
    { score := 90, publicId := some company.publicId, reasons := ["LEGAL_NAME_ADDRESS_EXACT"] }
  else if 88 ≤ similarity ∧ 2 ≤ places then
    { score := min 89 (75 + places * 4), publicId := some company.publicId, reasons := ["COMPANY_NAME_LOCATION_STRONG"] }
  else if 75 ≤ similarity then
    { score := min 79 similarity, publicId := some company.publicId, reasons := ["COMPANY_NAME_FUZZY_REVIEW"] }
  else {}

/-- The registration numbers are given and agree, in one country. -/
def sameRegistration (incoming : Company) (company : OdooCompany) : Bool :=
  match nonempty incoming.registrationNumber, nonempty company.registrationNumber with
  | some number, some number' =>
    decide (incoming.countryCode = company.countryCode) && decide (lib.casefold number = lib.casefold number')
  | _, _ => false

/-- `company_match`. -/
def companyMatch (candidate : LeadCandidate) (company : OdooCompany) : Except Exc Match :=
  if candidate.tenantId ≠ company.tenantId then .ok { reasons := ["CROSS_TENANT_DENIED"] }
  else
    let incoming := candidate.company
    if sameRegistration lib incoming company then
      .ok { score := 100, publicId := some company.publicId, reasons := ["REGISTRATION_JURISDICTION_EXACT"] }
    else do
      let incomingDomain ← lib.registrableDomain (nonempty incoming.domain <|> incoming.websiteUrl)
      let existingDomain ← lib.registrableDomain company.domain
      if (nonempty incomingDomain).isSome ∧ (nonempty existingDomain).isSome ∧ incomingDomain = existingDomain then
        .ok { score := 95, publicId := some company.publicId, reasons := ["ROOT_DOMAIN_EXACT"] }
      else .ok (nameMatch lib incoming company)

/-- What the e-mail addresses of a contact say, if both are given and agree. -/
def emailMatch (incoming : Contact) (contact : OdooContact) : Except Exc (Option Match) :=
  if (nonempty incoming.businessEmail).isSome ∧ (nonempty contact.businessEmail).isSome then do
    if (← lib.normalizedEmail incoming.businessEmail) = (← lib.normalizedEmail contact.businessEmail) then
      if ← lib.roleEmail incoming.businessEmail then
        .ok (some { score := 75, publicId := some contact.publicId, reasons := ["ROLE_EMAIL_REVIEW_ONLY"] })
      else .ok (some { score := 100, publicId := some contact.publicId, reasons := ["BUSINESS_EMAIL_EXACT"] })
    else .ok none
  else .ok none

/-- What the telephone numbers say, if both are given and agree. -/
def phoneMatch (incoming : Contact) (contact : OdooContact) (company : Match) : Except Exc (Option Match) := do
  let incomingPhone ← lib.normalizedPhone incoming.businessPhone incoming.countryCode
  let existingPhone ← lib.normalizedPhone contact.businessPhone contact.countryCode
  match incomingPhone, existingPhone with
  | some phone, some phone' =>
    if phone.e164 = phone'.e164 then
      if 90 ≤ company.score then
        .ok (some { score := 95, publicId := some contact.publicId, reasons := ["E164_PHONE_COMPANY_CONFIRMED"] })
      else .ok (some { score := 75, publicId := some contact.publicId, reasons := ["SHARED_PHONE_REVIEW_ONLY"] })
    else .ok none
  | _, _ => .ok none

def personMatch (incoming : Contact) (contact : OdooContact) (company : Match) : Match :=
  let names := [nonempty incoming.firstName, nonempty incoming.lastName].filterMap id
  let incomingName := lib.normalizedPersonName (nonempty incoming.fullName <|> some (joinWords names))
  let existingName := lib.normalizedPersonName (some contact.fullName)
  let similarity := if incomingName ≠ "" then lib.similarity incomingName existingName else 0
  let titleCompatible := (nonempty incoming.title).isSome ∧ (nonempty contact.title).isSome ∧
    lib.normalizedPersonName incoming.title = lib.normalizedPersonName contact.title
  if similarity = 100 ∧ 90 ≤ company.score ∧ titleCompatible then
    { score := 85, publicId := some contact.publicId, reasons := ["NAME_COMPANY_TITLE_EXACT"] }
  else if 75 ≤ similarity then
    { score := min 79 similarity, publicId := some contact.publicId, reasons := ["PERSON_NAME_FUZZY_REVIEW"] }
  else {}

/-- `contact_match`. -/
def contactMatch (candidate : LeadCandidate) (contact : OdooContact) (company : Match) : Except Exc Match :=
  if candidate.tenantId ≠ contact.tenantId then .ok { reasons := ["CROSS_TENANT_DENIED"] }
  else do
    match ← emailMatch lib candidate.contact contact with
    | some value => .ok value
    | none =>
      match ← phoneMatch lib candidate.contact contact company with
      | some value => .ok value
      | none => .ok (personMatch lib candidate.contact contact company)

/-- `best_company`. -/
def bestCompany (candidate : LeadCandidate) (values : List OdooCompany) : Except Exc Match := do
  .ok (best Match.score {} (← values.mapM (companyMatch lib candidate)))

/-- `best_contact`. -/
def bestContact (candidate : LeadCandidate) (values : List OdooContact) (company : Match) : Except Exc Match := do
  .ok (best Match.score {} (← values.mapM fun value => contactMatch lib candidate value company))

end Middleware.Sales

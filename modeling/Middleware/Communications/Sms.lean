/-
`app/sms.py`: phone numbers and sender identities, the segments of a text, and the words that opt a number out.
-/
import Middleware.Postgres.Outbox

namespace Middleware.Communications

open Platform (strip)

/-! ## Numbers -/

/-- `^\+[1-9][0-9]{5,18}$`. -/
def isE164 : List Char → Bool
  | '+' :: first :: rest =>
    first.isDigit && first != '0' && decide (5 ≤ rest.length) && decide (rest.length ≤ 18) && rest.all Char.isDigit
  | _ => false

def normalizeE164 (value : String) : Except String String :=
  if isE164 (strip value).toList then .ok (strip value) else .error "SMS recipient must be an E.164 phone number"

/-- `SMS_SENDER`: a number, or up to twenty letters and digits. -/
def isSmsSender (chars : List Char) : Bool :=
  isE164 chars || (decide (1 ≤ chars.length) && decide (chars.length ≤ 20) && chars.all Char.isAlphanum)

def normalizeSmsSender (value : String) : Except String String :=
  if isSmsSender (strip value).toList then .ok (strip value)
  else .error "SMS sender must be an approved E.164 number or 1-20 character alphanumeric identity"

/-! ## Segments -/

structure SmsSegments where
  encoding : String
  characters : Nat
  segments : Nat
  encodedUnits : Nat

def gsmBasic : List Char :=
  ("@£$¥èéùìòÇ\nØø\rÅåΔ_ΦΓΛΩΠΨΣΘΞÆæßÉ !\"#¤%&'()*+,-./0123456789:;<=>?" ++
    "¡ABCDEFGHIJKLMNOPQRSTUVWXYZÄÖÑÜ§¿abcdefghijklmnopqrstuvwxyzäöñüà").toList

def gsmExtension : List Char := "^\x7b\x7d\\[~]|€".toList

def utf16Units (c : Char) : Nat := if c.toNat < 65536 then 1 else 2

/-- `math.ceil(units / per)` above the single segment. -/
def segmentCount (single per units : Nat) : Nat := if units ≤ single then 1 else (units + per - 1) / per

def smsSegments (text : String) : Except String SmsSegments :=
  let chars := text.toList
  if chars.isEmpty then .error "SMS content.text is required"
  else if 5000 < chars.length then .error "SMS content.text exceeds 5000 characters"
  else if chars.all fun c => gsmBasic.contains c || gsmExtension.contains c then
    let units := (chars.map fun c => if gsmExtension.contains c then 2 else 1).sum
    .ok ⟨"GSM-7", chars.length, segmentCount 160 153 units, units⟩
  else
    let units := (chars.map utf16Units).sum
    .ok ⟨"UCS-2", chars.length, segmentCount 70 67 units, units⟩

/-! ## Keywords -/

/-- `str.upper()` as far as it gives ASCII letters: besides the small ones, these are the dotless i, the long s, the sharp s
and the two ligatures of s and t. The other ligatures and the letters with a separate accent give words that are no keywords. -/
def upperChars (c : Char) : List Char :=
  if c.isLower then [c.toUpper]
  else if c = '\u0131' then ['I']
  else if c = '\u017f' then ['S']
  else if c = '\u00df' then ['S', 'S']
  else if c = '\ufb05' ∨ c = '\ufb06' then ['S', 'T']
  else [c]

def stopKeywords : List String := ["STOP", "STOPALL", "UNSUBSCRIBE", "CANCEL", "END", "QUIT"]

def helpKeywords : List String := ["HELP"]

inductive ComplianceAction where
  | stop
  | help
  deriving DecidableEq

def ComplianceAction.value : ComplianceAction → String
  | stop => "stop"
  | help => "help"

def complianceKeyword (text : String) : Option ComplianceAction :=
  let keyword := (strip text).toList.flatMap upperChars
  if stopKeywords.any fun word => word.toList = keyword then some .stop
  else if helpKeywords.any fun word => word.toList = keyword then some .help
  else none

end Middleware.Communications

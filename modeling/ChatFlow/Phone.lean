import ChatFlow.Number.Reading

/-!
# Phone numbers

A phone number counts by its digits alone. Its country is told by the calling code that the digits
begin with, the longest one that is known.
-/

namespace ChatFlow

/-- Calling codes and the countries they belong to. -/
def callingCodes : List (String × String) :=
  [("1", "US/CA"), ("7", "RU"), ("20", "EG"), ("27", "ZA"), ("30", "GR"), ("31", "NL"),
   ("32", "BE"), ("33", "FR"), ("34", "ES"), ("36", "HU"), ("39", "IT"), ("40", "RO"),
   ("41", "CH"), ("43", "AT"), ("44", "GB"), ("45", "DK"), ("46", "SE"), ("47", "NO"),
   ("48", "PL"), ("49", "DE"), ("51", "PE"), ("52", "MX"), ("53", "CU"), ("54", "AR"),
   ("55", "BR"), ("56", "CL"), ("57", "CO"), ("58", "VE"), ("60", "MY"), ("61", "AU"),
   ("62", "ID"), ("63", "PH"), ("64", "NZ"), ("65", "SG"), ("66", "TH"), ("81", "JP"),
   ("82", "KR"), ("84", "VN"), ("86", "CN"), ("90", "TR"), ("91", "IN"), ("92", "PK"),
   ("93", "AF"), ("94", "LK"), ("95", "MM"), ("98", "IR"), ("212", "MA"), ("213", "DZ"),
   ("216", "TN"), ("218", "LY"), ("220", "GM"), ("221", "SN"), ("234", "NG"), ("249", "SD"),
   ("254", "KE"), ("255", "TZ"), ("256", "UG"), ("260", "ZM"), ("263", "ZW"), ("351", "PT"),
   ("352", "LU"), ("353", "IE"), ("354", "IS"), ("358", "FI"), ("370", "LT"), ("371", "LV"),
   ("372", "EE"), ("380", "UA"), ("381", "RS"), ("385", "HR"), ("386", "SI"), ("420", "CZ"),
   ("421", "SK"), ("852", "HK"), ("853", "MO"), ("855", "KH"), ("856", "LA"), ("880", "BD"),
   ("886", "TW"), ("960", "MV"), ("961", "LB"), ("962", "JO"), ("963", "SY"), ("964", "IQ"),
   ("965", "KW"), ("966", "SA"), ("967", "YE"), ("968", "OM"), ("970", "PS"), ("971", "AE"),
   ("972", "IL"), ("973", "BH"), ("974", "QA"), ("975", "BT"), ("976", "MN"), ("977", "NP"),
   ("992", "TJ"), ("993", "TM"), ("994", "AZ"), ("995", "GE"), ("996", "KG"), ("998", "UZ")]

/-- The ASCII digits of a phone number. -/
def phoneDigits (phone : String) : List Char :=
  phone.toList.filter isAsciiDigit

/-- The calling code of some length that the digits begin with, with its country. -/
def codeOfLength? (digits : List Char) (length : Nat) : Option (String × String) :=
  callingCodes.find? (·.1 == String.ofList (digits.take length))

/-- The longest calling code that the digits begin with, with its country. -/
def callingCode? (digits : List Char) : Option (String × String) :=
  [3, 2, 1].findSome? (codeOfLength? digits)

/-- The country of a phone number. -/
def phoneCountry (phone : String) : String :=
  ((callingCode? (phoneDigits phone)).map (·.2)).getD "Unknown"

/-- How a phone number is written. -/
inductive PhoneFormat where
  /-- A plus sign and the digits. -/
  | e164
  /-- The digits without the calling code. -/
  | localDigits
  /-- A plus sign and the digits in groups. -/
  | international
  /-- The digits alone. -/
  | bare
  deriving DecidableEq, Repr

/-- The format of a name; other names give the bare digits. -/
def PhoneFormat.ofName : String → PhoneFormat
  | "e164" => .e164
  | "local" => .localDigits
  | "international" => .international
  | _ => .bare

/-- Eight digits or more in four groups: up to three, three, three, and the rest. Fewer digits stay
together. -/
def groupDigits (digits : List Char) : List Char :=
  if digits.length < 8 then digits
  else
    let first := min 3 (digits.length - 7)
    let rest := digits.drop first
    digits.take first ++ ' ' :: rest.take 3 ++ ' ' :: (rest.drop 3).take 3 ++ ' ' :: rest.drop 6

/-- Writes a phone number in a format. -/
def formatPhone (format : PhoneFormat) (phone : String) : String :=
  let digits := phoneDigits phone
  String.ofList <|
    match format with
    | .e164 => '+' :: digits
    | .localDigits =>
      match callingCode? digits with
      | some (code, _) => digits.drop code.length
      | none => digits
    | .international => '+' :: groupDigits digits
    | .bare => digits

end ChatFlow

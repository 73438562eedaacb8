import FiscalGateway.Sale.Basic
import FiscalGateway.Text.Quoted

/-!
# Which sales the registry accepts

`Sale.validate` checks the parts in a fixed order and reports the first one that is out of bounds.
-/

namespace FiscalGateway

/-- A part of a sale that is out of bounds. -/
inductive Violation where
  | uuid (value : Uuid)
  | taxId (field value : String)
  | sameDelegate
  | premises (value : Nat)
  | identifier (field : String) (maxLength : Nat) (value : String)
  | amount (field : String) (value : Number.Decimal)
  deriving DecidableEq, Repr

/-- The wording of a violation. -/
def Violation.message : Violation → String
  | .uuid value => "uuid_zpravy is not an RFC 4122 UUID of version 1 to 5: " ++ value.text
  | .taxId field value => field ++ " is not a valid tax identifier: " ++ Text.quoted value
  | .sameDelegate => "dic_poverujiciho must differ from dic_popl"
  | .premises value => "id_provoz must be within 1..=999999, got " ++ toString value
  | .identifier field maxLength value =>
    field ++ " must be 1 to " ++ toString maxLength ++
      " characters of [0-9a-zA-Z.,:;/#-_ ], got " ++ Text.quoted value
  | .amount field value =>
    field ++ " must be within ±99999999.99 with at most two decimals, got " ++ value.text

/-- An ASCII digit. -/
def isAsciiDigit (c : Char) : Bool := '0' ≤ c && c ≤ '9'

/-- `CZ` and eight to ten digits. -/
def isTaxId (s : List Char) : Bool :=
  match s with
  | 'C' :: 'Z' :: digits => 8 ≤ digits.length && digits.length ≤ 10 && digits.all isAsciiDigit
  | _ => false

/-- A character that may stand in an identifier. -/
def isIdentifierChar (c : Char) : Bool :=
  isAsciiDigit c || ('a' ≤ c && c ≤ 'z') || ('A' ≤ c && c ≤ 'Z') ||
    c == '.' || c == ',' || c == ':' || c == ';' || c == '/' || c == '#' || c == '-' || c == '_' ||
    c == ' '

/-- Up to `maxLength` such characters, at least one. -/
def isIdentifier (maxLength : Nat) (s : List Char) : Bool :=
  1 ≤ s.length && s.length ≤ maxLength && s.all isIdentifierChar

/-- The greatest amount, 99999999.99. -/
def maxAmount : Number.Decimal := { negative := false, coefficient := 9999999999, places := 2 }

/-- Within the greatest amount either way, and exact with two places. -/
def isAmount (d : Number.Decimal) : Bool := d.magnitudeLE maxAmount && (d.round 2).sameValue d

/-- The first amount that is out of bounds. -/
def checkAmounts : List (String × Number.Decimal) → Except Violation Unit
  | [] => .ok ()
  | (field, value) :: rest =>
    if isAmount value then checkAmounts rest else .error (.amount field value)

/-- Checks a tax identifier. -/
def checkTaxId (field value : String) : Except Violation Unit :=
  if isTaxId value.toList then .ok () else .error (.taxId field value)

/-- Checks an identifier. -/
def checkIdentifier (field : String) (maxLength : Nat) (value : String) : Except Violation Unit :=
  if isIdentifier maxLength value.toList then .ok () else .error (.identifier field maxLength value)

/-- Checks the delegating merchant, who is not the merchant. -/
def checkDelegate (taxId : String) : Option String → Except Violation Unit
  | none => .ok ()
  | some delegate => do
    checkTaxId "dic_poverujiciho" delegate
    if delegate = taxId then throw .sameDelegate

/-- The first part that is out of bounds. -/
def Sale.validate (s : Sale) : Except Violation Unit := do
  if ¬(1 ≤ s.uuid.version ∧ s.uuid.version ≤ 5 ∧ s.uuid.variant = .rfc4122) then
    throw (.uuid s.uuid)
  checkTaxId "dic_popl" s.taxId
  checkDelegate s.taxId s.delegateTaxId
  if ¬(1 ≤ s.premises ∧ s.premises ≤ 999999) then throw (.premises s.premises)
  checkIdentifier "id_pokl" 20 s.register
  checkIdentifier "porad_cis" 25 s.serial
  checkAmounts s.amounts

end FiscalGateway

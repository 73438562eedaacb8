import FiscalGateway.Json.Printer
import FiscalGateway.Json.Record
import FiscalGateway.Sale.Basic
import FiscalGateway.Text.Base64

/-!
# Sales as JSON

`Sale.ofJson` takes amounts as strings or numbers, times and identifiers in their relaxed forms, and
skips members that it does not know; `Sale.toJson` writes each part in one form and leaves out what
is not set.
-/

namespace FiscalGateway

open Json (Member Refusal)

/-- Reads a text that has a form of its own. -/
def Json.readWith (read? : List Char → Option α) (v : Json) : Except Refusal α := do
  let s ← v.readString
  match read? s.toList with
  | some a => return a
  | none => throw .mismatch

/-- An amount: a string, or a number through its own digits or those of its double. -/
def Json.readDecimal : Json → Except Refusal Number.Decimal
  | .string s =>
    match Number.Decimal.read? s.toList with
    | some d => .ok d
    | none => .error .mismatch
  | .number n =>
    match n.quantity? with
    | none => .error .malformed
    | some q =>
      -- a number that is no word has been rounded to a double before it is a decimal
      let digits := match q with
        | .integer i => (toString i).toList
        | .double d => d.text
      match Number.Decimal.read? digits with
      | some d => .ok d
      | none => .error .mismatch
  | v => .error v.refuse

/-- A regime by its number. -/
def Json.readRegime (v : Json) : Except Refusal Regime := do
  match Regime.ofCode? (← v.readBelow 256) with
  | some r => return r
  | none => throw .mismatch

namespace SaleMember

def uuid : Member Uuid := .required "uuid_zpravy" (Json.readWith Uuid.read?)

def sentAt : Member (Option Time.Timestamp) :=
  .optional "dat_odesl" (Json.readWith Time.Timestamp.readRelaxed?)

def firstSending : Member Bool := ⟨"prvni_zaslani", Json.readBool, some true⟩

def checkOnly : Member (Option Bool) := .optional "overeni" Json.readBool

def taxId : Member String := .required "dic_popl" Json.readString

def delegateTaxId : Member (Option String) := .optional "dic_poverujiciho" Json.readString

def premises : Member Nat := .required "id_provoz" (Json.readBelow UInt32.size)

def register : Member String := .required "id_pokl" Json.readString

def serial : Member String := .required "porad_cis" Json.readString

def soldAt : Member (Option Time.Timestamp) :=
  .optional "dat_trzby" (Json.readWith Time.Timestamp.readRelaxed?)

def total : Member Number.Decimal := .required "celk_trzba" Json.readDecimal

def amount (k : AmountKind) : Member (Option Number.Decimal) :=
  .optional k.wireName Json.readDecimal

def regime : Member Regime := ⟨"rezim", Json.readRegime, some .standard⟩

def signatureCode : Member (Option Octets) :=
  .optional "pkp" (Json.readWith Text.Base64.decodeChars)

def fingerprintCode : Member (Option String) := .optional "bkp" Json.readString

/-- Every member, in the order of the wire. -/
def all : List Json.MemberCheck :=
  [uuid.toCheck, sentAt.toCheck, firstSending.toCheck, checkOnly.toCheck, taxId.toCheck,
    delegateTaxId.toCheck, premises.toCheck, register.toCheck, serial.toCheck, soldAt.toCheck,
    total.toCheck] ++ AmountKind.all.map (fun k => (amount k).toCheck) ++
    [regime.toCheck, signatureCode.toCheck, fingerprintCode.toCheck]

end SaleMember

/-- The amounts of a record. A member that was read once is read the same way again. -/
def SaleMember.amountsOf (r : Json.Record) (k : AmountKind) : Option Number.Decimal :=
  match (SaleMember.amount k).get r with
  | .ok d? => d?
  | .error _ => none

/-- Reads a sale. -/
def Sale.ofJson (v : Json) : Except Refusal Sale := do
  let r ← Json.Record.ofJson SaleMember.all v
  return {
    uuid := ← SaleMember.uuid.get r
    sentAt := ← SaleMember.sentAt.get r
    firstSending := ← SaleMember.firstSending.get r
    checkOnly := ← SaleMember.checkOnly.get r
    taxId := ← SaleMember.taxId.get r
    delegateTaxId := ← SaleMember.delegateTaxId.get r
    premises := ← SaleMember.premises.get r
    register := ← SaleMember.register.get r
    serial := ← SaleMember.serial.get r
    soldAt := ← SaleMember.soldAt.get r
    total := ← SaleMember.total.get r
    amount := SaleMember.amountsOf r
    regime := ← SaleMember.regime.get r
    signatureCode := ← SaleMember.signatureCode.get r
    fingerprintCode := ← SaleMember.fingerprintCode.get r }

/-- Reads a sale from a text. -/
def Sale.read (s : String) : Except Refusal Sale := Json.readText Sale.ofJson s

/-- A member that is written only where it is set. -/
def optionalMember (name : String) (write : α → Json) : Option α → List (String × Json)
  | some a => [(name, write a)]
  | none => []

/-- A text written by characters. -/
def Json.ofChars (s : List Char) : Json := .string (String.ofList s)

/-- Writes a sale. -/
def Sale.toJson (s : Sale) : Json :=
  .object <|
    [("uuid_zpravy", Json.ofChars s.uuid.write)] ++
    optionalMember "dat_odesl" (fun t => Json.ofChars t.write) s.sentAt ++
    [("prvni_zaslani", .bool s.firstSending)] ++
    optionalMember "overeni" .bool s.checkOnly ++
    [("dic_popl", .string s.taxId)] ++
    optionalMember "dic_poverujiciho" .string s.delegateTaxId ++
    [("id_provoz", .ofNat s.premises), ("id_pokl", .string s.register),
      ("porad_cis", .string s.serial)] ++
    optionalMember "dat_trzby" (fun t => Json.ofChars t.write) s.soldAt ++
    [("celk_trzba", Json.ofChars s.total.write)] ++
    AmountKind.all.flatMap (fun k =>
      optionalMember k.wireName (fun d => Json.ofChars d.write) (s.amount k)) ++
    [("rezim", .ofNat s.regime.code)] ++
    optionalMember "pkp" (fun b => Json.ofChars (Text.Base64.encodeChars b)) s.signatureCode ++
    optionalMember "bkp" .string s.fingerprintCode

end FiscalGateway

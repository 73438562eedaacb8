import FiscalGateway.Json.Printer
import FiscalGateway.Number.Integer
import FiscalGateway.Sale.Json
import FiscalGateway.Soap.Vocabulary
import FiscalGateway.Xml.Query

/-!
# Answers of the registry

`Response.ofElement` reads the element that carries an answer. An answer has a header, exactly one
outcome, and any number of warnings.
-/

namespace FiscalGateway.Soap

/-- The elements of an answer. -/
inductive AnswerElement where
  | header
  | confirmation
  | rejection
  | warning
  deriving DecidableEq, Repr

/-- The name of an element. -/
def AnswerElement.name : AnswerElement → String
  | .header => "Hlavicka"
  | .confirmation => "Potvrzeni"
  | .rejection => "Chyba"
  | .warning => "Varovani"

/-- What is wrong with the value of an attribute. -/
inductive ValueFault where
  | missing
  | integer (fault : Number.IntegerFault)
  | notBoolean (value : String)
  /-- No identifier or no time. -/
  | malformed
  deriving DecidableEq, Repr

/-- The wording of a fault. -/
def ValueFault.message : ValueFault → String
  | .missing => "missing"
  | .integer fault => fault.message
  | .notBoolean value => "not a boolean: " ++ value
  | .malformed => "*"

/-- Why an element is no answer. -/
inductive AnswerFault where
  | missing (element : AnswerElement)
  | ambiguous
  | attribute (element : AnswerElement) (name : String) (fault : ValueFault)
  deriving DecidableEq, Repr

/-- The wording of a fault. -/
def AnswerFault.message : AnswerFault → String
  | .missing element => "Odpoved has no " ++ element.name ++ " element"
  | .ambiguous => "Odpoved must carry exactly one of Potvrzeni and Chyba"
  | .attribute element name fault =>
    "invalid attribute " ++ element.name ++ "/@" ++ name ++ ": " ++ fault.message

/-- The header of an answer. -/
structure AnswerHeader where
  uuid : Option Uuid
  fingerprintCode : Option String
  acceptedAt : Option Time.Timestamp
  rejectedAt : Option Time.Timestamp
  deriving DecidableEq, Repr

/-- The sale was registered. -/
structure Confirmation where
  fiscalCode : String
  test : Bool
  deriving DecidableEq, Repr

/-- The sale was not registered. -/
structure Refusal where
  code : Int
  text : String
  test : Bool
  deriving DecidableEq, Repr

/-- A warning beside an outcome. -/
structure Warning where
  code : Int
  text : String
  deriving DecidableEq, Repr

/-- An answer. -/
structure Response where
  header : AnswerHeader
  confirmation : Option Confirmation
  refusal : Option Refusal
  warnings : List Warning
  deriving DecidableEq, Repr

/-- The characters of a value without blanks at its ends. -/
def trimmed (s : String) : List Char := Text.trim s.toList

/-- The value of an attribute that must be there. -/
def requiredValue (element : AnswerElement) (e : Xml.Element) (name : String) :
    Except AnswerFault String :=
  match e.attribute? name with
  | some value => .ok value
  | none => .error (.attribute element name .missing)

/-- An integer that must be there. -/
def integerValue (element : AnswerElement) (e : Xml.Element) (name : String) :
    Except AnswerFault Int := do
  let value ← requiredValue element e name
  (Number.readInt32 (trimmed value)).mapError fun fault => .attribute element name (.integer fault)

/-- A value of the header that may be missing. -/
def headerValue (read? : List Char → Option α) (e : Xml.Element) (name : String) :
    Except AnswerFault (Option α) :=
  match e.attribute? name with
  | none => .ok none
  | some value =>
    match read? (trimmed value) with
    | some a => .ok (some a)
    | none => .error (.attribute .header name .malformed)

/-- The mark of an answer that was only a test; without a mark it was none. -/
def testValue (element : AnswerElement) (e : Xml.Element) : Except AnswerFault Bool :=
  match (e.attribute? "test").map trimmed with
  | none => .ok false
  | some value =>
    if value = "false".toList ∨ value = ['0'] then .ok false
    else if value = "true".toList ∨ value = ['1'] then .ok true
    else .error (.attribute element "test" (.notBoolean (String.ofList value)))

/-- Reads the header. -/
def AnswerHeader.ofElement (e : Xml.Element) : Except AnswerFault AnswerHeader := do
  return {
    uuid := ← headerValue Uuid.read? e "uuid_zpravy"
    fingerprintCode := e.attribute? "bkp"
    acceptedAt := ← headerValue Time.Timestamp.readExact? e "dat_prij"
    rejectedAt := ← headerValue Time.Timestamp.readExact? e "dat_odmit" }

/-- Reads a confirmation. -/
def Confirmation.ofElement (e : Xml.Element) : Except AnswerFault Confirmation := do
  return {
    fiscalCode := ← requiredValue .confirmation e "fik"
    test := ← testValue .confirmation e }

/-- Reads a refusal. -/
def Refusal.ofElement (e : Xml.Element) : Except AnswerFault Refusal := do
  return {
    code := ← integerValue .rejection e "kod"
    text := e.text
    test := ← testValue .rejection e }

/-- Reads a warning. -/
def Warning.ofElement (e : Xml.Element) : Except AnswerFault Warning := do
  return { code := ← integerValue .warning e "kod_varov", text := e.text }

/-- Reads the first child of a kind, if there is one. -/
def readChild (e : Xml.Element) (kind : AnswerElement)
    (read : Xml.Element → Except AnswerFault α) : Except AnswerFault (Option α) :=
  match e.find? receiptNs kind.name with
  | some (_, c) => some <$> read c
  | none => .ok none

namespace Response

/-- Reads an answer. -/
def ofElement (e : Xml.Element) : Except AnswerFault Response := do
  match e.find? receiptNs AnswerElement.header.name with
  | none => throw (.missing .header)
  | some (_, h) =>
    let header ← AnswerHeader.ofElement h
    let confirmation ← readChild e .confirmation Confirmation.ofElement
    let refusal ← readChild e .rejection Refusal.ofElement
    if confirmation.isSome = refusal.isSome then throw .ambiguous
    let warnings ← (e.findAll receiptNs AnswerElement.warning.name).mapM Warning.ofElement
    return ⟨header, confirmation, refusal, warnings⟩

/-- The fiscal code of a confirmed sale. -/
def fiscalCode? (r : Response) : Option String := r.confirmation.map (·.fiscalCode)

/-- Whether the answer was only a test. -/
def isTest (r : Response) : Bool :=
  match r.confirmation, r.refusal with
  | some c, _ => c.test
  | none, some e => e.test
  | none, none => false

end Response

/-- An integer in JSON. -/
def jsonOfInt (n : Int) : Json := .number ⟨n < 0, Nat.toDigits 10 n.natAbs, [], none⟩

/-- The header in JSON. -/
def AnswerHeader.toJson (h : AnswerHeader) : Json :=
  .object <|
    optionalMember "uuid_zpravy" (fun u => Json.ofChars u.write) h.uuid ++
    optionalMember "bkp" .string h.fingerprintCode ++
    optionalMember "dat_prij" (fun t => Json.ofChars t.write) h.acceptedAt ++
    optionalMember "dat_odmit" (fun t => Json.ofChars t.write) h.rejectedAt

/-- A confirmation in JSON. -/
def Confirmation.toJson (c : Confirmation) : Json :=
  .object [("fik", .string c.fiscalCode), ("test", .bool c.test)]

/-- A refusal in JSON. -/
def Refusal.toJson (r : Refusal) : Json :=
  .object [("kod", jsonOfInt r.code), ("message", .string r.text), ("test", .bool r.test)]

/-- A warning in JSON. -/
def Warning.toJson (w : Warning) : Json :=
  .object [("kod_varov", jsonOfInt w.code), ("message", .string w.text)]

/-- An answer in JSON; what is not there is left out. -/
def Response.toJson (r : Response) : Json :=
  .object <|
    [("header", r.header.toJson)] ++
    optionalMember "confirmation" Confirmation.toJson r.confirmation ++
    optionalMember "error" Refusal.toJson r.refusal ++
    if r.warnings.isEmpty then [] else [("warnings", .array (r.warnings.map Warning.toJson))]

end FiscalGateway.Soap

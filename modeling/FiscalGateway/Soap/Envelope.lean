import FiscalGateway.Sale.Basic
import FiscalGateway.Soap.Markup
import FiscalGateway.Soap.Vocabulary
import FiscalGateway.Text.Base64

/-!
# Requests

`Sale.markup` gives the element that carries a sale, and `wrapBody` the envelope around a body. The
envelope has a certificate but no signature yet: `digestSlot` and `signatureSlot` stand where the
values will be.
-/

namespace FiscalGateway

/-- The parts without which a sale cannot be sent. -/
inductive RequiredPart where
  | sentAt
  | soldAt
  | signatureCode
  | fingerprintCode
  deriving DecidableEq, Repr

/-- The name of a part on the wire. -/
def RequiredPart.wireName : RequiredPart → String
  | .sentAt => "dat_odesl"
  | .soldAt => "dat_trzby"
  | .signatureCode => "pkp"
  | .fingerprintCode => "bkp"

/-- The wording of a sale without a part. -/
def RequiredPart.message (p : RequiredPart) : String := "sale field " ++ p.wireName ++ " is not set"

namespace Soap

/-- The value of a part that must be there. -/
def require (part : RequiredPart) : Option α → Except RequiredPart α
  | some a => .ok a
  | none => .error part

/-- A truth value on the wire. -/
def flagText (b : Bool) : List Char := if b then "true".toList else "false".toList

/-- An attribute that is written only where it is set. -/
def optionalAttribute (name : String) (write : α → List Char) : Option α → List MarkupAttribute
  | some a => [(name, write a)]
  | none => []

/-- The attributes of the header of a sale. -/
def headerAttributes (s : Sale) (sentAt : Time.Timestamp) : List MarkupAttribute :=
  [("uuid_zpravy", s.uuid.write), ("dat_odesl", sentAt.writeSeconds),
    ("prvni_zaslani", flagText s.firstSending)] ++
    optionalAttribute "overeni" flagText s.checkOnly

/-- The attributes of the data of a sale. -/
def dataAttributes (s : Sale) (soldAt : Time.Timestamp) : List MarkupAttribute :=
  [("dic_popl", s.taxId.toList)] ++
    optionalAttribute "dic_poverujiciho" String.toList s.delegateTaxId ++
    [("id_provoz", Nat.toDigits 10 s.premises), ("id_pokl", s.register.toList),
      ("porad_cis", s.serial.toList), ("dat_trzby", soldAt.writeSeconds)] ++
    s.amounts.map (fun (name, d) => (name, d.wire)) ++
    [("rezim", Nat.toDigits 10 s.regime.code)]

/-- The element with both codes of a sale. -/
def codesMarkup (signatureCode : Octets) (fingerprintCode : String) : Markup :=
  .element "KontrolniKody" []
    [.element "pkp"
      [("digest", "SHA256".toList), ("cipher", "RSA2048".toList), ("encoding", "base64".toList)]
      [.text (Text.Base64.encodeChars signatureCode)],
    .element "bkp" [("digest", "SHA1".toList), ("encoding", "base16".toList)]
      [.text fingerprintCode.toList]]

end Soap

open Soap in
/-- The element that carries a sale. -/
def Sale.markup (s : Sale) : Except RequiredPart Markup := do
  let sentAt ← require .sentAt s.sentAt
  let soldAt ← require .soldAt s.soldAt
  let signatureCode ← require .signatureCode s.signatureCode
  let fingerprintCode ← require .fingerprintCode s.fingerprintCode
  return .element "Trzba" [("xmlns", receiptNs.toList)]
    [.empty "Hlavicka" (headerAttributes s sentAt), .empty "Data" (dataAttributes s soldAt),
      codesMarkup signatureCode fingerprintCode]

namespace Soap

/-- Where the digest of the body will be. -/
def digestSlot : List Char := "<ds:DigestValue></ds:DigestValue>".toList

/-- Where the signature will be. -/
def signatureSlot : List Char := "<ds:SignatureValue></ds:SignatureValue>".toList

/-- The envelope up to the token. -/
def beforeToken : String :=
  "<s:Envelope xmlns:s=\"" ++ envelopeNs ++ "\" xmlns:u=\"" ++ utilityNs ++
  "\"><s:Header><wsse:Security xmlns:wsse=\"" ++ securityNs ++ "\" xmlns:wse=\"" ++ utilityNs ++
  "\" s:mustUnderstand=\"1\"><wsse:BinarySecurityToken EncodingType=\"" ++ tokenEncoding ++
  "\" ValueType=\"" ++ tokenType ++ "\" wse:Id=\"" ++ tokenId ++ "\">"

/-- The envelope between the token and the digest. -/
def beforeDigest : String :=
  "</wsse:BinarySecurityToken><ds:Signature xmlns:ds=\"" ++ signatureNs ++
  "\" Id=\"SIG-1\"><ds:SignedInfo><ds:CanonicalizationMethod Algorithm=\"" ++ canonicalAlgorithm ++
  "\"></ds:CanonicalizationMethod><ds:SignatureMethod Algorithm=\"" ++ signatureAlgorithm ++
  "\"></ds:SignatureMethod><ds:Reference URI=\"#" ++ bodyId ++
  "\"><ds:Transforms><ds:Transform Algorithm=\"" ++ canonicalAlgorithm ++
  "\"></ds:Transform></ds:Transforms><ds:DigestMethod Algorithm=\"" ++ digestAlgorithm ++
  "\"></ds:DigestMethod>"

/-- The envelope between the digest and the signature. -/
def beforeSignature : String := "</ds:Reference></ds:SignedInfo>"

/-- The envelope between the signature and the body. -/
def beforeBody : String :=
  "<ds:KeyInfo><wsse:SecurityTokenReference><wsse:Reference URI=\"#" ++ tokenId ++
  "\" ValueType=\"" ++ tokenType ++
  "\"></wsse:Reference></wsse:SecurityTokenReference></ds:KeyInfo></ds:Signature>" ++
  "</wsse:Security></s:Header><s:Body u:Id=\"" ++ bodyId ++ "\">"

/-- The envelope behind the body. -/
def afterBody : String := "</s:Body></s:Envelope>"

/-- The envelope of a body with a certificate. -/
def wrapBody (body : List Char) (certificate : Octets) : List Char :=
  beforeToken.toList ++ Text.Base64.encodeChars certificate ++ beforeDigest.toList ++ digestSlot ++
    beforeSignature.toList ++ signatureSlot ++ beforeBody.toList ++ body ++ afterBody.toList

/-- The envelope of a sale with a certificate. -/
def envelopeOf (s : Sale) (certificate : Octets) : Except RequiredPart (List Char) := do
  return wrapBody (← s.markup).write certificate

end Soap
end FiscalGateway

import FiscalGateway.Pki.Pool
import FiscalGateway.Soap.Response
import FiscalGateway.Soap.Signing
import FiscalGateway.Text.Quoted

/-!
# Checking answers

`checkSignature` checks the digest of the body and the signature over it; `Verifier.verify` also
asks who signed, and reads the answer only from what was checked.
-/

namespace FiscalGateway.Soap

/-- The parts that a message must have to be checked. -/
inductive MessagePart where
  | body
  | signature
  | token
  | signedInfo
  | reference
  | answer
  /-- A child of the signature or of a part of it, by its name. -/
  | child (name : String)
  deriving DecidableEq, Repr

/-- The name of a part. -/
def MessagePart.text : MessagePart → String
  | .body => "s:Body"
  | .signature => "ds:Signature"
  | .token => "wsse:BinarySecurityToken"
  | .signedInfo => "ds:SignedInfo"
  | .reference => "ds:Reference"
  | .answer => "Odpoved"
  | .child name => name

/-- Why a reference does not cover the body. -/
inductive ReferenceFault where
  | severalReferences
  | bodyWithoutId
  | elsewhere (uri bodyId : String)
  deriving DecidableEq, Repr

/-- The wording of a fault. -/
def ReferenceFault.message : ReferenceFault → String
  | .severalReferences => "more than one Reference"
  | .bodyWithoutId => "s:Body has no Id"
  | .elsewhere uri bodyId =>
    "URI " ++ Text.quoted uri ++ " does not point at body " ++ Text.quoted bodyId

/-- Why an answer is refused. -/
inductive VerifyFault where
  | xml (error : Xml.Error)
  | malformed (text : String)
  | missing (part : MessagePart)
  | soapFault (code text : String)
  | encoding (element : String)
  | answer (fault : AnswerFault)
  | certificate
  | organization (expected : String) (found : Option String)
  | chain (rejection : Pki.Rejection)
  | reference (fault : ReferenceFault)
  | algorithm (text : String)
  | digest
  | signature
  | uuid (expected found : Uuid)
  /-- A key that cannot be used. -/
  | crypto
  deriving DecidableEq, Repr

/-- The wording of a fault. -/
def VerifyFault.message : VerifyFault → String
  | .xml error => error.message
  | .malformed text => text
  | .missing part => "response has no " ++ part.text
  | .soapFault code text => "SOAP fault " ++ code ++ ": " ++ text
  | .encoding element => "invalid base64 in " ++ element ++ ": *"
  | .answer fault => fault.message
  | .certificate => "invalid signer certificate: *"
  | .organization expected found =>
    "signer organisation " ++ Text.quotedOption found ++ " does not match " ++ Text.quoted expected
  | .chain rejection => rejection.message
  | .reference fault => "reference mismatch: " ++ fault.message
  | .algorithm text => "unsupported algorithm: " ++ text
  | .digest => "body digest mismatch"
  | .signature => "signature verification failed"
  | .uuid expected found =>
    "response UUID " ++ found.text ++ " does not match request UUID " ++ expected.text
  | .crypto => "*"

/-- Whether a fault means that there is no proper message, and not that it is not to be trusted. -/
def VerifyFault.isParseFault : VerifyFault → Bool
  | .xml _ | .malformed _ | .missing _ | .soapFault _ _ | .encoding _ | .answer _ => true
  | _ => false

/-- The element that steps lead to, with its path. -/
def locate (d : Xml.Document) (steps : List (String × String)) (part : MessagePart) :
    Except VerifyFault (Xml.Path × Xml.Element) :=
  match d.findPath? steps with
  | none => .error (.missing part)
  | some path =>
    match d.elementAt? path with
    | some e => .ok (path, e)
    | none => .error (.missing part)

/-- The first child of a signature element with this name. -/
def requiredChild (e : Xml.Element) (name : String) : Except VerifyFault Xml.Element :=
  match e.find? signatureNs name with
  | some (_, c) => .ok c
  | none => .error (.missing (.child name))

/-- Accepts one algorithm only. -/
def requireAlgorithm (e : Xml.Element) (expected : String) : Except VerifyFault Unit :=
  let given := e.attribute? "Algorithm"
  if given = some expected then .ok ()
  else .error (.algorithm (e.tag.name.localPart ++ ": " ++ given.getD "<none>"))

/-- The inclusive prefixes of a use of the canonical form. -/
def inclusivePrefixes (e : Xml.Element) : List String :=
  match (e.find? canonicalAlgorithm "InclusiveNamespaces").bind fun (_, c) =>
      c.attribute? "PrefixList" with
  | some words => (Text.words words.toList).map String.ofList
  | none => []

/-- The octets of a value in base64; blanks inside it do not count. -/
def decodeValue (element : String) (text : String) : Except VerifyFault Octets :=
  match Text.Base64.decodeChars (text.toList.filter fun c => !Text.isBlank c) with
  | some b => .ok b
  | none => .error (.encoding element)

/-- The certificate of the signer. -/
def signerCertificate (d : Xml.Document) : Except VerifyFault Pki.Certificate := do
  let (_, token) ← locate d tokenSteps .token
  match Pki.Certificate.ofDer? (← decodeValue "BinarySecurityToken" token.text) with
  | some c => return c
  | none => throw .certificate

/-- The only reference of a signature. -/
def onlyReference (signedInfo : Xml.Element) : Except VerifyFault Xml.Element :=
  match signedInfo.findAll signatureNs "Reference" with
  | [] => .error (.missing .reference)
  | [r] => .ok r
  | _ => .error (.reference .severalReferences)

/-- The identifier of the body. -/
def bodyIdentifier (body : Xml.Element) : Except VerifyFault String :=
  match (body.attributeIn? utilityNs "Id").or (body.attribute? "Id") with
  | some id => .ok id
  | none => .error (.reference .bodyWithoutId)

/-- Accepts a reference to the body only. -/
def requireTarget (reference : Xml.Element) (id : String) : Except VerifyFault Unit :=
  let uri := (reference.attribute? "URI").getD ""
  if uri.toList = '#' :: id.toList then .ok () else .error (.reference (.elsewhere uri id))

/-- The inclusive prefixes of all transforms of a reference, each of them the canonical form. -/
def transformPrefixes (reference : Xml.Element) : Except VerifyFault (List String) :=
  match reference.find? signatureNs "Transforms" with
  | none => .ok []
  | some (_, transforms) => do
    let lists ← (transforms.findAll signatureNs "Transform").mapM fun t => do
      requireAlgorithm t canonicalAlgorithm
      return inclusivePrefixes t
    return lists.flatten

/-- The octets that the digest of a message is computed from, and the digest that it states. -/
def digestedBody (d : Xml.Document) (signedInfo : Xml.Element) :
    Except VerifyFault (Octets × Octets) := do
  let reference ← onlyReference signedInfo
  let (bodyPath, body) ← locate d bodySteps .body
  requireTarget reference (← bodyIdentifier body)
  let prefixes ← transformPrefixes reference
  requireAlgorithm (← requiredChild reference "DigestMethod") digestAlgorithm
  let stated ← decodeValue "DigestValue" (← requiredChild reference "DigestValue").text
  let octets ← (canonicalOctets d bodyPath prefixes).mapError .xml
  return (octets, stated)

/-- Checks a signature with a key; only RSA keys are of use. -/
def checkValue (key : Option Pki.PublicKey) (message signature : Octets) :
    Except VerifyFault Unit :=
  match key with
  | some (.rsa k) =>
    if Crypto.Rsa.verify .sha256 k message signature then .ok () else .error .signature
  | _ => .error .crypto

/-- Checks the digest of the body and the signature of a message against a certificate. -/
def checkSignature (d : Xml.Document) (c : Pki.Certificate) : Except VerifyFault Unit := do
  let (signaturePath, signature) ← locate d signatureSteps .signature
  match signature.find? signatureNs "SignedInfo" with
  | none => throw (.missing .signedInfo)
  | some (index, signedInfo) =>
    let method ← requiredChild signedInfo "CanonicalizationMethod"
    requireAlgorithm method canonicalAlgorithm
    requireAlgorithm (← requiredChild signedInfo "SignatureMethod") signatureAlgorithm
    let (octets, stated) ← digestedBody d signedInfo
    if Crypto.sha256 octets ≠ stated then throw .digest
    -- the digest is right, so the signature over it covers the body as well
    let covered ← (canonicalOctets d (signaturePath ++ [index]) (inclusivePrefixes method)).mapError
      .xml
    let value ← decodeValue "SignatureValue" (← requiredChild signature "SignatureValue").text
    checkValue c.parts.key covered value

/-- The text of the first child with this name in any namespace, without blanks at its ends. -/
def faultField (fault : Xml.Element) (name : String) : String :=
  match fault.elements.find? fun (_, c) => c.tag.name.localPart == name with
  | some (_, c) => String.ofList (trimmed c.text)
  | none => ""

/-- Reports the fault that a body carries. -/
def checkFault (body : Xml.Element) : Except VerifyFault Unit :=
  match body.find? envelopeNs "Fault" with
  | none => .ok ()
  | some (_, fault) =>
    .error (.soapFault (faultField fault "faultcode") (faultField fault "faultstring"))

/-- Who may sign answers. -/
structure Verifier where
  chain : Pki.ChainCheck
  organization : String

namespace Verifier

/-- Checks who signed. -/
def checkSigner (v : Verifier) (c : Pki.Certificate) : Except VerifyFault Unit := do
  let found := c.parts.subject.organization?
  if found ≠ some v.organization then throw (.organization v.organization found)
  (v.chain c).mapError .chain

/-- Accepts an answer to this request only; an answer without identifier fits any. -/
def checkRequest (request : Uuid) (r : Response) : Except VerifyFault Unit :=
  match r.header.uuid with
  | none => .ok ()
  | some found => if found = request then .ok () else .error (.uuid request found)

/-- Checks an answer to a request and reads it. -/
def verify (v : Verifier) (input : Octets) (request : Uuid) : Except VerifyFault Response := do
  let d ← (Xml.Document.parse input).mapError .xml
  if !d.root.isNamed envelopeNs "Envelope" then
    throw (.malformed ("unexpected root element " ++ d.root.tag.name.text))
  let (_, body) ← locate d bodySteps .body
  -- a fault is told first, be the message signed or not
  checkFault body
  let _ ← locate d signatureSteps .signature
  let c ← signerCertificate d
  v.checkSigner c
  checkSignature d c
  match body.find? receiptNs "Odpoved" with
  | none => throw (.missing .answer)
  | some (_, answer) =>
    let r ← (Response.ofElement answer).mapError .answer
    checkRequest request r
    return r

end Verifier
end FiscalGateway.Soap

import FiscalGateway.Pki.PrivateKey
import FiscalGateway.Soap.Envelope
import FiscalGateway.Xml.Canonical
import FiscalGateway.Xml.Document

/-!
# Signing requests

`sign` fills the two slots of an envelope: first the digest of the body, then the signature over
the part that holds the digest. The rest of the text stays as it is.
-/

namespace FiscalGateway.Soap

/-- The parts that an envelope must have to be signed. -/
inductive EnvelopePart where
  | body
  | signedInfo
  | digestSlot
  | signatureSlot
  deriving DecidableEq, Repr

/-- The name of a part. -/
def EnvelopePart.text : EnvelopePart → String
  | .body => "s:Body"
  | .signedInfo => "ds:SignedInfo"
  | .digestSlot => "DigestValue"
  | .signatureSlot => "SignatureValue"

/-- Why an envelope is not signed. -/
inductive SigningFault where
  | xml (error : Xml.Error)
  | missing (part : EnvelopePart)
  | signing
  deriving DecidableEq, Repr

/-- The wording of a fault. -/
def SigningFault.message : SigningFault → String
  | .xml error => error.message
  | .missing part => "envelope has no " ++ part.text
  | .signing => "signing failed: *"

/-- The octets of a text. -/
def octetsOf (s : List Char) : Octets := Octets.ofText (String.ofList s)

/-- The octets of the canonical form of an element. -/
def canonicalOctets (d : Xml.Document) (path : Xml.Path) (inclusive : List String) :
    Except Xml.Error Octets :=
  (d.canonicalize path inclusive).map octetsOf

/-- The canonical octets of what the steps lead to in a text. -/
def canonicalPart (part : EnvelopePart) (steps : List (String × String)) (text : List Char) :
    Except SigningFault Octets := do
  let d ← (Xml.Document.ofChars text).mapError .xml
  match d.findPath? steps with
  | none => throw (.missing part)
  | some path => (canonicalOctets d path []).mapError .xml

/-- An element of the signature with a value in base64. -/
def valueElement (name : String) (value : Octets) : List Char :=
  "<ds:".toList ++ name.toList ++ '>' :: Text.Base64.encodeChars value ++
    "</ds:".toList ++ name.toList ++ ['>']

/-- Fills the first slot of a kind. -/
def fillSlot (part : EnvelopePart) (slot : List Char) (value : Octets) (text : List Char) :
    Except SigningFault (List Char) :=
  match Text.replaceFirst? slot (valueElement part.text value) text with
  | some t => .ok t
  | none => .error (.missing part)

/-- Signs an envelope. -/
def sign (envelope : List Char) (key : Pki.PrivateKey) : Except SigningFault (List Char) := do
  let body ← canonicalPart .body bodySteps envelope
  let withDigest ← fillSlot .digestSlot digestSlot (Crypto.sha256 body) envelope
  let signedInfo ← canonicalPart .signedInfo signedInfoSteps withDigest
  match key.sign? signedInfo with
  | none => throw .signing
  | some signature => fillSlot .signatureSlot signatureSlot signature withDigest

end FiscalGateway.Soap

import FiscalGateway.Crypto.Rsa
import FiscalGateway.Pki.Name
import FiscalGateway.Time.Timestamp

/-!
# Certificates

A certificate keeps the octets it was read from together with the parts that trust decisions need.
`Certificate.likelyIssued` asks whether one certificate names another as its issuer, and
`Certificate.isSignedBy` checks the signature itself: of an RSA key, with padding of fixed form and
a hash of the SHA families. Other signatures are not checked here and count as wrong.
-/

namespace FiscalGateway.Pki

open Asn1 (Item objectId)

/-- A public key. -/
inductive PublicKey where
  | rsa (key : Crypto.Rsa.PublicKey)
  /-- A point on the curve that the parameters name. -/
  | ellipticCurve (parameters point : Octets)
  deriving DecidableEq, Repr

/-- The families of keys that a signature can be made with. -/
inductive KeyFamily where
  | rsa
  | ellipticCurve
  deriving DecidableEq, Repr

/-- The family of a key. -/
def PublicKey.family : PublicKey → KeyFamily
  | .rsa _ => .rsa
  | .ellipticCurve .. => .ellipticCurve

/-- An extension. -/
structure Extension where
  kind : Octets
  critical : Bool
  value : Octets
  deriving DecidableEq, Repr, Inhabited

/-- The parts of a certificate. -/
structure CertificateParts where
  /-- What the signature covers. -/
  signedPart : Octets
  version : Nat
  serial : Octets
  issuer : Name
  subject : Name
  /-- Seconds since the first of January of the year 0; none if the time has no exact form. -/
  notBefore : Option Int
  notAfter : Option Int
  /-- None if the key is of an unknown kind or damaged. -/
  key : Option PublicKey
  extensions : List Extension
  /-- The kind of the signature, and the whole identifier inside and outside the signed part. -/
  signatureKind : Octets
  innerAlgorithm : Octets
  outerAlgorithm : Octets
  signature : Octets
  deriving DecidableEq, Repr

namespace CertificateParts

/-- A number of two decimal digits. -/
def twoDigits? (a b : UInt8) : Option Nat :=
  let isDigit (o : UInt8) := 0x30 ≤ o && o ≤ 0x39
  if isDigit a && isDigit b then some ((a.toNat - 0x30) * 10 + (b.toNat - 0x30)) else none

/-- The seconds of a date and time given by pairs of digits. -/
def secondsOf? (year : Nat) : Octets → Option Int
  | [o1, o2, d1, d2, h1, h2, m1, m2, s1, s2, 0x5A] => do
    let date : Time.Date := ⟨year, ← twoDigits? o1 o2, ← twoDigits? d1 d2⟩
    let time : Time.TimeOfDay := ⟨← twoDigits? h1 h2, ← twoDigits? m1 m2, ← twoDigits? s1 s2, 0⟩
    if date.exists? ∧ time.exists? ∧ time.second < 60 then return Time.localSeconds date time else none
  | _ => none

/-- The seconds of a time: the short form has years from 1950 to 2049, the long form four digits;
both end in `Z`. -/
def seconds? (i : Item) : Option Int :=
  match i.tag, i.content with
  | 0x17, y1 :: y2 :: rest => do
    let y ← twoDigits? y1 y2
    secondsOf? (if y < 50 then 2000 + y else 1900 + y) rest
  | 0x18, y1 :: y2 :: y3 :: y4 :: rest => do
    secondsOf? ((← twoDigits? y1 y2) * 100 + (← twoDigits? y3 y4)) rest
  | _, _ => none

/-- The kind of an RSA key. -/
def rsaKind : Octets := objectId [1, 2, 840, 113549, 1, 1, 1]

/-- The kind of a key on an elliptic curve. -/
def ellipticCurveKind : Octets := objectId [1, 2, 840, 10045, 2, 1]

/-- Reads a public key. -/
def publicKey? (i : Item) : Option PublicKey := do
  match ← i.sequence? with
  | [algorithm, key] =>
    let bits ← key.bits?
    match ← algorithm.sequence? with
    | kind :: parameters =>
      if kind.content = rsaKind then
        match ← Item.readSequence? bits with
        | [n, e] => return .rsa ⟨← n.natural?, ← e.natural?⟩
        | _ => none
      else if kind.content = ellipticCurveKind then
        return .ellipticCurve (← parameters.head?).encoding bits
      else none
    | [] => none
  | _ => none

/-- Reads an extension. -/
def extension? (i : Item) : Option Extension := do
  match ← i.sequence? with
  | [kind, value] =>
    return ⟨← kind.content? Asn1.objectIdentifier, false, ← value.content? Asn1.octetString⟩
  | [kind, critical, value] =>
    let flag ← critical.content? Asn1.boolean
    return ⟨← kind.content? Asn1.objectIdentifier, flag ≠ [0], ← value.content? Asn1.octetString⟩
  | _ => none

/-- The kind of an algorithm identifier. -/
def algorithmKind? (i : Item) : Option Octets := do
  (← (← i.sequence?).head?).content? Asn1.objectIdentifier

/-- The version, counted from one, and the items behind it. -/
def takeVersion? (items : List Item) : Option (Nat × List Item) :=
  match items with
  | first :: rest =>
    if first.tag = Asn1.context 0 then do
      match ← Item.readAll? first.content with
      | [v] => return ((← v.natural?) + 1, rest)
      | _ => none
    else some (1, items)
  | [] => none

/-- The extensions among the items behind the key. -/
def takeExtensions? (items : List Item) : Option (List Extension) :=
  match items.find? (·.tag = Asn1.context 3) with
  | none => some []
  | some i => do
    match ← Item.readAll? i.content with
    | [list] => (← list.sequence?).mapM extension?
    | _ => none

/-- Reads the parts of a certificate; what follows it is ignored. -/
def read? (b : Octets) : Option CertificateParts := do
  match ← Item.readSequence? b with
  | [signed, outer, signature] =>
    let (version, items) ← takeVersion? (← signed.sequence?)
    match items with
    | serial :: inner :: issuer :: validity :: subject :: key :: rest =>
      match ← validity.sequence? with
      | [notBefore, notAfter] =>
        if ¬(notBefore.tag ∈ [0x17, 0x18] ∧ notAfter.tag ∈ [0x17, 0x18]) then none
        else if key.tag ≠ Asn1.sequence then none
        else
          return {
            signedPart := signed.encoding
            version := version
            serial := ← serial.content? Asn1.integer
            issuer := ← Name.ofItem? issuer
            subject := ← Name.ofItem? subject
            notBefore := seconds? notBefore
            notAfter := seconds? notAfter
            key := publicKey? key
            extensions := ← takeExtensions? rest
            signatureKind := ← algorithmKind? outer
            innerAlgorithm := inner.encoding
            outerAlgorithm := outer.encoding
            signature := ← signature.bits? }
      | _ => none
    | _ => none
  | _ => none

end CertificateParts

/-- A certificate: its octets and what they say. -/
structure Certificate where
  der : Octets
  parts : CertificateParts
  read_der : CertificateParts.read? der = some parts
  /-- Nothing follows it. -/
  whole : ∃ i, Item.read? der = some (i, [])
  deriving DecidableEq

namespace Certificate

/-- Reads a certificate at the front of the octets; what follows it is dropped. -/
def ofDer? (b : Octets) : Option Certificate :=
  match hi : Item.read? b with
  | none => none
  | some (item, _) =>
    match h : CertificateParts.read? item.encoding with
    | some parts =>
      some ⟨item.encoding, parts, h, item, by simpa using (Item.exists_of_read? hi).2 []⟩
    | none => none

/-- The value of an extension. -/
def extension? (c : Certificate) (kind : Octets) : Option Octets :=
  (c.parts.extensions.find? (·.kind = kind)).map (·.value)

def basicConstraintsKind : Octets := objectId [2, 5, 29, 19]

def keyUsageKind : Octets := objectId [2, 5, 29, 15]

def subjectKeyKind : Octets := objectId [2, 5, 29, 14]

def authorityKeyKind : Octets := objectId [2, 5, 29, 35]

/-- Whether constraints mark the holder as an authority; none if they are damaged. -/
def constraintsMark? (value : Octets) : Option Bool :=
  (Item.readSequence? value).map fun
    | i :: _ => i.tag == Asn1.boolean && i.content ≠ [0]
    | [] => false

/-- Whether the constraints mark the holder as an authority; none if there are no constraints. -/
def authorityMark? (c : Certificate) : Option Bool :=
  (c.extension? basicConstraintsKind).map fun value => (constraintsMark? value).getD false

/-- Whether the holder is marked as an authority. -/
def isAuthority (c : Certificate) : Bool := c.authorityMark? == some true

/-- Whether the key may sign certificates; without a statement on its use it may. -/
def maySign (c : Certificate) : Bool :=
  match c.extension? keyUsageKind with
  | none => true
  | some value =>
    match Item.read? value with
    | some (i, _) => i.tag == Asn1.bitString && (i.content.getD 1 0) &&& 0x04 != 0
    | none => false

/-- The identifier of the certified key. -/
def subjectKey? (c : Certificate) : Option Octets := do
  let (i, _) ← Item.read? (← c.extension? subjectKeyKind)
  i.content? Asn1.octetString

/-- What a certificate says of the key that signed it: the identifier of the key, and name and
serial number of the certificate of that key. -/
structure IssuerKey where
  key : Option Octets
  name : Option Name
  serial : Option Octets
  deriving Repr

/-- What a certificate says of its issuer's key. -/
def issuerKey? (c : Certificate) : Option IssuerKey := do
  let items ← Item.readSequence? (← c.extension? authorityKeyKind)
  let names := (items.find? (·.tag = 0xA1)).bind fun i => Item.readAll? i.content
  let directory := (names.getD []).find? (·.tag = 0xA4)
  return {
    key := (items.find? (·.tag = 0x80)).map (·.content)
    name := do
      let i ← directory
      match ← Item.readAll? i.content with
      | [n] => Name.ofItem? n
      | _ => none
    serial := (items.find? (·.tag = 0x82)).map (·.content) }

/-- Whether two parts agree wherever both are there. -/
def agree [BEq α] : Option α → Option α → Bool
  | some a, some b => a == b
  | _, _ => true

/-- Whether `issuer` fits what `c` says of its issuer's key. -/
def fitsIssuerKey (issuer c : Certificate) : Bool :=
  match c.issuerKey? with
  | none => true
  | some k =>
    agree k.key issuer.subjectKey? && agree k.serial (some issuer.parts.serial) &&
      match k.name with
      | some n => n.same issuer.parts.issuer
      | none => true

/-- The hash of a kind of signature that can be checked. -/
def signatureHash? (kind : Octets) : Option Crypto.Hash :=
  if kind = objectId [1, 2, 840, 113549, 1, 1, 11] then some .sha256
  else if kind = objectId [1, 2, 840, 113549, 1, 1, 5] then some .sha1
  else if kind = objectId [1, 2, 840, 113549, 1, 1, 12] then some .sha384
  else if kind = objectId [1, 2, 840, 113549, 1, 1, 13] then some .sha512
  else if kind = objectId [1, 2, 840, 113549, 1, 1, 14] then some .sha224
  else none

/-- The family of keys that makes a kind of signature. -/
def signatureFamily? (kind : Octets) : Option KeyFamily :=
  if kind.dropLast = objectId [1, 2, 840, 113549, 1, 1] then some .rsa
  else if kind = objectId [1, 2, 840, 10045, 4, 1] then some .ellipticCurve
  else if kind.dropLast = objectId [1, 2, 840, 10045, 4, 3] then some .ellipticCurve
  else none

/-- Whether a certificate names another as its issuer: names, key identifiers and the kind of key
agree. The signature is not looked at. -/
def likelyIssued (issuer c : Certificate) : Bool :=
  issuer.parts.subject.same c.parts.issuer && issuer.fitsIssuerKey c &&
    match issuer.parts.key with
    | some key => signatureFamily? c.parts.signatureKind == some key.family
    | none => false

/-- The same, by a key that may sign certificates. -/
def issued (issuer c : Certificate) : Bool := issuer.likelyIssued c && issuer.maySign

/-- A certificate that names itself as its issuer. -/
def isSelfIssued (c : Certificate) : Bool := c.likelyIssued c

/-- Whether the signature is that of an RSA key, with one of these hashes. -/
def isSignedBy (c : Certificate) (key : PublicKey) : Bool :=
  match key, signatureHash? c.parts.signatureKind with
  | .rsa k, some h =>
    c.parts.innerAlgorithm == c.parts.outerAlgorithm &&
      Crypto.Rsa.verify h k c.parts.signedPart c.parts.signature
  | _, _ => false

/-- The older statement on what a certificate is for. -/
def certificateTypeKind : Octets := objectId [2, 16, 840, 1, 113730, 1, 1]

/-- Whether the older statement names a kind of authority. -/
def hasAuthorityType (c : Certificate) : Bool :=
  match c.extension? certificateTypeKind with
  | none => false
  | some value =>
    match Item.read? value with
    | some (i, _) => i.tag == Asn1.bitString && (i.content.getD 1 0) &&& 0x07 != 0
    | none => false

/-- The kinds of extension whose meaning is known. -/
def knownKinds : List Octets :=
  [certificateTypeKind, keyUsageKind, objectId [2, 5, 29, 17],
    basicConstraintsKind, objectId [2, 5, 29, 32], objectId [2, 5, 29, 31], objectId [2, 5, 29, 37],
    objectId [2, 5, 29, 36], objectId [1, 3, 6, 1, 5, 5, 7, 1, 14], objectId [2, 5, 29, 30],
    objectId [2, 5, 29, 33], objectId [2, 5, 29, 54], objectId [1, 3, 6, 1, 5, 5, 7, 1, 7],
    objectId [1, 3, 6, 1, 5, 5, 7, 1, 8]]

/-- Whether the certificate makes a demand that is not known. -/
def hasUnknownDemand (c : Certificate) : Bool :=
  c.parts.extensions.any fun e => e.critical && !knownKinds.contains e.kind

/-- Whether the certificate may stand above another one: what it says of key use and constraints
must not speak against it, and something must speak for it. Of certificates without extensions only
the oldest version may, if it names itself. -/
def mayIssue (c : Certificate) : Bool :=
  c.maySign &&
    match c.authorityMark? with
    | some mark => mark
    | none =>
      (c.parts.version == 1 && c.isSelfIssued) || (c.extension? keyUsageKind).isSome ||
        c.hasAuthorityType

/-- Whether the certificate is valid at a time, its last second excluded. -/
def isValidAt (c : Certificate) (now : Int) : Bool :=
  match c.parts.notBefore, c.parts.notAfter with
  | some first, some last => first ≤ now && now < last
  | _, _ => false

end Certificate
end FiscalGateway.Pki

import FiscalGateway.Pki.Certificate

/-!
# Private keys

A private key keeps its octets beside its parts, in the one form in which this library writes it.
Keys that are not RSA can be held and compared but not used for signing.
-/

namespace FiscalGateway.Pki

open Asn1 (Item)

/-- The numbers of an RSA key, those for fast computation included. -/
structure RsaNumbers where
  modulus : Nat
  publicExponent : Nat
  privateExponent : Nat
  firstPrime : Nat
  secondPrime : Nat
  firstExponent : Nat
  secondExponent : Nat
  coefficient : Nat
  deriving DecidableEq, Repr

/-- The key for computation. -/
def RsaNumbers.key (n : RsaNumbers) : Crypto.Rsa.PrivateKey :=
  ⟨n.modulus, n.publicExponent, n.privateExponent⟩

/-- What a private key consists of. -/
inductive KeyParts where
  | rsa (numbers : RsaNumbers)
  /-- A key of another kind: its algorithm and its content as they were read, and the public half if
  it is known. -/
  | other (algorithm content : Octets) (publicKey : Option PublicKey)
  deriving DecidableEq, Repr

namespace KeyParts

/-- The public half. -/
def publicKey? : KeyParts → Option PublicKey
  | .rsa n => some (.rsa n.key.publicKey)
  | .other _ _ key => key

/-- Reads the numbers of an RSA key. -/
def readRsa? (b : Octets) : Option RsaNumbers := do
  match ← Item.readSequence? b with
  | [version, n, e, d, p, q, dp, dq, qi] =>
    if version.natural? ≠ some 0 then none
    else
      return {
        modulus := ← n.natural?
        publicExponent := ← e.natural?
        privateExponent := ← d.natural?
        firstPrime := ← p.natural?
        secondPrime := ← q.natural?
        firstExponent := ← dp.natural?
        secondExponent := ← dq.natural?
        coefficient := ← qi.natural? }
  | _ => none

/-- The point of a key on an elliptic curve, where the key carries it. -/
def readPoint? (b : Octets) : Option Octets := do
  let items ← Item.readSequence? b
  let i ← items.find? (·.tag = Asn1.context 1)
  match ← Item.readAll? i.content with
  | [bits] => bits.bits?
  | _ => none

/-- Reads a key; what follows it and attributes of it are ignored. -/
def read? (b : Octets) : Option KeyParts := do
  match ← Item.readSequence? b with
  | version :: algorithm :: key :: _ =>
    -- a version has to be there, but any will do
    let _ ← version.natural?
    let content ← key.content? Asn1.octetString
    match ← algorithm.sequence? with
    | kind :: parameters =>
      if kind.content = CertificateParts.rsaKind then return .rsa (← readRsa? content)
      else if kind.content = CertificateParts.ellipticCurveKind then
        let curve ← parameters.head?
        return .other algorithm.encoding content
          ((readPoint? content).map (PublicKey.ellipticCurve curve.encoding))
      else return .other algorithm.encoding content none
    | [] => none
  | _ => none

/-- The numbers of an RSA key in order. -/
def writeRsa (n : RsaNumbers) : Octets :=
  Asn1.write Asn1.sequence <|
    ([0, n.modulus, n.publicExponent, n.privateExponent, n.firstPrime, n.secondPrime,
      n.firstExponent, n.secondExponent, n.coefficient]).flatMap Asn1.writeNatural

/-- The algorithm of an RSA key. -/
def rsaAlgorithm : Octets :=
  Asn1.write Asn1.sequence <|
    Asn1.write Asn1.objectIdentifier CertificateParts.rsaKind ++ Asn1.write Asn1.null []

/-- Writes a key. -/
def write (k : KeyParts) : Octets :=
  let (algorithm, content) := match k with
    | .rsa n => (rsaAlgorithm, writeRsa n)
    | .other algorithm content _ => (algorithm, content)
  Asn1.write Asn1.sequence <|
    Asn1.writeNatural 0 ++ algorithm ++ Asn1.write Asn1.octetString content

end KeyParts

/-- A private key: what it says, which is read again from what is written of it. -/
structure PrivateKey where
  parts : KeyParts
  read_write : KeyParts.read? parts.write = some parts
  deriving DecidableEq

namespace PrivateKey

/-- The octets of a key, in the form of this library. -/
def der (k : PrivateKey) : Octets := k.parts.write

/-- The key of these parts. -/
def ofParts? (parts : KeyParts) : Option PrivateKey :=
  if h : KeyParts.read? parts.write = some parts then some ⟨parts, h⟩ else none

/-- Reads a key and brings it to the form of this library. -/
def ofDer? (b : Octets) : Option PrivateKey := KeyParts.read? b >>= ofParts?

/-- The public half. -/
def publicKey? (k : PrivateKey) : Option PublicKey := k.parts.publicKey?

/-- The RSA key, if it is one. -/
def rsa? (k : PrivateKey) : Option Crypto.Rsa.PrivateKey :=
  match k.parts with
  | .rsa n => some n.key
  | .other .. => none

/-- The signature of a message under its SHA-256 digest; only RSA keys with room for the digest
make one. -/
def sign? (k : PrivateKey) (message : Octets) : Option Octets :=
  k.rsa? >>= (Crypto.Rsa.sign? .sha256 · message)

end PrivateKey
end FiscalGateway.Pki

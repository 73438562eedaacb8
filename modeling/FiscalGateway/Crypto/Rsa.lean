import FiscalGateway.Crypto.Hmac

/-!
# Signatures with RSA

Signing and checking digests under the first padding of the standard: the digest stands behind an
identifier of its hash and a run of `FF`, in as many octets as the modulus has.
-/

namespace FiscalGateway.Crypto

/-- The power of a number modulo another, bit by bit of the exponent from the top. -/
def powMod (base exponent modulus : Nat) : Nat :=
  (List.range (Nat.log2 exponent + 1)).foldr
    (fun i acc =>
      let square := acc * acc % modulus
      if exponent.testBit i then square * base % modulus else square)
    (1 % modulus)

namespace Rsa

/-- The public half of a key. -/
structure PublicKey where
  modulus : Nat
  exponent : Nat
  deriving DecidableEq, Repr

/-- Both halves of a key. -/
structure PrivateKey where
  modulus : Nat
  publicExponent : Nat
  privateExponent : Nat
  deriving DecidableEq, Repr

/-- The public half. -/
def PrivateKey.publicKey (k : PrivateKey) : PublicKey := ⟨k.modulus, k.publicExponent⟩

/-- The number of bits of a modulus. -/
def bits (modulus : Nat) : Nat := if modulus = 0 then 0 else Nat.log2 modulus + 1

/-- The number of octets of a modulus. -/
def size (modulus : Nat) : Nat := (bits modulus + 7) / 8

/-- The identifier of a hash, with the header of the digest. -/
def digestHeader : Hash → Octets
  | .sha1 => [0x30, 0x21, 0x30, 0x09, 0x06, 0x05, 0x2b, 0x0e, 0x03, 0x02, 0x1a, 0x05, 0x00, 0x04, 0x14]
  | .sha224 =>
    [0x30, 0x2d, 0x30, 0x0d, 0x06, 0x09, 0x60, 0x86, 0x48, 0x01, 0x65, 0x03, 0x04, 0x02, 0x04, 0x05,
      0x00, 0x04, 0x1c]
  | .sha256 =>
    [0x30, 0x31, 0x30, 0x0d, 0x06, 0x09, 0x60, 0x86, 0x48, 0x01, 0x65, 0x03, 0x04, 0x02, 0x01, 0x05,
      0x00, 0x04, 0x20]
  | .sha384 =>
    [0x30, 0x41, 0x30, 0x0d, 0x06, 0x09, 0x60, 0x86, 0x48, 0x01, 0x65, 0x03, 0x04, 0x02, 0x02, 0x05,
      0x00, 0x04, 0x30]
  | .sha512 =>
    [0x30, 0x51, 0x30, 0x0d, 0x06, 0x09, 0x60, 0x86, 0x48, 0x01, 0x65, 0x03, 0x04, 0x02, 0x03, 0x05,
      0x00, 0x04, 0x40]

/-- The padded digest of a message in `size` octets, if there is room for it. -/
def pad? (h : Hash) (size : Nat) (message : Octets) : Option Octets :=
  let content := digestHeader h ++ h.digest message
  if content.length + 11 ≤ size then
    some ([0x00, 0x01] ++ List.replicate (size - content.length - 3) 0xFF ++ 0x00 :: content)
  else none

/-- The signature of a message; a key that is too short for the digest makes none. -/
def sign? (h : Hash) (key : PrivateKey) (message : Octets) : Option Octets :=
  let n := size key.modulus
  (pad? h n message).map fun padded =>
    Octets.ofNat n (powMod padded.toNat key.privateExponent key.modulus)

/-- Whether a signature is that of a message. It has the length of the modulus and is below it. -/
def verify (h : Hash) (key : PublicKey) (message signature : Octets) : Bool :=
  let n := size key.modulus
  match pad? h n message with
  | none => false
  | some padded =>
    signature.length = n && signature.toNat < key.modulus &&
      powMod signature.toNat key.exponent key.modulus == padded.toNat

end Rsa
end FiscalGateway.Crypto

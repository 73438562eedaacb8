import FiscalGateway.Pki.PrivateKey
import FiscalGateway.Pki.Rejection

/-!
# Key pairs

A certificate together with the RSA key that it certifies. The type holds only pairs that match.
-/

namespace FiscalGateway.Pki

/-- A certificate and its private key. -/
structure KeyPair where
  certificate : Certificate
  privateKey : PrivateKey
  /-- The key for signing. -/
  rsa : Crypto.Rsa.PrivateKey
  rsa_eq : privateKey.rsa? = some rsa
  certified : certificate.parts.key = some (.rsa rsa.publicKey)
  deriving DecidableEq

namespace KeyPair

/-- Pairs a certificate with a key. -/
def ofParts (certificate : Certificate) (privateKey : PrivateKey) : Except Rejection KeyPair :=
  match hr : privateKey.rsa? with
  | none => .error .notRsa
  | some rsa =>
    match hk : certificate.parts.key with
    | none => .error .damaged
    | some key =>
      if h : key = .rsa rsa.publicKey then .ok ⟨certificate, privateKey, rsa, hr, h ▸ hk⟩
      else .error .keyMismatch

/-- The parts of a pair make it again. -/
theorem ofParts_parts (p : KeyPair) : ofParts p.certificate p.privateKey = .ok p := by
  obtain ⟨c, k, rsa, hr, hk⟩ := p
  unfold ofParts
  split
  · next h => rw [hr] at h; contradiction
  · next rsa' h =>
    rw [hr] at h
    obtain rfl := Option.some.inj h
    split
    · next h => rw [hk] at h; contradiction
    · next key h =>
      rw [hk] at h
      obtain rfl := Option.some.inj h
      simp

/-- The length of the key in bits. -/
def keyBits (p : KeyPair) : Nat := Crypto.Rsa.bits p.rsa.modulus

/-- The signature of a message. -/
def sign? (p : KeyPair) (message : Octets) : Option Octets := p.privateKey.sign? message

end KeyPair
end FiscalGateway.Pki

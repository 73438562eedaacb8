import FiscalGateway.Crypto.Aes
import FiscalGateway.Crypto.TripleDes

/-!
# Chained decryption

Block ciphers with chaining, and the padding that fills the last block with its own length.
-/

namespace FiscalGateway.Crypto

/-- Deciphers chained blocks. -/
def unchain (decryptBlock : Octets → Octets) : (previous : Octets) → List Octets → Octets
  | _, [] => []
  | previous, b :: rest => Octets.xor (decryptBlock b) previous ++ unchain decryptBlock b rest

/-- Removes the padding of the last block; wrong padding is refused. -/
def unpad? (size : Nat) (b : Octets) : Option Octets :=
  match b.getLast? with
  | none => none
  | some last =>
    let n := last.toNat
    if 1 ≤ n ∧ n ≤ size ∧ n ≤ b.length ∧ (b.drop (b.length - n)).all (· = last) then
      some (b.take (b.length - n))
    else none

/-- The ciphers that a bundle may use. -/
inductive Cipher where
  | aes (keyLength : Nat)
  | tripleDes
  deriving DecidableEq, Repr

namespace Cipher

/-- The length of a block. -/
def blockSize : Cipher → Nat
  | .aes _ => 16
  | .tripleDes => 8

/-- The length of a key. -/
def keySize : Cipher → Nat
  | .aes n => n
  | .tripleDes => 24

/-- Deciphers a padded message; its length is a positive number of whole blocks. -/
def decrypt? (c : Cipher) (key initial ciphertext : Octets) : Option Octets :=
  if ciphertext.isEmpty ∨ ciphertext.length % c.blockSize ≠ 0 then none
  else
    let plain := match c with
      | .aes _ =>
        let keys := Aes.roundKeys key
        unchain (Aes.decryptBlock keys) initial (blocks 16 ciphertext)
      | .tripleDes => unchain (TripleDes.decryptBlock key) initial (blocks 8 ciphertext)
    unpad? c.blockSize plain

end Cipher
end FiscalGateway.Crypto

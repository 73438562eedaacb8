import FiscalGateway.Crypto.Gcm
import FiscalGateway.Crypto.Sha256
import FiscalGateway.Vault.Fault

/-!
# Sealing under a password

A sealed text is a nonce, the encrypted text and a tag, in this order. The cipher is a parameter, so
that what holds of every sound cipher can be said without one; `Sealing.standard` is AES-256 in
counter mode with its authentication tag, under the SHA-256 digest of password and salt.
-/

namespace FiscalGateway.Vault

/-- A cipher with authentication, and the key that it makes of a password. -/
structure Sealing where
  /-- The key for a password and a salt. -/
  key : (password salt : Octets) → Octets
  /-- The encrypted text and the tag for a key, a nonce and a text. -/
  encrypt : (key nonce text : Octets) → Octets × Octets
  /-- The text for a key, a nonce, an encrypted text and a tag, if the tag is the right one. -/
  decrypt? : (key nonce text tag : Octets) → Option Octets

namespace Sealing

/-- The length of a nonce. -/
def nonceLength : Nat := 12

/-- The length of a tag. -/
def tagLength : Nat := 16

/-- AES-256 with counters and tags. -/
def standard : Sealing where
  key password salt := Crypto.sha256 (password ++ salt)
  encrypt := Crypto.Gcm.encrypt
  decrypt? := Crypto.Gcm.decrypt?

/-- Seals a text. -/
def sealText (g : Sealing) (key nonce text : Octets) : Octets :=
  let (encrypted, tag) := g.encrypt key nonce text
  nonce ++ encrypted ++ tag

/-- Opens what is sealed. A tag that is not the right one means a wrong password. -/
def openText (g : Sealing) (key sealed : Octets) : Except Fault Octets :=
  if sealed.length < nonceLength + tagLength then
    .error (.corrupted (.truncated sealed.length))
  else
    let rest := sealed.drop nonceLength
    let length := rest.length - tagLength
    match g.decrypt? key (sealed.take nonceLength) (rest.take length) (rest.drop length) with
    | some text => .ok text
    | none => .error .badPassword

end Sealing
end FiscalGateway.Vault

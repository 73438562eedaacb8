import FiscalGateway.Pki.KeyPair
import FiscalGateway.Pki.Pem
import FiscalGateway.Vault.Sealing

/-!
# Stored credentials

A record holds a certificate and its key as armoured text, each sealed with the key that password
and salt make, and the salt in the clear. `sealPair` writes such a record and `openRecord` reads it;
a record is refused for the first thing wrong in the order salt, certificate, key, and only what
opens is read.
-/

namespace FiscalGateway.Vault

/-- The length of a salt. -/
def saltLength : Nat := 16

/-- Random octets for one sealing. -/
structure Noise where
  salt : Octets
  certificateNonce : Octets
  keyNonce : Octets
  length_salt : salt.length = saltLength
  length_certificateNonce : certificateNonce.length = Sealing.nonceLength
  length_keyNonce : keyNonce.length = Sealing.nonceLength

/-- The names of the fields. -/
def certificateField : String := "cert"

def keyField : String := "key"

def saltField : String := "salt"

/-- The fields of a pair sealed under a password. -/
def Sealing.sealPair (g : Sealing) (password : Octets) (noise : Noise) (pair : Pki.KeyPair) :
    List Field :=
  let key := g.key password noise.salt
  [(certificateField, g.sealText key noise.certificateNonce (Pki.Pem.writeCertificate pair.certificate)),
    (keyField, g.sealText key noise.keyNonce (Pki.Pem.writePrivateKey pair.privateKey)),
    (saltField, noise.salt)]

/-- A field that must be there. -/
def requireField (r : Record) (name : String) : Except Fault Octets :=
  match r.get? name with
  | some b => .ok b
  | none => .error (.corrupted (.missingField name))

/-- The pair of a record, opened with a password. -/
def Sealing.openRecord (g : Sealing) (password : Octets) (r : Record) : Except Fault Pki.KeyPair := do
  let salt ← requireField r saltField
  if salt.length ≠ saltLength then throw (.corrupted (.saltLength salt.length))
  let key := g.key password salt
  let certificateText ← g.openText key (← requireField r certificateField)
  let keyText ← g.openText key (← requireField r keyField)
  match Pki.Pem.certificate? certificateText, Pki.Pem.privateKey? keyText with
  | none, _ => throw (.corrupted .certificate)
  | some _, none => throw (.corrupted .privateKey)
  | some certificate, some privateKey =>
    match Pki.KeyPair.ofParts certificate privateKey with
    | .ok pair => .ok pair
    | .error rejection => throw (.corrupted (.pair rejection))

end FiscalGateway.Vault

import FiscalGateway.Crypto.Sha1
import FiscalGateway.Pki.PrivateKey
import FiscalGateway.Sale.Basic
import FiscalGateway.Text.Hex

/-!
# Security codes

The signature code of a sale is the merchant's signature over its main parts, joined by `|`; the
fingerprint code is a digest of that signature in five groups of eight digits. `Sale.stamp` sets
both.
-/

namespace FiscalGateway

/-- Why a sale gets no codes. -/
inductive CodesFault where
  | missingSaleTime
  | signing
  deriving DecidableEq, Repr

/-- The wording of a fault. -/
def CodesFault.message : CodesFault → String
  | .missingSaleTime => "dat_trzby is not set"
  | .signing => "signing failed: *"

/-- The character between the parts that are signed. -/
def plaintextSeparator : List Char := ['|']

/-- The parts of a sale that are signed, given its time. -/
def Sale.signedParts (s : Sale) (soldAt : Time.Timestamp) : List (List Char) :=
  [s.taxId.toList, Nat.toDigits 10 s.premises, s.register.toList, s.serial.toList,
    soldAt.writeSeconds, s.total.wire]

/-- The text that is signed. -/
def Sale.plaintext (s : Sale) : Except CodesFault String :=
  match s.soldAt with
  | none => .error .missingSaleTime
  | some t => .ok (String.ofList (plaintextSeparator.intercalate (s.signedParts t)))

/-- The length of a group. -/
def groupLength : Nat := 8

/-- Puts a hyphen between groups of eight characters. -/
def groupEight (s : List Char) : List Char :=
  if s.length ≤ groupLength then s
  else s.take groupLength ++ '-' :: groupEight (s.drop groupLength)
termination_by s.length
decreasing_by
  simp only [List.length_drop, groupLength] at *
  omega

/-- The fingerprint of a signature. -/
def fingerprint (signature : Octets) : String :=
  String.ofList (groupEight (Text.Hex.encodeWith Text.Hex.upperDigit (Crypto.sha1 signature)))

/-- Sets both codes. -/
def Sale.stamp (s : Sale) (key : Pki.PrivateKey) : Except CodesFault Sale := do
  let text ← s.plaintext
  match key.sign? (Octets.ofText text) with
  | none => throw .signing
  | some signature =>
    return { s with
      signatureCode := some signature
      fingerprintCode := some (fingerprint signature) }

end FiscalGateway

import FiscalGateway.Text.Hex
import FiscalGateway.Text.Split

/-!
# Universally unique identifiers

Sixteen octets. The text has hyphens behind the eighth, twelfth, sixteenth and twentieth digit;
reading also takes it without hyphens, in braces, or as a name of the scheme `urn:uuid:`.
-/

namespace FiscalGateway

/-- An identifier of 128 bits. -/
structure Uuid where
  octets : Octets
  length_octets : octets.length = 16
  deriving DecidableEq, Repr

/-- The layouts that an identifier can announce. -/
inductive Uuid.Variant where
  | ncs
  | rfc4122
  | microsoft
  | future
  deriving DecidableEq, Repr

namespace Uuid

/-- An identifier from 32 digits. -/
def ofDigits? (digits : List Char) : Option Uuid := do
  let b ← Text.Hex.decode digits
  if h : b.length = 16 then some ⟨b, h⟩ else none

/-- An identifier from the hyphenated form. -/
def ofHyphenated? (s : List Char) : Option Uuid :=
  match Text.splitEach (· == '-') s with
  | [a, b, c, d, e] =>
    if a.length = 8 ∧ b.length = 4 ∧ c.length = 4 ∧ d.length = 4 ∧ e.length = 12 then
      ofDigits? (a ++ b ++ c ++ d ++ e)
    else none
  | _ => none

/-- Reads an identifier. -/
def read? (s : List Char) : Option Uuid :=
  if s.length = 32 then ofDigits? s
  else if s.length = 38 then
    if s.head? = some '\x7b' ∧ s.getLast? = some '\x7d' then ofHyphenated? (s.drop 1).dropLast
    else none
  else if s.length = 45 then
    if (s.take 9).map Char.toLower = "urn:uuid:".toList then ofHyphenated? (s.drop 9) else none
  else ofHyphenated? s

/-- The hyphenated form in lower case. -/
def write (u : Uuid) : List Char :=
  let digits := Text.Hex.encodeWith Text.Hex.lowerDigit u.octets
  digits.take 8 ++ '-' :: (digits.drop 8).take 4 ++ '-' :: (digits.drop 12).take 4 ++ '-' ::
    (digits.drop 16).take 4 ++ '-' :: digits.drop 20

/-- The text of an identifier. -/
def text (u : Uuid) : String := String.ofList u.write

/-- The version, from the upper half of the seventh octet. -/
def version (u : Uuid) : Nat := (u.octets.getD 6 0).toNat / 16

/-- The layout, from the upper bits of the ninth octet. -/
def variant (u : Uuid) : Variant :=
  let n := (u.octets.getD 8 0).toNat
  if n < 0x80 then .ncs else if n < 0xC0 then .rfc4122 else if n < 0xE0 then .microsoft else .future

end Uuid
end FiscalGateway

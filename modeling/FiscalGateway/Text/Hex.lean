import FiscalGateway.Text.Octets

/-!
# Hexadecimal text

Two digits for each octet, the higher half first.
-/

namespace FiscalGateway.Text.Hex

/-- The digits in lower case. -/
def lowerDigit (n : Nat) : Char :=
  if n < 10 then Char.ofNat ('0'.toNat + n) else Char.ofNat ('a'.toNat + (n - 10))

/-- The digits in upper case. -/
def upperDigit (n : Nat) : Char :=
  if n < 10 then Char.ofNat ('0'.toNat + n) else Char.ofNat ('A'.toNat + (n - 10))

/-- The value of a digit of either case. -/
def digit? (c : Char) : Option Nat :=
  if '0' ≤ c ∧ c ≤ '9' then some (c.toNat - '0'.toNat)
  else if 'a' ≤ c ∧ c ≤ 'f' then some (c.toNat - 'a'.toNat + 10)
  else if 'A' ≤ c ∧ c ≤ 'F' then some (c.toNat - 'A'.toNat + 10)
  else none

/-- Two digits for each octet, with the digits of the caller. -/
def encodeWith (digit : Nat → Char) (b : Octets) : List Char :=
  b.flatMap fun o => [digit (o.toNat / 16), digit (o.toNat % 16)]

/-- The lower-case form. -/
def encode (b : Octets) : String := String.ofList (encodeWith lowerDigit b)

/-- The octets of a text made of pairs of digits. -/
def decode : List Char → Option Octets
  | [] => some []
  | [_] => none
  | a :: b :: rest => do
    let high ← digit? a
    let low ← digit? b
    let tail ← decode rest
    return UInt8.ofNat (high * 16 + low) :: tail

@[simp] theorem length_encodeWith (digit : Nat → Char) (b : Octets) :
    (encodeWith digit b).length = 2 * b.length := by
  induction b with
  | nil => rfl
  | cons o b ih =>
    rw [encodeWith, List.flatMap_cons, List.length_append]
    change _ + (encodeWith digit b).length = _
    rw [ih]
    simp +arith

end FiscalGateway.Text.Hex

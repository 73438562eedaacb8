/-!
# Signed integers as text

Decimal integers of bounded width. The refusal tells the first thing wrong from left to right: at
each character first whether it is a digit, then whether the number still fits.
-/

namespace FiscalGateway.Number

/-- Why a text is no integer of the width asked for. -/
inductive IntegerFault where
  | empty
  | invalidDigit
  | tooLarge
  | tooSmall
  deriving DecidableEq, Repr

/-- The wording of a refusal. -/
def IntegerFault.message : IntegerFault → String
  | .empty => "cannot parse integer from empty string"
  | .invalidDigit => "invalid digit found in string"
  | .tooLarge => "number too large to fit in target type"
  | .tooSmall => "number too small to fit in target type"

/-- Appends digits to a magnitude that may not exceed `limit`. -/
def readMagnitude (limit : Nat) (overflow : IntegerFault) (n : Nat) :
    List Char → Except IntegerFault Nat
  | [] => .ok n
  | c :: rest =>
    if '0' ≤ c ∧ c ≤ '9' then
      let m := n * 10 + (c.toNat - '0'.toNat)
      if m ≤ limit then readMagnitude limit overflow m rest else .error overflow
    else .error .invalidDigit

/-- An integer of 32 bits with sign. -/
def readInt32 (s : List Char) : Except IntegerFault Int :=
  match s with
  | [] => .error .empty
  | ['-'] | ['+'] => .error .invalidDigit
  | '-' :: digits => (fun n => -(n : Int)) <$> readMagnitude (1 <<< 31) .tooSmall 0 digits
  | '+' :: digits => (fun n => (n : Int)) <$> readMagnitude (1 <<< 31 - 1) .tooLarge 0 digits
  | digits => (fun n => (n : Int)) <$> readMagnitude (1 <<< 31 - 1) .tooLarge 0 digits

/-- A natural number below `2 ^ bits`; a plus in front is allowed. -/
def readWord (bits : Nat) (s : List Char) : Except IntegerFault Nat :=
  match s with
  | [] => .error .empty
  | ['-'] | ['+'] => .error .invalidDigit
  | '+' :: digits => readMagnitude (1 <<< bits - 1) .tooLarge 0 digits
  | digits => readMagnitude (1 <<< bits - 1) .tooLarge 0 digits

end FiscalGateway.Number

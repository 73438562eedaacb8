import FiscalGateway.Retry
import Mathlib.Data.Nat.Log
import Mathlib.Tactic.Positivity
import Mathlib.Tactic.Ring

/-!
# Doubling — delays that double are exact

A double has 53 bits, so a number of at most so many bits stays exact however often it is doubled,
until it is too large to be finite (`ofNat_mul_two_pow`). Products with a power of two are therefore
exact (`mul_two_pow`), as is each square that repeated squaring forms (`pow_two`), and the delays of
a policy that doubles them are the powers they are meant to be (`RetryPolicy.delay_eq`).
-/

namespace FiscalGateway

namespace Number.Binary64

/-! ## Rounding what needs no rounding -/

variable {num a j : Nat} {e : Int}

/-- The quotient of `num` by `2 ^ j` is `a * 2 ^ e`, said of natural numbers. -/
def IsExact (num j a : Nat) (e : Int) : Prop :=
  num * 2 ^ (-e).toNat = a * 2 ^ (j + e.toNat)

/-- Such a quotient has its first bit where `a` has it. -/
theorem IsExact.log2_eq (h : IsExact num j a e) (ha : 2 ^ 52 ≤ a) (ha' : a < 2 ^ 53) :
    num ≠ 0 ∧ (num.log2 : Int) = 52 + j + e := by
  have hne : num ≠ 0 := by
    rintro rfl
    have hpos : 0 < a * 2 ^ (j + e.toNat) := Nat.mul_pos (by omega) (Nat.two_pow_pos _)
    rw [← h, Nat.zero_mul] at hpos
    omega
  have hlow : 2 ^ (52 + (j + e.toNat)) ≤ num * 2 ^ (-e).toNat := by
    rw [h, Nat.pow_add]
    exact Nat.mul_le_mul_right _ ha
  have hhigh : num * 2 ^ (-e).toNat < 2 ^ (53 + (j + e.toNat)) := by
    rw [h, Nat.pow_add 2 53]
    exact Nat.mul_lt_mul_of_pos_right ha' (Nat.two_pow_pos _)
  -- so `num` lies between two powers of two in two ways, and the exponents are the same
  have hself : 2 ^ (num.log2 + (-e).toNat) ≤ num * 2 ^ (-e).toNat := by
    rw [Nat.pow_add]
    exact Nat.mul_le_mul_right _ (Nat.log2_self_le hne)
  have hnext : num * 2 ^ (-e).toNat < 2 ^ (num.log2 + 1 + (-e).toNat) := by
    rw [Nat.pow_add]
    exact Nat.mul_lt_mul_of_pos_right Nat.lt_log2_self (Nat.two_pow_pos _)
  have h₁ : num.log2 + (-e).toNat < 53 + (j + e.toNat) :=
    (Nat.pow_lt_pow_iff_right (by decide)).1 (hself.trans_lt hhigh)
  have h₂ : 52 + (j + e.toNat) < num.log2 + 1 + (-e).toNat :=
    (Nat.pow_lt_pow_iff_right (by decide)).1 (hlow.trans_lt hnext)
  refine ⟨hne, ?_⟩
  omega

/-- One binary place further down, the quotient is twice the number. -/
theorem IsExact.half (h : IsExact num j a e) :
    num <<< (-(e - 1)).toNat = 2 * a * (2 ^ j <<< (e - 1).toNat) := by
  rw [Nat.shiftLeft_eq, Nat.shiftLeft_eq]
  unfold IsExact at h
  rcases Int.lt_or_le 0 e with he | he
  · have hx : (-e).toNat = 0 := by omega
    have hx' : (-(e - 1)).toNat = 0 := by omega
    have hy : e.toNat = (e - 1).toNat + 1 := by omega
    rw [hx, hy, Nat.pow_zero, Nat.mul_one] at h
    rw [hx', h, Nat.pow_zero, Nat.mul_one]
    ring
  · have hy : e.toNat = 0 := by omega
    have hy' : (e - 1).toNat = 0 := by omega
    have hx : (-(e - 1)).toNat = (-e).toNat + 1 := by omega
    rw [hy, Nat.add_zero] at h
    rw [hx, hy', Nat.pow_succ, ← Nat.mul_assoc, h]
    ring

/-- **The exponent of a quotient** that is a number of 53 bits. -/
theorem IsExact.exponentOf_eq (h : IsExact num j a e) (ha : 2 ^ 52 ≤ a) (ha' : a < 2 ^ 53)
    (he : minExponent ≤ e) : exponentOf num (2 ^ j) = e := by
  obtain ⟨-, hlog⟩ := h.log2_eq ha ha'
  have hguess : (num.log2 : Int) - ((2 ^ j).log2 : Int) - 53 = e - 1 := by
    rw [hlog, Nat.log2_two_pow]
    omega
  have hpos : 0 < 2 ^ j <<< (e - 1).toNat := by
    rw [Nat.shiftLeft_eq]
    positivity
  have hquotient : num <<< (-(e - 1)).toNat / (2 ^ j <<< (e - 1).toNat) = 2 * a := by
    rw [h.half]
    exact Nat.mul_div_cancel _ hpos
  have hlarge : ¬ 2 * a < 1 <<< 53 := by
    have : (1 : Nat) <<< 53 = 2 ^ 53 := by decide
    omega
  simp only [exponentOf, scaled, hguess, hquotient, if_neg hlarge]
  omega

/-- **Rounding changes nothing** about a number of 53 bits, as long as it is finite. -/
theorem IsExact.round_eq (h : IsExact num j a e) (ha : 2 ^ 52 ≤ a) (ha' : a < 2 ^ 53)
    (he : minExponent ≤ e) (s : Bool) :
    round s num (2 ^ j) = if e > maxExponent then .infinite s else .finite s a e := by
  obtain ⟨hne, -⟩ := h.log2_eq ha ha'
  have hpos : 0 < 2 ^ j <<< e.toNat := by
    rw [Nat.shiftLeft_eq]
    positivity
  have hscaled : num <<< (-e).toNat = a * (2 ^ j <<< e.toNat) := by
    rw [Nat.shiftLeft_eq, Nat.shiftLeft_eq, h, Nat.pow_add]
  have hrounded : roundQuotient (num <<< (-e).toNat) (2 ^ j <<< e.toNat) = a := by
    simp only [roundQuotient, hscaled, Nat.mul_mod_left, Nat.mul_div_cancel _ hpos]
    rw [if_pos (by omega)]
  have hsmall : a ≠ 1 <<< 53 := by
    have : (1 : Nat) <<< 53 = 2 ^ 53 := by decide
    omega
  simp only [round, if_neg hne, h.exponentOf_eq ha ha' he, scaled, hrounded, if_neg hsmall]

/-! ## Few bits, doubled -/

variable {n : Nat}

/-- The bits of a small number, the first one in its place. -/
theorem bits_of_small (hn : n ≠ 0) (hlt : n < 2 ^ 53) :
    n.log2 ≤ 52 ∧ 2 ^ 52 ≤ n * 2 ^ (52 - n.log2) ∧ n * 2 ^ (52 - n.log2) < 2 ^ 53 := by
  have hlog : n.log2 < 53 := (Nat.log2_lt hn).2 hlt
  have hlow : 2 ^ n.log2 * 2 ^ (52 - n.log2) ≤ n * 2 ^ (52 - n.log2) :=
    Nat.mul_le_mul_right _ (Nat.log2_self_le hn)
  have hhigh : n * 2 ^ (52 - n.log2) < 2 ^ (n.log2 + 1) * 2 ^ (52 - n.log2) :=
    Nat.mul_lt_mul_of_pos_right Nat.lt_log2_self (Nat.two_pow_pos _)
  rw [← Nat.pow_add, show n.log2 + (52 - n.log2) = 52 by omega] at hlow
  rw [← Nat.pow_add, show n.log2 + 1 + (52 - n.log2) = 53 by omega] at hhigh
  exact ⟨by omega, hlow, hhigh⟩

/-- **A number of few bits stays exact when it is doubled**, and at last is infinite. -/
theorem ofNat_mul_two_pow (hn : n ≠ 0) (hlt : n < 2 ^ 53) (k : Nat) :
    ofNat (n * 2 ^ k) = if 1023 < n.log2 + k then .infinite false
      else .finite false (n * 2 ^ (52 - n.log2)) ((n.log2 : Int) + k - 52) := by
  obtain ⟨hlog, hlow, hhigh⟩ := bits_of_small hn hlt
  have hexact : IsExact (n * 2 ^ k) 0 (n * 2 ^ (52 - n.log2)) ((n.log2 : Int) + k - 52) := by
    unfold IsExact
    rw [Nat.mul_assoc, Nat.mul_assoc, ← Nat.pow_add, ← Nat.pow_add]
    congr 2
    omega
  have hround := hexact.round_eq hlow hhigh (by unfold minExponent; omega) false
  rw [Nat.pow_zero] at hround
  rw [ofNat, hround]
  have hinfinite : ((n.log2 : Int) + k - 52 > maxExponent) ↔ 1023 < n.log2 + k := by
    unfold maxExponent
    omega
  simp only [hinfinite]

theorem ofNat_two_pow (k : Nat) : ofNat (2 ^ k) = if 1023 < k then .infinite false
    else .finite false (2 ^ 52) ((k : Int) - 52) := by
  have h := ofNat_mul_two_pow Nat.one_ne_zero (by decide) k
  have hlog : Nat.log2 1 = 0 := by decide
  simpa [hlog] using h

/-- **Times a power of two**: nothing is rounded. -/
theorem mul_two_pow (hn : n ≠ 0) (hlt : n < 2 ^ 53) (k b : Nat) :
    (ofNat (n * 2 ^ k)).mul (ofNat (2 ^ b)) = ofNat (n * 2 ^ (k + b)) := by
  obtain ⟨hlog, hlow, hhigh⟩ := bits_of_small hn hlt
  have hmantissa : n * 2 ^ (52 - n.log2) ≠ 0 := by omega
  rw [ofNat_mul_two_pow hn hlt, ofNat_two_pow, ofNat_mul_two_pow hn hlt]
  by_cases hfirst : 1023 < n.log2 + k
  · have hproduct : 1023 < n.log2 + (k + b) := by omega
    rw [if_pos hfirst, if_pos hproduct]
    split <;> simp [mul]
  by_cases hsecond : 1023 < b
  · have hproduct : 1023 < n.log2 + (k + b) := by omega
    rw [if_neg hfirst, if_pos hsecond, if_pos hproduct]
    simp [mul, hmantissa]
  rw [if_neg hfirst, if_neg hsecond]
  -- the product of the mantissas has 52 bits too many, all of them zero
  have hexact : IsExact
      (n * 2 ^ (52 - n.log2) * 2 ^ 52 * 2 ^ ((n.log2 : Int) + k - 52 + (b - 52)).toNat)
      (-((n.log2 : Int) + k - 52 + (b - 52))).toNat (n * 2 ^ (52 - n.log2))
      ((n.log2 : Int) + (k + b : Nat) - 52) := by
    unfold IsExact
    rw [Nat.mul_assoc _ (2 ^ 52), ← Nat.pow_add, Nat.mul_assoc _ (2 ^ _), ← Nat.pow_add]
    congr 2
    omega
  have hround := hexact.round_eq hlow hhigh (by unfold minExponent; omega) false
  have hinfinite : ((n.log2 : Int) + (k + b : Nat) - 52 > maxExponent) ↔
      1023 < n.log2 + (k + b) := by
    unfold maxExponent
    omega
  simp only [mul, scaled, neg_neg, Nat.shiftLeft_eq, Nat.one_mul, bne_self_eq_false, hround,
    hinfinite]

/-- Repeated squaring forms powers of two, and they are exact. -/
theorem powFrom_two_pow (a b k : Nat) :
    powFrom (ofNat (2 ^ a)) (ofNat (2 ^ b)) k = ofNat (2 ^ (a + b * k)) := by
  have hmul : ∀ a b, (ofNat (2 ^ a)).mul (ofNat (2 ^ b)) = ofNat (2 ^ (a + b)) := by
    intro a b
    have h := mul_two_pow Nat.one_ne_zero (by decide) a b
    simpa using h
  -- the loop halves the exponent and squares the base; a base that is a power of two stays one
  induction k using Nat.strongRecOn generalizing a b with
  | ind k ih =>
    rw [powFrom]
    have hacc : (if k % 2 = 1 then (ofNat (2 ^ a)).mul (ofNat (2 ^ b)) else ofNat (2 ^ a)) =
        ofNat (2 ^ (a + b * (k % 2))) := by
      split
      · next hodd => rw [hmul, hodd, Nat.mul_one]
      · next heven => rw [show k % 2 = 0 by omega, Nat.mul_zero, Nat.add_zero]
    simp only [hacc]
    split
    · next hend => rw [show k % 2 = k by omega]
    · next hmore =>
      rw [hmul, ih (k / 2) (by omega)]
      have hsum : b * (k % 2) + (b + b) * (k / 2) = b * k := by
        have hk : k % 2 + 2 * (k / 2) = k := Nat.mod_add_div k 2
        calc b * (k % 2) + (b + b) * (k / 2) = b * (k % 2 + 2 * (k / 2)) := by ring
          _ = b * k := by rw [hk]
      rw [Nat.add_assoc, hsum]

/-- **The powers of two are exact**, until they are infinite. -/
theorem pow_two (k : Nat) : (ofNat 2).pow k = ofNat (2 ^ k) := by
  have h := powFrom_two_pow 0 1 k
  simpa [pow] using h

/-- The integer part of a number of few bits, doubled. -/
theorem toWord_ofNat_mul_two_pow (hn : n ≠ 0) (hlt : n < 2 ^ 53) (k : Nat) :
    (ofNat (n * 2 ^ k)).toWord = min (n * 2 ^ k) (UInt64.size - 1) := by
  obtain ⟨hlog, -, -⟩ := bits_of_small hn hlt
  rw [ofNat_mul_two_pow hn hlt]
  split
  · next hinfinite =>
    -- an infinite one has more than 64 bits
    have hbits : 2 ^ (64 - n.log2) ≤ 2 ^ k := Nat.pow_le_pow_right (by decide) (by omega)
    have hlarge : 2 ^ n.log2 * 2 ^ (64 - n.log2) ≤ n * 2 ^ k :=
      Nat.mul_le_mul (Nat.log2_self_le hn) hbits
    rw [← Nat.pow_add, show n.log2 + (64 - n.log2) = 64 by omega] at hlarge
    have hsize : UInt64.size = 2 ^ 64 := by decide
    simp only [toWord, Bool.false_eq_true, if_false]
    omega
  · have hexact : n * 2 ^ (52 - n.log2) * 2 ^ ((n.log2 : Int) + k - 52).toNat =
        n * 2 ^ k * 2 ^ (-((n.log2 : Int) + k - 52)).toNat := by
      rw [Nat.mul_assoc, Nat.mul_assoc, ← Nat.pow_add, ← Nat.pow_add]
      congr 2
      omega
    simp only [toWord, Bool.false_eq_true, if_false, scaled, neg_neg, Nat.shiftLeft_eq, Nat.one_mul,
      hexact, Nat.mul_div_cancel _ (Nat.two_pow_pos _)]

end Number.Binary64

/-! ## Delays -/

namespace RetryPolicy

open Number

/-- **Delays that double**: after attempt `k`, the first delay times `2 ^ k`, up to the longest
one. -/
theorem delay_eq {p : RetryPolicy} (hmultiplier : p.multiplier = .ofNat 2)
    (hinitial : p.initialMicros / 1000 < 2 ^ 53) (hmax : p.maxMillis < UInt64.size) (k : Nat) :
    p.delay k = min (p.initialMicros / 1000 * 2 ^ k) p.maxMillis := by
  rw [delay, hmultiplier, Binary64.pow_two]
  generalize p.initialMicros / 1000 = n at hinitial ⊢
  generalize hpower : min k maxPower = power
  by_cases hn : n = 0
  · -- no delay at first, none later: not a number where the power is infinite
    have hword : ((Binary64.ofNat 0).mul (Binary64.ofNat (2 ^ power))).toWord = 0 := by
      rw [Binary64.ofNat_two_pow]
      split
      · rfl
      · simp [Binary64.ofNat, Binary64.round, Binary64.zero, Binary64.mul, scaled,
          Binary64.toWord]
    rw [hn, hword, Nat.zero_mul]
  · have hproduct := Binary64.mul_two_pow hn hinitial 0 power
    rw [Nat.pow_zero, Nat.mul_one, Nat.zero_add] at hproduct
    simp only [hproduct, Binary64.toWord_ofNat_mul_two_pow hn hinitial]
    rcases Nat.le_total k maxPower with hk | hk
    · rw [show power = k by omega]
      omega
    · -- beyond the highest power that is formed the delay is the longest anyhow
      have hpower : 64 ≤ power := by
        have : 64 ≤ maxPower := by decide
        omega
      have hlarge : ∀ i, 64 ≤ i → UInt64.size ≤ n * 2 ^ i := by
        intro i hi
        have hpow : 2 ^ 64 ≤ 2 ^ i := Nat.pow_le_pow_right (by decide) hi
        have hself : 1 * 2 ^ i ≤ n * 2 ^ i := Nat.mul_le_mul_right _ (by omega)
        have hsize : UInt64.size = 2 ^ 64 := by decide
        omega
      have h₁ := hlarge power hpower
      have h₂ := hlarge k (by omega)
      omega

end RetryPolicy
end FiscalGateway

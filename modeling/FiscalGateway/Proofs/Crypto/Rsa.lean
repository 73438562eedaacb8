import FiscalGateway.Crypto.Rsa
import FiscalGateway.Pki.PrivateKey
import FiscalGateway.Proofs.Text.Octets
import Mathlib.FieldTheory.Finite.Basic
import Mathlib.NumberTheory.LucasLehmer

/-!
# RSA — what a key signs, its public half accepts

Both powers are powers modulo the modulus (`powMod_eq`), and in a genuine key the one undoes the
other (`IsGenuine.pow_pow_mod`). So whatever such a key signs is accepted (`IsGenuine.agrees`).
-/

namespace FiscalGateway.Crypto

/-- **The power bit by bit** is the power. -/
theorem powMod_eq (base exponent modulus : Nat) :
    powMod base exponent modulus = base ^ exponent % modulus := by
  have hrun : ∀ (n acc : Nat), acc = base ^ (exponent / 2 ^ n) % modulus →
      (List.range n).foldr (fun i acc =>
        let square := acc * acc % modulus
        if exponent.testBit i then square * base % modulus else square) acc =
          base ^ exponent % modulus := by
    -- from the highest bit down: the accumulator is the power to the bits that were read
    intro n
    induction n with
    | zero =>
      intro acc h
      simpa using h
    | succ n ih =>
      intro acc h
      rw [List.range_succ, List.foldr_append]
      refine ih _ ?_
      have hhalf : exponent / 2 ^ (n + 1) = exponent / 2 ^ n / 2 := by
        rw [pow_succ, Nat.div_div_eq_div_mul]
      have hsquare : acc * acc % modulus =
          base ^ (2 * (exponent / 2 ^ n / 2)) % modulus := by
        rw [h, hhalf, ← Nat.mul_mod, two_mul, pow_add]
      have hbit := Nat.testBit_eq_decide_div_mod_eq (x := exponent) (i := n)
      simp only [List.foldr_cons, List.foldr_nil, hsquare, hbit, decide_eq_true_eq]
      split
      · next hodd =>
        have : exponent / 2 ^ n = 2 * (exponent / 2 ^ n / 2) + 1 := by omega
        rw [Nat.mod_mul_mod, ← pow_succ, ← this]
      · next heven =>
        have : exponent / 2 ^ n = 2 * (exponent / 2 ^ n / 2) := by omega
        rw [← this]
  refine hrun _ _ ?_
  rw [Nat.div_eq_of_lt Nat.lt_log2_self, pow_zero]

namespace Rsa

variable {k : PrivateKey} {p q : Nat}

/-! ## Genuine keys -/

/-- A key of two primes whose exponents are inverse to each other. -/
structure PrivateKey.IsGenuine (k : PrivateKey) (p q : Nat) : Prop where
  prime_left : p.Prime
  prime_right : q.Prime
  distinct : p ≠ q
  modulus : k.modulus = p * q
  inverse : k.publicExponent * k.privateExponent ≡ 1 [MOD Nat.lcm (p - 1) (q - 1)]

/-- An exponent that is one more than a multiple of the order changes nothing. -/
theorem pow_modEq_self (hp : p.Prime) {a : Nat} (ha : a ≡ 1 [MOD p - 1]) (hpos : 0 < a) (m : Nat) :
    m ^ a ≡ m [MOD p] := by
  have : Fact p.Prime := ⟨hp⟩
  obtain ⟨c, hc⟩ := (Nat.modEq_iff_dvd' hpos).1 ha.symm
  have hsum : a = (p - 1) * c + 1 := by omega
  rw [← ZMod.natCast_eq_natCast_iff, Nat.cast_pow]
  by_cases hm : (m : ZMod p) = 0
  · rw [hm, zero_pow hpos.ne']
  · rw [hsum, pow_succ, pow_mul, ZMod.pow_card_sub_one_eq_one hm, one_pow, one_mul]

namespace PrivateKey.IsGenuine

theorem pos (h : k.IsGenuine p q) : 0 < k.publicExponent * k.privateExponent := by
  rw [Nat.pos_iff_ne_zero]
  intro hzero
  have hinverse := h.inverse
  rw [hzero] at hinverse
  have hone : Nat.lcm (p - 1) (q - 1) = 1 := by
    have := (Nat.modEq_iff_dvd' (Nat.zero_le 1)).1 hinverse
    simpa using this
  have hp := (Nat.dvd_lcm_left (p - 1) (q - 1))
  have hq := (Nat.dvd_lcm_right (p - 1) (q - 1))
  rw [hone, Nat.dvd_one] at hp hq
  exact h.distinct (by omega)

/-- **The public exponent undoes the private one.** -/
theorem pow_pow_mod (h : k.IsGenuine p q) {m : Nat} (hm : m < k.modulus) :
    (m ^ k.privateExponent % k.modulus) ^ k.publicExponent % k.modulus = m := by
  have hp : k.publicExponent * k.privateExponent ≡ 1 [MOD p - 1] :=
    h.inverse.of_dvd (Nat.dvd_lcm_left _ _)
  have hq : k.publicExponent * k.privateExponent ≡ 1 [MOD q - 1] :=
    h.inverse.of_dvd (Nat.dvd_lcm_right _ _)
  have hcoprime : Nat.Coprime p q := (Nat.coprime_primes h.prime_left h.prime_right).2 h.distinct
  have hself : m ^ (k.publicExponent * k.privateExponent) ≡ m [MOD p * q] :=
    (Nat.modEq_and_modEq_iff_modEq_mul hcoprime).1
      ⟨pow_modEq_self h.prime_left hp h.pos m, pow_modEq_self h.prime_right hq h.pos m⟩
  rw [← Nat.pow_mod, ← pow_mul, mul_comm, h.modulus]
  rw [h.modulus] at hm
  calc m ^ (k.publicExponent * k.privateExponent) % (p * q) = m % (p * q) := hself
    _ = m := Nat.mod_eq_of_lt hm

end PrivateKey.IsGenuine

/-! ## Padding -/

theorem size_eq {modulus : Nat} (h : modulus ≠ 0) : size modulus = Nat.log2 modulus / 8 + 1 := by
  rw [size, bits, if_neg h]
  omega

/-- The octets of a modulus hold each number below it. -/
theorem lt_pow_size {modulus : Nat} (h : modulus ≠ 0) : modulus < 256 ^ size modulus := by
  calc modulus < 2 ^ (Nat.log2 modulus + 1) := Nat.lt_log2_self
    _ ≤ 2 ^ (8 * size modulus) := Nat.pow_le_pow_right (by decide) (by rw [size_eq h]; omega)
    _ = 256 ^ size modulus := by rw [pow_mul]; rfl

/-- One octet less does not. -/
theorem pow_size_le {modulus : Nat} (h : modulus ≠ 0) : 256 ^ (size modulus - 1) ≤ modulus := by
  calc 256 ^ (size modulus - 1) = 2 ^ (8 * (size modulus - 1)) := by rw [pow_mul]; rfl
    _ ≤ 2 ^ Nat.log2 modulus := Nat.pow_le_pow_right (by decide) (by rw [size_eq h]; omega)
    _ ≤ modulus := Nat.log2_self_le h

/-- **A padded digest** is below each modulus of its length. -/
theorem toNat_lt_of_pad? {h : Hash} {modulus : Nat} {message padded : Octets}
    (hmodulus : modulus ≠ 0) (hpad : pad? h (size modulus) message = some padded) :
    padded.toNat < modulus := by
  simp only [pad?] at hpad
  split at hpad
  · next hroom =>
    obtain rfl := Option.some.inj hpad
    rw [List.cons_append, List.cons_append, Octets.toNat_zero_cons]
    refine lt_of_lt_of_le (Octets.toNat_lt _) (le_trans ?_ (pow_size_le hmodulus))
    refine Nat.pow_le_pow_right (by decide) ?_
    simp only [List.length_cons, List.length_append, List.length_replicate, List.length_nil]
      at hroom ⊢
    omega
  · contradiction

/-- There is room for a SHA-256 digest in 62 octets. -/
theorem exists_pad? {modulus : Nat} (hroom : 62 ≤ size modulus) (message : Octets) :
    ∃ padded, pad? .sha256 (size modulus) message = some padded := by
  have hlength : (digestHeader .sha256 ++ Hash.digest .sha256 message).length = 51 := by
    rw [List.length_append, Hash.length_digest]
    rfl
  exact ⟨_, by rw [pad?, hlength, if_pos hroom]⟩

/-- A padded digest has its frame around it. -/
theorem room_of_pad? {h : Hash} {n : Nat} {message padded : Octets}
    (hpad : pad? h n message = some padded) : 11 ≤ n := by
  simp only [pad?] at hpad
  split at hpad
  · omega
  · contradiction

/-- A signature has the length of the modulus, which has room for a digest, so it is not empty. -/
theorem ne_nil_of_verify {h : Hash} {key : PublicKey} {message signature : Octets}
    (hverifies : verify h key message signature = true) : signature ≠ [] := by
  rintro rfl
  unfold verify at hverifies
  cases hpad : pad? h (size key.modulus) message with
  | none => simp [hpad] at hverifies
  | some padded =>
    have hroom := room_of_pad? hpad
    have hlength : 0 = size key.modulus := by
      simp only [hpad, Bool.and_eq_true, decide_eq_true_eq] at hverifies
      exact hverifies.1.1
    omega

/-- And so it is when it is made, whether its key is genuine or not. -/
theorem ne_nil_of_sign? {h : Hash} {key : PrivateKey} {message signature : Octets}
    (hsign : sign? h key message = some signature) : signature ≠ [] := by
  obtain ⟨padded, hpad, rfl⟩ := Option.map_eq_some_iff.1 hsign
  have hroom := room_of_pad? hpad
  refine List.ne_nil_of_length_pos ?_
  rw [Octets.length_ofNat]
  omega

namespace PrivateKey

/-- The key signs every message, and its public half accepts what it signs. -/
def Agrees (k : PrivateKey) : Prop :=
  ∀ message, ∃ s, sign? .sha256 k message = some s ∧ verify .sha256 k.publicKey message s = true

/-- **What a genuine key signs, its public half accepts.** -/
theorem IsGenuine.agrees (h : k.IsGenuine p q) (hroom : 62 ≤ size k.modulus) : k.Agrees := by
  intro message
  have hmodulus : k.modulus ≠ 0 := by
    rw [h.modulus]
    exact Nat.mul_ne_zero h.prime_left.ne_zero h.prime_right.ne_zero
  obtain ⟨padded, hpad⟩ := exists_pad? hroom message
  have hlt : padded.toNat < k.modulus := toNat_lt_of_pad? hmodulus hpad
  have hvalue : padded.toNat ^ k.privateExponent % k.modulus < k.modulus :=
    Nat.mod_lt _ (Nat.pos_of_ne_zero hmodulus)
  have hoctets : (Octets.ofNat (size k.modulus)
      (padded.toNat ^ k.privateExponent % k.modulus)).toNat =
        padded.toNat ^ k.privateExponent % k.modulus := by
    rw [Octets.toNat_ofNat, Nat.mod_eq_of_lt (hvalue.trans (lt_pow_size hmodulus))]
  refine ⟨_, by rw [sign?, hpad]; rfl, ?_⟩
  simp only [verify, publicKey, hpad, powMod_eq, hoctets, Octets.length_ofNat, h.pow_pow_mod hlt,
    hvalue, decide_true, beq_self_eq_true, Bool.and_self]

/-- A key of two Mersenne primes, just long enough for a SHA-256 digest. -/
def specimen : PrivateKey :=
  ⟨(2 ^ 521 - 1) * (2 ^ 127 - 1), 65537,
    (65280 * Nat.lcm (2 ^ 521 - 2) (2 ^ 127 - 2) + 1) / 65537⟩

theorem specimen_isGenuine : specimen.IsGenuine (2 ^ 521 - 1) (2 ^ 127 - 1) where
  prime_left := lucas_lehmer_sufficiency _ (by norm_num) (by norm_num)
  prime_right := lucas_lehmer_sufficiency _ (by norm_num) (by norm_num)
  distinct := by decide +kernel
  modulus := rfl
  inverse := by
    have hone : specimen.publicExponent * specimen.privateExponent %
        Nat.lcm (2 ^ 521 - 1 - 1) (2 ^ 127 - 1 - 1) = 1 := by decide +kernel
    exact hone.trans (Nat.mod_eq_of_lt (by decide +kernel)).symm

theorem specimen_agrees : specimen.Agrees := specimen_isGenuine.agrees (by decide +kernel)

end PrivateKey

end Rsa

end FiscalGateway.Crypto

namespace FiscalGateway.Pki.PrivateKey

/-- A key signs what it is asked to if it agrees with its public half. -/
theorem exists_sign? (key : PrivateKey) {k : Crypto.Rsa.PrivateKey} (hkey : key.rsa? = some k)
    (hagrees : k.Agrees) (message : Octets) : ∃ signature, key.sign? message = some signature ∧
      Crypto.Rsa.verify .sha256 k.publicKey message signature = true := by
  obtain ⟨signature, hsign, hverifies⟩ := hagrees message
  refine ⟨signature, ?_, hverifies⟩
  rw [sign?, hkey]
  exact hsign

theorem ne_nil_of_sign? {key : PrivateKey} {message signature : Octets}
    (hsign : key.sign? message = some signature) : signature ≠ [] := by
  obtain ⟨k, -, hk⟩ := Option.bind_eq_some_iff.1 hsign
  exact Crypto.Rsa.ne_nil_of_sign? hk

end FiscalGateway.Pki.PrivateKey

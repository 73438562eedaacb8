import FiscalGateway.Text.Octets
import Mathlib.Data.List.Induction
import Mathlib.Tactic.Ring

/-!
# Octets — numbers and their digits, characters and their encoding

A number survives the passage through its octets (`toNat_ofNat`), and octets are below the power of
their length (`toNat_lt`). In the octets of a text those below 128 stand for themselves and for
nothing else (`mem_utf8EncodeChar_iff`).
-/

namespace FiscalGateway.Octets

theorem toNat_append_singleton (b : Octets) (o : UInt8) :
    toNat (b ++ [o]) = toNat b * 256 + o.toNat := by
  simp [toNat]

/-- A leading zero does not count. -/
theorem toNat_zero_cons (b : Octets) : toNat (0 :: b) = toNat b := by
  simp [toNat]

theorem toNat_lt (b : Octets) : toNat b < 256 ^ b.length := by
  induction b using List.reverseRecOn with
  | nil => simp [toNat]
  | append_singleton b o ih =>
    have ho := o.toNat_lt
    rw [toNat_append_singleton, List.length_append, List.length_singleton, pow_succ]
    omega

/-- **The digits of a number give its remainder.** -/
theorem toNat_ofNat (width n : Nat) : toNat (ofNat width n) = n % 256 ^ width := by
  induction width generalizing n with
  | zero => simp [ofNat, toNat, Nat.mod_one]
  | succ width ih =>
    have hdigit : (UInt8.ofNat (n % 256)).toNat = n % 256 := by
      rw [UInt8.toNat_ofNat']
      omega
    rw [ofNat, toNat_append_singleton, ih, hdigit, pow_succ', Nat.mod_mul]
    ring

/-! ## Characters -/

/-- A text is encoded character by character. -/
theorem ofText_ofList (s : List Char) :
    ofText (String.ofList s) = s.flatMap String.utf8EncodeChar := by
  rw [ofText, String.toByteArray_ofList, List.utf8Encode]
  simp

/-- An octet below 128 is a character of its own. -/
theorem ascii_of_mem_utf8EncodeChar {o : UInt8} {c : Char} (h : o ∈ String.utf8EncodeChar c)
    (ho : o.toNat < 128) : String.utf8EncodeChar c = [o] ∧ c.toNat = o.toNat := by
  have hnat : c.val.toNat = c.toNat := rfl
  by_cases hc : c.toNat ≤ 127
  · have hone : String.utf8EncodeChar c = [UInt8.ofNat c.toNat] := by
      simp [String.utf8EncodeChar, hnat, hc]
    rw [hone, List.mem_singleton] at h
    subst h
    refine ⟨hone, ?_⟩
    rw [UInt8.toNat_ofNat']
    omega
  · have hlarge : ∀ o ∈ String.utf8EncodeChar c, 128 ≤ o.toNat := by
      simp only [String.utf8EncodeChar, hnat, if_neg hc]
      repeat' split
      all_goals
        simp only [List.forall_mem_cons, UInt8.toNat_ofNat', List.not_mem_nil, false_implies,
          implies_true, and_true]
        omega
    exact absurd (hlarge o h) (by omega)

/-- The octet of an ASCII character is part of no other character. -/
theorem mem_utf8EncodeChar_iff {c d : Char} (hd : d.toNat < 128) :
    UInt8.ofNat d.toNat ∈ String.utf8EncodeChar c ↔ c = d := by
  have hd' : (UInt8.ofNat d.toNat).toNat = d.toNat := by
    rw [UInt8.toNat_ofNat']
    omega
  constructor
  · intro h
    have hc := (ascii_of_mem_utf8EncodeChar h (by omega)).2
    exact Char.toNat_inj.1 (hc.trans hd')
  · rintro rfl
    have hone : c.val.toNat ≤ 127 := Nat.le_of_lt_succ hd
    simp only [String.utf8EncodeChar, if_pos hone]
    exact List.mem_singleton_self _

/-- And a text begins with it if its octets do. -/
theorem head?_of_head?_flatMap {s : List Char} {d : Char} (hd : d.toNat < 128)
    (h : (s.flatMap String.utf8EncodeChar).head? = some (UInt8.ofNat d.toNat)) :
    s.head? = some d := by
  cases s with
  | nil => simp at h
  | cons c s =>
    cases hc : String.utf8EncodeChar c with
    | nil => exact absurd hc String.utf8EncodeChar_ne_nil
    | cons o os =>
      rw [List.flatMap_cons, hc] at h
      have hmem : UInt8.ofNat d.toNat ∈ String.utf8EncodeChar c :=
        hc ▸ List.mem_cons.2 (.inl (Option.some.inj h).symm)
      rw [(mem_utf8EncodeChar_iff hd).1 hmem]
      rfl

end FiscalGateway.Octets

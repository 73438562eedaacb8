import FiscalGateway.Text.Hex

/-!
# Hexadecimal text — what is written is read

A digit of either case is read as its value (`digit?_lowerDigit`, `digit?_upperDigit`), and two of
them as the octet that they were written for (`decode_encodeWith`), so octets are determined by
their digits (`encodeWith_inj`).
-/

namespace FiscalGateway.Text.Hex

variable {digit : Nat → Char}

/-- A digit has its value. -/
theorem digit?_lowerDigit {n : Nat} (h : n < 16) : digit? (lowerDigit n) = some n :=
  (by decide : ∀ n < 16, digit? (lowerDigit n) = some n) n h

theorem digit?_upperDigit {n : Nat} (h : n < 16) : digit? (upperDigit n) = some n :=
  (by decide : ∀ n < 16, digit? (upperDigit n) = some n) n h

/-- What holds of the digits holds of every character of the text. -/
theorem forall_mem_encodeWith {p : Char → Prop} (h : ∀ n < 16, p (digit n)) (b : Octets) :
    ∀ c ∈ encodeWith digit b, p c := by
  intro c hc
  obtain ⟨o, -, ho⟩ := List.mem_flatMap.1 hc
  have hhigh : o.toNat / 16 < 16 := by have := o.toNat_lt; omega
  have hlow : o.toNat % 16 < 16 := by omega
  simp only [List.mem_cons, List.not_mem_nil, or_false] at ho
  rcases ho with rfl | rfl
  · exact h _ hhigh
  · exact h _ hlow

theorem notMem_encodeWith {c : Char} (h : ∀ n < 16, digit n ≠ c) (b : Octets) :
    c ∉ encodeWith digit b :=
  fun hmem => forall_mem_encodeWith (p := (· ≠ c)) h b c hmem rfl

/-- **The digits of octets are read as these octets**, in either case. -/
theorem decode_encodeWith (h : ∀ n < 16, digit? (digit n) = some n) (b : Octets) :
    decode (encodeWith digit b) = some b := by
  induction b with
  | nil => rfl
  | cons o b ih =>
    have ho : o.toNat < 256 := o.toNat_lt
    have hhigh := h (o.toNat / 16) (by omega)
    have hlow := h (o.toNat % 16) (by omega)
    have hsum : o.toNat / 16 * 16 + o.toNat % 16 = o.toNat := by omega
    change decode (digit (o.toNat / 16) :: digit (o.toNat % 16) :: encodeWith digit b) = _
    simp only [decode, hhigh, hlow, ih, Option.bind_eq_bind, Option.bind_some, hsum]
    simp

/-- Octets are determined by their digits. -/
theorem encodeWith_inj (h : ∀ n < 16, digit? (digit n) = some n) {a b : Octets} :
    encodeWith digit a = encodeWith digit b ↔ a = b := by
  refine ⟨fun heq => ?_, congrArg _⟩
  rw [← Option.some_inj, ← decode_encodeWith h a, heq, decode_encodeWith h b]

end FiscalGateway.Text.Hex

import FiscalGateway.Text.Base64

/-!
# Base64 — what is written is read

`decodeChars_encodeChars` says that octets survive the passage through their padded text, and
`forall_mem_encodeChars` that such a text holds nothing but the alphabet and its padding, so a
property of 65 characters is one of every such text.
-/

namespace FiscalGateway.Text.Base64

/-- The value of a symbol is the number it was written for. -/
theorem value?_symbol {n : Nat} (h : n < 64) : value? (symbol n) = some n :=
  (by decide : ∀ n < 64, value? (symbol n) = some n) n h

/-- The padding is no symbol. -/
theorem symbol_ne_padding {n : Nat} (h : n < 64) : symbol n ≠ '=' :=
  (by decide : ∀ n < 64, symbol n ≠ '=') n h

/-- What holds of the padding and of every symbol holds of all characters of an encoded text. -/
theorem forall_mem_encodeChars {P : Char → Prop} (padding : P '=')
    (symbols : ∀ n < 64, P (symbol n)) (b : Octets) : ∀ c ∈ encodeChars b, P c := by
  intro c hc
  fun_induction encodeChars b with
  | case1 => cases hc
  | case2 a n =>
    have hn : n < 256 := a.toNat_lt
    simp only [List.mem_cons, List.not_mem_nil, or_false] at hc
    rcases hc with rfl | rfl | rfl | rfl
    · exact symbols _ (by omega)
    · exact symbols _ (by omega)
    · exact padding
    · exact padding
  | case3 a b n =>
    have ha := a.toNat_lt
    have hb := b.toNat_lt
    simp only [List.mem_cons, List.not_mem_nil, or_false] at hc
    rcases hc with rfl | rfl | rfl | rfl
    · exact symbols _ (by omega)
    · exact symbols _ (by omega)
    · exact symbols _ (by omega)
    · exact padding
  | case4 a b c' rest n ih =>
    have ha := a.toNat_lt
    have hb := b.toNat_lt
    have hc' := c'.toNat_lt
    simp only [List.mem_cons] at hc
    rcases hc with rfl | rfl | rfl | rfl | hc
    · exact symbols _ (by omega)
    · exact symbols _ (by omega)
    · exact symbols _ (by omega)
    · exact symbols _ (by omega)
    · exact ih hc

/-- A full group of symbols is read as three octets in front of the rest. -/
theorem decodeChars_group {n : Nat} (hn : n < 16777216) (rest : List Char) :
    decodeChars (symbol (n / 262144) :: symbol (n / 4096 % 64) :: symbol (n / 64 % 64) ::
        symbol (n % 64) :: rest) =
      (decodeChars rest).map
        (UInt8.ofNat (n / 65536) :: UInt8.ofNat (n / 256 % 256) :: UInt8.ofNat (n % 256) :: ·) := by
  have h₁ := value?_symbol (n := n / 262144) (by omega)
  have h₂ := value?_symbol (n := n / 4096 % 64) (by omega)
  have h₃ := value?_symbol (n := n / 64 % 64) (by omega)
  have h₄ := value?_symbol (n := n % 64) (by omega)
  have hne : symbol (n % 64) ≠ '=' := symbol_ne_padding (by omega)
  have hsum : ((n / 262144 * 64 + n / 4096 % 64) * 64 + n / 64 % 64) * 64 + n % 64 = n := by omega
  rw [decodeChars]
  · simp only [h₁, h₂, h₃, h₄, Option.bind_eq_bind, Option.bind_some, hsum]
    cases decodeChars rest <;> rfl
  · intro _ h _
    exact hne h
  · intro h _
    exact hne h

/-- **What is written is read.** -/
theorem decodeChars_encodeChars (b : Octets) : decodeChars (encodeChars b) = some b := by
  fun_induction encodeChars b with
  | case1 => rfl
  | case2 a n =>
    have hn : n < 256 := a.toNat_lt
    have h₁ := value?_symbol (n := n / 4) (by omega)
    have h₂ := value?_symbol (n := n % 4 * 16) (by omega)
    have hsum : n / 4 * 64 + n % 4 * 16 = n * 16 := by omega
    have hfirst : n * 16 / 16 = a.toNat := by omega
    simp only [decodeChars, h₁, h₂, Option.bind_eq_bind, Option.bind_some, hsum]
    rw [if_pos (by omega), hfirst]
    simp
  | case3 a b n =>
    have ha := a.toNat_lt
    have hb := b.toNat_lt
    have hn : n < 65536 := by omega
    have h₁ := value?_symbol (n := n / 1024) (by omega)
    have h₂ := value?_symbol (n := n / 16 % 64) (by omega)
    have h₃ := value?_symbol (n := n % 16 * 4) (by omega)
    have hne : symbol (n % 16 * 4) ≠ '=' := symbol_ne_padding (by omega)
    have hsum : (n / 1024 * 64 + n / 16 % 64) * 64 + n % 16 * 4 = n * 4 := by omega
    have hfirst : n * 4 / 1024 = a.toNat := by omega
    have hsecond : n * 4 / 4 % 256 = b.toNat := by omega
    rw [decodeChars]
    · simp only [h₁, h₂, h₃, Option.bind_eq_bind, Option.bind_some, hsum]
      rw [if_pos (by omega), hfirst, hsecond]
      simp
    · exact hne
  | case4 a b c rest n ih =>
    have ha := a.toNat_lt
    have hb := b.toNat_lt
    have hc := c.toNat_lt
    have hfirst : n / 65536 = a.toNat := by omega
    have hsecond : n / 256 % 256 = b.toNat := by omega
    have hthird : n % 256 = c.toNat := by omega
    rw [decodeChars_group (by omega), ih]
    simp [hfirst, hsecond, hthird]

/-- Octets that give the same text are the same. -/
theorem encodeChars_injective {a b : Octets} (h : encodeChars a = encodeChars b) : a = b := by
  have := decodeChars_encodeChars a
  rw [h, decodeChars_encodeChars] at this
  exact (Option.some.inj this).symm

end FiscalGateway.Text.Base64

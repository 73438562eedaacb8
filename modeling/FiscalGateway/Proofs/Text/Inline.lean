import FiscalGateway.Number.Shortest
import FiscalGateway.Proofs.Text.Base64
import FiscalGateway.Proofs.Text.Hex

/-!
# Inline texts — texts without control characters

Readers of markup replace tabs and ends of lines, and no other characters. A text without control
characters (`IsInline`) has none of these. What this library writes of numbers and octets is such a
text, and so is what is put together from such texts.
-/

namespace FiscalGateway.Text

/-- **A text without control characters**: its only blanks are spaces and what is beyond ASCII. -/
def IsInline (s : List Char) : Prop := ∀ c ∈ s, ' ' ≤ c

-- Found by inference, this could as well be a search through all characters.
instance : DecidablePred IsInline := fun s => List.decidableBAll _ s

variable {s t : List Char} {c : Char}

@[simp] theorem isInline_nil : IsInline [] := List.forall_mem_nil _

@[simp] theorem isInline_cons : IsInline (c :: s) ↔ ' ' ≤ c ∧ IsInline s := List.forall_mem_cons

@[simp] theorem isInline_append : IsInline (s ++ t) ↔ IsInline s ∧ IsInline t :=
  List.forall_mem_append

/-- A part of an inline text is one. -/
theorem IsInline.of_subset (h : IsInline s) (hsub : t ⊆ s) : IsInline t :=
  fun c hc => h c (hsub hc)

/-- A control character is in no inline text. -/
theorem IsInline.not_mem (h : IsInline s) (hc : c < ' ') : c ∉ s :=
  fun hmem => Char.not_le.2 hc (h c hmem)

theorem isInline_replicate (n : Nat) (h : ' ' ≤ c) : IsInline (List.replicate n c) := by
  intro d hd
  rw [List.eq_of_mem_replicate hd]
  exact h

/-! ## Numbers -/

/-- A digit is no control character. -/
theorem space_le_of_isDigit (h : c.isDigit = true) : ' ' ≤ c := by
  rw [Char.isDigit, Bool.and_eq_true, decide_eq_true_eq] at h
  exact Char.le_trans (by decide) (Char.le_def.2 h.1)

theorem isInline_toDigits (n : Nat) : IsInline (Nat.toDigits 10 n) := by
  intro c hc
  exact space_le_of_isDigit (Nat.isDigit_of_mem_toDigits (by decide) (by decide) hc)

/-- A point between digits makes no difference. -/
theorem IsInline.insertPoint {digits : List Char} (h : IsInline digits) (places : Nat) :
    IsInline (Number.insertPoint digits places) := by
  unfold Number.insertPoint
  split
  · exact h
  · have hpadded : IsInline (List.replicate (places + 1 - digits.length) '0' ++ digits) :=
      isInline_append.2 ⟨isInline_replicate _ (by decide), h⟩
    refine isInline_append.2 ⟨hpadded.of_subset (List.take_subset _ _), ?_⟩
    exact isInline_cons.2 ⟨by decide, hpadded.of_subset (List.drop_subset _ _)⟩

/-! ## Octets -/

/-- Octets in digits are inline if each digit is. -/
theorem isInline_encodeWith {digit : Nat → Char} (h : ∀ n < 16, ' ' ≤ digit n) (b : Octets) :
    IsInline (Hex.encodeWith digit b) :=
  Hex.forall_mem_encodeWith h b

theorem isInline_encodeChars (b : Octets) : IsInline (Base64.encodeChars b) :=
  Base64.forall_mem_encodeChars (by decide) (by decide) b

end FiscalGateway.Text

import FiscalGateway.Proofs.Outcome
import FiscalGateway.Proofs.Text.Inline
import FiscalGateway.Sale.Validation

/-!
# Valid sales — what validation lets pass, and how its values are written

`Sale.IsValid` is the conjunction of the checks, in any order (`Sale.validate_eq_ok`). The texts of
a valid sale are inline, and what is written of its numbers and times is so of every sale. So no
reader of markup changes a value of a valid sale.
-/

namespace FiscalGateway

open Outcome Text

/-! ## Validation -/

/-- **A valid sale.** -/
structure Sale.IsValid (s : Sale) : Prop where
  uuid : 1 ≤ s.uuid.version ∧ s.uuid.version ≤ 5 ∧ s.uuid.variant = .rfc4122
  taxId : isTaxId s.taxId.toList = true
  delegate : ∀ d, s.delegateTaxId = some d → isTaxId d.toList = true ∧ d ≠ s.taxId
  premises : 1 ≤ s.premises ∧ s.premises ≤ 999999
  register : isIdentifier 20 s.register.toList = true
  serial : isIdentifier 25 s.serial.toList = true
  amounts : ∀ a ∈ s.amounts, isAmount a.2 = true

section Checks

variable {u : Unit}

theorem checkTaxId_eq_ok {field value : String} :
    checkTaxId field value = .ok u ↔ isTaxId value.toList = true := by
  unfold checkTaxId
  split <;> simp_all

theorem checkIdentifier_eq_ok {field value : String} {maxLength : Nat} :
    checkIdentifier field maxLength value = .ok u ↔
      isIdentifier maxLength value.toList = true := by
  unfold checkIdentifier
  split <;> simp_all

theorem checkDelegate_eq_ok {taxId : String} {delegate : Option String} :
    checkDelegate taxId delegate = .ok u ↔
      ∀ d, delegate = some d → isTaxId d.toList = true ∧ d ≠ taxId := by
  cases delegate with
  | none => simp [checkDelegate]
  | some d =>
    by_cases hsame : d = taxId
    · simp [checkDelegate, hsame]
    · simp [checkDelegate, checkTaxId_eq_ok, hsame]

theorem checkAmounts_eq_ok {amounts : List (String × Number.Decimal)} :
    checkAmounts amounts = .ok u ↔ ∀ a ∈ amounts, isAmount a.2 = true := by
  induction amounts with
  | nil => simp [checkAmounts]
  | cons a amounts ih =>
    rw [checkAmounts, List.forall_mem_cons, ← ih]
    split <;> simp_all

/-- **Exactly the valid sales pass.** -/
theorem Sale.validate_eq_ok {s : Sale} : s.validate = .ok u ↔ s.IsValid := by
  unfold Sale.validate
  simp only [guard_eq_ok, bind_eq_ok, checkTaxId_eq_ok, checkDelegate_eq_ok,
    checkIdentifier_eq_ok, checkAmounts_eq_ok, exists_const]
  constructor
  · rintro ⟨huuid, htaxId, hdelegate, hpremises, hregister, hserial, hamounts⟩
    exact ⟨huuid, htaxId, hdelegate, hpremises, hregister, hserial, hamounts⟩
  · intro h
    exact ⟨h.uuid, h.taxId, h.delegate, h.premises, h.register, h.serial, h.amounts⟩

end Checks

/-! ## Inline values -/

/-- A digit as validation has it. -/
theorem space_le_of_isAsciiDigit {c : Char} (h : isAsciiDigit c = true) : ' ' ≤ c := by
  rw [isAsciiDigit, Bool.and_eq_true, decide_eq_true_eq] at h
  exact Char.le_trans (by decide) h.1

theorem isInline_of_isTaxId {s : List Char} (h : isTaxId s = true) : IsInline s := by
  unfold isTaxId at h
  split at h
  · next digits =>
    rw [Bool.and_eq_true, List.all_eq_true] at h
    have hdigits : IsInline digits := fun c hc => space_le_of_isAsciiDigit (h.2 c hc)
    exact isInline_cons.2 ⟨by decide, isInline_cons.2 ⟨by decide, hdigits⟩⟩
  · contradiction

/-- Each range and each single character of an identifier is above the control characters. -/
theorem space_le_of_isIdentifierChar {c : Char} (h : isIdentifierChar c = true) : ' ' ≤ c := by
  simp only [isIdentifierChar, Bool.or_eq_true, Bool.and_eq_true, decide_eq_true_eq,
    beq_iff_eq] at h
  rcases h with
    (((((((((((h | h) | h) | rfl) | rfl) | rfl) | rfl) | rfl) | rfl) | rfl) | rfl) | rfl)
  · exact space_le_of_isAsciiDigit h
  · exact Char.le_trans (by decide) h.1
  · exact Char.le_trans (by decide) h.1
  all_goals decide

theorem isInline_of_isIdentifier {s : List Char} {maxLength : Nat}
    (h : isIdentifier maxLength s = true) : IsInline s := by
  rw [isIdentifier, Bool.and_eq_true, List.all_eq_true] at h
  exact fun c hc => space_le_of_isIdentifierChar (h.2 c hc)

theorem isInline_write_uuid (u : Uuid) : IsInline u.write := by
  have hdigits : IsInline (Hex.encodeWith Hex.lowerDigit u.octets) :=
    isInline_encodeWith (by decide) _
  have hpart (n k : Nat) : IsInline (((Hex.encodeWith Hex.lowerDigit u.octets).drop n).take k) :=
    hdigits.of_subset (List.Subset.trans (List.take_subset _ _) (List.drop_subset _ _))
  have hfirst := hdigits.of_subset (List.take_subset 8 _)
  have hlast := hdigits.of_subset (List.drop_subset 20 _)
  have hhyphen : ' ' ≤ '-' := by decide
  simp only [Uuid.write, isInline_append, isInline_cons, hpart, hfirst, hlast, hhyphen, and_self]

/-- An amount is a sign, digits and a point. -/
theorem isInline_wire (d : Number.Decimal) : IsInline d.wire := by
  have hwrite (d : Number.Decimal) : IsInline d.write := by
    unfold Number.Decimal.write
    refine isInline_append.2 ⟨?_, (isInline_toDigits _).insertPoint _⟩
    split <;> decide
  exact hwrite _

namespace Time

theorem isInline_padded (width n : Nat) : IsInline (padded width n) :=
  isInline_append.2 ⟨isInline_replicate _ (by decide), isInline_toDigits n⟩

/-- A time is digits and the marks between them. -/
theorem isInline_writeSeconds (t : Timestamp) : IsInline t.writeSeconds := by
  have hyear (year : Int) : IsInline (writeYear year) := by
    unfold writeYear
    split
    · exact isInline_padded _ _
    · refine isInline_cons.2 ⟨?_, isInline_padded _ _⟩
      split <;> decide
  have hoffset (offset : Int) : IsInline (writeOffset offset) := by
    have hsign : ' ' ≤ (if offset < 0 then '-' else '+') := by split <;> decide
    simp only [writeOffset, isInline_append, isInline_cons, isInline_padded]
    exact ⟨⟨hsign, trivial⟩, by decide, trivial⟩
  have hmarks : ' ' ≤ '-' ∧ ' ' ≤ 'T' ∧ ' ' ≤ ':' := by decide
  simp only [Timestamp.writeSeconds, writeClock, isInline_append, isInline_cons, isInline_padded,
    hyear, hoffset, hmarks, and_self]

end Time

end FiscalGateway

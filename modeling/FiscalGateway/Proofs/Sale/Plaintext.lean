import FiscalGateway.Proofs.Sale.Amounts
import FiscalGateway.Proofs.Sale.Validation
import FiscalGateway.Proofs.Time.Rfc3339
import FiscalGateway.Sale.SecurityCodes

/-!
# The signed text — what a signature is about

The parts of a valid sale hold no separator, so the text that is signed falls into them again
(`splitOn_plaintext`). Each part says its value, so two valid sales have the same text exactly if
they agree in every signed part (`plaintext_eq_iff`).
-/

namespace FiscalGateway

open Number (Decimal)

/-! ## The separator is in no part -/

theorem separator_notMem_of_isTaxId {s : List Char} (h : isTaxId s = true) : '|' ∉ s := by
  unfold isTaxId at h
  split at h
  · next digits =>
    rw [Bool.and_eq_true, List.all_eq_true] at h
    have hdigits : '|' ∉ digits := fun hmem => absurd (h.2 _ hmem) (by decide)
    simpa using hdigits
  · contradiction

theorem separator_notMem_of_isIdentifier {s : List Char} {maxLength : Nat}
    (h : isIdentifier maxLength s = true) : '|' ∉ s := by
  rw [isIdentifier, Bool.and_eq_true, List.all_eq_true] at h
  exact fun hmem => absurd (h.2 _ hmem) (by decide)

theorem separator_notMem_toDigits (n : Nat) : '|' ∉ Nat.toDigits 10 n :=
  fun hmem => absurd (Number.isDigit_of_mem_toDigits hmem) (by decide)

theorem separator_notMem_padded (width n : Nat) : '|' ∉ Time.padded width n :=
  fun hmem => absurd (Time.isDigit_of_mem_padded hmem) (by decide)

/-- A time is digits and the marks between them. -/
theorem separator_notMem_writeSeconds (t : Time.Timestamp) : '|' ∉ t.writeSeconds := by
  have hyear : '|' ∉ Time.writeYear t.date.year := by
    by_cases h : Time.HasFourDigits t.date.year
    · rw [Time.writeYear_of_hasFourDigits h]
      exact separator_notMem_padded _ _
    · rw [Time.writeYear_of_not h, List.mem_cons, not_or]
      exact ⟨by split <;> decide, separator_notMem_padded _ _⟩
  have hsign : '|' ≠ (if t.offset < 0 then '-' else '+') := by split <;> decide
  simp [Time.Timestamp.writeSeconds, Time.writeClock, Time.writeOffset, hyear, hsign,
    separator_notMem_padded]

/-- An amount is a sign, digits and a point. -/
theorem separator_notMem_wire (d : Decimal) : '|' ∉ d.wire := by
  have hsign (p : Prop) [Decidable p] : '|' ∉ (if p then ['-'] else []) := by split <;> decide
  rw [wire_eq, Decimal.write, List.mem_append, not_or]
  refine ⟨hsign _, ?_⟩
  rcases Nat.eq_zero_or_pos d.inHundredths.places with hzero | hpos
  · simpa [hzero, Number.insertPoint] using separator_notMem_toDigits d.inHundredths.coefficient
  · rw [Number.insertPoint_toDigits _ hpos]
    simp [separator_notMem_toDigits, separator_notMem_padded]

/-! ## The text -/

section Text

variable {s t : Sale} {soldAt soldAt' : Time.Timestamp}

/-- **The signed text falls into its parts.** -/
theorem splitOn_plaintext (h : s.IsValid) (soldAt : Time.Timestamp) :
    (plaintextSeparator.intercalate (s.signedParts soldAt)).splitOn '|' = s.signedParts soldAt := by
  refine List.splitOn_intercalate '|' (fun part hpart => ?_) (by simp [Sale.signedParts])
  simp only [Sale.signedParts, List.mem_cons, List.not_mem_nil, or_false] at hpart
  rcases hpart with rfl | rfl | rfl | rfl | rfl | rfl
  · exact separator_notMem_of_isTaxId h.taxId
  · exact separator_notMem_toDigits s.premises
  · exact separator_notMem_of_isIdentifier h.register
  · exact separator_notMem_of_isIdentifier h.serial
  · exact separator_notMem_writeSeconds soldAt
  · exact separator_notMem_wire s.total

/-- Valid sales have the same text if and only if they have the same parts. -/
theorem plaintext_eq_iff_signedParts (hs : s.IsValid) (ht : t.IsValid)
    (hsold : s.soldAt = some soldAt) (hsold' : t.soldAt = some soldAt') :
    s.plaintext = t.plaintext ↔ s.signedParts soldAt = t.signedParts soldAt' := by
  simp only [Sale.plaintext, hsold, hsold', Except.ok.injEq, String.ofList_inj]
  constructor
  · intro h
    rw [← splitOn_plaintext hs soldAt, h, splitOn_plaintext ht soldAt']
  · exact congrArg _

/-- **Sales that are signed alike**: the total is the same number, and the time the same to the
second. -/
structure Sale.SignedAlike (s t : Sale) (soldAt soldAt' : Time.Timestamp) : Prop where
  taxId : s.taxId = t.taxId
  premises : s.premises = t.premises
  register : s.register = t.register
  serial : s.serial = t.serial
  total : s.total.toRat = t.total.toRat
  date : soldAt.date = soldAt'.date
  hour : soldAt.time.hour = soldAt'.time.hour
  minute : soldAt.time.minute = soldAt'.time.minute
  second : soldAt.time.second = soldAt'.time.second
  offset : soldAt.offset = soldAt'.offset

theorem signedParts_eq_iff (hs : s.IsValid) (ht : t.IsValid) :
    s.signedParts soldAt = t.signedParts soldAt' ↔ s.SignedAlike t soldAt soldAt' := by
  have htotal {s : Sale} (h : s.IsValid) : isAmount s.total = true :=
    h.amounts ("celk_trzba", s.total) (List.mem_cons_self ..)
  have hpremises : Nat.toDigits 10 s.premises = Nat.toDigits 10 t.premises ↔
      s.premises = t.premises := by
    refine ⟨fun h => ?_, congrArg _⟩
    rw [← Nat.ofDigitChars_ten_toDigits (n := s.premises), h, Nat.ofDigitChars_ten_toDigits]
  simp only [Sale.signedParts, List.cons.injEq, String.toList_inj, hpremises,
    Time.writeSeconds_eq_iff, Time.Timestamp.truncate_eq_iff, wire_eq_iff (htotal hs) (htotal ht),
    and_true]
  constructor
  · rintro ⟨htaxId, hpremises, hregister, hserial, ⟨hdate, hhour, hminute, hsecond, hoffset⟩,
      htotal⟩
    exact ⟨htaxId, hpremises, hregister, hserial, htotal, hdate, hhour, hminute, hsecond, hoffset⟩
  · intro h
    exact ⟨h.taxId, h.premises, h.register, h.serial,
      ⟨h.date, h.hour, h.minute, h.second, h.offset⟩, h.total⟩

/-- **The signed text is unambiguous**: two valid sales with a time have the same text if and only
if they are signed alike. -/
theorem plaintext_eq_iff (hs : s.validate = .ok ()) (ht : t.validate = .ok ())
    (hsold : s.soldAt = some soldAt) (hsold' : t.soldAt = some soldAt') :
    s.plaintext = t.plaintext ↔ s.SignedAlike t soldAt soldAt' := by
  rw [Sale.validate_eq_ok] at hs ht
  rw [plaintext_eq_iff_signedParts hs ht hsold hsold', signedParts_eq_iff hs ht]

/-- A negative total with two places and with twenty, at a leap second in the year 12345, without a
fraction and with one. -/
theorem plaintext_eq_iff_specimen :
    ∃ (s t : Sale) (soldAt soldAt' : Time.Timestamp), s.validate = .ok () ∧ t.validate = .ok () ∧
      s.soldAt = some soldAt ∧ t.soldAt = some soldAt' ∧ s.total ≠ t.total ∧ soldAt ≠ soldAt' ∧
      s.plaintext = t.plaintext ∧ s.SignedAlike t soldAt soldAt' := by
  -- five digits of a year, a leap second, and an offset with half an hour
  let soldAt : Time.Timestamp :=
    ⟨⟨12345, 12, 31⟩, ⟨23, 59, 60, 0⟩, -330, by decide, by decide, by decide, by decide⟩
  let soldAt' : Time.Timestamp :=
    ⟨⟨12345, 12, 31⟩, ⟨23, 59, 60, 999999999⟩, -330, by decide, by decide, by decide, by decide⟩
  let s : Sale := {
    uuid := ⟨[0, 0, 0, 0, 0, 0, 0x40, 0, 0x80, 0, 0, 0, 0, 0, 0, 0], rfl⟩
    sentAt := none
    firstSending := true
    checkOnly := none
    taxId := "CZ00000019"
    delegateTaxId := none
    premises := 141
    register := "a-b:c"
    serial := "#1"
    soldAt := some soldAt
    total := { negative := true, coefficient := 125, places := 2 }
    amount := fun _ => none
    regime := .standard
    signatureCode := none
    fingerprintCode := none }
  let t : Sale := { s with
    soldAt := some soldAt'
    total := { negative := true, coefficient := 125000000000000000000, places := 20 } }
  have hs : s.validate = .ok () :=
    Sale.validate_eq_ok.2 ⟨by decide, by decide, by simp [s], by decide, by decide, by decide,
      by decide⟩
  have ht : t.validate = .ok () :=
    Sale.validate_eq_ok.2 ⟨by decide, by decide, by simp [t, s], by decide, by decide, by decide,
      by decide⟩
  have hsame : s.plaintext = t.plaintext := by decide +kernel
  exact ⟨s, t, soldAt, soldAt', hs, ht, rfl, rfl, by decide, by decide, hsame,
    (plaintext_eq_iff hs ht rfl rfl).1 hsame⟩

end Text

end FiscalGateway

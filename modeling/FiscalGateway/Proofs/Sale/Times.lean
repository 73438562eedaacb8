import FiscalGateway.Proofs.Outcome
import FiscalGateway.Proofs.Time.Rfc3339
import FiscalGateway.Sale.Json
import FiscalGateway.Sale.Validation
import Mathlib.Data.List.Forall2

/-!
# Times on the wire — the form of the registry

A time of a sale is written in the form of the registry, and read back as the same instant in whole
seconds, if and only if its year has four digits (`formatTime_iff`). Neither the reader of sales nor
validation asks for that: a valid sale may be of the year 10000
(`exists_formatTime_of_five_digits`).
-/

namespace FiscalGateway

open Time (Timestamp HasFourDigits)

/-! ## The form -/

/-- What may stand at one place of a time. -/
inductive TimeSlot where
  | digit
  | sign
  | mark (c : Char)

/-- Whether a character may stand there. -/
def TimeSlot.Accepts : TimeSlot → Char → Prop
  | .digit, c => c.isDigit = true
  | .sign, c => c = '+' ∨ c = '-'
  | .mark m, c => c = m

/-- As many digits. -/
def TimeSlot.digits (n : Nat) : List TimeSlot := List.replicate n .digit

open TimeSlot in
/-- **The form of a time**: `YYYY-MM-DDThh:mm:ss` and `+hh:mm` or `-hh:mm`. -/
def registryTime : List TimeSlot :=
  digits 4 ++ .mark '-' :: (digits 2 ++ .mark '-' :: (digits 2 ++
    .mark 'T' :: (digits 2 ++ .mark ':' :: (digits 2 ++ .mark ':' :: (digits 2 ++
      .sign :: (digits 2 ++ .mark ':' :: digits 2))))))

/-- A text of this form. -/
def IsRegistryTime (s : List Char) : Prop := List.Forall₂ TimeSlot.Accepts registryTime s

theorem IsRegistryTime.length_eq {s : List Char} (h : IsRegistryTime s) : s.length = 25 :=
  (List.Forall₂.length_eq h).symm

/-- A padded number fits its places. -/
theorem forall₂_padded {width n : Nat} (hwidth : 0 < width) (hn : n < 10 ^ width) :
    List.Forall₂ TimeSlot.Accepts (TimeSlot.digits width) (Time.padded width n) := by
  have hdigits {s : List Char} (hs : ∀ c ∈ s, c.isDigit = true) :
      List.Forall₂ TimeSlot.Accepts (TimeSlot.digits s.length) s := by
    induction s with
    | nil => exact .nil
    | cons c s ih =>
      obtain ⟨hc, hs⟩ := List.forall_mem_cons.1 hs
      exact .cons hc (ih hs)
  have hpadded := hdigits (s := Time.padded width n) fun _ => Time.isDigit_of_mem_padded
  rwa [Time.length_padded hwidth hn] at hpadded

section Times

variable {t : Timestamp}

/-- In a year of four digits the text has the form. -/
theorem isRegistryTime_writeSeconds (hyear : HasFourDigits t.date.year) :
    IsRegistryTime t.writeSeconds := by
  obtain ⟨hmonth, hday⟩ := Time.Date.lt_of_exists? t.date_exists
  obtain ⟨hhour, hminute, hsecond, -⟩ := Time.TimeOfDay.lt_of_exists? t.time_exists
  have hoffset := t.offset_bounded
  have htwo {n : Nat} (hn : n < 10 ^ 2) :
      List.Forall₂ TimeSlot.Accepts (TimeSlot.digits 2) (Time.padded 2 n) :=
    forall₂_padded (by decide) hn
  have hfour : List.Forall₂ TimeSlot.Accepts (TimeSlot.digits 4)
      (Time.padded 4 t.date.year.toNat) :=
    forall₂_padded (by decide) (by have := hyear.2; omega)
  have hsign : TimeSlot.sign.Accepts (if t.offset < 0 then '-' else '+') := by
    split
    · exact .inr rfl
    · exact .inl rfl
  rw [Timestamp.writeSeconds, Time.writeClock_append, Time.writeYear_of_hasFourDigits hyear,
    Time.writeOffset]
  -- slot by slot: the digits of a part, and the character behind them
  refine List.rel_append hfour (.cons rfl ?_)
  refine List.rel_append (htwo hmonth) (.cons rfl ?_)
  refine List.rel_append (htwo hday) (.cons rfl ?_)
  refine List.rel_append (htwo hhour) (.cons rfl ?_)
  refine List.rel_append (htwo hminute) (.cons rfl ?_)
  refine List.rel_append (htwo hsecond) (.cons hsign ?_)
  exact List.rel_append (htwo (by omega)) (.cons rfl (htwo (by omega)))

/-- In any other year it begins with a sign. -/
theorem hasFourDigits_of_isRegistryTime (h : IsRegistryTime t.writeSeconds) :
    HasFourDigits t.date.year := by
  by_contra hyear
  rw [Timestamp.writeSeconds, Time.writeClock_append, Time.writeYear_of_not hyear,
    List.cons_append] at h
  obtain ⟨hfirst, -⟩ := List.forall₂_cons.1 h
  simp only [TimeSlot.Accepts] at hfirst
  split at hfirst <;> cases hfirst

/-- A truncated time is the same instant in whole seconds. -/
theorem instant_truncate (t : Timestamp) :
    t.truncate.instant = t.instant / 1000000000 * 1000000000 := by
  have hnanosecond := (Time.TimeOfDay.lt_of_exists? t.time_exists).2.2.2
  have hlocal : Time.localSeconds t.truncate.date t.truncate.time =
      Time.localSeconds t.date t.time := rfl
  have hsecond : t.truncate.time.second = t.time.second := rfl
  have hzero : t.truncate.time.nanosecond = 0 := rfl
  have hoffset : t.truncate.offset = t.offset := rfl
  obtain ⟨k, hk⟩ : ∃ k : Nat, (if t.time.second = 60 then 1000000000 else 0) = k * 1000000000 := by
    split
    · exact ⟨1, rfl⟩
    · exact ⟨0, rfl⟩
  simp only [Timestamp.instant, hlocal, hsecond, hzero, hoffset, hk]
  omega

/-- **A time is written for the registry exactly in the years of four digits.** There the text has
the form, and it is read back as the same instant in whole seconds with the same offset; in all
other years neither holds. -/
theorem formatTime_iff (t : Timestamp) :
    (IsRegistryTime (formatTime t).toList ↔ HasFourDigits t.date.year) ∧
      ((∃ u, Timestamp.readExact? (formatTime t).toList = some u ∧ u.offset = t.offset ∧
        u.instant = t.instant / 1000000000 * 1000000000) ↔ HasFourDigits t.date.year) := by
  rw [formatTime, String.toList_ofList]
  refine ⟨⟨hasFourDigits_of_isRegistryTime, isRegistryTime_writeSeconds⟩, ?_, fun hyear => ?_⟩
  · rintro ⟨u, hread, -⟩
    by_contra hyear
    rw [Time.readExact?_writeSeconds_eq_none hyear] at hread
    cases hread
  · exact ⟨t.truncate, Time.readExact?_writeSeconds hyear, rfl, instant_truncate t⟩

end Times

/-- A sale of the year 10000. -/
def saleOfYear10000 : String :=
  "\x7b\"uuid_zpravy\":\"00000000-0000-4000-8000-000000000000\",\"dic_popl\":\"CZ00000019\"," ++
    "\"id_provoz\":141,\"id_pokl\":\"1\",\"porad_cis\":\"1\",\"celk_trzba\":1," ++
    "\"dat_trzby\":\"+10000-01-01T00:00:00Z\"\x7d"

/-- **It is read and it is valid**, and its time is written with a sign and five digits. -/
theorem exists_formatTime_of_five_digits :
    ∃ (s : Sale) (t : Timestamp), Sale.read saleOfYear10000 = .ok s ∧ s.validate = .ok () ∧
      s.soldAt = some t ∧ formatTime t = "+10000-01-01T00:00:00+00:00" ∧
      (formatTime t).length = 27 ∧ ¬ IsRegistryTime (formatTime t).toList ∧
      Timestamp.readExact? (formatTime t).toList = none := by
  have hwritten : ((Sale.read saleOfYear10000).toOption.bind fun s =>
      s.validate.toOption.bind fun _ => s.soldAt.map formatTime) =
        some "+10000-01-01T00:00:00+00:00" := by
    decide +kernel
  obtain ⟨s, hread, hs⟩ := Option.bind_eq_some_iff.1 hwritten
  obtain ⟨u, hvalid, ht⟩ := Option.bind_eq_some_iff.1 hs
  obtain ⟨t, hsold, htext⟩ := Option.map_eq_some_iff.1 ht
  have hlength : (formatTime t).length = 27 := by rw [htext]; decide
  refine ⟨s, t, Outcome.toOption_eq_some.1 hread, Outcome.toOption_eq_some.1 hvalid, hsold, htext,
    hlength, fun h => ?_, by rw [htext]; decide⟩
  have := h.length_eq
  rw [String.length_toList] at this
  omega

end FiscalGateway

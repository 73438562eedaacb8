import FiscalGateway.Proofs.Number.Digits
import FiscalGateway.Proofs.Text.Split

/-!
# Timestamps as text — what is written is read

Each part of a written timestamp is read back by its own reader, whatever stands behind it. So the
relaxed reader takes both written forms, in every year that is counted (`readRelaxed?_write`,
`readRelaxed?_writeSeconds`); the exact one takes the form with whole seconds as long as the year
has four digits, and no longer (`readExact?_writeSeconds`).
-/

namespace FiscalGateway.Time

open Text (isBlank trimStart)

variable {s rest : List Char} {n width low high : Nat}

/-- Whether a number ends in front of a text. -/
def EndsNumber (rest : List Char) : Prop := ∀ c ∈ rest.head?, c.isDigit = false

@[simp] theorem endsNumber_cons {c : Char} : EndsNumber (c :: rest) ↔ c.isDigit = false := by
  simp [EndsNumber]

/-! ## Numbers -/

theorem isBlank_of_isDigit {c : Char} (h : c.isDigit = true) : isBlank c = false := by
  have hc := Char.isDigit_iff_toNat.1 h
  have : '0'.toNat = 48 ∧ '9'.toNat = 57 := by decide
  simp only [isBlank, Bool.or_eq_false_iff, Bool.and_eq_false_iff, decide_eq_false_iff_not,
    beq_eq_false_iff_ne]
  omega

/-- Nothing is trimmed off a text that begins with no blank. -/
theorem trimStart_of_head? (h : ∀ c ∈ s.head?, isBlank c = false) : trimStart s = s := by
  cases s with
  | nil => rfl
  | cons c s => simp [trimStart, h c rfl]

theorem exists_head?_padded (width n : Nat) (rest : List Char) :
    ∃ c : Char, c.isDigit = true ∧ (padded width n ++ rest).head? = some c := by
  have hne : padded width n ≠ [] := by simp [padded]
  obtain ⟨c, t, ht⟩ := List.exists_cons_of_ne_nil hne
  have hc : c ∈ padded width n := by simp [ht]
  exact ⟨c, isDigit_of_mem_padded hc, by simp [ht]⟩

theorem trimStart_padded (width n : Nat) (rest : List Char) :
    trimStart (padded width n ++ rest) = padded width n ++ rest := by
  obtain ⟨c, hc, hhead⟩ := exists_head?_padded width n rest
  refine trimStart_of_head? fun d hd => ?_
  rw [hhead, Option.mem_some_iff] at hd
  exact isBlank_of_isDigit (hd ▸ hc)

/-- **Digits are read as their number**, up to the end of the number or of its width. -/
theorem takeNumber?_append (hs : ∀ c ∈ s, c.isDigit = true) (hlow : low ≤ s.length)
    (hhigh : s.length ≤ high) (hrest : s.length = high ∨ EndsNumber rest) :
    takeNumber? low high (s ++ rest) = some (Nat.ofDigitChars 10 s 0, rest) := by
  have hs' : ∀ c ∈ s, isDigit c = true := fun c hc => isDigit_eq c ▸ hs c hc
  have hend : ∀ c ∈ (rest.take (high - s.length)).head?, isDigit c = false := by
    intro c hc
    rcases hrest with hlength | hends
    · simp [hlength] at hc
    · rw [isDigit_eq]
      refine hends c ?_
      rw [List.head?_take] at hc
      split at hc
      · cases hc
      · exact hc
  have hdigits : ((s ++ rest).take high).takeWhile isDigit = s := by
    rw [List.take_append, List.take_of_length_le hhigh]
    exact Text.takeWhile_append_of_head? hs' hend
  simp only [takeNumber?, hdigits, if_neg (Nat.not_lt.2 hlow), numberOf_eq, List.drop_left]

theorem takeNumber?_padded (hwidth : 0 < width) (hn : n < 10 ^ width) (hlow : low ≤ width)
    (rest : List Char) : takeNumber? low width (padded width n ++ rest) = some (n, rest) := by
  have hlength := length_padded hwidth hn
  rw [takeNumber?_append (fun _ => isDigit_of_mem_padded) (by omega) (by omega) (.inl hlength),
    ofDigitChars_padded]

theorem takeNumber?_two (hn : n < 10 ^ 2) (rest : List Char) :
    takeNumber? 2 2 (padded 2 n ++ rest) = some (n, rest) :=
  takeNumber?_padded (by decide) hn (by decide) rest

theorem takeLoose?_padded (hwidth : 0 < width) (hn : n < 10 ^ width) (rest : List Char) :
    takeLoose? width (padded width n ++ rest) = some (n, rest) := by
  rw [takeLoose?, trimStart_padded, takeNumber?_padded hwidth hn (by omega)]

@[simp] theorem takeChar?_cons (c : Char) (rest : List Char) :
    takeChar? c (c :: rest) = some rest := by
  simp [takeChar?]

theorem takeCharLoose?_cons {c : Char} (h : isBlank c = false) (rest : List Char) :
    takeCharLoose? c (c :: rest) = some rest := by
  rw [takeCharLoose?, trimStart_of_head? (by simpa using h), takeChar?_cons]

/-! ## Years -/

/-- A year of four digits. -/
def HasFourDigits (year : Int) : Prop := 0 ≤ year ∧ year ≤ 9999

/-- Such a year is written without a sign, any other with one. -/
theorem writeYear_of_hasFourDigits {year : Int} (h : HasFourDigits year) :
    writeYear year = padded 4 year.toNat :=
  if_pos h

theorem writeYear_of_not {year : Int} (h : ¬ HasFourDigits year) :
    writeYear year = (if year < 0 then '-' else '+') :: padded 4 year.natAbs :=
  if_neg h

/-- **A written year is read back**, with a sign or without one. -/
theorem takeYear?_writeYear (year : Int) (hrest : EndsNumber rest) :
    takeYear? (writeYear year ++ rest) = some (year, rest) := by
  have hsigned (m : Nat) : takeNumber? 1 (padded 4 m ++ rest).length (padded 4 m ++ rest) =
      some (m, rest) := by
    have hlow := le_length_padded 4 m
    rw [takeNumber?_append (fun _ => isDigit_of_mem_padded) (by omega)
      (by rw [List.length_append]; omega) (.inr hrest), ofDigitChars_padded]
  by_cases hyear : HasFourDigits year
  · obtain ⟨hlow, hhigh⟩ := hyear
    obtain ⟨c, hc, hhead⟩ := exists_head?_padded 4 year.toNat rest
    rw [writeYear_of_hasFourDigits ⟨hlow, hhigh⟩, takeYear?, trimStart_padded]
    -- a digit is in front, so neither sign is
    split
    · next h => rw [h, List.head?_cons, Option.some.injEq] at hhead; subst hhead; cases hc
    · next h => rw [h, List.head?_cons, Option.some.injEq] at hhead; subst hhead; cases hc
    · rw [takeNumber?_padded (by decide) (by omega) (by decide)]
      simp only [Option.map_some, Int.toNat_of_nonneg hlow]
  · rw [writeYear_of_not hyear]
    unfold HasFourDigits at hyear
    by_cases hneg : year < 0
    · rw [if_pos hneg, List.cons_append, takeYear?,
        trimStart_of_head? (by simp; decide)]
      simp only [hsigned, Option.map_some]
      congr 2
      omega
    · rw [if_neg hneg, List.cons_append, takeYear?,
        trimStart_of_head? (by simp; decide)]
      simp only [hsigned, Option.map_some]
      congr 2
      omega

/-! ## Fractions -/

/-- Digits behind a point are read as nanoseconds. -/
theorem takeFraction?_padded (hwidth : 0 < width) (hnine : width ≤ 9) (hn : n < 10 ^ width)
    (hrest : EndsNumber rest) :
    takeFraction? ('.' :: (padded width n ++ rest)) = some (n * 10 ^ (9 - width), rest) := by
  have hlength := length_padded hwidth hn
  have hdigits : ∀ c ∈ padded width n, isDigit c = true := fun c hc =>
    isDigit_eq c ▸ isDigit_of_mem_padded hc
  have hend : ∀ c ∈ rest.head?, isDigit c = false := fun c hc => isDigit_eq c ▸ hrest c hc
  -- only nine digits are looked at, and there are no more
  have htake : ((padded width n ++ rest).take 9).takeWhile isDigit = padded width n := by
    rw [List.take_append, List.take_of_length_le (by omega)]
    refine Text.takeWhile_append_of_head? hdigits fun c hc => hend c ?_
    rw [List.head?_take] at hc
    split at hc
    · cases hc
    · exact hc
  have hdrop : rest.dropWhile isDigit = rest := by
    simpa using Text.dropWhile_append_of_head? (s := []) (by simp) hend
  have hne : (padded width n).isEmpty = false := by
    rw [List.isEmpty_eq_false_iff, ← List.length_pos_iff]
    omega
  simp only [takeFraction?, htake, hne, Bool.false_eq_true, if_false, numberOf_eq,
    ofDigitChars_padded, hlength, List.drop_left' hlength, hdrop]
  rfl

/-- **A written fraction is read back**, and none is read as zero. -/
theorem takeFraction?_writeFraction (hn : n < 10 ^ 9) (hrest : EndsNumber rest)
    (hpoint : ∀ c ∈ rest.head?, c ≠ '.') :
    takeFraction? (writeFraction n ++ rest) = some (n, rest) := by
  unfold writeFraction
  split
  · next hzero =>
    rw [List.nil_append, takeFraction?, hzero]
    rintro t rfl
    exact hpoint '.' rfl rfl
  · -- a fraction is written with three, six or nine digits, whichever are enough
    split
    · next hmilli =>
      rw [List.cons_append, takeFraction?_padded (by decide) (by decide) (by omega) hrest]
      congr 2
      omega
    · split
      · next hmicro =>
        rw [List.cons_append, takeFraction?_padded (by decide) (by decide) (by omega) hrest]
        congr 2
        omega
      · rw [List.cons_append, takeFraction?_padded (by decide) (by decide) (by omega) hrest]
        congr 2
        omega

/-! ## Offsets -/

/-- **A written offset is read back** by every reader that drops the colon. -/
theorem takeOffset?_writeOffset {between : List Char → Option (List Char)} {offset : Int}
    (hbetween : ∀ width n t, between (':' :: (padded width n ++ t)) = some (padded width n ++ t))
    (hoffset : -1440 < offset ∧ offset < 1440) :
    takeOffset? between (writeOffset offset) = some (offset, []) := by
  have hhours := takeNumber?_two (n := offset.natAbs / 60) (by omega)
    (':' :: (padded 2 (offset.natAbs % 60) ++ []))
  have hminutes := takeNumber?_two (n := offset.natAbs % 60) (by omega) []
  have htext : writeOffset offset = (if offset < 0 then '-' else '+') ::
      (padded 2 (offset.natAbs / 60) ++ ':' :: (padded 2 (offset.natAbs % 60) ++ [])) := by
    simp [writeOffset]
  have hsmall : ¬ offset.natAbs % 60 > 59 := by omega
  rw [htext]
  by_cases hneg : offset < 0
  · simp only [if_pos hneg, takeOffset?, hhours, hbetween, hminutes, Option.bind_eq_bind,
      Option.bind_some, if_neg hsmall]
    rw [if_neg (by decide), if_pos (by decide), if_neg (by decide)]
    congr 2
    omega
  · simp only [if_neg hneg, takeOffset?, hhours, hbetween, hminutes, Option.bind_eq_bind,
      Option.bind_some, if_neg hsmall]
    rw [if_neg (by decide), if_pos (by decide), if_pos (by decide)]
    congr 2
    omega

theorem skipColons_padded (width n : Nat) (rest : List Char) :
    skipColons (':' :: (padded width n ++ rest)) = padded width n ++ rest := by
  obtain ⟨c, hc, hhead⟩ := exists_head?_padded width n rest
  obtain ⟨t, ht⟩ := List.head?_eq_some_iff.1 hhead
  have hcolon : c ≠ ':' := by
    rintro rfl
    cases hc
  rw [skipColons, ht, List.dropWhile_cons_of_pos (by decide), List.dropWhile_cons_of_neg]
  simp [hcolon, isBlank_of_isDigit hc]

theorem takeOffsetLoose?_writeOffset {offset : Int} (hoffset : -1440 < offset ∧ offset < 1440) :
    takeOffsetLoose? (writeOffset offset) = some (offset, []) := by
  have hread : takeOffset? (some ∘ skipColons) (writeOffset offset) = some (offset, []) :=
    takeOffset?_writeOffset (fun width n t => congrArg some (skipColons_padded width n t)) hoffset
  rw [← hread]
  unfold takeOffsetLoose?
  split
  · next u t c r h =>
    have hsign : u = '-' ∨ u = '+' := by
      have := (List.cons.inj h).1
      split at this
      · exact .inl this.symm
      · exact .inr this.symm
    rw [if_neg]
    rintro ⟨hu, -⟩
    rcases hsign with rfl | rfl
    all_goals exact absurd hu (by decide)
  · rfl

/-! ## Timestamps -/

section Timestamps

variable {d : Date} {t : TimeOfDay} {offset : Int} {zone : List Char}

/-- The parts of a day have two digits. -/
theorem Date.lt_of_exists? (h : d.exists? = true) : d.month < 10 ^ 2 ∧ d.day < 10 ^ 2 := by
  simp only [Date.exists?, decide_eq_true_eq] at h
  have hdays : daysInMonth d.year d.month ≤ 31 := by
    unfold daysInMonth
    split
    · split <;> omega
    · split <;> omega
  omega

/-- And so have those of a time, with nine for the nanoseconds. -/
theorem TimeOfDay.lt_of_exists? (h : t.exists? = true) :
    t.hour < 10 ^ 2 ∧ t.minute < 10 ^ 2 ∧ t.second < 10 ^ 2 ∧ t.nanosecond < 10 ^ 9 := by
  simp only [TimeOfDay.exists?, decide_eq_true_eq] at h
  omega

theorem ofParts?_parts (t : Timestamp) :
    Timestamp.ofParts? t.date t.time t.offset = some t :=
  dif_pos ⟨t.date_exists, t.time_exists, t.offset_bounded, t.in_range⟩

/-- Date and time with what stands behind them. -/
theorem writeClock_append (d : Date) (t : TimeOfDay) (rest : List Char) :
    writeClock d t ++ rest =
      writeYear d.year ++ '-' :: (padded 2 d.month ++ '-' :: (padded 2 d.day ++
        'T' :: (padded 2 t.hour ++ ':' :: (padded 2 t.minute ++
          ':' :: (padded 2 t.second ++ rest))))) := by
  simp [writeClock]

/-- **The relaxed reader takes what is written**, with every offset that it takes. -/
theorem readRelaxed?_writeClock (hdate : d.exists? = true) (htime : t.exists? = true)
    (hzone : takeOffsetLoose? (trimStart zone) = some (offset, [])) (hends : EndsNumber zone)
    (hpoint : ∀ c ∈ zone.head?, c ≠ '.') :
    Timestamp.readRelaxed? (writeClock d t ++ (writeFraction t.nanosecond ++ zone)) =
      Timestamp.ofParts? d t offset := by
  obtain ⟨hmonth, hday⟩ := Date.lt_of_exists? hdate
  obtain ⟨hhour, hminute, hsecond, hnanosecond⟩ := TimeOfDay.lt_of_exists? htime
  have htwo {n : Nat} (hn : n < 10 ^ 2) (rest : List Char) :
      takeLoose? 2 (padded 2 n ++ rest) = some (n, rest) :=
    takeLoose?_padded (by decide) hn rest
  have hhyphen := takeCharLoose?_cons (c := '-') (by decide)
  have hcolon := takeCharLoose?_cons (c := ':') (by decide)
  have hyear (rest : List Char) :
      takeYear? (writeYear d.year ++ '-' :: rest) = some (d.year, '-' :: rest) :=
    takeYear?_writeYear d.year (endsNumber_cons.2 (by decide))
  have hfraction := takeFraction?_writeFraction hnanosecond hends hpoint
  rw [writeClock_append, Timestamp.readRelaxed?, hyear]
  simp only [Option.bind_eq_bind, Option.bind_some, hhyphen, hcolon, htwo hmonth, htwo hday,
    htwo hhour, htwo hminute, htwo hsecond, takeSeparator?, true_or, if_true, hfraction, hzone]
  rfl

/-- An offset in digits begins with its sign. -/
theorem head?_writeOffset {c : Char} (h : c ∈ (writeOffset offset).head?) : c = '-' ∨ c = '+' := by
  simp only [writeOffset, List.cons_append, List.head?_cons, Option.mem_some_iff] at h
  split at h
  · exact .inl h.symm
  · exact .inr h.symm

theorem endsNumber_writeOffset (offset : Int) : EndsNumber (writeOffset offset) := by
  intro c hc
  rcases head?_writeOffset hc with rfl | rfl <;> decide

theorem ne_point_of_writeOffset {c : Char} (h : c ∈ (writeOffset offset).head?) : c ≠ '.' := by
  rcases head?_writeOffset h with rfl | rfl <;> decide

/-- So it may follow a fraction, and be read behind blanks. -/
theorem takeOffsetLoose?_trimStart (hoffset : -1440 < offset ∧ offset < 1440) :
    takeOffsetLoose? (trimStart (writeOffset offset)) = some (offset, []) := by
  rw [trimStart_of_head?, takeOffsetLoose?_writeOffset hoffset]
  intro c hc
  rcases head?_writeOffset hc with rfl | rfl <;> decide

/-- **The form that keeps fractions is read back**, whatever the year. -/
theorem readRelaxed?_write (t : Timestamp) : Timestamp.readRelaxed? t.write = some t := by
  rw [Timestamp.write, List.append_assoc, ← ofParts?_parts t]
  split
  · next hzero =>
    exact readRelaxed?_writeClock t.date_exists t.time_exists (by rw [hzero]; decide) (by simp)
      (by simp)
  · exact readRelaxed?_writeClock t.date_exists t.time_exists
      (takeOffsetLoose?_trimStart t.offset_bounded) (endsNumber_writeOffset _)
      fun _ => ne_point_of_writeOffset

/-- A timestamp is its date, its time and its offset. -/
theorem Timestamp.eq_iff {t u : Timestamp} :
    t = u ↔ t.date = u.date ∧ t.time = u.time ∧ t.offset = u.offset := by
  constructor
  · rintro rfl
    exact ⟨rfl, rfl, rfl⟩
  · rintro ⟨hdate, htime, hoffset⟩
    cases t
    cases u
    cases hdate
    cases htime
    cases hoffset
    rfl

/-- Truncated it is the same without its fraction. -/
theorem Timestamp.truncate_eq_iff {t u : Timestamp} :
    t.truncate = u.truncate ↔ t.date = u.date ∧ t.time.hour = u.time.hour ∧
      t.time.minute = u.time.minute ∧ t.time.second = u.time.second ∧ t.offset = u.offset := by
  rw [Timestamp.eq_iff]
  simp [Timestamp.truncate, and_assoc]

/-- The form with whole seconds is that of a time without fractions. -/
theorem writeSeconds_eq (t : Timestamp) :
    t.writeSeconds = writeClock t.truncate.date t.truncate.time ++
      (writeFraction t.truncate.time.nanosecond ++ writeOffset t.truncate.offset) :=
  rfl

/-- **The form with whole seconds is read as the truncated time**, whatever the year. -/
theorem readRelaxed?_writeSeconds (t : Timestamp) :
    Timestamp.readRelaxed? t.writeSeconds = some t.truncate := by
  rw [writeSeconds_eq, ← ofParts?_parts t.truncate]
  exact readRelaxed?_writeClock t.truncate.date_exists t.truncate.time_exists
    (takeOffsetLoose?_trimStart t.truncate.offset_bounded) (endsNumber_writeOffset _)
    fun _ => ne_point_of_writeOffset

/-- So times are written alike exactly if they are the same but for fractions. -/
theorem writeSeconds_eq_iff {t u : Timestamp} :
    t.writeSeconds = u.writeSeconds ↔ t.truncate = u.truncate := by
  constructor
  · intro h
    have hread := readRelaxed?_writeSeconds t
    rw [h, readRelaxed?_writeSeconds] at hread
    exact (Option.some.inj hread).symm
  · intro h
    rw [writeSeconds_eq, writeSeconds_eq, h]

/-- **The exact reader takes the form with whole seconds**, if the year has four digits. -/
theorem readExact?_writeSeconds {t : Timestamp} (hyear : HasFourDigits t.date.year) :
    Timestamp.readExact? t.writeSeconds = some t.truncate := by
  obtain ⟨hmonth, hday⟩ := Date.lt_of_exists? t.date_exists
  obtain ⟨hhour, hminute, hsecond, -⟩ := TimeOfDay.lt_of_exists? t.time_exists
  have hfour (rest : List Char) : takeNumber? 4 4 (padded 4 t.date.year.toNat ++ rest) =
      some (t.date.year.toNat, rest) :=
    takeNumber?_padded (by decide) (by have := hyear.2; omega) (by decide) rest
  have hfraction : takeFraction? (writeOffset t.offset) = some (0, writeOffset t.offset) :=
    takeFraction?_writeFraction (n := 0) (by decide) (endsNumber_writeOffset _)
      fun _ => ne_point_of_writeOffset
  have hoffset : takeOffset? (takeChar? ':') (writeOffset t.offset) = some (t.offset, []) :=
    takeOffset?_writeOffset (fun width n u => takeChar?_cons ':' _) t.offset_bounded
  rw [Timestamp.writeSeconds, writeClock_append, writeYear_of_hasFourDigits hyear,
    Timestamp.readExact?, hfour, ← ofParts?_parts t.truncate]
  simp only [Option.bind_eq_bind, Option.bind_some, takeChar?_cons, takeNumber?_two hmonth,
    takeNumber?_two hday, takeNumber?_two hhour, takeNumber?_two hminute, takeNumber?_two hsecond,
    takeSeparator?, true_or, if_true, hfraction, hoffset, Int.toNat_of_nonneg hyear.1]
  rfl

/-- And in no other year: there it finds a sign. -/
theorem readExact?_writeSeconds_eq_none {t : Timestamp} (hyear : ¬ HasFourDigits t.date.year) :
    Timestamp.readExact? t.writeSeconds = none := by
  have hsign (c : Char) (rest : List Char) (hc : isDigit c = false) :
      takeNumber? 4 4 (c :: rest) = none := by
    simp [takeNumber?, hc]
  rw [Timestamp.writeSeconds, writeClock_append, writeYear_of_not hyear, Timestamp.readExact?,
    List.cons_append, hsign _ _ (by split <;> decide)]
  rfl

end Timestamps

end FiscalGateway.Time

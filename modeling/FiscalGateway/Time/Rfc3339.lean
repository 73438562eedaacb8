import FiscalGateway.Number.Integer
import FiscalGateway.Text.Blank
import FiscalGateway.Text.Split
import FiscalGateway.Time.Timestamp

/-!
# Timestamps as text

The exact form of RFC 3339 (`readExact?`), the forms that a client may use instead (`readRelaxed?`),
and two ways of writing: `write` keeps fractions and writes `Z` for the offset zero, `writeSeconds`
has whole seconds and always the offset in digits.
-/

namespace FiscalGateway.Time

/-- A decimal digit. -/
def isDigit (c : Char) : Bool := '0' ≤ c && c ≤ '9'

/-- The number that digits write. -/
def numberOf (digits : List Char) : Nat :=
  digits.foldl (fun n c => n * 10 + (c.toNat - '0'.toNat)) 0

/-- Between `low` and `high` digits, as many as there are, and what follows them. -/
def takeNumber? (low high : Nat) (s : List Char) : Option (Nat × List Char) :=
  let digits := (s.take high).takeWhile isDigit
  if digits.length < low then none else some (numberOf digits, s.drop digits.length)

/-- What follows one given character. -/
def takeChar? (c : Char) : List Char → Option (List Char)
  | d :: rest => if d = c then some rest else none
  | [] => none

/-- The letter or space between date and time. -/
def takeSeparator? : List Char → Option (List Char)
  | c :: rest => if c = 'T' ∨ c = 't' ∨ c = ' ' then some rest else none
  | [] => none

/-- A fraction of a second in nanoseconds, if a point begins one. Digits beyond the ninth do not
count. -/
def takeFraction? : List Char → Option (Nat × List Char)
  | '.' :: rest => do
    let digits := (rest.take 9).takeWhile isDigit
    if digits.isEmpty then none
    else
      let n := numberOf digits * Nat.pow 10 (9 - digits.length)
      some (n, (rest.drop digits.length).dropWhile isDigit)
  | s => some (0, s)

/-- An offset in minutes: `Z`, or a sign, two digits, what `between` drops, and two digits up to
59. -/
def takeOffset? (between : List Char → Option (List Char)) (s : List Char) :
    Option (Int × List Char) :=
  match s with
  | [] => none
  | c :: rest =>
    if c = 'Z' ∨ c = 'z' then some (0, rest)
    else if c = '+' ∨ c = '-' ∨ c = '−' then do
      let (hours, rest) ← takeNumber? 2 2 rest
      let rest ← between rest
      let (minutes, rest) ← takeNumber? 2 2 rest
      -- how many hours there may be is judged with the whole timestamp
      if minutes > 59 then none
      else
        let n : Int := (hours * 60 + minutes : Nat)
        some (if c = '+' then n else -n, rest)
    else none

/-- A timestamp of the exact form, to the last character. -/
def Timestamp.readExact? (s : List Char) : Option Timestamp := do
  let (year, s) ← takeNumber? 4 4 s
  let s ← takeChar? '-' s
  let (month, s) ← takeNumber? 2 2 s
  let s ← takeChar? '-' s
  let (day, s) ← takeNumber? 2 2 s
  let s ← takeSeparator? s
  let (hour, s) ← takeNumber? 2 2 s
  let s ← takeChar? ':' s
  let (minute, s) ← takeNumber? 2 2 s
  let s ← takeChar? ':' s
  let (second, s) ← takeNumber? 2 2 s
  let (nanosecond, s) ← takeFraction? s
  let (offset, s) ← takeOffset? (takeChar? ':') s
  if s.isEmpty then Timestamp.ofParts? ⟨year, month, day⟩ ⟨hour, minute, second, nanosecond⟩ offset
  else none

/-- A number behind blanks. -/
def takeLoose? (high : Nat) (s : List Char) : Option (Nat × List Char) :=
  takeNumber? 1 high (Text.trimStart s)

/-- A character behind blanks. -/
def takeCharLoose? (c : Char) (s : List Char) : Option (List Char) :=
  takeChar? c (Text.trimStart s)

/-- A year behind blanks: up to four digits, or a sign and any number of them. -/
def takeYear? (s : List Char) : Option (Int × List Char) :=
  match Text.trimStart s with
  | '-' :: rest => (takeNumber? 1 rest.length rest).map fun (n, rest) => (-(n : Int), rest)
  | '+' :: rest => (takeNumber? 1 rest.length rest).map fun (n, rest) => ((n : Int), rest)
  | s => (takeNumber? 1 4 s).map fun (n, rest) => ((n : Int), rest)

/-- Drops colons and blanks. -/
def skipColons (s : List Char) : List Char := s.dropWhile fun c => c == ':' || Text.isBlank c

/-- An offset of the relaxed form: the letters `UTC`, or colons and blanks between its digits. -/
def takeOffsetLoose? (s : List Char) : Option (Int × List Char) :=
  match s with
  | u :: t :: c :: rest =>
    if u.toLower = 'u' ∧ t.toLower = 't' ∧ c.toLower = 'c' then some (0, rest)
    else takeOffset? (some ∘ skipColons) s
  | s => takeOffset? (some ∘ skipColons) s

/-- A timestamp of the relaxed form: numbers may be short, blanks may stand between the parts, the
year may have a sign. -/
def Timestamp.readRelaxed? (s : List Char) : Option Timestamp := do
  let (year, s) ← takeYear? s
  let s ← takeCharLoose? '-' s
  let (month, s) ← takeLoose? 2 s
  let s ← takeCharLoose? '-' s
  let (day, s) ← takeLoose? 2 s
  let s ← takeSeparator? s
  let (hour, s) ← takeLoose? 2 s
  let s ← takeCharLoose? ':' s
  let (minute, s) ← takeLoose? 2 s
  let s ← takeCharLoose? ':' s
  let (second, s) ← takeLoose? 2 s
  let (nanosecond, s) ← takeFraction? s
  let (offset, s) ← takeOffsetLoose? (Text.trimStart s)
  if Text.isAllBlank s then
    Timestamp.ofParts? ⟨year, month, day⟩ ⟨hour, minute, second, nanosecond⟩ offset
  else none

/-- A number with zeros in front up to a width. -/
def padded (width n : Nat) : List Char :=
  let digits := Nat.toDigits 10 n
  List.replicate (width - digits.length) '0' ++ digits

/-- Four digits; beyond them a sign as well. -/
def writeYear (year : Int) : List Char :=
  if 0 ≤ year ∧ year ≤ 9999 then padded 4 year.toNat
  else (if year < 0 then '-' else '+') :: padded 4 year.natAbs

/-- Date and time down to the second. -/
def writeClock (d : Date) (t : TimeOfDay) : List Char :=
  writeYear d.year ++ '-' :: padded 2 d.month ++ '-' :: padded 2 d.day ++ 'T' ::
    padded 2 t.hour ++ ':' :: padded 2 t.minute ++ ':' :: padded 2 t.second

/-- An offset in digits. -/
def writeOffset (offset : Int) : List Char :=
  (if offset < 0 then '-' else '+') ::
    padded 2 (offset.natAbs / 60) ++ ':' :: padded 2 (offset.natAbs % 60)

/-- A fraction in groups of three digits, as many as it needs. -/
def writeFraction (nanosecond : Nat) : List Char :=
  if nanosecond = 0 then []
  else if nanosecond % 1000000 = 0 then '.' :: padded 3 (nanosecond / 1000000)
  else if nanosecond % 1000 = 0 then '.' :: padded 6 (nanosecond / 1000)
  else '.' :: padded 9 nanosecond

/-- The form of RFC 3339 with fractions; the offset zero is `Z`. -/
def Timestamp.write (t : Timestamp) : List Char :=
  writeClock t.date t.time ++ writeFraction t.time.nanosecond ++
    (if t.offset = 0 then ['Z'] else writeOffset t.offset)

/-- The form with whole seconds and the offset in digits. -/
def Timestamp.writeSeconds (t : Timestamp) : List Char :=
  writeClock t.date t.time ++ writeOffset t.offset

end FiscalGateway.Time

import FiscalGateway.Json.Value
import FiscalGateway.Text.Hex

/-!
# JSON tokens

The text cut into brackets, separators and scalars. What is no token ends the sequence with a
`fault`.
-/

namespace FiscalGateway.Json

/-- One piece of a JSON text. -/
inductive Token where
  | openObject
  | closeObject
  | openArray
  | closeArray
  | colon
  | comma
  | scalar (v : Json)
  | fault
  deriving Repr, Inhabited

/-- Space, tab, line feed and carriage return. -/
def isBlank (c : Char) : Bool := c == ' ' || c == '\t' || c == '\n' || c == '\r'

/-- A decimal digit. -/
def isDigit (c : Char) : Bool := '0' ≤ c && c ≤ '9'

/-- A part of a string: a character, or a unit given by its number. -/
inductive StringPart where
  | char (c : Char)
  | unit (n : Nat)
  deriving DecidableEq, Repr

/-- The value of four hexadecimal digits. -/
def unit? (a b c d : Char) : Option Nat := do
  let a ← Text.Hex.digit? a
  let b ← Text.Hex.digit? b
  let c ← Text.Hex.digit? c
  let d ← Text.Hex.digit? d
  return ((a * 16 + b) * 16 + c) * 16 + d

/-- What a backslash and one character stand for. -/
def shortEscape? (e : Char) : Option Char :=
  match e with
  | '"' => some '"'
  | '\\' => some '\\'
  | '/' => some '/'
  | 'b' => some '\x08'
  | 'f' => some '\x0C'
  | 'n' => some '\n'
  | 'r' => some '\r'
  | 't' => some '\t'
  | _ => none

/-- The parts of a string up to its closing quote, and what follows it. -/
def scanString : List Char → Option (List StringPart × List Char)
  | [] => none
  | '"' :: rest => some ([], rest)
  | '\\' :: 'u' :: a :: b :: c :: d :: rest => do
    let n ← unit? a b c d
    let (parts, rest) ← scanString rest
    return (.unit n :: parts, rest)
  | '\\' :: e :: rest => do
    let c ← shortEscape? e
    let (parts, rest) ← scanString rest
    return (.char c :: parts, rest)
  | c :: rest =>
    -- a backslash comes here only as the last character
    if c.toNat < 0x20 ∨ c = '\\' then none
    else (scanString rest).map fun (parts, rest) => (.char c :: parts, rest)

/-- The characters of a string: a leading unit and the trailing one behind it make one character,
and neither stands alone. -/
def joinParts : List StringPart → Option (List Char)
  | [] => some []
  | .char c :: rest => (c :: ·) <$> joinParts rest
  | .unit n :: rest =>
    if 0xDC00 ≤ n ∧ n ≤ 0xDFFF then none
    else if 0xD800 ≤ n ∧ n ≤ 0xDBFF then
      match rest with
      | .unit m :: rest =>
        if 0xDC00 ≤ m ∧ m ≤ 0xDFFF then
          (Char.ofNat (0x10000 + (n - 0xD800) * 0x400 + (m - 0xDC00)) :: ·) <$> joinParts rest
        else none
      | _ => none
    else (Char.ofNat n :: ·) <$> joinParts rest

/-- The string that its parts make. -/
def stringOfParts (parts : List StringPart) : Json :=
  match joinParts parts with
  | some s => .string (String.ofList s)
  | none => .unpaired

theorem length_of_scanString {s : List Char} {parts : List StringPart} {rest : List Char}
    (h : scanString s = some (parts, rest)) : rest.length < s.length := by
  fun_induction scanString s generalizing parts rest with
  | case1 => simp at h
  | case2 r =>
    simp only [Option.some.injEq, Prod.mk.injEq] at h
    simp [h.2]
  | case3 a b c d r ih =>
    simp only [Option.bind_eq_bind, Option.bind_eq_some_iff, Prod.exists, Option.pure_def,
      Option.some.injEq, Prod.mk.injEq] at h
    obtain ⟨n, -, ps, q, hs, -, rfl⟩ := h
    have := ih hs
    simp only [List.length_cons]
    omega
  | case4 e r _ ih =>
    simp only [Option.bind_eq_bind, Option.bind_eq_some_iff, Prod.exists, Option.pure_def,
      Option.some.injEq, Prod.mk.injEq] at h
    obtain ⟨c, -, ps, q, hs, -, rfl⟩ := h
    have := ih hs
    simp only [List.length_cons]
    omega
  | case5 => simp at h
  | case6 c r _ _ _ _ ih =>
    simp only [Option.map_eq_some_iff, Prod.exists, Prod.mk.injEq] at h
    obtain ⟨ps, q, hs, -, rfl⟩ := h
    have := ih hs
    simp only [List.length_cons]
    omega

/-- Whether a minus sign is in front, and what follows the sign if there is one. -/
def takeSign : List Char → Bool × List Char
  | '+' :: rest => (false, rest)
  | '-' :: rest => (true, rest)
  | rest => (false, rest)

/-- The exponent of a numeral, and what follows it. -/
def scanExponent (s : List Char) : Option (Option (Bool × List Char) × List Char) :=
  match s with
  | e :: rest =>
    if e = 'e' ∨ e = 'E' then
      let (negative, digits) := takeSign rest
      if (digits.takeWhile isDigit).isEmpty then none
      else some (some (negative, digits.takeWhile isDigit), digits.dropWhile isDigit)
    else some (none, s)
  | [] => some (none, s)

/-- The digits behind a point, and what follows them. -/
def scanFraction (s : List Char) : Option (List Char × List Char) :=
  match s with
  | '.' :: rest =>
    if (rest.takeWhile isDigit).isEmpty then none
    else some (rest.takeWhile isDigit, rest.dropWhile isDigit)
  | s => some ([], s)

/-- A numeral: zero stands alone in front of the point, and a point or an exponent has digits. -/
def scanNumeral (negative : Bool) (s : List Char) : Option (Numeral × List Char) :=
  if (s.takeWhile isDigit).isEmpty then none
  else if (s.takeWhile isDigit).head? = some '0' ∧ (s.takeWhile isDigit).length ≠ 1 then none
  else do
    let (fraction, rest) ← scanFraction (s.dropWhile isDigit)
    let (exponent, rest) ← scanExponent rest
    return (⟨negative, s.takeWhile isDigit, fraction, exponent⟩, rest)

/-- The token at the front of a text that begins with `c`, and what follows it. -/
def scanToken (c : Char) (rest : List Char) : Token × List Char :=
  match c with
  | '\x7b' => (.openObject, rest)
  | '\x7d' => (.closeObject, rest)
  | '[' => (.openArray, rest)
  | ']' => (.closeArray, rest)
  | ':' => (.colon, rest)
  | ',' => (.comma, rest)
  | 't' =>
    match rest with
    | 'r' :: 'u' :: 'e' :: rest => (.scalar (.bool true), rest)
    | _ => (.fault, [])
  | 'f' =>
    match rest with
    | 'a' :: 'l' :: 's' :: 'e' :: rest => (.scalar (.bool false), rest)
    | _ => (.fault, [])
  | 'n' =>
    match rest with
    | 'u' :: 'l' :: 'l' :: rest => (.scalar .null, rest)
    | _ => (.fault, [])
  | '"' =>
    match scanString rest with
    | some (parts, rest) => (.scalar (stringOfParts parts), rest)
    | none => (.fault, [])
  | '-' =>
    match scanNumeral true rest with
    | some (n, rest) => (.scalar (.number n), rest)
    | none => (.fault, [])
  | c =>
    match scanNumeral false (c :: rest) with
    | some (n, rest) => (.scalar (.number n), rest)
    | none => (.fault, [])

theorem length_of_scanFraction {s fraction rest : List Char}
    (h : scanFraction s = some (fraction, rest)) : rest.length ≤ s.length := by
  unfold scanFraction at h
  split at h
  · next r =>
    split at h
    · contradiction
    · simp only [Option.some.injEq, Prod.mk.injEq] at h
      have := (List.dropWhile_sublist (l := r) isDigit).length_le
      rw [← h.2, List.length_cons]
      omega
  · simp only [Option.some.injEq, Prod.mk.injEq] at h
    exact Nat.le_of_eq (congrArg List.length h.2.symm)

theorem length_takeSign (s : List Char) : (takeSign s).2.length ≤ s.length := by
  unfold takeSign
  split
  · exact Nat.le_succ _
  · exact Nat.le_succ _
  · exact Nat.le_refl _

theorem length_of_scanExponent {s : List Char} {e : Option (Bool × List Char)} {rest : List Char}
    (h : scanExponent s = some (e, rest)) : rest.length ≤ s.length := by
  have drop (l : List Char) := (List.dropWhile_sublist (l := l) isDigit).length_le
  unfold scanExponent at h
  split at h
  · next c r =>
    split at h
    · split at h
      next negative digits hs =>
        split at h
        · contradiction
        · simp only [Option.some.injEq, Prod.mk.injEq] at h
          have hle : digits.length ≤ r.length := by
            simpa only [hs] using length_takeSign r
          have := drop digits
          rw [← h.2, List.length_cons]
          omega
    · simp only [Option.some.injEq, Prod.mk.injEq] at h
      exact Nat.le_of_eq (congrArg List.length h.2.symm)
  · simp only [Option.some.injEq, Prod.mk.injEq] at h
    exact Nat.le_of_eq (congrArg List.length h.2.symm)

theorem length_of_scanNumeral {negative : Bool} {s : List Char} {n : Numeral} {rest : List Char}
    (h : scanNumeral negative s = some (n, rest)) : rest.length < s.length := by
  unfold scanNumeral at h
  have parts : (s.takeWhile isDigit).length + (s.dropWhile isDigit).length = s.length := by
    rw [← List.length_append, List.takeWhile_append_dropWhile]
  split at h
  · contradiction
  · next hw =>
    have : 0 < (s.takeWhile isDigit).length := by
      rw [List.length_pos_iff]
      simpa using hw
    split at h
    · contradiction
    · simp only [Option.bind_eq_bind, Option.bind_eq_some_iff, Prod.exists, Option.pure_def,
        Option.some.injEq, Prod.mk.injEq] at h
      obtain ⟨f, r, hf, e, q, he, -, rfl⟩ := h
      have := length_of_scanFraction hf
      have := length_of_scanExponent he
      omega

theorem length_scanToken (c : Char) (s : List Char) : (scanToken c s).2.length ≤ s.length := by
  unfold scanToken
  split <;> try exact Nat.le_refl _
  case h_7 | h_8 | h_9 => split <;> simp +arith
  case h_10 =>
    split
    · next h => exact Nat.le_of_lt (length_of_scanString h)
    · simp
  case h_11 =>
    split
    · next h => exact Nat.le_of_lt (length_of_scanNumeral h)
    · simp
  case h_12 =>
    split
    · next h => exact Nat.le_of_lt_succ (length_of_scanNumeral h)
    · simp

/-- The tokens of a text, in order; blanks between them are dropped. -/
def Token.scan (s : List Char) : List Token :=
  match s with
  | [] => []
  | c :: rest =>
    if isBlank c then Token.scan rest
    else (scanToken c rest).1 :: Token.scan (scanToken c rest).2
termination_by s.length
decreasing_by
  · simp
  · have := length_scanToken c rest
    simp only [List.length_cons]
    omega

end FiscalGateway.Json

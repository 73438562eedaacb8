import FiscalGateway.Json.Printer
import FiscalGateway.Json.Token
import FiscalGateway.Proofs.Text.Hex
import FiscalGateway.Proofs.Text.Split
import Mathlib.Data.List.Basic

/-!
# Tokens of a written value

A string comes back part by part, however its characters are escaped (`scanString_written`), and a
numeral with its own digits (`scanNumeral_written`). Where a token ends is plain from its own text,
but a numeral goes on as long as digits follow: so a value is scanned as its tokens in front of any
text that `EndsNumeral` (`scan_write`), and inside a container the next separator is such a text.
-/

namespace FiscalGateway.Json

variable {s rest : List Char} {c : Char}

/-! ## Strings -/

/-- The part of a string as which a character is scanned once it is written. -/
def writtenPart (c : Char) : StringPart :=
  if (escapeChar c).length = 6 then .unit c.toNat else .char c

theorem scanString_short {e : Char} (h : shortEscape? e = some c) :
    scanString ('\\' :: e :: rest) = (scanString rest).map fun p => (.char c :: p.1, p.2) := by
  have hu : e ≠ 'u' := by
    rintro rfl
    cases h
  rw [scanString]
  · simp only [h, Option.bind_eq_bind, Option.bind_some]
    cases scanString rest <;> rfl
  · intro _ _ _ _ _ he _
    exact hu he

theorem scanString_unit {d₁ d₂ d₃ d₄ : Char} {n : Nat} (h : unit? d₁ d₂ d₃ d₄ = some n) :
    scanString ('\\' :: 'u' :: d₁ :: d₂ :: d₃ :: d₄ :: rest) =
      (scanString rest).map fun p => (.unit n :: p.1, p.2) := by
  simp only [scanString, h, Option.bind_eq_bind, Option.bind_some]
  cases scanString rest <;> rfl

theorem scanString_plain (hquote : c ≠ '"') (hbackslash : c ≠ '\\') (h : ¬ c.toNat < 0x20) :
    scanString (c :: rest) = (scanString rest).map fun p => (.char c :: p.1, p.2) := by
  rw [scanString]
  · rw [if_neg (by simp [h, hbackslash])]
  · exact hquote
  · intro _ _ _ _ _ hc _
    exact hbackslash hc
  · intro _ _ hc _
    exact hbackslash hc

/-- A character is scanned as one part, in whatever way it is escaped. -/
theorem scanString_escapeChar (c : Char) (rest : List Char) :
    scanString (escapeChar c ++ rest) =
      (scanString rest).map fun p => (writtenPart c :: p.1, p.2) := by
  unfold writtenPart
  fun_cases escapeChar c with
  | case8 c _ _ _ _ _ _ _ h =>
    have hhigh := Text.Hex.digit?_lowerDigit (n := c.toNat / 16) (by omega)
    have hlow := Text.Hex.digit?_lowerDigit (n := c.toNat % 16) (by omega)
    have hzero : Text.Hex.digit? '0' = some 0 := by decide
    refine scanString_unit ?_
    simp only [unit?, hzero, hhigh, hlow, Option.bind_eq_bind, Option.bind_some, Option.pure_def,
      Option.some.injEq]
    omega
  | case9 c hquote hbackslash _ _ _ _ _ h => exact scanString_plain hquote hbackslash h
  | _ => exact scanString_short rfl

/-- And the part is that character again. -/
theorem joinParts_writtenPart (c : Char) (parts : List StringPart) :
    joinParts (writtenPart c :: parts) = (c :: ·) <$> joinParts parts := by
  unfold writtenPart
  fun_cases escapeChar c with
  | case8 c _ _ _ _ _ _ _ h =>
    change joinParts (.unit c.toNat :: parts) = _
    rw [joinParts.eq_def]
    simp only
    rw [if_neg (by omega), if_neg (by omega), Char.ofNat_toNat]
  | _ => rfl

/-- **A string is scanned as the parts that it was written as.** -/
theorem scanString_written (s rest : List Char) :
    scanString (s.flatMap escapeChar ++ '"' :: rest) = some (s.map writtenPart, rest) := by
  induction s with
  | nil => simp [scanString]
  | cons c s ih =>
    rw [List.flatMap_cons, List.append_assoc, scanString_escapeChar, ih]
    rfl

/-- **And these make the string.** -/
theorem stringOfParts_written (s : List Char) :
    stringOfParts (s.map writtenPart) = .string (String.ofList s) := by
  have hjoin : joinParts (s.map writtenPart) = some s := by
    induction s with
    | nil => rfl
    | cons c s ih =>
      rw [List.map_cons, joinParts_writtenPart, ih]
      rfl
  rw [stringOfParts, hjoin]


/-! ## Numerals -/

/-- The numerals that the grammar has. -/
structure Numeral.IsWritten (n : Numeral) : Prop where
  whole : n.whole ≠ [] ∧ ∀ c ∈ n.whole, isDigit c = true
  /-- No zero stands in front of another digit. -/
  zero_alone : n.whole.head? = some '0' → n.whole.length = 1
  fraction : ∀ c ∈ n.fraction, isDigit c = true
  exponent : ∀ e ∈ n.exponent, e.2 ≠ [] ∧ ∀ c ∈ e.2, isDigit c = true

/-- Whether a text does not go on with a numeral that stands in front of it. -/
def EndsNumeral (rest : List Char) : Prop :=
  ∀ c ∈ rest.head?, isDigit c = false ∧ c ≠ '.' ∧ c ≠ 'e' ∧ c ≠ 'E'

/-- The digits behind the point as they are written. -/
def writeFraction (fraction : List Char) : List Char :=
  if fraction.isEmpty then [] else '.' :: fraction

/-- The exponent as it is written. -/
def writeExponent : Option (Bool × List Char) → List Char
  | none => []
  | some (negative, digits) => 'e' :: (if negative then ['-'] else []) ++ digits

theorem Numeral.write_eq (n : Numeral) :
    n.write = (if n.negative then ['-'] else []) ++
      (n.whole ++ (writeFraction n.fraction ++ writeExponent n.exponent)) := by
  simp only [write, writeFraction, List.append_assoc]
  rfl

theorem takeSign_of_isDigit {digits : List Char} (h : ∀ c ∈ digits.head?, isDigit c = true) :
    takeSign digits = (false, digits) := by
  unfold takeSign
  split
  · exact absurd (h '+' rfl) (by decide)
  · exact absurd (h '-' rfl) (by decide)
  · rfl

theorem scanExponent_written {exponent : Option (Bool × List Char)}
    (h : ∀ e ∈ exponent, e.2 ≠ [] ∧ ∀ c ∈ e.2, isDigit c = true) (hrest : EndsNumeral rest) :
    scanExponent (writeExponent exponent ++ rest) = some (exponent, rest) := by
  cases exponent with
  | none =>
    rw [writeExponent, List.nil_append]
    cases rest with
    | nil => rfl
    | cons c rest =>
      obtain ⟨-, -, hlower, hupper⟩ := hrest c rfl
      simp [scanExponent, hlower, hupper]
  | some e =>
    obtain ⟨negative, digits⟩ := e
    obtain ⟨hne, hdigits⟩ : digits ≠ [] ∧ ∀ c ∈ digits, isDigit c = true := h _ rfl
    have hend : ∀ c ∈ rest.head?, isDigit c = false := fun c hc => (hrest c hc).1
    have htake := Text.takeWhile_append_of_head? hdigits hend
    have hdrop := Text.dropWhile_append_of_head? hdigits hend
    have hsign : takeSign ((if negative then ['-'] else []) ++ (digits ++ rest)) =
        (negative, digits ++ rest) := by
      cases negative with
      | true => rfl
      | false =>
        -- no sign is written, and no digit is taken for one
        refine takeSign_of_isDigit fun c hc => hdigits c ?_
        change c ∈ (digits ++ rest).head? at hc
        rw [List.head?_append_of_ne_nil _ hne] at hc
        exact List.mem_of_mem_head? hc
    simp only [writeExponent, List.cons_append, List.append_assoc, scanExponent, true_or, if_true,
      hsign, htake, hdrop, List.isEmpty_iff, if_neg hne]

theorem scanFraction_written {fraction : List Char} (h : ∀ c ∈ fraction, isDigit c = true)
    (hrest : ∀ c ∈ rest.head?, isDigit c = false ∧ c ≠ '.') :
    scanFraction (writeFraction fraction ++ rest) = some (fraction, rest) := by
  by_cases hne : fraction = []
  · subst hne
    change scanFraction rest = _
    cases rest with
    | nil => rfl
    | cons c rest =>
      have hpoint := (hrest c rfl).2
      rw [scanFraction]
      intro _ hc
      exact hpoint (List.head_eq_of_cons_eq hc)
  · have hend : ∀ c ∈ rest.head?, isDigit c = false := fun c hc => (hrest c hc).1
    have htake := Text.takeWhile_append_of_head? h hend
    have hdrop := Text.dropWhile_append_of_head? h hend
    simp only [writeFraction, List.isEmpty_iff, if_neg hne, List.cons_append, scanFraction, htake,
      hdrop]

theorem head?_writeExponent (exponent : Option (Bool × List Char)) (hrest : EndsNumeral rest) :
    ∀ c ∈ (writeExponent exponent ++ rest).head?, isDigit c = false ∧ c ≠ '.' := by
  intro c hc
  cases exponent with
  | none => exact ⟨(hrest c hc).1, (hrest c hc).2.1⟩
  | some e =>
    obtain rfl : 'e' = c := Option.some.inj hc
    decide

theorem head?_writeFraction (fraction : List Char)
    (hrest : ∀ c ∈ rest.head?, isDigit c = false ∧ c ≠ '.') :
    ∀ c ∈ (writeFraction fraction ++ rest).head?, isDigit c = false := by
  intro c hc
  by_cases hne : fraction = []
  · subst hne
    exact (hrest c hc).1
  · simp only [writeFraction, List.isEmpty_iff, if_neg hne, List.cons_append, List.head?_cons,
      Option.mem_def, Option.some.injEq] at hc
    subst hc
    decide

/-- **A numeral is scanned as it was written.** -/
theorem scanNumeral_written {n : Numeral} (h : n.IsWritten) (hrest : EndsNumeral rest) :
    scanNumeral n.negative
      (n.whole ++ (writeFraction n.fraction ++ writeExponent n.exponent) ++ rest) =
      some (n, rest) := by
  obtain ⟨hne, hwhole⟩ := h.whole
  have hfraction := head?_writeExponent n.exponent hrest
  have hend := head?_writeFraction n.fraction hfraction
  have htake := Text.takeWhile_append_of_head? hwhole hend
  have hdrop := Text.dropWhile_append_of_head? hwhole hend
  have hzero : ¬ (n.whole.head? = some '0' ∧ n.whole.length ≠ 1) :=
    fun hz => hz.2 (h.zero_alone hz.1)
  simp only [List.append_assoc, scanNumeral, htake, hdrop, List.isEmpty_iff, if_neg hne,
    if_neg hzero, scanFraction_written h.fraction hfraction, scanExponent_written h.exponent hrest,
    Option.bind_eq_bind, Option.bind_some, Option.pure_def]

/-! ## Values -/

mutual

/-- Whether a value can stand in a text: its numerals have the form of the grammar, and it holds
neither a fault nor half a character. -/
def IsWritten : Json → Prop
  | .fault | .unpaired => False
  | .number n => n.IsWritten
  | .array items => AreWritten items
  | .object members => MembersAreWritten members
  | _ => True

/-- Whether every value can. -/
def AreWritten : List Json → Prop
  | [] => True
  | v :: rest => v.IsWritten ∧ AreWritten rest

/-- Whether the value of every member can. -/
def MembersAreWritten : List (String × Json) → Prop
  | [] => True
  | (_, v) :: rest => v.IsWritten ∧ MembersAreWritten rest

end

mutual

/-- The tokens of a value. -/
def tokens : Json → List Token
  | .array items => .openArray :: itemTokens items
  | .object members => .openObject :: memberTokens members
  | v => [.scalar v]

/-- The tokens of the items of an array and its closing bracket. -/
def itemTokens : List Json → List Token
  | [] => [.closeArray]
  | [v] => v.tokens ++ [.closeArray]
  | v :: w :: rest => v.tokens ++ .comma :: itemTokens (w :: rest)

/-- The tokens of the members of an object and its closing brace. -/
def memberTokens : List (String × Json) → List Token
  | [] => [.closeObject]
  | [(k, v)] => .scalar (.string k) :: .colon :: v.tokens ++ [.closeObject]
  | (k, v) :: m :: rest =>
    .scalar (.string k) :: .colon :: v.tokens ++ .comma :: memberTokens (m :: rest)

end

theorem ne_of_isDigit {d : Char} (h : isDigit c = true) (hd : isDigit d = false) : c ≠ d := by
  rintro rfl
  exact Bool.false_ne_true (hd.symm.trans h)

theorem isBlank_of_isDigit (h : isDigit c = true) : isBlank c = false := by
  simp only [isBlank, Bool.or_eq_false_iff, beq_eq_false_iff_ne]
  exact ⟨⟨⟨ne_of_isDigit h (by decide), ne_of_isDigit h (by decide)⟩,
    ne_of_isDigit h (by decide)⟩, ne_of_isDigit h (by decide)⟩

theorem Token.scan_cons {c : Char} (h : isBlank c = false) (rest : List Char) :
    Token.scan (c :: rest) = (scanToken c rest).1 :: Token.scan (scanToken c rest).2 := by
  rw [Token.scan, if_neg (by simp [h])]

theorem scan_writeString (s rest : List Char) :
    Token.scan (writeString s ++ rest) =
      .scalar (.string (String.ofList s)) :: Token.scan rest := by
  have happend : writeString s ++ rest = '"' :: (s.flatMap escapeChar ++ '"' :: rest) := by
    simp [writeString]
  have hscan := scanString_written s rest
  rw [happend, Token.scan_cons (by decide)]
  simp only [scanToken, hscan, stringOfParts_written]

theorem scanToken_of_isDigit {n : Numeral} {behind : List Char} (h : isDigit c = true)
    (hscan : scanNumeral false (c :: rest) = some (n, behind)) :
    scanToken c rest = (.scalar (.number n), behind) := by
  rw [scanToken]
  · simp only [hscan]
  all_goals exact ne_of_isDigit h (by decide)

theorem scan_writeNumeral {n : Numeral} (h : n.IsWritten) (hrest : EndsNumeral rest) :
    Token.scan (n.write ++ rest) = .scalar (.number n) :: Token.scan rest := by
  have hscan := scanNumeral_written h hrest
  rw [n.write_eq]
  cases hn : n.negative with
  | true =>
    rw [hn] at hscan
    simp only [if_true, List.cons_append, List.nil_append]
    rw [Token.scan_cons (by decide)]
    simp only [scanToken, hscan]
  | false =>
    obtain ⟨hne, hwhole⟩ := h.whole
    obtain ⟨c, digits, hcons⟩ := List.exists_cons_of_ne_nil hne
    have hc : isDigit c = true := hwhole c (by simp [hcons])
    rw [hn] at hscan
    simp only [hcons, List.cons_append] at hscan
    simp only [hcons, Bool.false_eq_true, if_false, List.nil_append, List.cons_append]
    rw [Token.scan_cons (isBlank_of_isDigit hc), scanToken_of_isDigit hc hscan]

theorem endsNumeral_cons : EndsNumeral (c :: rest) ↔
    isDigit c = false ∧ c ≠ '.' ∧ c ≠ 'e' ∧ c ≠ 'E' := by
  simp [EndsNumeral]

theorem writeItems_cons_cons (v w : Json) (items : List Json) :
    writeItems (v :: w :: items) = v.write ++ ',' :: writeItems (w :: items) := by
  rw [writeItems]
  nofun

theorem writeMembers_cons_cons (k : String) (v : Json) (m : String × Json)
    (members : List (String × Json)) :
    writeMembers ((k, v) :: m :: members) =
      writeString k.toList ++ ':' :: v.write ++ ',' :: writeMembers (m :: members) := by
  rw [writeMembers]
  nofun

mutual

/-- **A value is scanned as its tokens**, in front of any text that does not go on with it. -/
theorem scan_write : ∀ {v : Json} {rest : List Char}, v.IsWritten → EndsNumeral rest →
    Token.scan (v.write ++ rest) = v.tokens ++ Token.scan rest
  | .null, _, _, _ => Token.scan_cons (c := 'n') (by decide) _
  | .bool true, _, _, _ => Token.scan_cons (c := 't') (by decide) _
  | .bool false, _, _, _ => Token.scan_cons (c := 'f') (by decide) _
  | .number n, _, h, hrest => scan_writeNumeral h hrest
  | .string s, _, _, _ => by
    rw [write, scan_writeString, String.ofList_toList]
    rfl
  | .array items, _, h, _ => by
    rw [write, List.cons_append, Token.scan_cons (by decide)]
    exact congrArg (Token.openArray :: ·) (scan_writeItems h)
  | .object members, _, h, _ => by
    rw [write, List.cons_append, Token.scan_cons (by decide)]
    exact congrArg (Token.openObject :: ·) (scan_writeMembers h)

/-- The items of an array and its bracket. -/
theorem scan_writeItems : ∀ {items : List Json} {rest : List Char}, AreWritten items →
    Token.scan (writeItems items ++ rest) = itemTokens items ++ Token.scan rest
  | [], _, _ => Token.scan_cons (c := ']') (by decide) _
  | [v], rest, h => by
    -- the bracket ends a numeral, whatever the rest is
    rw [writeItems, itemTokens, List.append_assoc, List.append_assoc, List.singleton_append,
      scan_write h.1 (endsNumeral_cons.2 (by decide)), Token.scan_cons (by decide)]
    rfl
  | v :: w :: items, rest, h => by
    rw [writeItems_cons_cons, itemTokens, List.append_assoc, List.append_assoc, List.cons_append,
      scan_write h.1 (endsNumeral_cons.2 (by decide)), Token.scan_cons (by decide)]
    exact congrArg (v.tokens ++ .comma :: ·) (scan_writeItems h.2)

/-- The members of an object and its brace. -/
theorem scan_writeMembers : ∀ {members : List (String × Json)} {rest : List Char},
    MembersAreWritten members →
      Token.scan (writeMembers members ++ rest) = memberTokens members ++ Token.scan rest
  | [], _, _ => Token.scan_cons (c := '\x7d') (by decide) _
  | [(k, v)], rest, h => by
    simp only [writeMembers, memberTokens, List.append_assoc, List.cons_append, List.nil_append]
    rw [scan_writeString, Token.scan_cons (by decide)]
    simp only [scanToken]
    rw [scan_write h.1 (endsNumeral_cons.2 (by decide)), Token.scan_cons (by decide)]
    simp only [scanToken, String.ofList_toList]
  | (k, v) :: m :: members, rest, h => by
    simp only [writeMembers_cons_cons, memberTokens, List.append_assoc, List.cons_append]
    rw [scan_writeString, Token.scan_cons (by decide)]
    simp only [scanToken]
    rw [scan_write h.1 (endsNumeral_cons.2 (by decide)), Token.scan_cons (by decide)]
    simp only [scanToken, String.ofList_toList]
    rw [scan_writeMembers h.2]

end

end FiscalGateway.Json

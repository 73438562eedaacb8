import FiscalGateway.Number.Shortest
import FiscalGateway.Text.Split

/-!
# Decimals of 96 bits

A decimal is the number `m / 10 ^ places` for an integer `m` of up to 96 bits and up to 28 places, so
for each number of places there is one zero. It is kept as a coefficient and a sign. Zero has none:
`Decimal.ofParts`, by which decimals are read and rounded, takes it away. A zero that is negated by
hand and keeps a minus sign is no number of this form, and is left out. Reading keeps the places as
written; what does not fit behind the point is rounded away, in front of it refused. `Decimal.round`
rounds a half to the even neighbour, and `Decimal.extend` adds places only while the coefficient has
room.
-/

namespace FiscalGateway.Number

/-- The first number that no coefficient reaches. -/
def coefficientLimit : Nat := 1 <<< 96

/-- The greatest number of places. -/
def maxPlaces : Nat := 28

/-- The number `± coefficient / 10 ^ places`. -/
structure Decimal where
  negative : Bool
  coefficient : Nat
  places : Nat
  coefficient_lt : coefficient < coefficientLimit := by decide
  places_le : places ≤ maxPlaces := by decide
  /-- Zero has no sign. -/
  sign_of_zero : coefficient = 0 → negative = false := by decide
  deriving DecidableEq, Repr

instance : Inhabited Decimal := ⟨{ negative := false, coefficient := 0, places := 0 }⟩

theorem roundQuotient_le (num den : Nat) : roundQuotient num den ≤ num / den + 1 := by
  have := Nat.mod_lt (num / den) (by decide : 0 < 2)
  simp only [roundQuotient]
  split
  · omega
  · split <;> omega

/-- Rounding by ten or more makes no number larger. -/
theorem roundQuotient_le_self (n : Nat) {den : Nat} (hden : 10 ≤ den) :
    roundQuotient n den ≤ n := by
  have hd : n / den ≤ n / 10 := Nat.div_le_div_left hden (by decide)
  by_cases h : n < 5
  · have hm : n % den = n := Nat.mod_eq_of_lt (by omega)
    have hq : n / den = 0 := Nat.div_eq_of_lt (by omega)
    simp only [roundQuotient, hm, hq]
    split
    · omega
    · omega
  · have := roundQuotient_le n den
    omega

theorem ten_le_pow {k : Nat} (hk : 0 < k) : 10 ≤ Nat.pow 10 k := by
  obtain ⟨j, rfl⟩ := Nat.exists_eq_succ_of_ne_zero (Nat.ne_of_gt hk)
  exact Nat.le_mul_of_pos_left 10 (Nat.pow_pos (by decide))

namespace Decimal

/-- Puts a decimal together; zero loses its sign. -/
def ofParts (negative : Bool) (coefficient places : Nat)
    (hcoefficient : coefficient < coefficientLimit) (hplaces : places ≤ maxPlaces) :
    Decimal where
  negative := negative && coefficient != 0
  coefficient := coefficient
  places := places
  coefficient_lt := hcoefficient
  places_le := hplaces
  sign_of_zero h := by simp [h]

/-- A decimal from its parts, if they are within the limits. -/
def ofParts? (negative : Bool) (coefficient places : Nat) : Option Decimal :=
  if h : coefficient < coefficientLimit ∧ places ≤ maxPlaces then
    some (ofParts negative coefficient places h.1 h.2)
  else none

/-- What the first digit that does not fit does: it rounds a half away from zero. When that fills
the coefficient, one place is given up. -/
def roundTail (negative : Bool) (n places : Nat) (next : Char) : Option Decimal :=
  let up := '5' ≤ next ∧ next ≤ '9'
  if '0' ≤ next ∧ next ≤ '9' ∨ next = '_' ∨ next = '.' then
    if up then
      if n + 1 < coefficientLimit then ofParts? negative (n + 1) places
      else if places = 0 then none
      else ofParts? negative ((n + 5) / 10) (places - 1)
    else ofParts? negative n places
  else none

/-- Reads digits. `point` tells whether the point was passed and `any` whether a digit was. Once 28
places are read or the coefficient is full, the next character decides the rounding and the rest is
not looked at. -/
def readDigits (negative : Bool) (n places : Nat) (point any : Bool) : List Char → Option Decimal
  | [] => if any then ofParts? negative n places else none
  | c :: rest =>
    if '0' ≤ c ∧ c ≤ '9' then
      let m := n * 10 + (c.toNat - '0'.toNat)
      if m ≥ coefficientLimit then
        -- in front of the point there is nothing to round away
        if point then roundTail negative n places c else none
      else
        let places := if point then places + 1 else 0
        match rest with
        | next :: _ =>
          if point ∧ places ≥ maxPlaces then roundTail negative m places next
          else readDigits negative m places point true rest
        | [] => ofParts? negative m places
    else if c = '.' ∧ !point then readDigits negative n places true any rest
    else if c = '_' ∧ any then readDigits negative n places point any rest
    else none

/-- Reads a plain decimal: an optional sign, digits with at most one point, and underscores between
the digits. -/
def readPlain? (s : List Char) : Option Decimal :=
  match s with
  | '-' :: rest => readDigits true 0 0 false false rest
  | '+' :: rest => readDigits false 0 0 false false rest
  | s => readDigits false 0 0 false false s

/-- An unsigned number below `2 ^ 32`; a plus in front is allowed. -/
def readExponent? (s : List Char) : Option Nat :=
  let digits := match s with
    | '+' :: rest => rest
    | s => s
  if digits.isEmpty || !digits.all fun c => '0' ≤ c && c ≤ '9' then none
  else
    let n := digits.foldl (fun n c => n * 10 + (c.toNat - '0'.toNat)) 0
    if n < UInt32.size then some n else none

/-- Reads a decimal with a power of ten. A negative power adds places; a positive one takes places
away and then multiplies. -/
def readScientific? (s : List Char) : Option Decimal := do
  let (base, exponent) ← Text.splitOnce (fun c => c == 'e' || c == 'E') s
  let d ← readPlain? base
  match exponent with
  | '-' :: digits =>
    let e ← readExponent? digits
    ofParts? d.negative d.coefficient (d.places + e)
  | digits =>
    let e ← readExponent? digits
    if e ≤ d.places then ofParts? d.negative d.coefficient (d.places - e)
    else if e ≤ maxPlaces then
      ofParts? d.negative (d.coefficient * Nat.pow 10 (e - d.places)) 0
    else none

/-- Reads a decimal of either kind. -/
def read? (s : List Char) : Option Decimal :=
  match readPlain? s with
  | some d => some d
  | none => readScientific? s

/-- The decimal with its own places. -/
def write (d : Decimal) : List Char :=
  (if d.negative then ['-'] else []) ++ insertPoint (Nat.toDigits 10 d.coefficient) d.places

/-- The text of a decimal. -/
def text (d : Decimal) : String := String.ofList d.write

/-- Keeps at most this many places, a half going to the even neighbour. What is rounded to zero
loses its sign. -/
def round (d : Decimal) (places : Nat) : Decimal :=
  if h : places < d.places then
    ofParts d.negative (roundQuotient d.coefficient (Nat.pow 10 (d.places - places))) places
      (Nat.lt_of_le_of_lt (roundQuotient_le_self d.coefficient (ten_le_pow (by omega)))
        d.coefficient_lt)
      (Nat.le_trans (Nat.le_of_lt h) d.places_le)
  else d

/-- Adds up to `count` places as long as the coefficient stays within its limit. -/
def extend (d : Decimal) : (count : Nat) → Decimal
  | 0 => d
  | count + 1 =>
    if h : d.coefficient * 10 < coefficientLimit ∧ d.places + 1 ≤ maxPlaces then
      extend ⟨d.negative, d.coefficient * 10, d.places + 1, h.1, h.2,
        fun h => d.sign_of_zero ((Nat.mul_eq_zero.1 h).resolve_right (by decide))⟩ count
    else d

/-- The coefficient with its sign. -/
def signed (d : Decimal) : Int := if d.negative then -(d.coefficient : Int) else d.coefficient

/-- The magnitude does not exceed that of another. -/
def magnitudeLE (d e : Decimal) : Bool :=
  d.coefficient * Nat.pow 10 e.places ≤ e.coefficient * Nat.pow 10 d.places

/-- Equality as numbers. -/
def sameValue (d e : Decimal) : Bool :=
  d.signed * Nat.pow 10 e.places == e.signed * Nat.pow 10 d.places

end Decimal
end FiscalGateway.Number

/-!
# Numbers of 53 significant bits

The double format in exact arithmetic: every operation forms the exact result as a quotient of two
natural numbers and rounds it once, to nearest with ties to even (`Binary64.round`). Subnormal
numbers, infinities and the sign of zero are kept.
-/

namespace FiscalGateway.Number

/-- A double. A finite one is `mantissa * 2 ^ exponent`; its mantissa is below `2 ^ 53`, and at
least `2 ^ 52` unless the exponent is the lowest, `-1074`. -/
inductive Binary64 where
  | nan
  | infinite (negative : Bool)
  | finite (negative : Bool) (mantissa : Nat) (exponent : Int)
  deriving DecidableEq, Repr, Inhabited

/-- A quotient rounded to the nearest integer, a tie to the even one. -/
def roundQuotient (num den : Nat) : Nat :=
  let q := num / den
  let r := num % den
  if 2 * r < den then q
  else if 2 * r > den then q + 1
  else q + q % 2

/-- The quotient `num / (den * 2 ^ e)` as a pair of natural numbers. -/
def scaled (num den : Nat) (e : Int) : Nat × Nat :=
  (num <<< (-e).toNat, den <<< e.toNat)

namespace Binary64

/-- The lowest exponent. -/
def minExponent : Int := -1074

/-- The highest exponent. -/
def maxExponent : Int := 971

/-- Zero of either sign. -/
def zero (negative : Bool) : Binary64 := .finite negative 0 minExponent

/-- The exponent at which a positive quotient has 53 bits, or the lowest one. -/
def exponentOf (num den : Nat) : Int :=
  let e := (Nat.log2 num : Int) - (Nat.log2 den : Int) - 53
  let (a, b) := scaled num den e
  max minExponent (if a / b < 1 <<< 53 then e else e + 1)

/-- The double nearest to `num / den`. -/
def round (negative : Bool) (num den : Nat) : Binary64 :=
  if num = 0 then zero negative
  else
    let e := exponentOf num den
    let (a, b) := scaled num den e
    let m := roundQuotient a b
    let (m, e) := if m = 1 <<< 53 then (1 <<< 52, e + 1) else (m, e)
    if e > maxExponent then .infinite negative else .finite negative m e

/-- The double nearest to a natural number. -/
def ofNat (n : Nat) : Binary64 := round false n 1

/-- Changes the sign. -/
def neg : Binary64 → Binary64
  | .nan => .nan
  | .infinite s => .infinite (!s)
  | .finite s m e => .finite (!s) m e

/-- The sign and whether the value is zero decide the special cases. -/
def mul : Binary64 → Binary64 → Binary64
  | .nan, _ | _, .nan => .nan
  | .infinite s, .infinite t => .infinite (s != t)
  | .infinite s, .finite t m _ | .finite s m _, .infinite t =>
    if m = 0 then .nan else .infinite (s != t)
  | .finite s m e, .finite t n f =>
    let (a, b) := scaled (m * n) 1 (-(e + f))
    round (s != t) a b

/-- Division; a value other than zero by zero is infinite. -/
def div : Binary64 → Binary64 → Binary64
  | .nan, _ | _, .nan => .nan
  | .infinite _, .infinite _ => .nan
  | .infinite s, .finite t _ _ => .infinite (s != t)
  | .finite s _ _, .infinite t => zero (s != t)
  | .finite s m e, .finite t n f =>
    if n = 0 then (if m = 0 then .nan else .infinite (s != t))
    else
      let (a, b) := scaled m n (f - e)
      round (s != t) a b

/-- Multiplies `acc` by the power, squaring the base for each bit of the exponent. -/
def powFrom (acc base : Binary64) (k : Nat) : Binary64 :=
  let acc := if k % 2 = 1 then acc.mul base else acc
  if h : k / 2 = 0 then acc else powFrom acc (base.mul base) (k / 2)
termination_by k
decreasing_by omega

/-- A power by repeated squaring, rounded at every step. -/
def pow (base : Binary64) (k : Nat) : Binary64 := powFrom (ofNat 1) base k

/-- The integer part, held between zero and `2 ^ 64 - 1`. -/
def toWord : Binary64 → Nat
  | .nan => 0
  | .infinite s => if s then 0 else UInt64.size - 1
  | .finite s m e =>
    if s then 0
    else
      let (a, b) := scaled m 1 (-e)
      min (a / b) (UInt64.size - 1)

/-- Whether the value is infinite. -/
def isInfinite : Binary64 → Bool
  | .infinite _ => true
  | _ => false

end Binary64
end FiscalGateway.Number

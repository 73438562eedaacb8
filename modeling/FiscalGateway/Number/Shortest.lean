import FiscalGateway.Number.Binary64

/-!
# Shortest decimal form

The fewest decimal digits that read back as the same double. The reals that round to a double form
an interval; on the grid of `n` digits only the two neighbours of the value can lie in it, so the
grids are tried in turn, and of two hits the nearer one counts.
-/

namespace FiscalGateway.Number

/-- The interval of a double in units of a quarter of its last place: value, lower end and upper
end. The gap below a power of two is half as wide. -/
structure Neighbourhood where
  value : Nat
  low : Nat
  high : Nat
  /-- All three are to be multiplied by this quotient. -/
  num : Nat
  den : Nat
  /-- Whether the ends round to the value. -/
  closed : Bool

/-- The interval of reals that round to `m * 2 ^ e`. -/
def neighbourhood (m : Nat) (e : Int) : Neighbourhood :=
  let (num, den) := scaled 1 1 (2 - e)
  let lower := if m = 1 <<< 52 ∧ e ≠ Binary64.minExponent then 4 * m - 1 else 4 * m - 2
  ⟨4 * m, lower, 4 * m + 2, num, den, m % 2 = 0⟩

/-- Whether `d * 10 ^ k` lies in the interval. -/
def Neighbourhood.holds (n : Neighbourhood) (d : Nat) (k : Int) : Bool :=
  let x := d * Nat.pow 10 k.toNat * n.den
  let scale := n.num * Nat.pow 10 (-k).toNat
  if n.closed then n.low * scale ≤ x && x ≤ n.high * scale
  else n.low * scale < x && x < n.high * scale

/-- The point of the grid with step `10 ^ k` that lies in the interval and is nearest to the
value. -/
def Neighbourhood.pick (n : Neighbourhood) (k : Int) : Option Nat :=
  let a := n.value * n.num * Nat.pow 10 (-k).toNat
  let b := n.den * Nat.pow 10 k.toNat
  let d := a / b
  match n.holds d k, n.holds (d + 1) k with
  | true, true => some (roundQuotient a b)
  | true, false => some d
  | false, true => some (d + 1)
  | false, false => none

/-- Tries the grids from `k` downwards, at most `count` of them. -/
def Neighbourhood.search (n : Neighbourhood) (k : Int) : (count : Nat) → Nat × Int
  | 0 => (n.value * n.num / n.den, 0)
  | count + 1 =>
    match n.pick k with
    | some d => (d, k)
    | none => n.search (k - 1) count

/-- Digits and power of ten of the shortest decimal form of `m * 2 ^ e`, for `m` above zero. -/
def shortest (m : Nat) (e : Int) : Nat × Int :=
  let n := neighbourhood m e
  let top : Int := ((Nat.log2 m : Int) + e) * 30103 / 100000 + 2
  n.search top 24

/-- Digits with a point in front of the last `places` of them. -/
def insertPoint (digits : List Char) (places : Nat) : List Char :=
  if places = 0 then digits
  else
    let padded := List.replicate (places + 1 - digits.length) '0' ++ digits
    padded.take (padded.length - places) ++ '.' :: padded.drop (padded.length - places)

/-- A double without exponent: the shortest digits, filled with zeros up to the point. -/
def Binary64.text : Binary64 → List Char
  | .nan => "NaN".toList
  | .infinite s => if s then "-inf".toList else "inf".toList
  | .finite s m e =>
    let sign := if s then ['-'] else []
    if m = 0 then sign ++ ['0']
    else
      let (d, k) := shortest m e
      sign ++ if k ≥ 0 then Nat.toDigits 10 d ++ List.replicate k.toNat '0'
        else insertPoint (Nat.toDigits 10 d) (-k).toNat

end FiscalGateway.Number

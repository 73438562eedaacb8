/-!
# Names in ASCII

Names of hosts that are not ASCII are written with the characters of ASCII first and then, behind a
dash, the places and numbers of the others as digits to the base 36. Small numbers are short because
the thresholds between digits follow the distances seen so far (`adapt`).
-/

namespace FiscalGateway.Url.Punycode

/-- The digits: letters, then figures. -/
def digitChar (d : Nat) : Char :=
  if d < 26 then Char.ofNat ('a'.toNat + d) else Char.ofNat ('0'.toNat + (d - 26))

/-- The value of a digit. -/
def digitValue? (c : Char) : Option Nat :=
  if 'a' ≤ c ∧ c ≤ 'z' then some (c.toNat - 'a'.toNat)
  else if 'A' ≤ c ∧ c ≤ 'Z' then some (c.toNat - 'A'.toNat)
  else if '0' ≤ c ∧ c ≤ '9' then some (c.toNat - '0'.toNat + 26)
  else none

/-- The threshold of the digit at position `k`. -/
def threshold (k bias : Nat) : Nat := max 1 (min 26 (k - bias))

/-- Divides a distance by 35 until it is at most 455, and counts the steps in 36s. -/
def scaleDown (delta k : Nat) : Nat × Nat :=
  if 455 < delta then scaleDown (delta / 35) (k + 36) else (delta, k)
termination_by delta
decreasing_by exact Nat.div_lt_self (by omega) (by omega)

/-- The bias after a distance when `count` characters are written. -/
def adapt (delta count : Nat) (first : Bool) : Nat :=
  let delta := if first then delta / 700 else delta / 2
  let (delta, k) := scaleDown (delta + delta / count) 0
  k + 36 * delta / (delta + 38)

/-- A number as digits from position `k` on. -/
def writeNumber (bias k n : Nat) : List Char :=
  let t := threshold k bias
  if n < t then [digitChar n]
  else digitChar (t + (n - t) % (36 - t)) :: writeNumber bias (k + 36) ((n - t) / (36 - t))
termination_by n
decreasing_by
  have : 1 ≤ threshold k bias := Nat.le_max_left _ _
  calc (n - threshold k bias) / (36 - threshold k bias)
      ≤ n - threshold k bias := Nat.div_le_self _ _
    _ < n := by omega

/-- What writing keeps: the distance so far, the bias, and how many characters are written. -/
structure Writing where
  delta : Nat
  bias : Nat
  count : Nat
  out : List Char

/-- Passes over one character while those with the number `m` are written. -/
def Writing.pass (basic m : Nat) (w : Writing) (c : Char) : Writing :=
  if c.toNat < m then { w with delta := w.delta + 1 }
  else if c.toNat = m then
    { delta := 0, bias := adapt w.delta (w.count + 1) (w.count = basic), count := w.count + 1,
      out := w.out ++ writeNumber w.bias 36 w.delta }
  else w

/-- Writes the characters with the numbers of the list, which ascend from `n` on. -/
def writeFrom (s : List Char) (basic n : Nat) (w : Writing) : List Nat → Writing
  | [] => w
  | m :: rest =>
    let w := s.foldl (Writing.pass basic m) { w with delta := w.delta + (m - n) * (w.count + 1) }
    writeFrom s basic (m + 1) { w with delta := w.delta + 1 } rest

/-- A name in ASCII, without the mark that tells that it is one. -/
def encode (s : List Char) : List Char :=
  let basic := s.filter (·.toNat < 0x80)
  let others := ((s.filter (0x80 ≤ ·.toNat)).map Char.toNat).mergeSort.eraseDups
  let start := if basic.isEmpty then [] else basic ++ ['-']
  start ++ (writeFrom s basic.length 0x80 ⟨0, 72, basic.length, []⟩ others).out

/-- Reads digits from position `k` on; the result is the number and what follows it. -/
def readNumber? (bias weight k n : Nat) : List Char → Option (Nat × List Char)
  | [] => none
  | c :: rest => do
    let d ← digitValue? c
    let n := n + d * weight
    let t := threshold k bias
    if d < t then some (n, rest) else readNumber? bias (weight * (36 - t)) (k + 36) n rest

/-- Puts the characters that the digits tell into a name; `fuel` bounds their number. -/
def decodeFrom (bias i n : Nat) (s : List Char) : (fuel : Nat) → List Char → Option (List Char)
  | _, [] => some s
  | 0, _ => none
  | fuel + 1, digits => do
    let (next, rest) ← readNumber? bias 1 36 i digits
    let count := s.length + 1
    let n := n + next / count
    let place := next % count
    if n < 0xD800 ∨ (0xDFFF < n ∧ n < 0x110000) then
      decodeFrom (adapt (next - i) count (i = 0)) (place + 1) n
        (s.take place ++ Char.ofNat n :: s.drop place) fuel rest
    else none

/-- The name that a text in ASCII tells, the mark left out. -/
def decode? (s : List Char) : Option (List Char) :=
  let tail := (s.reverse.takeWhile (· ≠ '-')).reverse
  let basic := (s.take (s.length - tail.length)).dropLast
  if basic.all (·.toNat < 0x80) then decodeFrom 72 0 0x80 basic tail.length tail else none

end FiscalGateway.Url.Punycode

import FiscalGateway.Text.Hex
import FiscalGateway.Text.Split

/-!
# Addresses of the network

Addresses of four octets and of eight groups of sixteen bits, read from and written in their usual
text forms. In a written address the longest run of zero groups is left out.
-/

namespace FiscalGateway.Net

/-- An address of four octets. -/
structure Ipv4 where
  octets : List Nat
  deriving DecidableEq, Repr

/-- An address of eight groups of sixteen bits. -/
structure Ipv6 where
  groups : List Nat
  deriving DecidableEq, Repr

/-- The value of a digit to a base of at most sixteen. -/
def digitValue? (base : Nat) (c : Char) : Option Nat := (Text.Hex.digit? c).filter (· < base)

/-- The number that digits to a base write; there must be some. -/
def readDigits? (base : Nat) (s : List Char) : Option Nat :=
  if s.isEmpty then none
  else s.foldlM (fun n c => (digitValue? base c).map (n * base + ·)) 0

namespace Ipv4

/-- A decimal octet without leading zeros. -/
def readOctet? (s : List Char) : Option Nat :=
  if s.length > 1 ∧ s.head? = some '0' then none
  else (readDigits? 10 s).filter (· < 256)

/-- Reads four decimal octets. -/
def read? (s : List Char) : Option Ipv4 := do
  let octets ← (Text.splitEach (· == '.') s).mapM readOctet?
  if octets.length = 4 then some ⟨octets⟩ else none

/-- The four octets with points between them. -/
def write (a : Ipv4) : List Char :=
  ['.'].intercalate (a.octets.map (Nat.toDigits 10))

/-- The two groups that the octets make. -/
def groups (a : Ipv4) : List Nat :=
  match a.octets with
  | [o, p, q, r] => [o * 256 + p, q * 256 + r]
  | _ => []

end Ipv4

namespace Ipv6

/-- One group of at most four digits. -/
def readGroup? (s : List Char) : Option Nat := if s.length > 4 then none else readDigits? 16 s

/-- The groups of a text; the last of them may be written as four octets where `tail` says so. -/
def readGroups? (tail : Bool) : List (List Char) → Option (List Nat)
  | [] => some []
  | [last] =>
    match readGroup? last with
    | some g => some [g]
    | none => if tail then (Ipv4.read? last).map Ipv4.groups else none
  | g :: rest => return (← readGroup? g) :: (← readGroups? tail rest)

/-- The groups of a text that may be empty. -/
def readPart? (tail : Bool) (s : List Char) : Option (List Nat) :=
  if s.isEmpty then some [] else readGroups? tail (Text.splitEach (· == ':') s)

/-- The text in front of and behind the first double colon. -/
def splitGap? : List Char → Option (List Char × List Char)
  | ':' :: ':' :: rest => some ([], rest)
  | c :: rest => (splitGap? rest).map fun (front, back) => (c :: front, back)
  | [] => none

/-- Reads eight groups; a double colon stands for at least one group of zero. -/
def read? (s : List Char) : Option Ipv6 :=
  match splitGap? s with
  | none => (readPart? true s).bind fun groups => if groups.length = 8 then some ⟨groups⟩ else none
  | some (front, back) => do
    let head ← readPart? false front
    let tail ← readPart? true back
    if head.length + tail.length > 7 then none
    else some ⟨head ++ List.replicate (8 - head.length - tail.length) 0 ++ tail⟩

/-- How many groups of zero stand in front. -/
def leadingZeros : List Nat → Nat
  | 0 :: rest => leadingZeros rest + 1
  | _ => 0

/-- Start and length of the first of the longest runs of zero groups from `position` on. -/
def longestRun (position : Nat) : List Nat → Nat × Nat
  | [] => (position, 0)
  | g :: rest =>
    let here := leadingZeros (g :: rest)
    let later := longestRun (position + 1) rest
    if later.2 > here then later else (position, here)

/-- Groups with colons between them. -/
def writeGroups (groups : List Nat) : List Char := [':'].intercalate (groups.map (Nat.toDigits 16))

/-- The groups, with a double colon in the place of the longest run of at least two zeros. -/
def write (a : Ipv6) : List Char :=
  let (start, length) := longestRun 0 a.groups
  if length > 1 then
    writeGroups (a.groups.take start) ++ [':', ':'] ++ writeGroups (a.groups.drop (start + length))
  else writeGroups a.groups

/-- The address of four octets that is embedded in this one. -/
def embedded? (a : Ipv6) : Option Ipv4 :=
  match a.groups with
  | [0, 0, 0, 0, 0, 0xffff, g, h] => some ⟨[g / 256, g % 256, h / 256, h % 256]⟩
  | _ => none

/-- The same, with an embedded address in octets. -/
def writeMixed (a : Ipv6) : List Char :=
  match a.embedded? with
  | some v4 => "::ffff:".toList ++ v4.write
  | none => a.write

end Ipv6
end FiscalGateway.Net

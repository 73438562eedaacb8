import FiscalGateway.Net.Address
import FiscalGateway.Text.Blank
import FiscalGateway.Url.Percent
import FiscalGateway.Url.Punycode

/-!
# Hosts

The host of an address is an address of the network, a name in ASCII or, under a scheme that is not
well known, any text. A name whose last part is a number is read as an address of four octets, in
which up to three parts may be left out. Of names beyond ASCII the letters of Latin, Greek and
Cyrillic script are brought to lower case; all other characters are taken as they are.
-/

namespace FiscalGateway.Url

/-- The host of an address. -/
inductive Host where
  | name (s : List Char)
  | v4 (address : Net.Ipv4)
  | v6 (address : Net.Ipv6)
  deriving DecidableEq, Repr

namespace Host

/-- The number of a part of an address of four octets: octal behind a zero, hexadecimal behind
`0x`. The outer option says whether it is a number. -/
def readNumber? (s : List Char) : Option Nat :=
  match s with
  | [] => none
  | '0' :: 'x' :: digits | '0' :: 'X' :: digits =>
    if digits.isEmpty then some 0 else Net.readDigits? 16 digits
  | '0' :: d :: digits => Net.readDigits? 8 (d :: digits)
  | digits => Net.readDigits? 10 digits

/-- The parts of a name, without an empty last one. -/
def parts (s : List Char) : List (List Char) :=
  let all := Text.splitEach (· == '.') s
  if all.getLast? = some [] then all.dropLast else all

/-- Whether the last part of a name is a number. -/
def endsInNumber (s : List Char) : Bool :=
  match (parts s).getLast? with
  | none | some [] => false
  | some last => (last.all fun c => '0' ≤ c ∧ c ≤ '9') || (readNumber? last).isSome

/-- The address that up to four numbers make; the last one fills all octets that are left. -/
def readV4? (s : List Char) : Option Net.Ipv4 := do
  let numbers ← (parts s).mapM readNumber?
  let last ← numbers.getLast?
  let front := numbers.dropLast
  if front.length > 3 ∨ front.any (· > 255) ∨ Nat.pow 256 (4 - front.length) ≤ last then none
  else some ⟨front ++ (Octets.ofNat (4 - front.length) last).map UInt8.toNat⟩

/-- The number of the lower-case form of a letter of Latin, Greek or Cyrillic script. -/
def lowerNumber (n : Nat) : Nat :=
  if ('A'.toNat ≤ n ∧ n ≤ 'Z'.toNat) ∨ (0xC0 ≤ n ∧ n ≤ 0xDE ∧ n ≠ 0xD7) ∨
      (0x391 ≤ n ∧ n ≤ 0x3A9) ∨ (0x410 ≤ n ∧ n ≤ 0x42F) then n + 32
  else if 0x400 ≤ n ∧ n ≤ 0x40F then n + 80
  else if n % 2 = 0 ∧ ((0x100 ≤ n ∧ n ≤ 0x12F) ∨ (0x132 ≤ n ∧ n ≤ 0x137) ∨
      (0x14A ≤ n ∧ n ≤ 0x177) ∨ (0x460 ≤ n ∧ n ≤ 0x481)) then n + 1
  else if n % 2 = 1 ∧ ((0x139 ≤ n ∧ n ≤ 0x148) ∨ (0x179 ≤ n ∧ n ≤ 0x17E)) then n + 1
  else if n = 0x178 then 0xFF
  else n

/-- One character of a name in the form in which names are compared. -/
def foldChar (c : Char) : List Char :=
  let n := c.toNat
  if n = 0xAD ∨ n = 0x200B ∨ n = 0x2060 ∨ n = 0xFEFF then []
  else if n = 0x3002 ∨ n = 0xFF0E ∨ n = 0xFF61 then ['.']
  else if 0xFF01 ≤ n ∧ n ≤ 0xFF5E then [Char.ofNat (lowerNumber (n - 0xFEE0))]
  else [Char.ofNat (lowerNumber n)]

/-- Whether no name holds the character. -/
def isRefused (c : Char) : Bool :=
  let n := c.toNat
  n ≤ 0x20 || (0x7F ≤ n && n ≤ 0x9F) || isOneOf "%#/:<>?@[\\]^`\x7b|\x7d" c ||
    (0x80 ≤ n && Text.isBlank c) || (0xE000 ≤ n && n ≤ 0xF8FF) || (0xFFF0 ≤ n && n ≤ 0xFFFF) ||
    0xE0000 ≤ n

/-- One part of a name in ASCII. What claims to be such a form already must be one. -/
def asciiPart? (s : List Char) : Option (List Char) :=
  if s.all (·.toNat < 0x80) then
    match Text.stripFront? "xn--".toList s with
    | none => some s
    | some rest => (Punycode.decode? rest).bind fun name =>
      if name.any (0x80 ≤ ·.toNat) ∧ name.flatMap foldChar = name ∧ !name.any isRefused then some s
      else none
  else some ("xn--".toList ++ Punycode.encode s)

/-- A name in ASCII. -/
def asciiName? (s : List Char) : Option (List Char) :=
  let folded := s.flatMap foldChar
  if folded.any isRefused then none
  else ((Text.splitEach (· == '.') folded).mapM asciiPart?).map ['.'].intercalate

/-- Reads the host under a well-known scheme. -/
def readName? (s : List Char) : Option Host := do
  let text ← Octets.toText? (percentDecode s)
  let name ← asciiName? text.toList
  if name.isEmpty then none
  else if endsInNumber name then (readV4? name).map v4
  else some (.name name)

/-- Reads the host under any other scheme. -/
def readOpaque? (s : List Char) : Option Host :=
  if s.any fun c => isOneOf "\x00\t\n\r #/:<>?@[\\]^|" c then none
  else some (.name (percentEncode encodesControls s))

/-- Reads a host; an address of groups stands in brackets. -/
def read? (wellKnown : Bool) (s : List Char) : Option Host :=
  match s with
  | '[' :: inside =>
    if inside.getLast? = some ']' then (Net.Ipv6.read? inside.dropLast).map v6 else none
  | _ => if wellKnown then readName? s else readOpaque? s

/-- The host as it stands in an address. -/
def write : Host → List Char
  | name s => s
  | v4 a => a.write
  | v6 a => '[' :: a.write ++ [']']

/-- Whether the host is an empty name. -/
def isEmpty (h : Host) : Bool := h = .name []

end Host
end FiscalGateway.Url

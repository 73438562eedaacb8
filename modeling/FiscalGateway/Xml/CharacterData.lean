import FiscalGateway.Xml.Error

/-!
# Character data

How characters stand in a document: line ends, references, and the values of attributes. Reading
expands references (`expand`), writing introduces them (`escapeText`, `escapeAttribute`,
`escapeMarkup`).
-/

namespace FiscalGateway.Xml

/-- A carriage return, alone or before a line feed, is a line feed. -/
def normalizeLineEnds : List Char → List Char
  | [] => []
  | '\r' :: '\n' :: rest => '\n' :: normalizeLineEnds rest
  | '\r' :: rest => '\n' :: normalizeLineEnds rest
  | c :: rest => c :: normalizeLineEnds rest

/-- The five names that need no declaration. -/
def namedCharacter? (name : List Char) : Option Char :=
  if name = ['l', 't'] then some '<'
  else if name = ['g', 't'] then some '>'
  else if name = ['a', 'm', 'p'] then some '&'
  else if name = ['a', 'p', 'o', 's'] then some '\''
  else if name = ['q', 'u', 'o', 't'] then some '"'
  else none

/-- The value of a digit to a base up to sixteen. -/
def digitValue? (base : Nat) (c : Char) : Option Nat :=
  let v? :=
    if '0' ≤ c ∧ c ≤ '9' then some (c.toNat - '0'.toNat)
    else if 'a' ≤ c ∧ c ≤ 'f' then some (c.toNat - 'a'.toNat + 10)
    else if 'A' ≤ c ∧ c ≤ 'F' then some (c.toNat - 'A'.toNat + 10)
    else none
  v?.filter (· < base)

/-- The number that the digits write, at least one digit and nothing else. -/
def number? (base : Nat) (digits : List Char) : Option Nat :=
  if digits.isEmpty then none
  else digits.foldlM (fun n c => (digitValue? base c).map (n * base + ·)) 0

/-- The character of a code point other than zero. -/
def numberedCharacter? (n : Nat) : Option Char :=
  if n ≠ 0 ∧ n.isValidChar then some (Char.ofNat n) else none

/-- The character that a reference stands for, given what is between `&` and `;`. -/
def referencedCharacter? : List Char → Option Char
  | '#' :: 'x' :: digits => number? 16 digits >>= numberedCharacter?
  | '#' :: digits => number? 10 digits >>= numberedCharacter?
  | name => namedCharacter? name

/-- Replaces each reference by its character. `pending` holds, while a reference is open, what has
been read of it in reverse. -/
def expandFrom (pending : Option (List Char)) : List Char → Except Fault (List Char)
  | [] => if pending.isSome then .error .reference else .ok []
  | c :: rest =>
    match pending with
    | none =>
      if c = '&' then expandFrom (some []) rest
      else (c :: ·) <$> expandFrom none rest
    | some name =>
      if c = ';' then
        match referencedCharacter? name.reverse with
        | some d => (d :: ·) <$> expandFrom none rest
        | none => .error .reference
      else if c = '&' then .error .reference
      else expandFrom (some (c :: name)) rest

/-- Replaces each reference by its character. -/
def expand (s : List Char) : Except Fault (List Char) := expandFrom none s

/-- The text that character data stands for. -/
def readText (raw : List Char) : Except Fault (List Char) := expand (normalizeLineEnds raw)

/-- A tab or line feed that is written as such in an attribute counts as a space. -/
def normalizeBlank (c : Char) : Char := if c = '\t' ∨ c = '\n' then ' ' else c

/-- The value of an attribute: blanks written as such become spaces before references are expanded,
so a blank written as a reference survives. -/
def readAttributeValue (raw : List Char) : Except Fault (List Char) :=
  expand ((normalizeLineEnds raw).map normalizeBlank)

/-- A character of text in canonical form. -/
def escapeTextChar (c : Char) : List Char :=
  if c = '&' then ['&', 'a', 'm', 'p', ';']
  else if c = '<' then ['&', 'l', 't', ';']
  else if c = '>' then ['&', 'g', 't', ';']
  else if c = '\r' then ['&', '#', 'x', 'D', ';']
  else [c]

/-- Text in canonical form. -/
def escapeText (s : List Char) : List Char := s.flatMap escapeTextChar

/-- A character of an attribute value in canonical form. -/
def escapeAttributeChar (c : Char) : List Char :=
  if c = '&' then ['&', 'a', 'm', 'p', ';']
  else if c = '<' then ['&', 'l', 't', ';']
  else if c = '"' then ['&', 'q', 'u', 'o', 't', ';']
  else if c = '\t' then ['&', '#', 'x', '9', ';']
  else if c = '\n' then ['&', '#', 'x', 'A', ';']
  else if c = '\r' then ['&', '#', 'x', 'D', ';']
  else [c]

/-- An attribute value in canonical form. -/
def escapeAttribute (s : List Char) : List Char := s.flatMap escapeAttributeChar

/-- A character in markup of our own making: the five characters with a name are written by it. -/
def escapeMarkupChar (c : Char) : List Char :=
  if c = '&' then ['&', 'a', 'm', 'p', ';']
  else if c = '<' then ['&', 'l', 't', ';']
  else if c = '>' then ['&', 'g', 't', ';']
  else if c = '\'' then ['&', 'a', 'p', 'o', 's', ';']
  else if c = '"' then ['&', 'q', 'u', 'o', 't', ';']
  else [c]

/-- Text or an attribute value in markup of our own making. -/
def escapeMarkup (s : List Char) : List Char := s.flatMap escapeMarkupChar

end FiscalGateway.Xml

import FiscalGateway.Asn1.Item

/-!
# Distinguished names

A name is a sequence of sets of attributes. Two names are the same if their attributes agree once
texts are brought to one form: one encoding, no blanks at the ends, single blanks inside, ASCII
letters in lower case.
-/

namespace FiscalGateway.Pki

open Asn1 (Item)

/-- One attribute: its kind and its value with the tag of the text. -/
structure NameAttribute where
  kind : Octets
  tag : UInt8
  value : Octets
  deriving DecidableEq, Repr, Inhabited

/-- A name, set by set. -/
structure Name where
  sets : List (List NameAttribute)
  deriving DecidableEq, Repr, Inhabited

namespace NameAttribute

/-- Reads an attribute. -/
def ofItem? (i : Item) : Option NameAttribute := do
  match ← i.sequence? with
  | [kind, value] => return ⟨← kind.content? Asn1.objectIdentifier, value.tag, value.content⟩
  | _ => none

/-- The characters with these code points, if each of them is one. -/
def charsOf? : List Nat → Option (List Char)
  | [] => some []
  | n :: rest =>
    if h : n.isValidChar then (charsOf? rest).map (Char.ofNatAux n h :: ·) else none

/-- Groups octets into numbers of `width` octets; a rest is refused. -/
def units? (width : Nat) (b : Octets) : Option (List Nat) :=
  if _h : b = [] ∨ width = 0 then some []
  else if b.length < width then none
  else (units? width (b.drop width)).map (Octets.toNat (b.take width) :: ·)
termination_by b.length
decreasing_by
  have : 0 < b.length := List.length_pos_iff.2 (by simp_all)
  simp only [List.length_drop]
  omega

/-- The characters of a value: the older kinds of text have one octet for each character. -/
def chars? (a : NameAttribute) : Option (List Char) :=
  match a.tag with
  | 0x0C => (Octets.toText? a.value).map String.toList
  | 0x12 | 0x13 | 0x14 | 0x16 | 0x17 | 0x18 | 0x1A => some (Octets.toChars a.value)
  | 0x1E => units? 2 a.value >>= charsOf?
  | 0x1C => units? 4 a.value >>= charsOf?
  | _ => none

/-- Whether a value is compared as text. -/
def isCompared (a : NameAttribute) : Bool :=
  a.tag ∈ [0x0C, 0x13, 0x14, 0x16, 0x1A, 0x1C, 0x1E]

/-- The blanks of ASCII. -/
def isAsciiBlank (c : Char) : Bool := c == ' ' || (9 ≤ c.toNat && c.toNat ≤ 13)

/-- Makes each run of blanks a single one. -/
def collapse : List Char → List Char
  | [] => []
  | [c] => [c]
  | c :: d :: rest =>
    if isAsciiBlank c then
      if isAsciiBlank d then collapse (d :: rest) else ' ' :: collapse (d :: rest)
    else c :: collapse (d :: rest)

/-- The form in which texts are compared. -/
def comparedText (s : List Char) : List Char :=
  let s := s.dropWhile isAsciiBlank
  let s := (s.reverse.dropWhile isAsciiBlank).reverse
  (collapse s).map Char.toLower

/-- The form in which attributes are compared. -/
def compared (a : NameAttribute) : Octets × UInt8 × List Char :=
  let raw := Octets.toChars a.value
  if a.isCompared then
    match a.chars? with
    | some s => (a.kind, 0x0C, comparedText s)
    | none => (a.kind, a.tag, raw)
  else (a.kind, a.tag, raw)

end NameAttribute

namespace Name

/-- Reads a name. -/
def ofItem? (i : Item) : Option Name := do
  let sets ← (← i.sequence?).mapM fun s => do
    (← s.children? Asn1.set).mapM NameAttribute.ofItem?
  return ⟨sets⟩

/-- Whether two names are the same. The order inside a set does not count. -/
def same (m n : Name) : Bool :=
  m.sets.length == n.sets.length &&
    (m.sets.zip n.sets).all fun (a, b) =>
      (a.map NameAttribute.compared).isPerm (b.map NameAttribute.compared)

/-- The kind of an attribute that names an organisation. -/
def organizationKind : Octets := Asn1.objectId [2, 5, 4, 10]

/-- The first organisation of the name. -/
def firstOrganization? (n : Name) : Option (List Char) := do
  let a ← n.sets.flatten.find? (·.kind = organizationKind)
  a.chars?

/-- The first organisation as it is read: up to a zero character. -/
def organization? (n : Name) : Option String := do
  let s ← n.firstOrganization?
  return String.ofList (s.takeWhile (· ≠ '\x00'))

end Name
end FiscalGateway.Pki

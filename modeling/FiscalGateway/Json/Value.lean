/-!
# JSON values

A value as it was written: numerals keep their digits, objects keep the order and the repetition of
their members. A text that is no JSON is held as far as it goes, and `fault` stands where reading
stopped; so a fault of form and a fault of content can be reported in the order of the text.
-/

namespace FiscalGateway

/-- A number as written. -/
structure Json.Numeral where
  negative : Bool
  /-- The digits in front of the point. -/
  whole : List Char
  /-- The digits behind the point; empty if there is none. -/
  fraction : List Char
  /-- Sign (true if negative) and digits of the exponent. -/
  exponent : Option (Bool × List Char)
  deriving DecidableEq, Repr, Inhabited

/-- A value as written. -/
inductive Json where
  | null
  | bool (b : Bool)
  | number (n : Json.Numeral)
  | string (s : String)
  /-- A string with an escape that is half of a character only. It may be skipped, not read. -/
  | unpaired
  | array (items : List Json)
  | object (members : List (String × Json))
  /-- The place where the text stops being JSON. -/
  | fault
  deriving Repr, Inhabited

namespace Json

/-- A natural number. -/
def ofNat (n : Nat) : Json := .number ⟨false, Nat.toDigits 10 n, [], none⟩

/-- A text that may be absent. -/
def ofOption : Option String → Json
  | some s => .string s
  | none => .null

/-- The value of the first member of this name. -/
def member? (name : String) : Json → Option Json
  | .object members => members.lookup name
  | _ => none

mutual

/-- Whether no fault stands anywhere in the value. -/
def isWhole : Json → Bool
  | .fault => false
  | .array items => areWhole items
  | .object members => membersAreWhole members
  | _ => true

/-- Whether no fault stands in any of the values. -/
def areWhole : List Json → Bool
  | [] => true
  | v :: rest => v.isWhole && areWhole rest

/-- Whether no fault stands in any of the members. -/
def membersAreWhole : List (String × Json) → Bool
  | [] => true
  | (_, v) :: rest => v.isWhole && membersAreWhole rest

end

end Json
end FiscalGateway

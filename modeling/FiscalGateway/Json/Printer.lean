import FiscalGateway.Json.Value
import FiscalGateway.Text.Hex

/-!
# Writing JSON

The compact form: no blanks, members in order, and in strings only what must be escaped is.
-/

namespace FiscalGateway.Json

/-- A character inside a string. -/
def escapeChar (c : Char) : List Char :=
  match c with
  | '"' => ['\\', '"']
  | '\\' => ['\\', '\\']
  | '\x08' => ['\\', 'b']
  | '\x0C' => ['\\', 'f']
  | '\n' => ['\\', 'n']
  | '\r' => ['\\', 'r']
  | '\t' => ['\\', 't']
  | c =>
    if c.toNat < 0x20 then
      ['\\', 'u', '0', '0', Text.Hex.lowerDigit (c.toNat / 16), Text.Hex.lowerDigit (c.toNat % 16)]
    else [c]

/-- A string with its quotes. -/
def writeString (s : List Char) : List Char := '"' :: s.flatMap escapeChar ++ ['"']

/-- A numeral as it was written. -/
def Numeral.write (n : Numeral) : List Char :=
  (if n.negative then ['-'] else []) ++ n.whole ++
  (if n.fraction.isEmpty then [] else '.' :: n.fraction) ++
  match n.exponent with
  | none => []
  | some (negative, digits) => 'e' :: (if negative then ['-'] else []) ++ digits

mutual

/-- A value in compact form. A fault has no form of its own and is written as `null`. -/
def write : Json → List Char
  | .null | .fault => "null".toList
  | .bool true => "true".toList
  | .bool false => "false".toList
  | .number n => n.write
  | .string s => writeString s.toList
  | .unpaired => writeString []
  | .array items => '[' :: writeItems items
  | .object members => '\x7b' :: writeMembers members

/-- The items of an array and its closing bracket. -/
def writeItems : List Json → List Char
  | [] => [']']
  | [v] => v.write ++ [']']
  | v :: rest => v.write ++ ',' :: writeItems rest

/-- The members of an object and its closing brace. -/
def writeMembers : List (String × Json) → List Char
  | [] => ['\x7d']
  | [(k, v)] => writeString k.toList ++ ':' :: v.write ++ ['\x7d']
  | (k, v) :: rest => writeString k.toList ++ ':' :: v.write ++ ',' :: writeMembers rest

end

/-- The compact text of a value. -/
def text (v : Json) : String := String.ofList v.write

end FiscalGateway.Json

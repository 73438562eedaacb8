import FiscalGateway.Text.Unprintable

/-!
# Quoted text

A text between double quotes in which every character can be told apart on a screen: the quote, the
backslash and the usual controls have a short escape, an unprintable character is written as its
code point in braces, and all else stands for itself.
-/

namespace FiscalGateway.Text.Quoted

/-- The digits of a code point in lower-case hexadecimal, without leading zeros. -/
def codePoint (c : Char) : List Char := Nat.toDigits 16 c.toNat

/-- One character as it stands between the quotes. -/
def escape (c : Char) : List Char :=
  match c with
  | '\x00' => ['\\', '0']
  | '\t' => ['\\', 't']
  | '\r' => ['\\', 'r']
  | '\n' => ['\\', 'n']
  | '\\' => ['\\', '\\']
  | '"' => ['\\', '"']
  | c => if isUnprintable c then '\\' :: 'u' :: '{' :: codePoint c ++ ['}'] else [c]

/-- The text between its quotes. -/
def encode (s : List Char) : List Char := '"' :: s.flatMap escape ++ ['"']

end Quoted

/-- The quoted form of a text. -/
def quoted (s : String) : String := String.ofList (Quoted.encode s.toList)

/-- The quoted form of a text that may be absent. -/
def quotedOption : Option String → String
  | none => "None"
  | some s => "Some(" ++ quoted s ++ ")"

end FiscalGateway.Text

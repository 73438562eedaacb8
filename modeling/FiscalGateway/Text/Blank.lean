/-!
# Blanks

`isBlank` is the property White_Space of Unicode; `isMarkupBlank` is the narrower class that
separates the parts of a tag. Trimming is by the wider class.
-/

namespace FiscalGateway.Text

/-- The property White_Space. -/
def isBlank (c : Char) : Bool :=
  let n := c.toNat
  (0x9 ≤ n && n ≤ 0xD) || n == 0x20 || n == 0x85 || n == 0xA0 || n == 0x1680 ||
    (0x2000 ≤ n && n ≤ 0x200A) || n == 0x2028 || n == 0x2029 || n == 0x202F || n == 0x205F ||
    n == 0x3000

/-- Space, tab, line feed and carriage return. -/
def isMarkupBlank (c : Char) : Bool :=
  c == ' ' || c == '\t' || c == '\n' || c == '\r'

/-- Drops blanks at the front. -/
def trimStart (s : List Char) : List Char := s.dropWhile isBlank

/-- Drops blanks at the back. -/
def trimEnd (s : List Char) : List Char := (s.reverse.dropWhile isBlank).reverse

/-- Drops blanks at both ends. -/
def trim (s : List Char) : List Char := trimEnd (trimStart s)

/-- Whether the text holds nothing but blanks. -/
def isAllBlank (s : List Char) : Bool := s.all isBlank

/-- The maximal runs of characters that are not blank, in order. -/
def words (s : List Char) : List (List Char) :=
  let (done, last) := s.foldr
    (fun c (done, current) =>
      if isBlank c then (if current.isEmpty then done else current :: done, [])
      else (done, c :: current))
    ([], [])
  if last.isEmpty then done else last :: done

end FiscalGateway.Text

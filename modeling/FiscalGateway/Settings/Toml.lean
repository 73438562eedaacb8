import FiscalGateway.Text.Hex

/-!
# Settings files

A file of settings is a list of statements: entries, headers of tables and headers of rows. Only
the kinds of value that a setting can have are read: texts, whole numbers, truth values, arrays and
tables; every other kind is refused as if it were malformed.

`readStatements?` reads the form, and `build?` puts the statements together: a table may be opened
once by a header, once by the dotted names in front of its entries, and not by both.
-/

namespace FiscalGateway.Toml

/-- How a table came to be. -/
inductive Origin where
  /-- It has a header of its own, or is the outermost one. -/
  | header
  /-- It stands in the header of another table. -/
  | implied
  /-- It stands in front of a point in the name of an entry. -/
  | dotted
  /-- It is written in braces. -/
  | braced
  deriving DecidableEq, Repr

/-- A value of a setting. -/
inductive Value where
  | text (s : String)
  | integer (i : Int)
  | boolean (b : Bool)
  | array (items : List Value)
  | table (origin : Origin) (entries : List (String × Value))
  /-- Tables under one name, each with a header of its own. -/
  | rows (tables : List (List (String × Value)))
  deriving Repr, Inhabited

/-- The entries of a table. -/
abbrev Entries := List (String × Value)

/-- A line of a file, or several where a value goes on. -/
inductive Statement where
  | entry (path : List String) (name : String) (value : Value)
  | header (path : List String) (name : String)
  | row (path : List String) (name : String)
  deriving Repr

/-! ## Characters -/

/-- Space and tab. -/
def isBlank (c : Char) : Bool := c == ' ' || c == '\t'

/-- Whether a character may stand in a comment or a text. -/
def isPlain (c : Char) : Bool := c == '\t' || (0x20 ≤ c.toNat && c.toNat ≠ 0x7F)

/-- Whether a character may stand in a name without quotes. -/
def isBare (c : Char) : Bool := c.isAlphanum || c == '-' || c == '_'

/-- Drops blanks at the front. -/
def skipBlanks (s : List Char) : List Char := s.dropWhile isBlank

/-- What follows a line break. -/
def takeBreak? : List Char → Option (List Char)
  | '\n' :: rest | '\r' :: '\n' :: rest => some rest
  | _ => none

/-- Drops a comment. -/
def skipComment (s : List Char) : List Char :=
  match s with
  | '#' :: rest => rest.dropWhile isPlain
  | _ => s

/-- What follows the end of a line, in front of which a comment may stand. -/
def takeLineEnd? (s : List Char) : Option (List Char) :=
  match skipComment (skipBlanks s) with
  | [] => some []
  | rest => takeBreak? rest

/-- Drops blanks, comments and line breaks. -/
def skipLines : (fuel : Nat) → List Char → List Char
  | 0, s => s
  | fuel + 1, s =>
    let rest := skipComment (skipBlanks s)
    match takeBreak? rest with
    | some rest => skipLines fuel rest
    | none => rest

/-! ## Texts -/

/-- The character that digits tell. -/
def charOf? (digits : List Char) : Option Char := do
  let n ← digits.foldlM (fun n d => (Text.Hex.digit? d).map (n * 16 + ·)) 0
  if n < 0xD800 ∨ (0xDFFF < n ∧ n < 0x110000) then some (Char.ofNat n) else none

/-- The character behind a backslash. -/
def takeEscape? : List Char → Option (Char × List Char)
  | 'b' :: rest => some ('\x08', rest)
  | 't' :: rest => some ('\t', rest)
  | 'n' :: rest => some ('\n', rest)
  | 'f' :: rest => some ('\x0c', rest)
  | 'r' :: rest => some ('\r', rest)
  | '"' :: rest => some ('"', rest)
  | '\\' :: rest => some ('\\', rest)
  | 'u' :: rest =>
    if rest.length < 4 then none else (charOf? (rest.take 4)).map (·, rest.drop 4)
  | 'U' :: rest =>
    if rest.length < 8 then none else (charOf? (rest.take 8)).map (·, rest.drop 8)
  | _ => none

/-- Drops blanks and line breaks. -/
def skipSpace : List Char → List Char
  | '\r' :: '\n' :: rest => skipSpace rest
  | c :: rest => if isBlank c || c == '\n' then skipSpace rest else c :: rest
  | [] => []

/-- The rest of a text between quotes on one line; `escapes` says whether a backslash has a
meaning. -/
def takeLineText? (quote : Char) (escapes : Bool) :
    (fuel : Nat) → List Char → Option (List Char × List Char)
  | 0, _ | _, [] => none
  | fuel + 1, c :: rest =>
    if c = quote then some ([], rest)
    else if c = '\\' ∧ escapes then do
      let (d, rest) ← takeEscape? rest
      let (s, rest) ← takeLineText? quote escapes fuel rest
      some (d :: s, rest)
    else if isPlain c then do
      let (s, rest) ← takeLineText? quote escapes fuel rest
      some (c :: s, rest)
    else none

/-- The rest of a text over several lines. Up to two quotes may stand in front of those that end
it; a backslash at the end of a line drops the space that follows. -/
def takeLongText? (quote : Char) (escapes : Bool) :
    (fuel : Nat) → List Char → Option (List Char × List Char)
  | 0, _ | _, [] => none
  | fuel + 1, c :: rest =>
    let goOn (c : Char) (rest : List Char) : Option (List Char × List Char) := do
      let (s, rest) ← takeLongText? quote escapes fuel rest
      some (c :: s, rest)
    if c = quote then
      let quotes := (c :: rest).takeWhile (· = quote)
      if quotes.length < 3 then goOn c rest
      else if quotes.length ≤ 5 then
        some (quotes.drop 3, (c :: rest).drop quotes.length)
      -- of more than five, two belong to the text and three end it
      else some (quotes.take 2, (c :: rest).drop 5)
    else if c = '\\' ∧ escapes then
      match takeEscape? rest with
      | some (d, rest) => goOn d rest
      | none => match takeBreak? (skipBlanks rest) with
        | some rest => takeLongText? quote escapes fuel (skipSpace rest)
        | none => none
    else
      match takeBreak? (c :: rest) with
      | some rest => goOn '\n' rest
      | none => if isPlain c then goOn c rest else none

/-- A text between quotes of one kind. -/
def takeText? (fuel : Nat) (s : List Char) : Option (String × List Char) := do
  let named (t : List Char × List Char) : String × List Char := (String.ofList t.1, t.2)
  let afterBreak (s : List Char) : List Char := (takeBreak? s).getD s
  match s with
  | '"' :: '"' :: '"' :: rest => (takeLongText? '"' true fuel (afterBreak rest)).map named
  | '\'' :: '\'' :: '\'' :: rest => (takeLongText? '\'' false fuel (afterBreak rest)).map named
  | '"' :: rest => (takeLineText? '"' true fuel rest).map named
  | '\'' :: rest => (takeLineText? '\'' false fuel rest).map named
  | _ => none

/-! ## Names -/

/-- A name, with or without quotes. -/
def takeName? (s : List Char) : Option (String × List Char) :=
  match s with
  | '"' :: rest =>
    (takeLineText? '"' true s.length rest).map fun (t, rest) => (String.ofList t, rest)
  | '\'' :: rest =>
    (takeLineText? '\'' false s.length rest).map fun (t, rest) => (String.ofList t, rest)
  | _ =>
    let name := s.takeWhile isBare
    if name.isEmpty then none else some (String.ofList name, s.drop name.length)

/-- Names with points between them: those in front of the last one, and that one. -/
def takePath? : (fuel : Nat) → List Char → Option ((List String × String) × List Char)
  | 0, _ => none
  | fuel + 1, s => do
    let (name, rest) ← takeName? (skipBlanks s)
    match skipBlanks rest with
    | '.' :: rest =>
      let ((path, last), rest) ← takePath? fuel rest
      some ((name :: path, last), rest)
    | rest => some (([], name), rest)

/-! ## Numbers -/

/-- Digits to a base, between which single underscores may stand. -/
def readDigits? (base : Nat) (s : List Char) : Option Nat :=
  let pieces := s.splitOn '_'
  if pieces.any List.isEmpty then none
  else pieces.flatten.foldlM
    (fun n c => ((Text.Hex.digit? c).filter (· < base)).map (n * base + ·)) 0

/-- A whole number of 64 bits with sign. -/
def readInteger? (s : List Char) : Option Int :=
  let bounded (negative : Bool) (n : Nat) : Option Int :=
    if n < 1 <<< 63 then some (if negative then -n else n)
    -- the least word has no counterpart without the sign
    else if negative ∧ n = 1 <<< 63 then some (-n)
    else none
  let decimal (negative : Bool) (digits : List Char) : Option Int :=
    if digits.length > 1 ∧ digits.head? = some '0' then none
    else (readDigits? 10 digits).bind (bounded negative)
  match s with
  | '0' :: 'x' :: digits => (readDigits? 16 digits).bind (bounded false)
  | '0' :: 'o' :: digits => (readDigits? 8 digits).bind (bounded false)
  | '0' :: 'b' :: digits => (readDigits? 2 digits).bind (bounded false)
  | '-' :: digits => decimal true digits
  | '+' :: digits => decimal false digits
  | digits => decimal false digits

/-- A number or a truth value. -/
def takeScalar? (s : List Char) : Option (Value × List Char) :=
  let word := s.takeWhile fun c => isBare c || c == '+' || c == '.' || c == ':'
  let rest := s.drop word.length
  if word = "true".toList then some (.boolean true, rest)
  else if word = "false".toList then some (.boolean false, rest)
  else (readInteger? word).map (.integer ·, rest)

/-! ## Tables -/

/-- Puts a value in the place of another one. -/
def replaceEntry (name : String) (v : Value) (entries : Entries) : Entries :=
  entries.map fun e => if e.1 = name then (name, v) else e

/-- Changes the table at the end of a path; tables that are missing are made. `byDots` says that
the path stands in the name of an entry. -/
def changeAt (byDots : Bool) (change : Origin → Entries → Option Entries) (origin : Origin)
    (entries : Entries) : (path : List String) → Option Entries
  | [] => change origin entries
  | name :: path =>
    match entries.lookup name with
    | none => do
      let origin := if byDots then .dotted else .implied
      some (entries ++ [(name, .table origin (← changeAt byDots change origin [] path))])
    | some (.table origin inner) =>
      -- what stands in braces is complete, and dots do not reach into a table that has a header
      if origin = .braced ∨ (byDots ∧ origin = .header) then none
      else do
        some (replaceEntry name (.table origin (← changeAt byDots change origin inner path)) entries)
    | some (.rows tables) => do
      -- of several tables of one name the last one is meant
      let last ← changeAt byDots change .header (tables.getLast?.getD []) path
      some (replaceEntry name (.rows (tables.dropLast ++ [last])) entries)
    | some _ => none

/-- Adds an entry below a table. -/
def addEntry (path : List String) (name : String) (v : Value) (entries : Entries) : Option Entries :=
  changeAt true
    (fun origin entries =>
      if (entries.lookup name).isSome ∨ decide (origin = .dotted) = path.isEmpty then none
      else some (entries ++ [(name, v)]))
    .header entries path

/-- Opens a table. -/
def addHeader (name : String) (entries : Entries) : Option Entries :=
  match entries.lookup name with
  | none => some (entries ++ [(name, .table .header [])])
  | some (.table .implied inner) => some (replaceEntry name (.table .header inner) entries)
  | some _ => none

/-- Opens another table under the name of rows. -/
def addRow (name : String) (entries : Entries) : Option Entries :=
  match entries.lookup name with
  | none => some (entries ++ [(name, .rows [[]])])
  | some (.rows tables) => some (replaceEntry name (.rows (tables ++ [[]])) entries)
  | some _ => none

/-- What a file has told so far: all entries, and the path of the table that is open. -/
structure Progress where
  entries : Entries
  opened : List String

/-- Takes one statement. -/
def Progress.take (p : Progress) : Statement → Option Progress
  | .entry path name v =>
    (changeAt false (fun _ entries => addEntry path name v entries) .header p.entries p.opened).map
      fun entries => { p with entries := entries }
  | .header path name =>
    (changeAt false (fun _ entries => addHeader name entries) .header p.entries path).map
      fun entries => ⟨entries, path ++ [name]⟩
  | .row path name =>
    (changeAt false (fun _ entries => addRow name entries) .header p.entries path).map
      fun entries => ⟨entries, path ++ [name]⟩

/-- The table that the statements make. -/
def build? (statements : List Statement) : Option Value :=
  (statements.foldlM Progress.take ⟨[], []⟩).map fun p => .table .header p.entries

/-! ## Values and statements -/

mutual

/-- A value. -/
def takeValue? : (fuel : Nat) → List Char → Option (Value × List Char)
  | 0, _ => none
  | fuel + 1, s =>
    match s with
    | '[' :: rest => takeItems? fuel [] (skipLines fuel rest)
    | '\x7b' :: rest =>
      match skipBlanks rest with
      | '\x7d' :: rest => some (.table .braced [], rest)
      | rest => takeEntries? fuel [] rest
    | '"' :: _ | '\'' :: _ => (takeText? s.length s).map fun (t, rest) => (.text t, rest)
    | _ => takeScalar? s

/-- The rest of an array. -/
def takeItems? : (fuel : Nat) → (items : List Value) → List Char → Option (Value × List Char)
  | 0, _, _ => none
  | fuel + 1, items, s =>
    match s with
    | ']' :: rest => some (.array items, rest)
    | _ => do
      let (v, rest) ← takeValue? fuel s
      match skipLines fuel rest with
      | ',' :: rest => takeItems? fuel (items ++ [v]) (skipLines fuel rest)
      | ']' :: rest => some (.array (items ++ [v]), rest)
      | _ => none

/-- The rest of a table in braces. -/
def takeEntries? : (fuel : Nat) → Entries → List Char → Option (Value × List Char)
  | 0, _, _ => none
  | fuel + 1, entries, s => do
    let ((path, name), rest) ← takePath? s.length s
    match rest with
    | '=' :: rest =>
      let (v, rest) ← takeValue? fuel (skipBlanks rest)
      let entries ← addEntry path name v entries
      match skipBlanks rest with
      | ',' :: rest => takeEntries? fuel entries rest
      | '\x7d' :: rest => some (.table .braced entries, rest)
      | _ => none
    | _ => none

end

/-- The path of a header, which ends with this text. -/
def takeHeader? (close : List Char) (s : List Char) :
    Option ((List String × String) × List Char) := do
  let (path, rest) ← takePath? s.length s
  match close, rest with
  | [']'], ']' :: rest | [']', ']'], ']' :: ']' :: rest => some (path, ← takeLineEnd? rest)
  | _, _ => none

/-- A statement to the end of its line. -/
def takeStatement? (s : List Char) : Option (Statement × List Char) :=
  match s with
  | '[' :: '[' :: rest =>
    (takeHeader? [']', ']'] rest).map fun ((path, name), rest) => (.row path name, rest)
  | '[' :: rest =>
    (takeHeader? [']'] rest).map fun ((path, name), rest) => (.header path name, rest)
  | _ => do
    let ((path, name), rest) ← takePath? s.length s
    match rest with
    | '=' :: rest =>
      let (v, rest) ← takeValue? rest.length (skipBlanks rest)
      some (.entry path name v, ← takeLineEnd? rest)
    | _ => none

/-- The statements from here on. -/
def readStatements? : (fuel : Nat) → List Char → Option (List Statement)
  | 0, s => if s.isEmpty then some [] else none
  | fuel + 1, s =>
    match skipLines (fuel + 1) s with
    | [] => some []
    | rest => do
      let (statement, rest) ← takeStatement? rest
      some (statement :: (← readStatements? fuel rest))

/-- The table of a file; a mark of the order of octets may stand in front. -/
def read? (s : List Char) : Option Value :=
  let s := if s.head? = some '\ufeff' then s.drop 1 else s
  readStatements? (s.length + 1) s >>= build?

end FiscalGateway.Toml

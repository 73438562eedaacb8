import FiscalGateway.Text.Split

/-!
# Media types

The type of a body: two names with a slash between them, then parameters behind semicolons. What
follows the last plus sign in the second name is its suffix, which tells a more general form. A
header counts only if all of it has this form.
-/

namespace FiscalGateway.Server

/-- A media type without its parameters, in lower case. -/
structure MediaType where
  type : List Char
  subtype : List Char
  suffix : Option (List Char)
  deriving DecidableEq, Repr

namespace MediaType

/-- The characters of names. -/
def isTokenChar (c : Char) : Bool :=
  c.isAlphanum || "!#$%&'*+-.^_`|~".toList.contains c

/-- The characters that may stand between quotes. -/
def isQuotedChar (c : Char) : Bool := ' ' ≤ c ∧ c ≤ '~'

/-- What follows a value in quotes, whose first character may itself be a quote. -/
def afterQuoted? : List Char → Option (List Char)
  | first :: rest =>
    if isQuotedChar first then
      match Text.splitOnce (· == '"') rest with
      | some (content, after) => if content.all isQuotedChar then some after else none
      | none => none
    else none
  | [] => none

/-- The parameters behind a semicolon: whether they are well formed. -/
def parametersHold (fuel : Nat) (s : List Char) : Bool :=
  match fuel with
  | 0 => false
  | fuel + 1 =>
    let s := s.dropWhile (· == ' ')
    if s.isEmpty then true
    else
      match s.dropWhile isTokenChar with
      | '=' :: value =>
        !(s.takeWhile isTokenChar).isEmpty && match value with
          | '"' :: quoted =>
            match (afterQuoted? quoted).map (·.dropWhile (· == ' ')) with
            | some [] => true
            | some (';' :: rest) => parametersHold fuel rest
            | _ => false
          | _ =>
            match value.dropWhile isTokenChar with
            | [] => true
            | ';' :: rest => !(value.takeWhile isTokenChar).isEmpty && parametersHold fuel rest
            | _ => false
      | _ => false

/-- The second name and its suffix, which begins behind the last plus sign but not at the front. -/
def splitSuffix (s : List Char) : List Char × Option (List Char) :=
  match s with
  | [] => ([], none)
  | first :: rest =>
    match Text.splitOnce (· == '+') rest.reverse with
    | none => (s, none)
    | some (suffix, before) => (first :: before.reverse, some suffix.reverse)

/-- Reads a media type. -/
def read? (s : List Char) : Option MediaType := do
  let (type, rest) ← Text.splitOnce (· == '/') s
  let (name, parameters?) := match Text.splitOnce (· == ';') rest with
    | some (name, parameters) => (name, some parameters)
    | none => (rest, none)
  let holds := match parameters? with
    | some parameters => !name.isEmpty && parametersHold (s.length + 1) parameters
    | none => true
  if !type.isEmpty && type.all isTokenChar && name.all isTokenChar && holds then
    let (subtype, suffix) := splitSuffix name
    some ⟨type.map Char.toLower, subtype.map Char.toLower, suffix.map (·.map Char.toLower)⟩
  else none

/-- Whether a body of this type is JSON. -/
def isJson (m : MediaType) : Bool :=
  m.type == "application".toList &&
    (m.subtype == "json".toList || m.suffix == some "json".toList)

end MediaType
end FiscalGateway.Server

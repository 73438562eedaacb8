import FiscalGateway.Url.Host

/-!
# Addresses of resources

An address has a scheme, an authority where there is one, a path, a query and a fragment. Reading
brings each part to its normal form: letters of scheme and host to lower case, the usual port away,
dots out of the path, and what the part does not allow encoded. `write` puts the parts together.
-/

namespace FiscalGateway

/-- User, host and port. -/
structure Url.Authority where
  user : List Char
  password : Option (List Char)
  host : Url.Host
  port : Option Nat
  deriving DecidableEq, Repr

/-- The path is text without structure or a list of steps. -/
inductive Url.Route where
  | text (s : List Char)
  | steps (segments : List (List Char))
  deriving DecidableEq, Repr

/-- An address. -/
structure Url where
  scheme : List Char
  authority : Option Url.Authority
  route : Url.Route
  query : Option (List Char)
  fragment : Option (List Char)
  deriving DecidableEq, Repr

namespace Url

/-- The well-known schemes with their usual ports. -/
def usualPorts : List (List Char × Option Nat) :=
  [("http".toList, some 80), ("https".toList, some 443), ("ws".toList, some 80),
    ("wss".toList, some 443), ("ftp".toList, some 21), ("file".toList, none)]

/-- Whether a scheme is well known. -/
def isWellKnown (scheme : List Char) : Bool := (usualPorts.lookup scheme).isSome

/-- The usual port of a scheme. -/
def usualPort? (scheme : List Char) : Option Nat := (usualPorts.lookup scheme).join

/-- The scheme in front of a colon, in lower case, and what follows. -/
def takeScheme? (s : List Char) : Option (List Char × List Char) := do
  let (scheme, rest) ← Text.splitOnce (· == ':') s
  let isLetter (c : Char) : Bool := ('a' ≤ c && c ≤ 'z') || ('A' ≤ c && c ≤ 'Z')
  match scheme with
  | [] => none
  | c :: more =>
    if isLetter c && more.all fun d => isLetter d || ('0' ≤ d && d ≤ '9') || isOneOf "+-." d then
      some (scheme.map Char.toLower, rest)
    else none

/-- Whether a character ends a part of the path. -/
def isSlash (wellKnown : Bool) (c : Char) : Bool := c == '/' || (wellKnown && c == '\\')

/-- The texts before and after the last character of a kind, if there is one. -/
def splitLast? (stop : Char → Bool) (s : List Char) : Option (List Char × List Char) :=
  (Text.splitOnce stop s.reverse).map fun (after, before) => (before.reverse, after.reverse)

/-- The host and the text behind the colon that is not inside brackets. -/
def splitPort (inside : Bool) : List Char → List Char × Option (List Char)
  | [] => ([], none)
  | c :: rest =>
    if c == ':' && !inside then ([], some rest)
    else
      let (host, port) := splitPort (if c == '[' then true else if c == ']' then false else inside) rest
      (c :: host, port)

/-- A port; the usual one and an empty one are left out. -/
def readPort? (scheme digits : List Char) : Option (Option Nat) :=
  if digits.isEmpty then some none
  else
    (Net.readDigits? 10 digits).bind fun n =>
      if n < UInt16.size then some (if some n = usualPort? scheme then none else some n) else none

/-- Reads what stands between the slashes and the path. -/
def readAuthority? (scheme s : List Char) : Option Authority := do
  let (user, password, hostPort) := match splitLast? (· == '@') s with
    | none => ([], none, s)
    | some (userInfo, rest) => match Text.splitOnce (· == ':') userInfo with
      | none => (userInfo, none, rest)
      | some (user, password) => (user, some password, rest)
  let (hostText, portText) := splitPort false hostPort
  let wellKnown := isWellKnown scheme
  if hostText.isEmpty ∧ (wellKnown ∨ portText.isSome ∨ hostPort.length < s.length) then none
  else
    let host ← Host.read? wellKnown hostText
    let port ← match portText with
      | none => some none
      | some digits => readPort? scheme digits
    let encode := percentEncode encodesUser
    some ⟨encode user, (password.filter (!·.isEmpty)).map encode, host, port⟩

/-- Whether a step of a path is a dot, which may be encoded. -/
def isDot (s : List Char) : Bool := s = ['.'] || s.map Char.toLower = "%2e".toList

/-- Whether a step of a path is two dots. -/
def isDoubleDot (s : List Char) : Bool :=
  ["..", ".%2e", "%2e.", "%2e%2e"].any fun t => s.map Char.toLower = t.toList

/-- The steps of a path in which dots are followed; `done` is the path so far, the last step first. -/
def followDots (done : List (List Char)) : List (List Char) → List (List Char)
  | [] => done.reverse
  | [last] =>
    if isDoubleDot last then ([] :: done.drop 1).reverse
    else if isDot last then ([] :: done).reverse
    else (last :: done).reverse
  | s :: rest =>
    if isDoubleDot s then followDots (done.drop 1) rest
    else if isDot s then followDots done rest
    else followDots (s :: done) rest

/-- The steps of a path behind its first slash. -/
def readSteps (wellKnown : Bool) (s : List Char) : List (List Char) :=
  followDots [] ((Text.splitEach (isSlash wellKnown) s).map (percentEncode encodesPath))

/-- The path of an address with an authority. -/
def readPath (wellKnown : Bool) (s : List Char) : Route :=
  match s with
  | [] => .steps (if wellKnown then [[]] else [])
  | c :: rest => .steps (readSteps wellKnown (if isSlash wellKnown c then rest else s))

/-- The text in front of a character and the text behind it, if it is there. -/
def cutAt (c : Char) (s : List Char) : List Char × Option (List Char) :=
  match Text.splitOnce (· == c) s with
  | some (front, back) => (front, some back)
  | none => (s, none)

/-- Whether a character does not count at the ends of an address. -/
def isPadding (c : Char) : Bool := c.toNat ≤ 0x20

/-- The text of an address without padding and line breaks. -/
def clean (s : List Char) : List Char :=
  (((s.dropWhile isPadding).reverse.dropWhile isPadding).reverse).filter fun c => !isOneOf "\t\n\r" c

/-- The authority and the path of a file: an empty host is allowed, and the machine itself is no
host. -/
def readFile? (s : List Char) : Option (Option Authority × Route) :=
  match s with
  | a :: b :: rest =>
    if isSlash true a && isSlash true b then do
      let hostText := rest.takeWhile fun c => !isSlash true c
      let path := readPath true (rest.drop hostText.length)
      if hostText.isEmpty then some (some ⟨[], none, .name [], none⟩, path)
      else
        let host ← Host.read? true hostText
        let host := if host = .name "localhost".toList then .name [] else host
        some (some ⟨[], none, host, none⟩, path)
    else some (some ⟨[], none, .name [], none⟩, readPath true s)
  | _ => some (some ⟨[], none, .name [], none⟩, readPath true s)

/-- The authority and the path behind a scheme. -/
def readHierarchy? (scheme s : List Char) : Option (Option Authority × Route) :=
  let wellKnown := isWellKnown scheme
  let withAuthority (rest : List Char) : Option (Option Authority × Route) := do
    let text := rest.takeWhile fun c => !isSlash wellKnown c
    let authority ← readAuthority? scheme text
    some (some authority, readPath wellKnown (rest.drop text.length))
  if scheme = "file".toList then readFile? s
  else if wellKnown then withAuthority (s.dropWhile (isSlash true))
  else
    match s with
    | '/' :: '/' :: rest => withAuthority rest
    | '/' :: rest => some (none, .steps (readSteps false rest))
    | _ => some (none, .text (percentEncode encodesControls s))

/-- Reads an address that stands for itself. -/
def read? (s : List Char) : Option Url := do
  let (scheme, rest) ← takeScheme? (clean s)
  let (rest, fragment) := cutAt '#' rest
  let (rest, query) := cutAt '?' rest
  let (authority, route) ← readHierarchy? scheme rest
  let encodesQuery := if isWellKnown scheme then encodesSpecialQuery else encodesQuery
  some ⟨scheme, authority, route, query.map (percentEncode encodesQuery),
    fragment.map (percentEncode encodesFragment)⟩

/-- The authority as it stands in an address. -/
def Authority.write (a : Authority) : List Char :=
  let password := match a.password with
    | none => []
    | some p => ':' :: p
  let userInfo := if a.user.isEmpty ∧ a.password.isNone then [] else a.user ++ password ++ ['@']
  let port := match a.port with
    | none => []
    | some n => ':' :: Nat.toDigits 10 n
  userInfo ++ a.host.write ++ port

/-- The path as it stands in an address. -/
def Route.write : Route → List Char
  | .text s => s
  | .steps segments => segments.flatMap ('/' :: ·)

/-- The text of an address. -/
def write (u : Url) : List Char :=
  let authority := match u.authority with
    | some a => ['/', '/'] ++ a.write
    | none => match u.route with
      | .steps ([] :: _ :: _) => ['/', '.']
      | _ => []
  let query := match u.query with
    | none => []
    | some q => '?' :: q
  let fragment := match u.fragment with
    | none => []
    | some f => '#' :: f
  u.scheme ++ ':' :: authority ++ u.route.write ++ query ++ fragment

/-- The text of an address. -/
def text (u : Url) : String := String.ofList u.write

/-- Whether the address names a host. -/
def hasHost (u : Url) : Bool :=
  match u.authority with
  | some a => !(u.scheme = "file".toList ∧ a.host.isEmpty)
  | none => false

end Url
end FiscalGateway

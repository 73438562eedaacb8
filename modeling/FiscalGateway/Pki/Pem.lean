import FiscalGateway.Pki.PrivateKey
import FiscalGateway.Text.Base64
import FiscalGateway.Text.Split

/-!
# Armoured text

Octets as lines of base64 between a `BEGIN` and an `END` line with a label. Text outside the blocks
is skipped. Inside a block a blank line ends the header, if there is one; behind it lines must be of
full width but the last. `Pem.write` makes blocks without header in lines of 64 characters.
-/

namespace FiscalGateway.Pki.Pem

/-- A block of a text. -/
structure Block where
  label : List Char
  /-- The lines in front of the blank line. -/
  header : List Char
  content : Octets
  deriving DecidableEq, Repr

/-- A line without what trails it. -/
structure Line where
  text : List Char
  /-- Whether the line goes on: it is cut off at the width of the reader. -/
  cut : Bool
  deriving DecidableEq, Repr

/-- The width at which lines are cut. -/
def readWidth : Nat := 254

/-- Whether a character at the end of a line does not count. -/
def isTrailing (c : Char) : Bool := c.toNat ≤ 0x20 || 0x80 ≤ c.toNat

/-- One line with its line feed and what follows it. -/
def takeLine : (width : Nat) → List Char → List Char × List Char
  | 0, s => ([], s)
  | _, [] => ([], [])
  | width + 1, c :: rest =>
    if c = '\n' then ([c], rest)
    else
      let (line, rest) := takeLine width rest
      (c :: line, rest)

theorem length_takeLine (width : Nat) (s : List Char) :
    (takeLine width s).1.length + (takeLine width s).2.length = s.length := by
  induction width generalizing s with
  | zero => simp [takeLine]
  | succ width ih =>
    cases s with
    | nil => simp [takeLine]
    | cons c rest =>
      simp only [takeLine]
      split
      · simp; omega
      · have := ih rest
        simp only [List.length_cons]
        omega

/-- A line from its characters. -/
def lineOf (s : List Char) : Line :=
  ⟨(s.reverse.dropWhile isTrailing).reverse, s.length == readWidth && s.getLast? != some '\n'⟩

/-- The lines of a text. -/
def linesOf (s : List Char) : List Line :=
  if _h : s = [] then []
  else
    lineOf (takeLine readWidth s).1 :: linesOf (takeLine readWidth s).2
termination_by s.length
decreasing_by
  have hl := length_takeLine readWidth s
  have : 0 < (takeLine readWidth s).1.length := by
    cases s with
    | nil => contradiction
    | cons c rest =>
      simp only [readWidth, takeLine]
      split <;> simp
  omega

def beginMark : List Char := "-----BEGIN ".toList

def endMark : List Char := "-----END ".toList

def dashes : List Char := "-----".toList

/-- A byte order mark in front of a line. -/
def byteOrderMark : List Char := ['\xEF', '\xBB', '\xBF']

/-- The label of a line that begins a block. -/
def label? (line : List Char) : Option (List Char) := do
  let rest ← Text.stripFront? beginMark line
  let back ← Text.stripFront? dashes.reverse rest.reverse
  return back.reverse

/-- Where a reader is inside a block. -/
inductive Phase where
  /-- No blank line was met; what was read is the content if none comes. -/
  | undecided
  | header
  /-- Behind the blank line; the flag says that a short line was met. -/
  | content (short : Bool)
  deriving DecidableEq, Repr

/-- What was read of a block. -/
structure Progress where
  phase : Phase
  /-- Whether the line before was cut. -/
  cut : Bool
  header : List Char
  content : List Char
  deriving Repr

/-- The width of a full line of content. -/
def contentWidth : Nat := 64

/-- Takes a line that is neither blank nor an end. -/
def Progress.add (p : Progress) (line : List Char) : Option Progress :=
  let text := line ++ ['\n']
  match p.phase with
  | .content true => none
  | .content false =>
    if line.length > contentWidth then none
    else some { p with phase := .content (line.length < contentWidth), content := p.content ++ text }
  | .undecided | .header => some { p with header := p.header ++ text }

/-- Takes a blank line. -/
def Progress.blank (p : Progress) : Option Progress :=
  match p.phase with
  | .content _ => none
  | .undecided | .header => some { p with phase := .content false }

/-- The header and the content of a block that is complete. -/
def Progress.finish (p : Progress) : List Char × List Char :=
  if p.phase = .undecided then ([], p.header) else (p.header, p.content)

/-- Reads to the end of a block. The result is its header, its content and the lines behind it. -/
def readBlock (label : List Char) (p : Progress) :
    List Line → Option ((List Char × List Char) × List Line)
  | [] => none
  | line :: rest =>
    let p := if p.phase = .undecided ∧ ':' ∈ line.text then { p with phase := .header } else p
    if line.text.isEmpty then
      if p.cut then readBlock label { p with cut := line.cut } rest
      else p.blank >>= fun p => readBlock label { p with cut := line.cut } rest
    else
      match Text.stripFront? endMark line.text with
      | some tail => if tail = label ++ dashes then some (p.finish, rest) else none
      | none => p.add line.text >>= fun p => readBlock label { p with cut := line.cut } rest

theorem length_of_readBlock {label : List Char} {p : Progress} {lines rest : List Line}
    {r : List Char × List Char} (h : readBlock label p lines = some (r, rest)) :
    rest.length < lines.length := by
  induction lines generalizing p with
  | nil => simp [readBlock] at h
  | cons line lines ih =>
    have step {q : Progress} (hq : readBlock label q lines = some (r, rest)) :
        rest.length < (line :: lines).length := Nat.lt_succ_of_lt (ih hq)
    simp only [readBlock] at h
    repeat' split at h
    all_goals
      first
      | exact step h
      | contradiction
      | obtain ⟨q, -, h⟩ := Option.bind_eq_some_iff.1 h
        exact step h
      | simp only [Option.some.injEq, Prod.mk.injEq] at h
        simp [← h.2]

/-- The characters of base64 in a text; blanks are dropped and a dash ends it. -/
def symbols? : List Char → Option (List Char)
  | [] => some []
  | c :: rest =>
    if c = '-' then some []
    else if c = ' ' ∨ c = '\t' ∨ c = '\r' ∨ c = '\n' then symbols? rest
    else if c = '=' ∨ (Text.Base64.value? c).isSome then (symbols? rest).map (c :: ·)
    else none

/-- The octets of groups of four symbols; padding counts as zero. -/
def groups : List Char → Octets
  | a :: b :: c :: d :: rest =>
    let value (c : Char) := (Text.Base64.value? c).getD 0
    let n := ((value a * 64 + value b) * 64 + value c) * 64 + value d
    UInt8.ofNat (n / 65536) :: UInt8.ofNat (n / 256 % 256) :: UInt8.ofNat (n % 256) :: groups rest
  | _ => []

/-- The octets of the content of a block. Stray low bits in front of the padding do not count. -/
def decode? (s : List Char) : Option Octets := do
  let symbols ← symbols? s
  let padding := symbols.dropWhile (· ≠ '=')
  if symbols.length % 4 ≠ 0 ∨ padding.length > 2 ∨ padding.any (· ≠ '=') then none
  else
    let octets := (groups symbols).take (symbols.length / 4 * 3 - padding.length)
    if octets.isEmpty then none else some octets

/-- The blocks from these lines on, and whether all of them are sound; nothing is read behind a
damaged one. `first` says that the line is the first of a search. -/
def readLines (first : Bool) (lines : List Line) : List Block × Bool :=
  match lines with
  | [] => ([], true)
  | line :: rest =>
    let text := if first then (Text.stripFront? byteOrderMark line.text).getD line.text else line.text
    match label? text with
    | none => readLines false rest
    | some label =>
      match h : readBlock label ⟨.undecided, false, [], []⟩ rest with
      | none => ([], false)
      | some ((header, content), after) =>
        have : after.length < rest.length := length_of_readBlock h
        match decode? content with
        | none => ([], false)
        | some octets =>
          -- behind a block a new search begins, so another mark may be there
          let (blocks, sound) := readLines true after
          (⟨label, header, octets⟩ :: blocks, sound)
termination_by lines.length
decreasing_by all_goals (simp only [List.length_cons]; omega)

/-- The blocks of a text up to the first damaged one, and whether there is none. -/
def read (b : Octets) : List Block × Bool := readLines true (linesOf (Octets.toChars b))

/-- Every block of a text; one damaged block spoils the text. -/
def readAll? (b : Octets) : Option (List Block) :=
  let (blocks, sound) := read b
  if sound then some blocks else none

/-- The first block with one of these labels; what stands behind it does not count. -/
def readFirst? (labels : List (List Char)) (b : Octets) : Option Block :=
  (read b).1.find? (labels.contains ·.label)

/-- The labels of a certificate. -/
def certificateLabels : List (List Char) := ["CERTIFICATE".toList, "X509 CERTIFICATE".toList]

/-- The certificate in a block. -/
def Block.certificate? (b : Block) : Option Certificate :=
  if b.header.isEmpty then Certificate.ofDer? b.content else none

/-- Every certificate of a text; blocks of other kinds are passed over. -/
def certificates? (b : Octets) : Option (List Certificate) := do
  ((← readAll? b).filter (certificateLabels.contains ·.label)).mapM Block.certificate?

/-- The first certificate of a text. -/
def certificate? (b : Octets) : Option Certificate :=
  readFirst? certificateLabels b >>= Block.certificate?

/-- The label of a private key of any kind. -/
def keyLabel : List Char := "PRIVATE KEY".toList

/-- The label of the numbers of an RSA key. -/
def rsaLabel : List Char := "RSA PRIVATE KEY".toList

/-- The first private key of a text; it must not be encrypted. -/
def privateKey? (b : Octets) : Option PrivateKey := do
  let block ← readFirst? [keyLabel, rsaLabel] b
  if !block.header.isEmpty then none
  else if block.label = keyLabel then PrivateKey.ofDer? block.content
  else PrivateKey.ofParts? (.rsa (← KeyParts.readRsa? block.content))

/-- Cuts a text into lines of full width, each with its line feed. -/
def wrap (s : List Char) : List Char :=
  if _h : s = [] then []
  else s.take contentWidth ++ '\n' :: wrap (s.drop contentWidth)
termination_by s.length
decreasing_by
  have : 0 < s.length := List.length_pos_iff.2 _h
  simp only [List.length_drop, contentWidth]
  omega

/-- The block of these octets. -/
def write (label : List Char) (content : Octets) : List Char :=
  beginMark ++ label ++ dashes ++ '\n' :: wrap (Text.Base64.encodeChars content) ++
    endMark ++ label ++ dashes ++ ['\n']

/-- The text of a certificate. -/
def writeCertificate (c : Certificate) : Octets :=
  Octets.ofChars (write "CERTIFICATE".toList c.der)

/-- The text of a private key. -/
def writePrivateKey (k : PrivateKey) : Octets := Octets.ofChars (write keyLabel k.der)

end FiscalGateway.Pki.Pem

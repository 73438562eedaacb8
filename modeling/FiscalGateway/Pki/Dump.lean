import FiscalGateway.Pki.Certificate
import FiscalGateway.Text.Blank
import FiscalGateway.Text.Split

/-!
# Certificates in words

A dump shows a certificate to people. Whether a certificate is one of an authority is read off its
dump: off the line that follows the title of the basic constraints (`readsAsAuthority`). The dump of
a certificate here (`Certificate.dump`) is that of its extensions, each a line for the title and
then its value: in front of them no line begins like that title, and only the titles of constraints
are put in. Values other than constraints and plain texts are shown octet by octet, also those that
have words of their own; line ends are shown as they are.
-/

namespace FiscalGateway.Pki

open Asn1 (Item objectId)

/-- The title of the basic constraints. -/
def constraintsTitle : List Char := "X509v3 Basic Constraints".toList

/-- The mark of an authority. -/
def authorityMark : List Char := "CA:TRUE".toList

/-- Whether a line is the title of the basic constraints. -/
def isConstraintsTitle (line : List Char) : Bool :=
  constraintsTitle.isPrefixOf (Text.trimStart line)

/-- Whether a line begins with the mark of an authority. -/
def isAuthorityMark (line : List Char) : Bool := authorityMark.isPrefixOf (Text.trimStart line)

/-- Whether a dump shows the certificate of an authority: the line behind the first title of basic
constraints decides. -/
def readsAsAuthority (dump : List Char) : Bool :=
  match (Text.splitEach (· == '\n') dump).dropWhile (!isConstraintsTitle ·) with
  | _ :: next :: _ => isAuthorityMark next
  | _ => false

namespace Extension

/-- The older kinds whose value is a plain text, a comment among them. -/
def textKinds : List Octets :=
  [2, 3, 4, 7, 8, 12, 13].map fun n => objectId [2, 16, 840, 1, 113730, 1, n]

/-- An octet as it is shown. -/
def shownOctet (o : UInt8) : Char :=
  if (0x20 ≤ o && o ≤ 0x7E) || o = 0x0A || o = 0x0D then Char.ofNat o.toNat else '.'

/-- An octet of a plain text; what is no character is replaced. -/
def textOctet (o : UInt8) : Char := if o < 0x80 then Char.ofNat o.toNat else '\uFFFD'

/-- A plain text, if the value is one that is not empty. It ends at a zero. -/
def text? (value : Octets) : Option (List Char) :=
  match Item.read? value with
  | some (i, _) =>
    if i.tag = 0x16 ∧ i.content ≠ [] then
      some ((i.content.takeWhile (· ≠ 0)).map textOctet)
    else none
  | none => none

/-- The value in words, if there are any. -/
def words? (e : Extension) : Option (List Char) :=
  if e.kind = Certificate.basicConstraintsKind then
    (Certificate.constraintsMark? e.value).map fun mark =>
      if mark then authorityMark else "CA:FALSE".toList
  else if e.kind ∈ textKinds then text? e.value
  else none

/-- The value as it is shown: in words, or octet by octet. -/
def shown (e : Extension) : List Char := e.words?.getD (e.value.map shownOctet)

/-- The line above the value. -/
def title (e : Extension) : List Char :=
  (if e.kind = Certificate.basicConstraintsKind then constraintsTitle else []) ++
    (if e.critical then ": critical".toList else ": ".toList)

/-- An extension in a dump. -/
def dump (e : Extension) : List Char :=
  List.replicate 12 ' ' ++ e.title ++ '\n' :: (List.replicate 16 ' ' ++ e.shown ++ ['\n'])

end Extension

/-- The extensions of a certificate, in order. -/
def Certificate.dump (c : Certificate) : List Char := c.parts.extensions.flatMap Extension.dump

end FiscalGateway.Pki

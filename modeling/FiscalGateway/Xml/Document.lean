import FiscalGateway.Text.Octets
import FiscalGateway.Xml.Tag

/-!
# From tokens to a document

`Builder.step` takes one token; the elements that are open wait on a stack with what they hold so
far. `Document.ofChars` runs it over the tokens of a text, `Document.parse` over octets.
-/

namespace FiscalGateway.Xml

/-- An element whose end tag has not come yet. -/
structure OpenElement where
  tag : Tag
  /-- In reverse order. -/
  content : List Node
  deriving Repr, Inhabited

/-- What has been read of a document. -/
structure Builder where
  /-- The innermost element first. -/
  opened : List OpenElement
  root : Option Element
  deriving Repr, Inhabited

namespace Builder

/-- The declarations visible inside the innermost open element. -/
def context (b : Builder) : Context := b.opened.map (·.tag.declarations)

/-- Adds a text to content in reverse order; adjacent texts become one. -/
def addText (s : List Char) : List Node → List Node
  | .text t :: rest => .text (t ++ String.ofList s) :: rest
  | content => .text (String.ofList s) :: content

/-- Adds a text to the innermost open element; outside there may be blanks only. -/
def text (b : Builder) (s : List Char) : Except Error Builder :=
  match b.opened with
  | e :: outer => .ok { b with opened := { e with content := addText s e.content } :: outer }
  | [] => if Text.isAllBlank s then .ok b else .error (.malformed .textOutsideRoot)

/-- Adds a finished element to the innermost open one; outside there may be one only. -/
def attach (opened : List OpenElement) (root : Option Element) (e : Element) :
    Except Error Builder :=
  match opened with
  | parent :: outer =>
    .ok ⟨{ parent with content := e.toNode :: parent.content } :: outer, root⟩
  | [] =>
    match root with
    | none => .ok ⟨[], some e⟩
    | some _ => .error (.malformed .secondRoot)

/-- Adds an instruction to the innermost open element; outside it is dropped. The first blank
divides its target from its data. -/
def instruction (b : Builder) (raw : List Char) : Builder :=
  match b.opened with
  | [] => b
  | e :: outer =>
    let (target, data) := (Text.splitOnce Text.isBlank raw).getD (raw, [])
    let node := Node.instruction (String.ofList target) (String.ofList (Text.trimStart data))
    { b with opened := { e with content := node :: e.content } :: outer }

/-- Takes one token. -/
def step (b : Builder) : Token → Except Error Builder
  | .text raw =>
    match readText raw with
    | .ok s => b.text s
    | .error fault => .error (.malformed fault)
  -- references are none in here, but line ends are line ends
  | .cdata raw => b.text (normalizeLineEnds raw)
  | .comment | .header => .ok b
  | .startTag raw => do
    let tag ← Tag.read b.context raw
    return { b with opened := ⟨tag, []⟩ :: b.opened }
  | .emptyTag raw => do
    let tag ← Tag.read b.context raw
    attach b.opened b.root ⟨tag, []⟩
  | .endTag name =>
    match b.opened with
    | [] => .error (.malformed .endTag)
    | e :: outer =>
      if name = e.tag.name.toChars then attach outer b.root ⟨e.tag, e.content.reverse⟩
      else .error (.malformed .endTag)
  | .instruction raw => .ok (b.instruction raw)
  | .doctype => .error .doctype
  | .fault cause => .error (.malformed cause)

/-- The document, once the tokens are used up. -/
def finish (b : Builder) : Except Error Document :=
  if !b.opened.isEmpty then .error (.malformed .unclosedElement)
  else match b.root with
    | some root => .ok ⟨root⟩
    | none => .error .empty

end Builder

/-- A byte order mark at the front is not part of the document. -/
def dropByteOrderMark : List Char → List Char
  | '\uFEFF' :: rest => rest
  | s => s

/-- The document that a text holds. -/
def Document.ofChars (s : List Char) : Except Error Document := do
  let b ← (Token.scan (dropByteOrderMark s)).foldlM Builder.step ⟨[], none⟩
  b.finish

/-- The document that octets hold. -/
def Document.parse (input : Octets) : Except Error Document :=
  match Octets.toText? input with
  | some text => Document.ofChars text.toList
  | none => .error (.malformed .encoding)

end FiscalGateway.Xml

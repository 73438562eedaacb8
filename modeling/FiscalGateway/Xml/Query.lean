import FiscalGateway.Xml.Tree

/-!
# Looking into a document

Look-ups by name take the first match in document order. A look-up that needs a position gives the
position among all children, so that it can be part of a path.
-/

namespace FiscalGateway.Xml

namespace Element

/-- Whether the element has this name in this namespace. -/
def isNamed (e : Element) (ns localPart : String) : Bool :=
  e.tag.name.localPart == localPart && e.tag.ns == some ns

/-- The child at a position, if it is an element. -/
def child? (e : Element) (i : Nat) : Option Element :=
  match e.children[i]? with
  | some (.element tag children) => some ⟨tag, children⟩
  | _ => none

/-- A node at a position, if it is an element. -/
def placed? : Node × Nat → Option (Nat × Element)
  | (.element tag children, i) => some (i, ⟨tag, children⟩)
  | _ => none

/-- The elements among the children, each with its position. -/
def elements (e : Element) : List (Nat × Element) := e.children.zipIdx.filterMap placed?

/-- The first child of this name. -/
def find? (e : Element) (ns localPart : String) : Option (Nat × Element) :=
  e.elements.find? (·.2.isNamed ns localPart)

/-- Every child of this name. -/
def findAll (e : Element) (ns localPart : String) : List Element :=
  (e.elements.map (·.2)).filter (·.isNamed ns localPart)

/-- The value of an attribute without namespace. -/
def attribute? (e : Element) (localPart : String) : Option String :=
  (e.tag.attributes.find? fun a => a.ns == none && a.name.localPart == localPart).map (·.value)

/-- The value of an attribute in a namespace. -/
def attributeIn? (e : Element) (ns localPart : String) : Option String :=
  (e.tag.attributes.find? fun a => a.name.localPart == localPart && a.ns == some ns).map (·.value)

/-- The texts among the children, joined. -/
def text (e : Element) : String :=
  "".intercalate (e.children.filterMap fun
    | .text s => some s
    | _ => none)

/-- The element that a path leads to. -/
def descend? (e : Element) : Path → Option Element
  | [] => some e
  | i :: path => e.child? i >>= (·.descend? path)

/-- Follows names downwards, the first match at each step. -/
def findPath? (e : Element) : List (String × String) → Option Path
  | [] => some []
  | (ns, localPart) :: steps => do
    let (i, c) ← e.find? ns localPart
    let path ← c.findPath? steps
    return i :: path

end Element

namespace Document

/-- The element that a path leads to. -/
def elementAt? (d : Document) (path : Path) : Option Element := d.root.descend? path

/-- Follows names downwards, beginning with the name of the outermost element. -/
def findPath? (d : Document) : List (String × String) → Option Path
  | [] => none
  | (ns, localPart) :: steps =>
    if d.root.isNamed ns localPart then d.root.findPath? steps else none

end Document
end FiscalGateway.Xml

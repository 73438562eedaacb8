import FiscalGateway.Text.Split

/-!
# Documents as trees

An element keeps what a signature needs: the names as written, the namespace declarations made on
it, its attributes with their values, and its content down to the blanks between elements. Nodes
are addressed by the list of child positions that leads to them.
-/

namespace FiscalGateway.Xml

/-- A name as written: `p:a` or `a`. -/
structure QName where
  /-- What stands before the first colon, if there is one. -/
  nsPrefix : Option String
  localPart : String
  deriving DecidableEq, Repr, Inhabited

/-- A namespace declaration; `none` declares the default namespace. -/
structure Declaration where
  nsPrefix : Option String
  /-- Empty only where the default namespace is undeclared. -/
  uri : String
  deriving DecidableEq, Repr, Inhabited

/-- An attribute that is not a declaration. -/
structure Attribute where
  name : QName
  /-- The namespace its prefix is bound to; a name without prefix has none. -/
  ns : Option String
  value : String
  deriving DecidableEq, Repr, Inhabited

/-- What stands at the head of an element. -/
structure Tag where
  name : QName
  ns : Option String
  /-- In the order of the source. -/
  declarations : List Declaration
  /-- In the order of the source. -/
  attributes : List Attribute
  deriving DecidableEq, Repr, Inhabited

/-- A piece of content. -/
inductive Node where
  | element (tag : Tag) (children : List Node)
  | text (content : String)
  | instruction (target data : String)
  deriving Repr, Inhabited

mutual

/-- Whether two pieces of content are the same. -/
def Node.decEq : (m n : Node) → Decidable (m = n)
  | .element t cs, .element u ds =>
    match instDecidableEqTag t u, Node.decEqAll cs ds with
    | isTrue ht, isTrue hcs => isTrue (by rw [ht, hcs])
    | isFalse ht, _ => isFalse fun e => ht (Node.element.inj e).1
    | _, isFalse hcs => isFalse fun e => hcs (Node.element.inj e).2
  | .text s, .text t => decidable_of_iff (s = t) (by rw [Node.text.injEq])
  | .instruction s x, .instruction t y =>
    decidable_of_iff (s = t ∧ x = y) (by rw [Node.instruction.injEq])
  | .element _ _, .text _ => isFalse nofun
  | .element _ _, .instruction _ _ => isFalse nofun
  | .text _, .element _ _ => isFalse nofun
  | .text _, .instruction _ _ => isFalse nofun
  | .instruction _ _, .element _ _ => isFalse nofun
  | .instruction _ _, .text _ => isFalse nofun

/-- The same for content as a whole. -/
def Node.decEqAll : (ms ns : List Node) → Decidable (ms = ns)
  | [], [] => isTrue rfl
  | m :: ms, n :: ns =>
    match m.decEq n, Node.decEqAll ms ns with
    | isTrue hm, isTrue hms => isTrue (by rw [hm, hms])
    | isFalse hm, _ => isFalse fun e => hm (List.cons.inj e).1
    | _, isFalse hms => isFalse fun e => hms (List.cons.inj e).2
  | [], _ :: _ => isFalse nofun
  | _ :: _, [] => isFalse nofun

end

instance : DecidableEq Node := Node.decEq

/-- An element: its tag and its content. -/
structure Element where
  tag : Tag
  children : List Node
  deriving DecidableEq, Repr, Inhabited

/-- A document is its outermost element; comments and what surrounds the element are dropped. -/
structure Document where
  root : Element
  deriving DecidableEq, Repr, Inhabited

/-- Child positions from the outermost element down; the empty path is that element itself. -/
abbrev Path := List Nat

namespace QName

/-- Splits a written name at its first colon. -/
def ofChars (s : List Char) : QName :=
  match Text.splitOnce (· == ':') s with
  | some (before, after) => ⟨some (String.ofList before), String.ofList after⟩
  | none => ⟨none, String.ofList s⟩

/-- The name as written. -/
def toChars (n : QName) : List Char :=
  match n.nsPrefix with
  | some p => p.toList ++ ':' :: n.localPart.toList
  | none => n.localPart.toList

/-- The name as written. -/
def text (n : QName) : String := String.ofList n.toChars

/-- Splitting loses nothing. -/
@[simp] theorem toChars_ofChars (s : List Char) : (ofChars s).toChars = s := by
  unfold ofChars
  split
  · next before after h =>
    obtain ⟨c, hc, rfl, -⟩ := Text.eq_append_of_splitOnce h
    simp [toChars, eq_of_beq hc]
  · simp [toChars]

end QName

/-- The element as a piece of content. -/
def Element.toNode (e : Element) : Node := .element e.tag e.children

end FiscalGateway.Xml

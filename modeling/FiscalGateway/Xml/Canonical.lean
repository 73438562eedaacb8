import FiscalGateway.Xml.CharacterData
import FiscalGateway.Xml.Scope

/-!
# Exclusive canonical form

A subtree is written so that equal content gives equal text: a declaration stands only where its
prefix is used (or is on the list of inclusive prefixes) and no element around it in the output has
made it; declarations are ordered by prefix, attributes by namespace and name; an element is always
a pair of tags; comments are gone.
-/

namespace FiscalGateway.Xml

/-- The word for the default namespace in a list of inclusive prefixes. -/
def defaultToken : String := "#default"

/-- The prefix that a word of an inclusive list stands for. -/
def prefixOfToken (word : String) : Option String :=
  if word = defaultToken then none else some word

/-- The prefixes that a tag uses itself, or that are inclusive and in scope; in order. -/
def Tag.usedPrefixes (tag : Tag) (scope : Scope) (inclusive : List (Option String)) :
    List (Option String) :=
  sortPrefixes (tag.name.nsPrefix ::
    (tag.attributes.map (·.name.nsPrefix)).filter (·.isSome) ++
      inclusive.filter fun p => (scope.uri? p).isSome)

/-- The declarations that a tag needs in the output, given what is in scope in the source and what
the elements around it have written. -/
def neededDeclarations (scope rendered : Scope) :
    List (Option String) → Except Error (List Declaration)
  | [] => .ok []
  | p :: rest => do
    if p = some "xml" then return ← neededDeclarations scope rendered rest
    let uri ← match p, scope.uri? p with
      | _, some uri => pure uri
      | none, none => pure ""
      | some name, none => throw (Error.unboundPrefix name)
    let more ← neededDeclarations scope rendered rest
    -- an empty default namespace undoes another one, and is needed for nothing else
    let needed :=
      if p = none ∧ uri = "" then (rendered.uri? none).any (· ≠ "")
      else rendered.uri? p ≠ some uri
    return if needed then ⟨p, uri⟩ :: more else more

/-- The order of attributes: by namespace, none being the empty one, then by name. -/
def attributeLE (a b : Attribute) : Bool :=
  let m := a.ns.getD ""
  let n := b.ns.getD ""
  if m = n then decide (a.name.localPart ≤ b.name.localPart) else decide (m ≤ n)

/-- A declaration as it is written. -/
def Declaration.write (d : Declaration) : List Char :=
  (match d.nsPrefix with
    | some p => " xmlns:".toList ++ p.toList
    | none => " xmlns".toList) ++
  '=' :: '"' :: escapeAttribute d.uri.toList ++ ['"']

/-- An attribute as it is written. -/
def Attribute.write (a : Attribute) : List Char :=
  ' ' :: a.name.toChars ++ '=' :: '"' :: escapeAttribute a.value.toList ++ ['"']

/-- A start tag as it is written. -/
def Tag.write (tag : Tag) (declarations : List Declaration) : List Char :=
  '<' :: tag.name.toChars ++ declarations.flatMap Declaration.write ++
    (tag.attributes.mergeSort attributeLE).flatMap Attribute.write ++ ['>']

/-- An end tag as it is written. -/
def Tag.writeEnd (tag : Tag) : List Char := '<' :: '/' :: tag.name.toChars ++ ['>']

/-- An instruction as it is written. -/
def writeInstruction (target data : String) : List Char :=
  '<' :: '?' :: target.toList ++ (if data.isEmpty then [] else ' ' :: data.toList) ++ ['?', '>']

mutual

/-- A node in canonical form, given the scope around it and what the elements around it have
written. -/
def Node.canonical (inclusive : List (Option String)) (scope rendered : Scope) :
    Node → Except Error (List Char)
  | .element tag children => do
    let inner := scope.declare tag.declarations
    let needed ← neededDeclarations inner rendered (tag.usedPrefixes inner inclusive)
    let content ← Node.canonicalAll inclusive inner (rendered.declare needed) children
    return tag.write needed ++ content ++ tag.writeEnd
  | .text s => return escapeText s.toList
  | .instruction target data => return writeInstruction target data

/-- Nodes in canonical form, one after the other. -/
def Node.canonicalAll (inclusive : List (Option String)) (scope rendered : Scope) :
    List Node → Except Error (List Char)
  | [] => return []
  | n :: rest => do
    let first ← n.canonical inclusive scope rendered
    let more ← Node.canonicalAll inclusive scope rendered rest
    return first ++ more

end

/-- The element that a path leads to, in canonical form. The words of `inclusive` are prefixes
whose declarations are kept wherever they are in scope. -/
def Document.canonicalize (d : Document) (path : Path) (inclusive : List String) :
    Except Error (List Char) :=
  match d.elementAt? path with
  | none => .error (.invalidPath path)
  | some e =>
    let outer := match path with
      | [] => []
      | _ :: _ => d.scopeAt path.dropLast
    e.toNode.canonical (inclusive.map prefixOfToken) outer []

end FiscalGateway.Xml

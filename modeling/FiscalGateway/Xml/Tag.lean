import FiscalGateway.Text.Blank
import FiscalGateway.Xml.CharacterData
import FiscalGateway.Xml.Token
import FiscalGateway.Xml.Tree

/-!
# Reading a tag

The inside of a start tag gives a name, namespace declarations and attributes; the prefixes are
looked up in the declarations of the tag itself and of the elements around it.
-/

namespace FiscalGateway.Xml

/-- What an attribute of a tag says before its prefix is looked up. -/
inductive TagPart where
  | declares (d : Declaration)
  | assigns (name : QName) (value : String)
  deriving DecidableEq, Repr

/-- An attribute with its value; a prefix cannot be bound to the empty namespace. -/
def TagPart.ofAttribute (name : QName) (value : String) : Except Error TagPart :=
  match name with
  | ⟨none, l⟩ =>
    if l = "xmlns" then .ok (.declares ⟨none, value⟩) else .ok (.assigns name value)
  | ⟨some p, l⟩ =>
    if p = "xmlns" then
      if value.isEmpty then .error (.malformed (.emptyBinding l))
      else .ok (.declares ⟨some l, value⟩)
    else .ok (.assigns name value)

/-- Whether a character ends the name of an attribute. -/
def endsAttributeName (c : Char) : Bool := c == '=' || Text.isMarkupBlank c

/-- What is read of an attribute: its name and its raw value, and the text behind its closing
quote. The first character belongs to the name whatever it is. -/
def splitAttribute? (first : Char) (s : List Char) : Option (List Char × List Char × List Char) :=
  match (s.dropWhile (!endsAttributeName ·)).dropWhile Text.isMarkupBlank with
  | '=' :: behind =>
    match behind.dropWhile Text.isMarkupBlank with
    | q :: quoted =>
      if q = '"' ∨ q = '\'' then
        (splitAt? [q] quoted).map fun (raw, after) =>
          (first :: s.takeWhile (!endsAttributeName ·), raw, after)
      else none
    | [] => none
  | _ => none

theorem length_of_splitAttribute? {first : Char} {s name raw after : List Char}
    (h : splitAttribute? first s = some (name, raw, after)) : after.length ≤ s.length := by
  unfold splitAttribute? at h
  split at h
  · next behind hb =>
    split at h
    · next q quoted hq =>
      split at h
      · simp only [Option.map_eq_some_iff, Prod.exists, Prod.mk.injEq] at h
        obtain ⟨b, a, hs, -, -, rfl⟩ := h
        have h1 := length_of_splitAt? hs
        have h2 := (List.dropWhile_sublist (l := behind) Text.isMarkupBlank).length_le
        have h3 := (List.dropWhile_sublist (l := s.dropWhile (!endsAttributeName ·))
          Text.isMarkupBlank).length_le
        have h4 := (List.dropWhile_sublist (l := s) (!endsAttributeName ·)).length_le
        rw [hq] at h2
        rw [hb] at h3
        simp only [List.length_cons] at h2 h3
        omega
      · contradiction
    · contradiction
  · contradiction

/-- The attributes of a tag in order. `seen` holds the names that were read before: a name given
twice is a fault. -/
def readTagParts (seen : List (List Char)) (s : List Char) : Except Error (List TagPart) :=
  match _hs : s.dropWhile Text.isMarkupBlank with
  | [] => .ok []
  | first :: behind =>
    match _ha : splitAttribute? first behind with
    | none => .error (.malformed .attribute)
    | some (name, raw, after) =>
      -- names are compared as they are written, before prefixes mean anything
      if name ∈ seen then .error (.malformed .attribute)
      else
        match readAttributeValue raw with
        | .error fault => .error (.malformed fault)
        | .ok value =>
          match TagPart.ofAttribute (QName.ofChars name) (String.ofList value) with
          | .error e => .error e
          | .ok part => (part :: ·) <$> readTagParts (name :: seen) after
termination_by s.length
decreasing_by
  have h1 := length_of_splitAttribute? _ha
  have h2 := (List.dropWhile_sublist (l := s) Text.isMarkupBlank).length_le
  rw [_hs] at h2
  simp only [List.length_cons] at h2
  omega

/-- The namespace of the prefix `xml`, which is bound everywhere. -/
def xmlNamespace : String := "http://www.w3.org/XML/1998/namespace"

/-- The declarations that are visible, those of the innermost element first. -/
abbrev Context := List (List Declaration)

/-- What a prefix is bound to. -/
def Context.resolve? (context : Context) (p : Option String) : Option String :=
  if p = some "xml" then some xmlNamespace
  else (context.flatten.find? (·.nsPrefix = p)).map (·.uri)

/-- The namespace of an element: an empty default namespace is none. -/
def Context.elementNamespace (context : Context) (name : QName) : Except Error (Option String) :=
  match name.nsPrefix with
  | some p =>
    match context.resolve? (some p) with
    | some uri => .ok (some uri)
    | none => .error (.unboundPrefix p)
  | none => .ok ((context.resolve? none).filter (· ≠ ""))

/-- An attribute with the namespace of its prefix. -/
def Context.attribute (context : Context) (name : QName) (value : String) :
    Except Error Attribute :=
  match name.nsPrefix with
  | some p =>
    match context.resolve? (some p) with
    | some uri => .ok ⟨name, some uri, value⟩
    | none => .error (.unboundPrefix p)
  | none => .ok ⟨name, none, value⟩

/-- The declarations among the parts of a tag. -/
def declarationsOf (parts : List TagPart) : List Declaration :=
  parts.filterMap fun
    | .declares d => some d
    | .assigns .. => none

/-- The attributes among the parts of a tag, with their namespaces. -/
def attributesOf (context : Context) : List TagPart → Except Error (List Attribute)
  | [] => .ok []
  | .declares _ :: parts => attributesOf context parts
  | .assigns name value :: parts => do
    let a ← context.attribute name value
    let rest ← attributesOf context parts
    return a :: rest

/-- Reads the inside of a start tag in the context of the elements around it. -/
def Tag.read (outer : Context) (raw : List Char) : Except Error Tag := do
  let name := QName.ofChars (raw.takeWhile (!Text.isMarkupBlank ·))
  let parts ← readTagParts [] (raw.dropWhile (!Text.isMarkupBlank ·))
  let declarations := declarationsOf parts
  let context : Context := declarations :: outer
  let ns ← context.elementNamespace name
  let attributes ← attributesOf context parts
  return ⟨name, ns, declarations, attributes⟩

end FiscalGateway.Xml

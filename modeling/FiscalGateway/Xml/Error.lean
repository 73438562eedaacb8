import FiscalGateway.Text.Quoted

/-!
# What can be wrong with a document

The causes for which a text is refused as a document, and for which a tree has no canonical form.
The wording of a fault of markup is not part of the interface and is written `*`.
-/

namespace FiscalGateway.Xml

/-- A fault of well-formedness. -/
inductive Fault where
  /-- The octets are not text. -/
  | encoding
  /-- Markup that is unknown or does not end. -/
  | markup
  /-- An end tag that does not match the open element. -/
  | endTag
  /-- An attribute without value, without quotes or given twice. -/
  | attribute
  /-- A reference that is unknown, does not end or names no character. -/
  | reference
  | unclosedElement
  | textOutsideRoot
  | secondRoot
  | emptyBinding (nsPrefix : String)
  deriving DecidableEq, Repr

/-- The causes of refusal. -/
inductive Error where
  | malformed (fault : Fault)
  | empty
  | doctype
  | unboundPrefix (nsPrefix : String)
  | invalidPath (path : List Nat)
  deriving DecidableEq, Repr

/-- The wording of a fault, where it has one of its own. -/
def Fault.message : Fault → String
  | .unclosedElement => "unclosed element at end of input"
  | .textOutsideRoot => "text outside the document element"
  | .secondRoot => "more than one document element"
  | .emptyBinding p => "prefix " ++ p ++ " bound to empty namespace"
  | .encoding | .markup | .endTag | .attribute | .reference => "*"

/-- The wording of an error. -/
def Error.message : Error → String
  | .malformed fault => "malformed XML: " ++ fault.message
  | .empty => "document is empty"
  | .doctype => "DOCTYPE is not allowed"
  | .unboundPrefix p => "namespace prefix is not bound: " ++ Text.quoted p
  | .invalidPath path => "no element at path [" ++ ", ".intercalate (path.map toString) ++ "]"

end FiscalGateway.Xml

import FiscalGateway.Xml.CharacterData

/-!
# Markup of our own making

Elements without prefixes as a tree, and their text. An element without content is written as an
empty tag only where its kind says so.
-/

namespace FiscalGateway.Soap

/-- An attribute with its value as it is meant. -/
abbrev MarkupAttribute := String × List Char

/-- A piece of markup. -/
inductive Markup where
  | element (name : String) (attributes : List MarkupAttribute) (children : List Markup)
  | empty (name : String) (attributes : List MarkupAttribute)
  | text (s : List Char)

namespace Markup

/-- An attribute with the blank in front of it. -/
def writeAttribute (a : MarkupAttribute) : List Char :=
  ' ' :: a.1.toList ++ '=' :: '"' :: Xml.escapeMarkup a.2 ++ ['"']

/-- The attributes of a tag. -/
def writeAttributes (attributes : List MarkupAttribute) : List Char :=
  attributes.flatMap writeAttribute

mutual

/-- The text of a piece of markup. -/
def write : Markup → List Char
  | .element name attributes children =>
    '<' :: name.toList ++ writeAttributes attributes ++ '>' :: writeAll children ++
      '<' :: '/' :: name.toList ++ ['>']
  | .empty name attributes => '<' :: name.toList ++ writeAttributes attributes ++ ['/', '>']
  | .text s => Xml.escapeMarkup s

/-- The text of pieces of markup, one after the other. -/
def writeAll : List Markup → List Char
  | [] => []
  | m :: rest => m.write ++ writeAll rest

end

end Markup
end FiscalGateway.Soap

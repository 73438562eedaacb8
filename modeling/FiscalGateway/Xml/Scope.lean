import FiscalGateway.Xml.Query

/-!
# Namespaces in scope

A scope holds the bindings that are visible at an element, the latest first; a later binding of a
prefix hides the earlier ones.
-/

namespace FiscalGateway.Xml

/-- Bindings of prefixes, `none` being the default namespace, the latest first. -/
abbrev Scope := List (Option String × String)

namespace Scope

/-- What a prefix is bound to. -/
def uri? (s : Scope) (p : Option String) : Option String := s.lookup p

/-- The scope inside an element that makes these declarations. -/
def declare (s : Scope) (ds : List Declaration) : Scope :=
  ds.foldl (fun s d => (d.nsPrefix, d.uri) :: s) s

end Scope

/-- The order of prefixes: the default namespace first, then by code points. -/
def prefixLE : Option String → Option String → Bool
  | none, _ => true
  | some _, none => false
  | some a, some b => decide (a ≤ b)

/-- Puts a prefix in its place unless it is there. -/
def insertPrefix (p : Option String) : List (Option String) → List (Option String)
  | [] => [p]
  | q :: rest =>
    if p = q then q :: rest
    else if prefixLE p q then p :: q :: rest
    else q :: insertPrefix p rest

/-- The prefixes in order, each once. -/
def sortPrefixes (ps : List (Option String)) : List (Option String) := ps.foldr insertPrefix []

/-- The visible bindings, ordered by prefix. -/
def Scope.bindings (s : Scope) : List (Option String × String) :=
  (sortPrefixes (s.map (·.1))).filterMap fun p => (s.uri? p).map (p, ·)

/-- The scope inside the element that a path leads to, given the scope around the start. A path
that leads nowhere ends at the last element on it. -/
def Element.scopeAt (e : Element) (outer : Scope) : Path → Scope
  | [] => outer.declare e.tag.declarations
  | i :: path =>
    match e.child? i with
    | some c => c.scopeAt (outer.declare e.tag.declarations) path
    | none => outer.declare e.tag.declarations

/-- The bindings visible at an element, its own included. -/
def Document.scopeAt (d : Document) (path : Path) : Scope := d.root.scopeAt [] path

end FiscalGateway.Xml

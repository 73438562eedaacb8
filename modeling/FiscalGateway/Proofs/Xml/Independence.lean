import FiscalGateway.Proofs.Xml.Settled

/-!
# Independence — canonical form does not depend on what an element leaves unused

An element looks at the scope around it for the prefixes of its names and for nothing else
(`Node.prefixes`). Scopes that agree on these prefixes (`Scope.AgreeOn`) go on agreeing inside it,
whatever it declares itself, so a tree has one canonical form in both (`canonical_congr`), and an
element keeps its canonical form wherever it is put (`Document.canonicalize_eq_of_agreeOn`). An
empty list of inclusive prefixes is assumed: each word on it is one more prefix that is looked up.
-/

namespace FiscalGateway.Xml

/-! ## Prefixes of names -/

/-- The prefixes of the names in a tag: that of the element, `none` if it has none, and those of
attributes. -/
def Tag.prefixes (tag : Tag) : List (Option String) :=
  tag.name.nsPrefix :: (tag.attributes.map (·.name.nsPrefix)).filter (·.isSome)

mutual

/-- The prefixes of the names in a tree. -/
def Node.prefixes : Node → List (Option String)
  | .element tag children => tag.prefixes ++ Node.prefixesAll children
  | .text _ | .instruction .. => []

/-- The same for content. -/
def Node.prefixesAll : List Node → List (Option String)
  | [] => []
  | n :: rest => n.prefixes ++ Node.prefixesAll rest

end

/-- The prefixes of the names in an element and in its content. -/
def Element.prefixes (e : Element) : List (Option String) := e.toNode.prefixes

/-- Without inclusive prefixes a tag uses those of its names. -/
theorem Tag.usedPrefixes_nil (tag : Tag) (scope : Scope) :
    tag.usedPrefixes scope [] = sortPrefixes tag.prefixes := by
  rw [usedPrefixes, List.filter_nil, List.append_nil, prefixes]

/-! ## Scopes that agree -/

namespace Scope

variable {ps qs : List (Option String)} {s t : Scope}

/-- **Scopes that agree on these prefixes**: each is bound to the same in both, or in neither. No
default namespace and the empty one are alike. -/
def AgreeOn (ps : List (Option String)) (s t : Scope) : Prop :=
  ∀ p ∈ ps, s.uri? p = t.uri? p ∨ p = none ∧ (s.uri? none).getD "" = (t.uri? none).getD ""

instance (ps : List (Option String)) (s t : Scope) : Decidable (AgreeOn ps s t) :=
  inferInstanceAs (Decidable (∀ p ∈ ps, _))

theorem AgreeOn.of_subset (h : AgreeOn qs s t) (hps : ps ⊆ qs) : AgreeOn ps s t :=
  fun p hp => h p (hps hp)

/-- One more binding in both. -/
theorem AgreeOn.bind (h : AgreeOn ps s t) (q : Option String) (uri : String) :
    AgreeOn ps ((q, uri) :: s) ((q, uri) :: t) := by
  intro p hp
  by_cases hq : p = q
  · subst hq
    exact .inl (by simp [uri?])
  · have hskip (s : Scope) : Scope.uri? ((q, uri) :: s) p = s.uri? p := by
      simp [uri?, List.lookup_cons, beq_false_of_ne hq]
    rcases h p hp with hsame | ⟨rfl, hdefault⟩
    · exact .inl (by rw [hskip, hskip, hsame])
    · exact .inr ⟨rfl, by rw [hskip, hskip, hdefault]⟩

/-- **What an element declares, it declares in both.** -/
theorem AgreeOn.declare (h : AgreeOn ps s t) (ds : List Declaration) :
    AgreeOn ps (s.declare ds) (t.declare ds) := by
  induction ds generalizing s t with
  | nil => exact h
  | cons d ds ih => exact ih (h.bind d.nsPrefix d.uri)

end Scope

/-- The declarations that the output needs are those for what the prefixes are bound to. -/
theorem neededDeclarations_congr {ps : List (Option String)} {s t : Scope} (rendered : Scope)
    (h : Scope.AgreeOn ps s t) : neededDeclarations s rendered ps = neededDeclarations t rendered ps := by
  induction ps with
  | nil => rfl
  | cons p ps ih =>
    have hrest := ih fun q hq => h q (List.mem_cons_of_mem p hq)
    rcases h p List.mem_cons_self with hsame | ⟨rfl, hdefault⟩
    · rw [neededDeclarations, neededDeclarations, hsame, hrest]
    · rw [neededDeclarations, neededDeclarations, hrest]
      -- nothing is thrown for the default namespace: bound or not, it has a name, maybe the empty one
      cases hs : s.uri? none <;> cases ht : t.uri? none <;> rw [hs, ht] at hdefault <;>
        simp only [Option.getD_none, Option.getD_some] at hdefault <;> simp [← hdefault]

/-! ## Trees -/

mutual

/-- **Scopes that agree on the prefixes of a tree give it one canonical form.** -/
theorem canonical_congr : ∀ (n : Node) {s t : Scope} (rendered : Scope),
    Scope.AgreeOn n.prefixes s t → n.canonical [] s rendered = n.canonical [] t rendered
  | .element tag children, s, t, rendered, h => by
    have hinner := h.declare tag.declarations
    have htag : Scope.AgreeOn (sortPrefixes tag.prefixes) (s.declare tag.declarations)
        (t.declare tag.declarations) :=
      hinner.of_subset fun p hp => List.mem_append_left _ (mem_sortPrefixes.1 hp)
    have hchildren : Scope.AgreeOn (Node.prefixesAll children) (s.declare tag.declarations)
        (t.declare tag.declarations) := hinner.of_subset (List.subset_append_right _ _)
    rw [Node.canonical, Node.canonical, Tag.usedPrefixes_nil, Tag.usedPrefixes_nil,
      neededDeclarations_congr rendered htag]
    -- the output around the content is the same in both, since the needed declarations are
    congr 1
    funext needed
    rw [canonicalAll_congr children (rendered.declare needed) hchildren]
  | .text _, _, _, _, _ => rfl
  | .instruction _ _, _, _, _, _ => rfl

theorem canonicalAll_congr : ∀ (nodes : List Node) {s t : Scope} (rendered : Scope),
    Scope.AgreeOn (Node.prefixesAll nodes) s t →
      Node.canonicalAll [] s rendered nodes = Node.canonicalAll [] t rendered nodes
  | [], _, _, _, _ => rfl
  | n :: nodes, s, t, rendered, h => by
    have hfirst := canonical_congr n rendered (h.of_subset (List.subset_append_left _ _))
    have hrest := canonicalAll_congr nodes rendered (h.of_subset (List.subset_append_right _ _))
    rw [Node.canonicalAll, Node.canonicalAll, hfirst, hrest]

end

/-! ## Documents -/

/-- The canonical form of what a path leads to is that of a node in the scope around it. -/
theorem Document.canonicalize_of_elementAt? {d : Document} {path : Path} {e : Element}
    (h : d.elementAt? path = some e) (words : List String) :
    d.canonicalize path words =
      e.toNode.canonical (words.map prefixOfToken) (d.root.scopeAround [] path) [] := by
  unfold Document.canonicalize
  rw [h]
  cases path <;> rfl

/-- **Canonical form is independent of the rest of the document.** One element that stands in two
documents has one canonical form in both, as long as the scopes around it agree on the prefixes of
its names; what else is declared around it, what attributes and siblings the elements around it
have, and how many of them there are, plays no part. In a document that was read, it has one. -/
theorem Document.canonicalize_eq_of_agreeOn {d d' : Document} {path path' : Path} {e : Element}
    (he : d.elementAt? path = some e) (he' : d'.elementAt? path' = some e)
    (h : Scope.AgreeOn e.prefixes (d.root.scopeAround [] path) (d'.root.scopeAround [] path')) :
    d.canonicalize path [] = d'.canonicalize path' [] ∧
      ∀ input, Document.parse input = .ok d → ∃ out, d.canonicalize path [] = .ok out := by
  refine ⟨?_, fun input hparse => ?_⟩
  · rw [Document.canonicalize_of_elementAt? he, Document.canonicalize_of_elementAt? he']
    exact canonical_congr e.toNode [] h
  · exact ⟨_, Document.canonicalize_eq (Document.resolved_of_parse hparse) he []⟩

/-- The element `p:b` at two depths, behind different siblings and within different declarations;
no default namespace is in scope around one of them, the empty one around the other. -/
theorem canonicalize_eq_of_agreeOn_moved :
    ∃ d d' e, Document.parse (Octets.ofText
        "<a xmlns:p=\"urn:p\" xmlns:u=\"urn:1\" k=\"1\"><p:b p:i=\"1\"><c/>x</p:b></a>") = .ok d ∧
      Document.parse (Octets.ofText ("<w xmlns=\"urn:w\" xmlns:p=\"urn:p\" xmlns:u=\"urn:2\"> " ++
        "<q:v xmlns=\"\" xmlns:q=\"urn:q\">y<p:b p:i=\"1\"><c/>x</p:b></q:v></w>")) = .ok d' ∧
      d.elementAt? [0] = some e ∧ d'.elementAt? [1, 1] = some e ∧
      Scope.AgreeOn e.prefixes (d.root.scopeAround [] [0]) (d'.root.scopeAround [] [1, 1]) ∧
      d.canonicalize [0] [] = d'.canonicalize [1, 1] [] ∧ ∃ out, d.canonicalize [0] [] = .ok out := by
  let p (name : String) : QName := ⟨some "p", name⟩
  let e : Element := ⟨⟨p "b", some "urn:p", [], [⟨p "i", some "urn:p", "1"⟩]⟩,
    [.element ⟨⟨none, "c"⟩, none, [], []⟩ [], .text "x"]⟩
  let d : Document := ⟨⟨⟨⟨none, "a"⟩, none, [⟨some "p", "urn:p"⟩, ⟨some "u", "urn:1"⟩],
    [⟨⟨none, "k"⟩, none, "1"⟩]⟩, [e.toNode]⟩⟩
  let v : Tag := ⟨⟨some "q", "v"⟩, some "urn:q", [⟨none, ""⟩, ⟨some "q", "urn:q"⟩], []⟩
  let d' : Document := ⟨⟨⟨⟨none, "w"⟩, some "urn:w",
    [⟨none, "urn:w"⟩, ⟨some "p", "urn:p"⟩, ⟨some "u", "urn:2"⟩], []⟩,
    [.text " ", .element v [.text "y", e.toNode]]⟩⟩
  have hread : Document.parse (Octets.ofText
      "<a xmlns:p=\"urn:p\" xmlns:u=\"urn:1\" k=\"1\"><p:b p:i=\"1\"><c/>x</p:b></a>") = .ok d := by
    rw [Document.parse, Octets.toText?_ofText]
    decide +kernel
  have hread' : Document.parse (Octets.ofText
      ("<w xmlns=\"urn:w\" xmlns:p=\"urn:p\" xmlns:u=\"urn:2\"> " ++
        "<q:v xmlns=\"\" xmlns:q=\"urn:q\">y<p:b p:i=\"1\"><c/>x</p:b></q:v></w>")) = .ok d' := by
    rw [Document.parse, Octets.toText?_ofText]
    decide +kernel
  have he : d.elementAt? [0] = some e := rfl
  have he' : d'.elementAt? [1, 1] = some e := rfl
  have hagree : Scope.AgreeOn e.prefixes (d.root.scopeAround [] [0])
      (d'.root.scopeAround [] [1, 1]) := by decide +kernel
  obtain ⟨hsame, hsome⟩ := Document.canonicalize_eq_of_agreeOn he he' hagree
  exact ⟨d, d', e, hread, hread', he, he', hagree, hsame, hsome _ hread⟩

end FiscalGateway.Xml

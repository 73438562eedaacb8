import FiscalGateway.Proofs.Xml.Settled

/-!
# Preservation — canonical form says what its source says

What a tree says is left once its declarations are forgotten, its attributes are in order and its
empty texts are gone (`Node.normal`). Settling a tree changes its declarations only beyond that
(`undeclared_settle`), so the canonical form of an element, read again, says what the element said
(`Document.canonicalize_preserves`), and canonical forms tell apart what says different things.
-/

namespace FiscalGateway.Xml

/-! ## What a tree says -/

mutual

/-- A tree without its declarations. -/
def Node.undeclared : Node → Node
  | .element tag children => .element { tag with declarations := [] } (Node.undeclaredAll children)
  | .text s => .text s
  | .instruction target data => .instruction target data

/-- The same for content. -/
def Node.undeclaredAll : List Node → List Node
  | [] => []
  | n :: rest => n.undeclared :: Node.undeclaredAll rest

end

/-- A tag without its declarations, its attributes by namespace and name; attributes that have both
in common stay as they stand. -/
def Tag.normal (tag : Tag) : Tag :=
  { tag with declarations := [], attributes := tag.attributes.mergeSort attributeLE }

mutual

/-- What a tree says. -/
def Node.normal : Node → Node
  | .element tag children => .element tag.normal (Node.normalAll children)
  | .text s => .text s
  | .instruction target data => .instruction target data

/-- What content says; empty texts say nothing. -/
def Node.normalAll : List Node → List Node
  | [] => []
  | n :: rest =>
    if n.isEmptyText then Node.normalAll rest else n.normal :: Node.normalAll rest

end

/-- An element without declarations, its own or those further down. -/
def Element.undeclared (e : Element) : Element :=
  ⟨{ e.tag with declarations := [] }, Node.undeclaredAll e.children⟩

/-- What an element says. -/
def Element.normal (e : Element) : Element := ⟨e.tag.normal, Node.normalAll e.children⟩

variable {inclusive : List (Option String)}

mutual

/-- **A settled tree says what its source says**, and there is nothing left to put in order. -/
theorem undeclared_settle : ∀ (n : Node) (scope rendered : Scope),
    (n.settle inclusive scope rendered).undeclared = n.normal
  | .element tag children, scope, rendered => by
    rw [Node.settle, Node.undeclared, undeclaredAll_settleAll children, Node.normal]
    rfl
  | .text _, _, _ => rfl
  | .instruction _ _, _, _ => rfl

theorem undeclaredAll_settleAll : ∀ (nodes : List Node) (scope rendered : Scope),
    Node.undeclaredAll (Node.settleAll inclusive scope rendered nodes) = Node.normalAll nodes
  | [], _, _ => rfl
  | n :: nodes, scope, rendered => by
    have hrest := undeclaredAll_settleAll nodes scope rendered
    rw [Node.settleAll, Node.normalAll]
    split
    · exact hrest
    · rw [Node.undeclaredAll, undeclared_settle n, hrest]

end

theorem Element.undeclared_settle (e : Element) (scope rendered : Scope) :
    (e.settle inclusive scope rendered).undeclared = e.normal := by
  rw [settle, undeclared, undeclaredAll_settleAll, normal]
  rfl

/-! ## What canonical form says -/

/-- A text in octets is read as the text. -/
theorem Document.parse_ofText (s : List Char) :
    Document.parse (Octets.ofText (String.ofList s)) = Document.ofChars s := by
  rw [Document.parse, Octets.toText?_ofText]
  simp only [String.toList_ofList]

section Reading

variable {input : Octets} {d : Document} {path : Path} {e : Element}

/-- **The canonical form of an element exists**, is read, and says what the element says. -/
theorem Document.exists_canonicalize (h : Document.parse input = .ok d)
    (hnamed : d.root.toNode.NCNamed) (he : d.elementAt? path = some e) (words : List String) :
    ∃ out d', d.canonicalize path words = .ok out ∧ Document.ofChars out = .ok d' ∧
      d'.root.undeclared = e.normal := by
  have hres := Document.resolved_of_parse h
  have hout := Document.canonicalize_eq hres he words
  refine ⟨_, _, hout, Document.ofChars_canonicalize hres hnamed he hout, ?_⟩
  exact Element.undeclared_settle e _ _

/-- **Canonical form preserves the document.** Read again, it is the element without declarations,
with attributes in order and without empty texts; elements with one canonical form, each in its own
document and for its own list of prefixes, are alike in all that. -/
theorem Document.canonicalize_preserves (h : Document.parse input = .ok d)
    (hnamed : d.root.toNode.NCNamed) (he : d.elementAt? path = some e) (words : List String) :
    ∃ out, d.canonicalize path words = .ok out ∧
      (∃ d', Document.parse (Octets.ofText (String.ofList out)) = .ok d' ∧
        d'.root.undeclared = e.normal) ∧
      ∀ {input₂ : Octets} {d₂ : Document} {path₂ : Path} {e₂ : Element} {words₂ : List String},
        Document.parse input₂ = .ok d₂ → d₂.root.toNode.NCNamed → d₂.elementAt? path₂ = some e₂ →
          d₂.canonicalize path₂ words₂ = .ok out → e₂.normal = e.normal := by
  obtain ⟨out, d', hout, hd', hsays⟩ := Document.exists_canonicalize h hnamed he words
  refine ⟨out, hout, ⟨d', (Document.parse_ofText out).trans hd', hsays⟩, ?_⟩
  intro input₂ d₂ path₂ e₂ words₂ h₂ hnamed₂ he₂ hout₂
  obtain ⟨out', d'', hout', hd'', hsays₂⟩ := Document.exists_canonicalize h₂ hnamed₂ he₂ words₂
  -- one text is read in one way only
  obtain rfl : out = out' := Except.ok.inj (hout₂.symm.trans hout')
  obtain rfl : d' = d'' := Except.ok.inj (hd'.symm.trans hd'')
  rw [← hsays₂, hsays]

end Reading

/-- A document with references, blanks, an empty section, and declarations that its parts inherit or
undo. -/
def specimenText : List Char :=
  ("<a xmlns=\"urn:a\" xmlns:p=\"urn:p\" xmlns:q=\"urn:q\"> <p:b z=\"1\" p:y=\"&#13;&#9;\" b='\"'>" ++
    "<![CDATA[]]><c xmlns=\"\"/>1 &amp; 2&#13;<?t  d?></p:b></a>").toList

theorem exists_specimen :
    ∃ d e, Document.parse (Octets.ofText (String.ofList specimenText)) = .ok d ∧
      d.root.toNode.NCNamed ∧ d.elementAt? [1] = some e ∧ e.children.length = 4 := by
  have hread : (Document.ofChars specimenText).toOption.any (fun d =>
      d.root.toNode.hasProperNames && (d.elementAt? [1]).any (·.children.length = 4)) = true := by
    decide +kernel
  cases hd : Document.ofChars specimenText with
  | error fault => simp [hd, Except.toOption] at hread
  | ok d =>
    simp only [hd, Except.toOption, Option.any_some, Bool.and_eq_true, Option.any_eq_true,
      decide_eq_true_eq] at hread
    obtain ⟨hnamed, e, he, hlength⟩ := hread
    exact ⟨d, e, (Document.parse_ofText _).trans hd, (Node.hasProperNames_iff _).1 hnamed, he,
      hlength⟩

/-- Its second part, with what that part inherits, is preserved. -/
theorem canonicalize_preserves_specimen :
    ∃ d e, Document.parse (Octets.ofText (String.ofList specimenText)) = .ok d ∧
      d.root.toNode.NCNamed ∧ d.elementAt? [1] = some e ∧ e.children.length = 4 ∧
      ∃ out, d.canonicalize [1] ["q"] = .ok out ∧
        ∃ d', Document.parse (Octets.ofText (String.ofList out)) = .ok d' ∧
          d'.root.undeclared = e.normal := by
  obtain ⟨d, e, hparse, hnamed, he, hlength⟩ := exists_specimen
  obtain ⟨out, hout, hread, -⟩ := Document.canonicalize_preserves hparse hnamed he ["q"]
  exact ⟨d, e, hparse, hnamed, he, hlength, out, hout, hread⟩

end FiscalGateway.Xml

import FiscalGateway.Proofs.Xml.Minimal

/-!
# Bindings — the reader and canonical form resolve names alike

The reader resolves a name while elements are open, against the declarations that wait on its stack;
canonical form rebuilds the scope of an element from the finished tree. Both see the same bindings
at every element (`Tag.ResolvedIn.boundBy`), so each namespace in a document that was read is the
one that the scope at its place binds, and no prefix is left unbound for canonical form to report
(`Document.bound_of_parse`).
-/

namespace FiscalGateway.Xml

variable {scope inner : Scope} {outer context : Context}

/-! ## One prefix -/

/-- Where a scope sees a context, both give a prefix the same namespace. -/
theorem Scope.Sees.resolve?_eq (hs : scope.Sees context) {p : Option String}
    (hp : p ≠ some "xml") : context.resolve? p = scope.uri? p := by
  rw [Context.resolve?_of_ne hp, hs]

/-- **A tag whose names mean what a scope says**; the prefix `xml` is bound everywhere. -/
structure Tag.BoundBy (scope : Scope) (tag : Tag) : Prop where
  element_prefixed : ∀ p, tag.name.nsPrefix = some p → p ≠ "xml" →
    ∃ uri, scope.uri? (some p) = some uri ∧ tag.ns = some uri
  /-- An empty default namespace is none. -/
  element_plain : tag.name.nsPrefix = none → tag.ns = (scope.uri? none).filter (· ≠ "")
  element_xml : tag.name.nsPrefix = some "xml" → tag.ns = some xmlNamespace
  attribute_prefixed : ∀ a ∈ tag.attributes, ∀ p, a.name.nsPrefix = some p → p ≠ "xml" →
    ∃ uri, scope.uri? (some p) = some uri ∧ a.ns = some uri
  /-- The default namespace is not for attributes. -/
  attribute_plain : ∀ a ∈ tag.attributes, a.name.nsPrefix = none → a.ns = none
  attribute_xml : ∀ a ∈ tag.attributes, a.name.nsPrefix = some "xml" → a.ns = some xmlNamespace

namespace Tag.ResolvedIn

variable {tag : Tag}

/-- A prefix that the reader has looked up is the namespace of the name. -/
theorem ns_of_prefixed (h : tag.ResolvedIn outer) {p : String} (hp : tag.name.nsPrefix = some p) :
    Context.resolve? (tag.declarations :: outer) (some p) = tag.ns ∧ tag.ns ≠ none := by
  have hself := h.ns
  obtain ⟨uri, huri⟩ := h.exists_uri (.inl hp)
  simp only [Context.elementNamespace, hp, huri] at hself
  have hns : some uri = tag.ns := Except.ok.inj hself
  exact ⟨huri.trans hns, hns ▸ Option.some_ne_none uri⟩

/-- **A tag that was resolved while it was read** is bound by each scope that sees what was open. -/
theorem boundBy (h : tag.ResolvedIn outer) (hs : inner.Sees (tag.declarations :: outer)) :
    tag.BoundBy inner where
  element_prefixed p hp hxml := by
    obtain ⟨hresolve, hsome⟩ := h.ns_of_prefixed hp
    obtain ⟨uri, huri⟩ := Option.ne_none_iff_exists'.1 hsome
    rw [hs.resolve?_eq fun e => hxml (Option.some.inj e)] at hresolve
    exact ⟨uri, hresolve.trans huri, huri⟩
  element_plain hp := by
    have hself := h.ns
    have hdefault := hs.resolve?_eq (Option.some_ne_none "xml").symm
    simp only [Context.elementNamespace, hp, hdefault] at hself
    exact (Except.ok.inj hself).symm
  element_xml hp := (h.ns_of_prefixed hp).1.symm
  attribute_prefixed a ha p hp hxml := by
    have hns := h.ns_eq hs ha
    simp only [Scope.attributeNamespace?, hp, if_neg hxml] at hns
    obtain ⟨uri, huri⟩ := h.exists_uri (.inr ⟨a, ha, hp⟩)
    rw [hs.resolve?_eq fun e => hxml (Option.some.inj e)] at huri
    exact ⟨uri, huri, hns.trans huri⟩
  attribute_plain a ha hp := by
    have hns := h.ns_eq hs ha
    simpa only [Scope.attributeNamespace?, hp] using hns
  attribute_xml a ha hp := by
    have hns := h.ns_eq hs ha
    simpa only [Scope.attributeNamespace?, hp, if_true] using hns

end Tag.ResolvedIn

/-! ## Documents -/

/-- **Both resolvers agree.** In a document that was read each namespace is the one that the scope
at its place binds, so canonical form never meets a prefix that is not bound. -/
theorem Document.bound_of_parse {input : Octets} {d : Document}
    (hparse : Document.parse input = .ok d) :
    (∀ path e, d.elementAt? path = some e → e.tag.BoundBy (d.scopeAt path)) ∧
      ∀ path words p, d.canonicalize path words ≠ .error (.unboundPrefix p) := by
  have hres := Document.resolved_of_parse hparse
  constructor
  · intro path e he
    obtain ⟨context, hx, hsees, -⟩ := Element.resolvedIn_of_descend? he hres Scope.sees_nil
    rw [Document.scopeAt, Element.scopeAt_eq he]
    cases hx with
    | element htag _ _ => exact htag.boundBy (hsees.declare htag.nodup_declarations)
  · intro path words p
    cases he : d.elementAt? path with
    | none => simp [Document.canonicalize, he]
    | some e =>
      rw [Document.canonicalize_eq hres he]
      simp

/-- A prefix bound anew inside, a default namespace undone, and `xml`. -/
theorem bound_of_parse_specimen :
    ∃ d e, Document.parse (Octets.ofText
        "<a xmlns=\"u\" xmlns:p=\"v\"><p:b xmlns:p=\"w\" xmlns=\"\" p:x=\"1\" xml:y=\"2\"/></a>") =
          .ok d ∧
      d.elementAt? [0] = some e ∧ e.tag.ns = some "w" ∧ e.tag.BoundBy (d.scopeAt [0]) ∧
      d.canonicalize [0] ["q"] ≠ .error (.unboundPrefix "q") := by
  let e : Element := ⟨⟨⟨some "p", "b"⟩, some "w", [⟨some "p", "w"⟩, ⟨none, ""⟩],
    [⟨⟨some "p", "x"⟩, some "w", "1"⟩, ⟨⟨some "xml", "y"⟩, some xmlNamespace, "2"⟩]⟩, []⟩
  let d : Document :=
    ⟨⟨⟨⟨none, "a"⟩, some "u", [⟨none, "u"⟩, ⟨some "p", "v"⟩], []⟩, [e.toNode]⟩⟩
  have hread : Document.parse (Octets.ofText
      "<a xmlns=\"u\" xmlns:p=\"v\"><p:b xmlns:p=\"w\" xmlns=\"\" p:x=\"1\" xml:y=\"2\"/></a>") =
        .ok d := by
    rw [Document.parse, Octets.toText?_ofText]
    decide +kernel
  obtain ⟨hbound, hcanonical⟩ := Document.bound_of_parse hread
  exact ⟨d, e, hread, rfl, rfl, hbound [0] e rfl, hcanonical [0] ["q"] "q"⟩

end FiscalGateway.Xml

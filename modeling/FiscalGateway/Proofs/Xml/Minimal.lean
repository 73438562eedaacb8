import FiscalGateway.Proofs.Xml.Idempotent
import FiscalGateway.Proofs.Xml.Query

/-!
# Minimality — canonical form is in order and declares nothing twice

What stands at a position of the canonical form is a settled element: the one at a known position of
the source (`Element.sourcePath`), settled in the scope that the source has around it and in what
the output has declared around it (`Element.descend?_settle`). So what a single settled tag is like,
every tag of the output is like: its declarations and attributes are in order, it declares nothing
that is declared around it or that it does not need, and it keeps what the inclusive prefixes mean
(`Tag.IsMinimal`, `Document.canonicalize_minimal`).
-/

namespace FiscalGateway.Xml

variable {inclusive : List (Option String)} {scope inner rendered : Scope} {outer : Context}

/-! ## Positions -/

/-- Where in the source a piece of content stands that stands at this place of the output, which has
no empty texts. -/
def Node.sourceIndex : List Node → Nat → Nat
  | [], i => i
  | n :: rest, i =>
    if n.isEmptyText then Node.sourceIndex rest i + 1
    else
      match i with
      | 0 => 0
      | i + 1 => Node.sourceIndex rest i + 1

/-- **Where in an element something stands** that stands at this position of its canonical form. -/
def Element.sourcePath (e : Element) : Path → Path
  | [] => []
  | i :: path =>
    let j := Node.sourceIndex e.children i
    match e.child? j with
    | some c => j :: c.sourcePath path
    | none => j :: path

theorem getElem?_settleAll (nodes : List Node) (i : Nat) :
    (Node.settleAll inclusive scope rendered nodes)[i]? =
      nodes[Node.sourceIndex nodes i]?.map (·.settle inclusive scope rendered) := by
  induction nodes generalizing i with
  | nil => rfl
  | cons n nodes ih =>
    rw [Node.settleAll]
    by_cases hempty : n.isEmptyText = true
    · rw [if_pos hempty, Node.sourceIndex.eq_def]
      simp only [if_pos hempty, List.getElem?_cons_succ, ih]
    · rw [if_neg hempty, Node.sourceIndex.eq_def]
      cases i with
      | zero => simp only [if_neg hempty, List.getElem?_cons_zero, Option.map_some]
      | succ i => simp only [if_neg hempty, List.getElem?_cons_succ, ih]

namespace Element

variable {e c x : Element} {path : Path}

/-- A child of a settled element is a child of its source, settled. -/
theorem child?_settle (e : Element) (i : Nat) :
    (e.settle inclusive scope rendered).child? i =
      (e.child? (Node.sourceIndex e.children i)).map
        (·.settle inclusive (e.innerScope scope) (innerRendered inclusive scope rendered e)) := by
  have hplace : (e.settle inclusive scope rendered).children[i]? =
      e.children[Node.sourceIndex e.children i]?.map
        (·.settle inclusive (e.innerScope scope) (innerRendered inclusive scope rendered e)) :=
    getElem?_settleAll e.children i
  rw [child?, hplace, child?]
  cases e.children[Node.sourceIndex e.children i]? with
  | none => rfl
  | some n => cases n <;> rfl

/-- **What stands in a settled element** is an element of the source, settled where it stands. -/
theorem descend?_settle {x' : Element}
    (h : (e.settle inclusive scope rendered).descend? path = some x') :
    ∃ x, e.descend? (e.sourcePath path) = some x ∧
      x' = x.settle inclusive (e.scopeAround scope (e.sourcePath path))
        ((e.settle inclusive scope rendered).scopeAround rendered path) := by
  induction path generalizing e scope rendered with
  | nil =>
    obtain rfl := Option.some.inj h
    exact ⟨e, rfl, rfl⟩
  | cons i path ih =>
    rw [descend?] at h
    obtain ⟨c', hc', hpath⟩ := Option.bind_eq_some_iff.1 h
    -- the child that the output has at this place is the settled one of a known place in the source
    have hchild := hc'
    rw [child?_settle] at hchild
    obtain ⟨c, hc, rfl⟩ := Option.map_eq_some_iff.1 hchild
    obtain ⟨x, hx, hsettled⟩ := ih hpath
    have hsource : e.sourcePath (i :: path) =
        Node.sourceIndex e.children i :: c.sourcePath path := by
      rw [sourcePath]
      simp only [hc]
    refine ⟨x, ?_, ?_⟩
    · rw [hsource, descend?, hc]
      exact hx
    · rw [hsource, scopeAround_cons hc, scopeAround_cons hc']
      exact hsettled

/-- A way down may be taken in two parts. -/
theorem descend?_append (h : e.descend? path = some c) (rest : Path) :
    e.descend? (path ++ rest) = c.descend? rest := by
  induction path generalizing e with
  | nil =>
    obtain rfl := Option.some.inj h
    rfl
  | cons i path ih =>
    rw [descend?] at h
    obtain ⟨b, hb, hpath⟩ := Option.bind_eq_some_iff.1 h
    rw [List.cons_append, descend?, hb]
    exact ih hpath

/-- The scope inside what a way leads to: the one around it, and what is declared there. -/
theorem scopeAt_append (h : e.descend? path = some c) (scope : Scope) (rest : Path) :
    e.scopeAt scope (path ++ rest) = c.scopeAt (e.scopeAround scope path) rest := by
  induction path generalizing e scope with
  | nil =>
    obtain rfl := Option.some.inj h
    rfl
  | cons i path ih =>
    rw [descend?] at h
    obtain ⟨b, hb, hpath⟩ := Option.bind_eq_some_iff.1 h
    rw [List.cons_append, scopeAt, hb, scopeAround_cons hb]
    exact ih hpath _

theorem scopeAt_eq (h : e.descend? path = some x) (scope : Scope) :
    e.scopeAt scope path = (e.scopeAround scope path).declare x.tag.declarations := by
  have hself := scopeAt_append h scope []
  rwa [List.append_nil] at hself

/-! ## Printed parts -/

theorem printed_within_all {n : Node} {nodes : List Node} (h : n ∈ nodes) :
    n.print <:+: Node.printAll nodes := by
  induction nodes with
  | nil => contradiction
  | cons m nodes ih =>
    rcases List.mem_cons.1 h with rfl | h
    · exact (List.prefix_append _ _).isInfix
    · exact (ih h).trans (List.suffix_append _ _).isInfix

/-- **What stands in an element is printed in it.** -/
theorem printed_within (h : e.descend? path = some x) : x.toNode.print <:+: e.toNode.print := by
  induction path generalizing e with
  | nil =>
    obtain rfl := Option.some.inj h
    exact List.infix_rfl
  | cons i path ih =>
    rw [descend?] at h
    obtain ⟨c, hc, hpath⟩ := Option.bind_eq_some_iff.1 h
    have hchildren : Node.printAll e.children <:+: e.toNode.print :=
      ⟨e.tag.print, e.tag.writeEnd, rfl⟩
    exact ((ih hpath).trans (printed_within_all (toNode_mem_of_child? hc))).trans hchildren

end Element

/-- A printed tag: the name, the declarations, and the attributes behind them. -/
theorem Tag.print_eq (tag : Tag) : tag.print =
    '<' :: tag.name.toChars ++ tag.declarations.flatMap Declaration.write ++
      tag.attributes.flatMap Attribute.write ++ ['>'] := by
  simp [print, inside, parts, List.flatMap_map]

/-! ## Tags -/

namespace Scope

variable {p : Option String}

/-- What the name of an attribute is bound to; the prefix `xml` is bound everywhere. -/
def attributeNamespace? (s : Scope) (name : QName) : Option String :=
  match name.nsPrefix with
  | some q => if q = "xml" then some xmlNamespace else s.uri? (some q)
  | none => none

/-- A scope that binds prefixes to something: nothing but the default namespace may be empty. -/
def IsDefinite (s : Scope) : Prop := ∀ q uri, s.uri? (some q) = some uri → uri ≠ ""

theorem IsProper.isDefinite (h : inner.IsProper) : inner.IsDefinite :=
  fun q uri huri => (h q uri huri).2

/-- What is needed is not in effect. -/
theorem uri?_ne_of_requires (h : inner.requires rendered p = true) :
    rendered.uri? p ≠ some (inner.declaration p).uri := by
  intro heq
  have heffect : rendered.uri? p = some ((inner.uri? p).getD "") := heq
  simp only [requires, Bool.and_eq_true] at h
  have hneeded := h.2
  split at hneeded
  · next hdefault =>
    obtain ⟨rfl, hempty⟩ := hdefault
    rw [heffect, hempty] at hneeded
    contradiction
  · exact of_decide_eq_true hneeded heffect

/-- An empty default namespace is needed where another one is in effect. -/
theorem exists_uri_of_requires (h : inner.requires rendered none = true)
    (hempty : (inner.declaration none).uri = "") :
    ∃ uri, rendered.uri? none = some uri ∧ uri ≠ "" := by
  have hdefault : (inner.uri? none).getD "" = "" := hempty
  simpa [requires, hdefault, Option.any_eq_true] using h

/-- What is on a list keeps its meaning where that is not the empty namespace. -/
theorem uri?_declare_required_of_ne {ps : List (Option String)} (hps : ps.Nodup) (hmem : p ∈ ps)
    (hxml : p ≠ some "xml") {uri : String} (huri : inner.uri? p = some uri)
    (hne : p = none → uri ≠ "") :
    (rendered.declare (inner.required rendered ps)).uri? p = some uri := by
  cases p with
  | some q =>
    have hq : q ≠ "xml" := fun e => hxml (congrArg some e)
    exact uri?_declare_required hps hmem hq huri
  | none =>
    have hkept : ((rendered.declare (inner.required rendered ps)).uri? none).getD "" =
        (inner.uri? none).getD "" := default_declare_required hps hmem
    rw [huri, Option.getD_some] at hkept
    -- a default namespace that is not empty is one that is declared
    cases hout : (rendered.declare (inner.required rendered ps)).uri? none with
    | none =>
      rw [hout] at hkept
      exact absurd hkept.symm (hne rfl)
    | some uri' =>
      rw [hout] at hkept
      exact congrArg some hkept

end Scope

/-- **A tag of canonical form**, for these inclusive prefixes, given what is in scope at its place
in the source and what the elements around it have declared in the output. -/
structure Tag.IsMinimal (inclusive : List (Option String)) (source around : Scope) (tag : Tag) :
    Prop where
  /-- Behind a declaration stand only those of larger prefixes; the default one is the smallest. -/
  declarations_sorted : tag.declarations.Pairwise fun c d =>
    ∃ q, d.nsPrefix = some q ∧ ∀ p, c.nsPrefix = some p → p < q
  /-- What is in effect is not declared again. -/
  declares_new : ∀ d ∈ tag.declarations, around.uri? d.nsPrefix ≠ some d.uri
  /-- The empty namespace is declared only to undo a default one. -/
  declares_empty : ∀ d ∈ tag.declarations, d.uri = "" →
    d.nsPrefix = none ∧ ∃ uri, around.uri? none = some uri ∧ uri ≠ ""
  /-- What is declared is used, or on the list. -/
  declares_used : ∀ d ∈ tag.declarations, d.nsPrefix = tag.name.nsPrefix ∨
    (∃ q, d.nsPrefix = some q ∧ ∃ a ∈ tag.attributes, a.name.nsPrefix = some q) ∨
      d.nsPrefix ∈ inclusive
  /-- What is on the list means what it means in the source, unless it is an empty default. -/
  keeps_inclusive : ∀ p ∈ inclusive, p ≠ some "xml" → ∀ uri, source.uri? p = some uri →
    (p = none → uri ≠ "") → (around.declare tag.declarations).uri? p = some uri
  /-- Attributes stand by namespace and then by name. -/
  attributes_sorted : tag.attributes.Pairwise fun a b =>
    a.ns.getD "" < b.ns.getD "" ∨
      a.ns.getD "" = b.ns.getD "" ∧ a.name.localPart ≤ b.name.localPart
  /-- Those without prefix come first. -/
  attributes_plain : tag.attributes.Pairwise fun a b =>
    b.name.nsPrefix = none → a.name.nsPrefix = none

theorem lt_of_prefixLE {p : Option String} {r : Option String} (hle : prefixLE p r = true)
    (hne : p ≠ r) : ∃ q, r = some q ∧ ∀ p', p = some p' → p' < q := by
  cases r with
  | none =>
    cases p with
    | none => contradiction
    | some p => contradiction
  | some q =>
    refine ⟨q, rfl, ?_⟩
    rintro p' rfl
    have hle : p' ≤ q := by simpa [prefixLE] using hle
    refine String.not_le.1 fun hge => hne ?_
    rw [String.le_antisymm hle hge]

theorem lt_or_eq_of_attributeLE {a b : Attribute} (h : attributeLE a b = true) :
    a.ns.getD "" < b.ns.getD "" ∨
      a.ns.getD "" = b.ns.getD "" ∧ a.name.localPart ≤ b.name.localPart := by
  simp only [attributeLE] at h
  split at h
  · next heq => exact .inr ⟨heq, of_decide_eq_true h⟩
  · next hne =>
    refine .inl (String.not_le.1 fun hge => hne ?_)
    exact String.le_antisymm (of_decide_eq_true h) hge

namespace Tag

variable {tag : Tag}

/-- The namespace of an attribute is what its prefix is bound to. -/
theorem ResolvedIn.ns_eq (h : tag.ResolvedIn outer) (hs : inner.Sees (tag.declarations :: outer))
    {a : Attribute} (ha : a ∈ tag.attributes) : a.ns = inner.attributeNamespace? a.name := by
  have hself := h.attributes a ha
  unfold Context.attribute at hself
  split at hself
  · next q hq =>
    rw [Scope.attributeNamespace?, hq]
    split at hself
    · next uri huri =>
      have hns : a.ns = some uri := by rw [← Except.ok.inj hself]
      by_cases hxml : q = "xml"
      · subst hxml
        exact hns.trans huri.symm
      · have hne : some q ≠ some "xml" := fun e => hxml (Option.some.inj e)
        rw [Context.resolve?_of_ne hne, ← hs] at huri
        simp only [if_neg hxml, hns, huri]
    · contradiction
  · next hnone =>
    rw [Scope.attributeNamespace?, hnone, ← Except.ok.inj hself]

/-- It tells whether there is a prefix: only names without one have no namespace, or an empty
one. -/
theorem ResolvedIn.nsPrefix_eq_none_iff (h : tag.ResolvedIn outer)
    (hs : inner.Sees (tag.declarations :: outer)) (hdefinite : inner.IsDefinite) {a : Attribute}
    (ha : a ∈ tag.attributes) : a.name.nsPrefix = none ↔ a.ns.getD "" = "" := by
  have hns := h.ns_eq hs ha
  constructor
  · intro hnone
    rw [hns, Scope.attributeNamespace?, hnone]
    rfl
  · intro hempty
    cases hsome : a.ns with
    | none => exact h.nsPrefix_eq_none ha hsome
    | some uri =>
      exfalso
      rw [hsome] at hns hempty
      obtain rfl : uri = "" := hempty
      unfold Scope.attributeNamespace? at hns
      -- a prefix is bound to a namespace with a name; `xml` is no exception
      split at hns
      · next q hq =>
        split at hns
        · exact absurd (Option.some.inj hns) (by decide)
        · exact hdefinite q _ hns.symm rfl
      · contradiction

/-- So where attributes stand by namespace, those without prefix come first. -/
theorem ResolvedIn.nsPrefix_eq_none_of_le (h : tag.ResolvedIn outer)
    (hs : inner.Sees (tag.declarations :: outer)) (hdefinite : inner.IsDefinite) {a b : Attribute}
    (ha : a ∈ tag.attributes) (hb : b ∈ tag.attributes) (hle : attributeLE a b = true)
    (hplain : b.name.nsPrefix = none) : a.name.nsPrefix = none := by
  rw [h.nsPrefix_eq_none_iff hs hdefinite hb] at hplain
  rw [h.nsPrefix_eq_none_iff hs hdefinite ha]
  -- nothing is smaller than the empty namespace
  rcases lt_or_eq_of_attributeLE hle with hlt | ⟨heq, -⟩
  · rw [hplain, String.lt_iff] at hlt
    exact absurd hlt (List.not_lt_nil _)
  · exact heq.trans hplain

/-- What a settled tag declares is needed for a prefix that it uses. -/
theorem exists_requires_of_mem_settle {d : Declaration}
    (hd : d ∈ (tag.settle inclusive inner rendered).declarations) :
    ∃ p ∈ tag.usedPrefixes inner inclusive, inner.requires rendered p = true ∧
      inner.declaration p = d := by
  obtain ⟨p, hp, rfl⟩ := List.mem_map.1 hd
  obtain ⟨hmem, hr⟩ := List.mem_filter.1 hp
  exact ⟨p, hmem, hr, rfl⟩

/-- **A settled tag is in order and declares nothing that it does not need.** -/
theorem ResolvedIn.isMinimal_settle (h : tag.ResolvedIn outer)
    (hs : inner.Sees (tag.declarations :: outer)) (hproper : inner.IsProper) :
    (tag.settle inclusive inner rendered).IsMinimal inclusive inner rendered := by
  have hbinds : inner.Binds (tag.usedPrefixes inner inclusive) := h.binds hs
  have hattributes : (tag.settle inclusive inner rendered).attributes.Pairwise
      fun a b => attributeLE a b = true :=
    List.pairwise_mergeSort attributeLE_trans attributeLE_total _
  constructor
  case declarations_sorted =>
    have hprefixes : StrictlySorted
        ((tag.settle inclusive inner rendered).declarations.map (·.nsPrefix)) := by
      rw [Tag.settle, Scope.map_nsPrefix_required]
      exact strictlySorted_usedPrefixes.sublist List.filter_sublist
    exact (List.pairwise_map.1 hprefixes).imp fun hle => lt_of_prefixLE hle.1 hle.2
  case declares_new =>
    intro d hd
    obtain ⟨p, -, hr, rfl⟩ := exists_requires_of_mem_settle hd
    exact Scope.uri?_ne_of_requires hr
  case declares_empty =>
    intro d hd hempty
    obtain ⟨p, hmem, hr, rfl⟩ := exists_requires_of_mem_settle hd
    cases p with
    | none => exact ⟨rfl, Scope.exists_uri_of_requires hr hempty⟩
    | some q => exact absurd hempty (hproper.of_mem_required hbinds hd rfl).2
  case declares_used =>
    intro d hd
    obtain ⟨p, hmem, -, rfl⟩ := exists_requires_of_mem_settle hd
    rcases mem_usedPrefixes.1 hmem with hname | ⟨hne, a, ha, hwritten⟩ | ⟨hword, -⟩
    · exact .inl hname
    · obtain ⟨q, rfl⟩ := Option.ne_none_iff_exists'.1 hne
      exact .inr (.inl ⟨q, rfl, a, List.mem_mergeSort.2 ha, hwritten⟩)
    · exact .inr (.inr hword)
  case keeps_inclusive =>
    intro p hp hxml uri huri hdefault
    have hmem : p ∈ tag.usedPrefixes inner inclusive :=
      mem_usedPrefixes.2 (.inr (.inr ⟨hp, by rw [huri]; rfl⟩))
    exact Scope.uri?_declare_required_of_ne nodup_usedPrefixes hmem hxml huri hdefault
  case attributes_sorted => exact hattributes.imp lt_or_eq_of_attributeLE
  case attributes_plain =>
    exact hattributes.imp_of_mem fun ha hb => h.nsPrefix_eq_none_of_le hs hproper.isDefinite
      (List.mem_mergeSort.1 ha) (List.mem_mergeSort.1 hb)

end Tag

/-! ## Documents -/

section Reading

variable {input : Octets} {d : Document} {path : Path} {e : Element}

/-- **Canonical form is in order and declares nothing that it does not need.** It is the text of a
document, and that document printed; what stands anywhere in it says what stands at its place in the
source, its tag is written with the declarations in front of the attributes, and is minimal: for the
inclusive prefixes, the scope that there is in the source, and what the elements around it
declare. -/
theorem Document.canonicalize_minimal (hparse : Document.parse input = .ok d)
    (hnamed : d.root.toNode.NCNamed) (he : d.elementAt? path = some e) (words : List String) :
    ∃ out d', d.canonicalize path words = .ok out ∧
      Document.parse (Octets.ofText (String.ofList out)) = .ok d' ∧ out = d'.root.toNode.print ∧
      ∀ path' x', d'.elementAt? path' = some x' →
        (∃ x, d.elementAt? (path ++ e.sourcePath path') = some x ∧ x'.undeclared = x.normal) ∧
          '<' :: x'.tag.name.toChars ++ x'.tag.declarations.flatMap Declaration.write ++
            x'.tag.attributes.flatMap Attribute.write ++ ['>'] <:+: out ∧
          x'.tag.IsMinimal (words.map prefixOfToken) (d.scopeAt (path ++ e.sourcePath path'))
            (d'.root.scopeAround [] path') := by
  have hres := Document.resolved_of_parse hparse
  obtain ⟨context, hx, hsees, hnames⟩ := Element.resolvedIn_of_descend? he hres Scope.sees_nil
  obtain ⟨hnames, hproper⟩ := hnames hnamed Scope.isProper_nil
  have hout := Document.canonicalize_eq hres he words
  have hread := Document.ofChars_canonicalize hres hnamed he hout
  refine ⟨_, _, hout, (Document.parse_ofText _).trans hread, rfl, fun path' x' hx' => ?_⟩
  obtain ⟨x, hdown, hsettled⟩ := Element.descend?_settle hx'
  have hsource : d.elementAt? (path ++ e.sourcePath path') = some x :=
    (Element.descend?_append he _).trans hdown
  refine ⟨⟨x, hsource, ?_⟩, ?_, ?_⟩
  · rw [hsettled]
    exact Element.undeclared_settle x _ _
  · rw [← Tag.print_eq]
    have htag : x'.tag.print <:+: x'.toNode.print :=
      ⟨[], Node.printAll x'.children ++ x'.tag.writeEnd, (List.append_assoc ..).symm⟩
    exact htag.trans (Element.printed_within hx')
  · obtain ⟨context', hresolved, hsees', hnames'⟩ := Element.resolvedIn_of_descend? hdown hx hsees
    obtain ⟨hnames', hproper'⟩ := hnames' hnames hproper
    -- around it in the source: what is around `e`, what is around it inside `e`, and its own
    have hscope : d.scopeAt (path ++ e.sourcePath path') =
        (e.scopeAround (d.root.scopeAround [] path) (e.sourcePath path')).declare
          x.tag.declarations := by
      rw [Document.scopeAt, Element.scopeAt_append he, Element.scopeAt_eq hdown]
    rw [hscope, hsettled]
    cases hresolved with
    | element htag _ _ =>
      cases hnames' with
      | element htags _ =>
        exact htag.isMinimal_settle (hsees'.declare htag.nodup_declarations)
          (hproper'.declare htag htags)

end Reading

/-- Of the element `p:b`, whose declarations all stand around it in the source. -/
theorem canonicalize_minimal_specimen :
    ∃ d e, Document.parse (Octets.ofText (String.ofList specimenText)) = .ok d ∧
      d.root.toNode.NCNamed ∧ d.elementAt? [1] = some e ∧
      ∃ out d', d.canonicalize [1] ["q"] = .ok out ∧
        Document.parse (Octets.ofText (String.ofList out)) = .ok d' ∧
          d'.root.tag.IsMinimal [some "q"] (d.scopeAt [1]) [] := by
  obtain ⟨d, e, hparse, hnamed, he, -⟩ := exists_specimen
  obtain ⟨out, d', hout, hread, -, hminimal⟩ :=
    Document.canonicalize_minimal hparse hnamed he ["q"]
  exact ⟨d, e, hparse, hnamed, he, out, d', hout, hread, (hminimal [] d'.root rfl).2.2⟩

end FiscalGateway.Xml

import FiscalGateway.Proofs.Xml.Idempotent
import FiscalGateway.Proofs.Xml.Query

/-!
# Rearrangement — the order of the source plays no part

A tag may make its declarations and list its attributes in any order. Trees that differ in nothing
else (`Node.Rearranged`) have one canonical form, or fail for the same reason
(`canonical_rearranged`): scopes bind a prefix by its declaration wherever that stands, the prefixes
that a tag uses are sorted before any of them is looked up, and a sorted list is determined by what
is in it as long as no two entries are sorted alike.

Attributes are sorted by namespace and name, no namespace counting as the empty one. An attribute in
no namespace and one in the empty namespace, which only a tree that is built from data can have,
stand as they stood in the source (`Document.canonicalize_order_of_empty_namespace`).
-/

namespace FiscalGateway.Xml

variable {inclusive inclusive' : List (Option String)} {scope scope' rendered : Scope}

/-! ## What is sorted -/

/-- What an attribute is sorted by. -/
def Attribute.key (a : Attribute) : String × String := (a.ns.getD "", a.name.localPart)

theorem key_eq_of_attributeLE {a b : Attribute} (hab : attributeLE a b = true)
    (hba : attributeLE b a = true) : a.key = b.key := by
  simp only [attributeLE] at hab hba
  split at hab
  · next hns =>
    rw [if_pos hns.symm] at hba
    exact Prod.ext hns (String.le_antisymm (of_decide_eq_true hab) (of_decide_eq_true hba))
  · next hns =>
    rw [if_neg (Ne.symm hns)] at hba
    exact absurd (String.le_antisymm (of_decide_eq_true hab) (of_decide_eq_true hba)) hns

/-- **Attributes are sorted in one way**, if no two of them are sorted by the same. -/
theorem mergeSort_attributeLE_eq_of_perm {attributes attributes' : List Attribute}
    (h : attributes.Perm attributes') (hdistinct : (attributes.map Attribute.key).Nodup) :
    attributes.mergeSort attributeLE = attributes'.mergeSort attributeLE := by
  have hsorted : ∀ l : List Attribute, (l.mergeSort attributeLE).Pairwise
      fun a b => attributeLE a b = true :=
    List.pairwise_mergeSort attributeLE_trans attributeLE_total
  have hperm : (attributes.mergeSort attributeLE).Perm (attributes'.mergeSort attributeLE) :=
    ((List.mergeSort_perm _ _).trans h).trans (List.mergeSort_perm _ _).symm
  refine hperm.eq_of_pairwise (fun a b ha hb hab hba => ?_) (hsorted _) (hsorted _)
  have ha : a ∈ attributes := List.mem_mergeSort.1 ha
  have hb : b ∈ attributes := h.mem_iff.2 (List.mem_mergeSort.1 hb)
  exact List.inj_on_of_nodup_map hdistinct ha hb (key_eq_of_attributeLE hab hba)

/-! ## Tags -/

/-- **Tags that differ in the order of their parts**, and have no part twice: no two declarations of
one prefix, and no two attributes that are sorted by the same. -/
structure Tag.Rearranged (tag tag' : Tag) : Prop where
  name : tag.name = tag'.name
  ns : tag.ns = tag'.ns
  declarations : tag.declarations.Perm tag'.declarations
  attributes : tag.attributes.Perm tag'.attributes
  distinct_declarations : (tag.declarations.map (·.nsPrefix)).Nodup
  distinct_attributes : (tag.attributes.map Attribute.key).Nodup

/-- Scopes that bind each prefix alike. -/
def Scope.Alike (scope scope' : Scope) : Prop := ∀ p, scope.uri? p = scope'.uri? p

theorem Scope.Alike.agreeOn (h : scope.Alike scope') (ps : List (Option String)) :
    Scope.AgreeOn ps scope scope' := fun p _ => .inl (h p)

namespace Tag.Rearranged

variable {tag tag' : Tag}

/-- The scopes inside bind each prefix alike. -/
theorem declare (h : tag.Rearranged tag') (hs : scope.Alike scope') :
    (scope.declare tag.declarations).Alike (scope'.declare tag'.declarations) := by
  intro p
  have hdistinct' : (tag'.declarations.map (·.nsPrefix)).Nodup :=
    (h.declarations.map _).nodup_iff.1 h.distinct_declarations
  have hfind : tag.declarations.find? (·.nsPrefix = p) =
      tag'.declarations.find? (·.nsPrefix = p) := by
    refine find?_perm h.declarations fun c hc d hd hcp hdp => ?_
    have hsame : c.nsPrefix = d.nsPrefix :=
      (of_decide_eq_true hcp).trans (of_decide_eq_true hdp).symm
    exact List.inj_on_of_nodup_map hdistinct' hc hd hsame
  rw [Scope.uri?_declare h.distinct_declarations, Scope.uri?_declare hdistinct', hfind, hs p]

theorem mem_prefixes_iff (h : tag.Rearranged tag') (p : Option String) :
    p ∈ tag.prefixes ↔ p ∈ tag'.prefixes := by
  simp only [Tag.prefixes, List.mem_cons, List.mem_filter, List.mem_map, h.name,
    h.attributes.mem_iff]

/-- **The same prefixes are used**, in the same order. -/
theorem usedPrefixes_eq (h : tag.Rearranged tag') (hs : scope.Alike scope')
    (hwords : ∀ p, p ∈ inclusive ↔ p ∈ inclusive') :
    tag.usedPrefixes scope inclusive = tag'.usedPrefixes scope' inclusive' := by
  refine Tag.strictlySorted_usedPrefixes.ext Tag.strictlySorted_usedPrefixes fun p => ?_
  rw [Tag.mem_usedPrefixes_iff, Tag.mem_usedPrefixes_iff, h.mem_prefixes_iff, hwords, hs p]

theorem write_eq (h : tag.Rearranged tag') (needed : List Declaration) :
    tag.write needed = tag'.write needed := by
  rw [Tag.write, Tag.write, h.name,
    mergeSort_attributeLE_eq_of_perm h.attributes h.distinct_attributes]

end Tag.Rearranged

/-! ## Trees -/

mutual

/-- **Trees that differ in the order of the parts of their tags** and in nothing else. -/
inductive Node.Rearranged : Node → Node → Prop
  | element {tag tag' : Tag} {children children' : List Node} (htag : tag.Rearranged tag')
      (hchildren : Node.RearrangedAll children children') :
      Rearranged (.element tag children) (.element tag' children')
  | text {s : String} : Rearranged (.text s) (.text s)
  | instruction {target data : String} :
      Rearranged (.instruction target data) (.instruction target data)

/-- The same for content, piece by piece. -/
inductive Node.RearrangedAll : List Node → List Node → Prop
  | nil : RearrangedAll [] []
  | cons {n n' : Node} {nodes nodes' : List Node} (h : Node.Rearranged n n')
      (hrest : RearrangedAll nodes nodes') : RearrangedAll (n :: nodes) (n' :: nodes')

end

mutual

/-- **Trees that differ in order only have one canonical form**, or one fault. -/
theorem canonical_rearranged (hwords : ∀ p, p ∈ inclusive ↔ p ∈ inclusive') :
    ∀ {n n' : Node} {scope scope' rendered : Scope}, n.Rearranged n' → scope.Alike scope' →
      n.canonical inclusive scope rendered = n'.canonical inclusive' scope' rendered
  | .element tag children, _, scope, scope', rendered, h, hs => by
    cases h with
    | @element _ tag' _ children' htag hchildren =>
      have hinner := htag.declare hs
      -- the prefixes are looked up in one order, so the first that is not bound is the same one
      have hneeded : neededDeclarations (scope.declare tag.declarations) rendered
            (tag.usedPrefixes (scope.declare tag.declarations) inclusive) =
          neededDeclarations (scope'.declare tag'.declarations) rendered
            (tag'.usedPrefixes (scope'.declare tag'.declarations) inclusive') := by
        rw [htag.usedPrefixes_eq hinner hwords]
        exact neededDeclarations_congr rendered (hinner.agreeOn _)
      rw [Node.canonical, Node.canonical, hneeded]
      congr 1
      funext needed
      rw [canonicalAll_rearranged hwords hchildren hinner, htag.write_eq, Tag.writeEnd,
        Tag.writeEnd, htag.name]
  | .text _, _, _, _, _, h, _ => by
    cases h
    rfl
  | .instruction _ _, _, _, _, _, h, _ => by
    cases h
    rfl

theorem canonicalAll_rearranged (hwords : ∀ p, p ∈ inclusive ↔ p ∈ inclusive') :
    ∀ {nodes nodes' : List Node} {scope scope' rendered : Scope},
      Node.RearrangedAll nodes nodes' → scope.Alike scope' →
        Node.canonicalAll inclusive scope rendered nodes =
          Node.canonicalAll inclusive' scope' rendered nodes'
  | [], _, _, _, _, h, _ => by
    cases h
    rfl
  | n :: nodes, _, scope, scope', rendered, h, hs => by
    cases h with
    | cons hfirst hrest =>
      rw [Node.canonicalAll, Node.canonicalAll, canonical_rearranged hwords hfirst hs,
        canonicalAll_rearranged hwords hrest hs]

end

/-! ## Documents -/

namespace Element

variable {e e' : Element}

theorem getElem?_rearranged {nodes nodes' : List Node} (h : Node.RearrangedAll nodes nodes')
    (i : Nat) : Option.Rel Node.Rearranged nodes[i]? nodes'[i]? := by
  induction nodes generalizing nodes' i with
  | nil =>
    cases h
    exact .none
  | cons n nodes ih =>
    cases h with
    | cons hfirst hrest =>
      cases i with
      | zero => exact .some hfirst
      | succ i => exact ih hrest i

/-- At each place there are children that differ in order only, or none in both. -/
theorem child?_rearranged (h : Node.RearrangedAll e.children e'.children) (i : Nat) :
    e.child? i = none ∧ e'.child? i = none ∨
      ∃ c c', e.child? i = some c ∧ e'.child? i = some c' ∧ c.toNode.Rearranged c'.toNode := by
  have hplace := getElem?_rearranged h i
  rw [child?, child?]
  generalize e.children[i]? = n, e'.children[i]? = n' at hplace
  cases hplace with
  | none => exact .inl ⟨rfl, rfl⟩
  | some hsame =>
    cases hsame with
    | element htag hchildren => exact .inr ⟨_, _, rfl, rfl, .element htag hchildren⟩
    | text => exact .inl ⟨rfl, rfl⟩
    | instruction => exact .inl ⟨rfl, rfl⟩

/-- **A path leads to elements that differ in order only**, in scopes that bind each prefix alike,
or leads nowhere in both. -/
theorem descend?_rearranged (h : e.toNode.Rearranged e'.toNode) (hs : scope.Alike scope')
    (path : Path) :
    e.descend? path = none ∧ e'.descend? path = none ∨
      ∃ x x', e.descend? path = some x ∧ e'.descend? path = some x' ∧
        x.toNode.Rearranged x'.toNode ∧
        (e.scopeAround scope path).Alike (e'.scopeAround scope' path) := by
  induction path generalizing e e' scope scope' with
  | nil => exact .inr ⟨e, e', rfl, rfl, h, hs⟩
  | cons i path ih =>
    cases h with
    | element htag hchildren =>
      rw [descend?, descend?]
      rcases child?_rearranged hchildren i with ⟨hc, hc'⟩ | ⟨c, c', hc, hc', hsame⟩
      · exact .inl ⟨by rw [hc]; rfl, by rw [hc']; rfl⟩
      · rw [hc, hc', scopeAround_cons hc, scopeAround_cons hc']
        exact ih hsame (htag.declare hs)

end Element

/-- **Canonical form ignores the order of the source.** For documents that differ in the order of
declarations and attributes only, and for lists of the same inclusive prefixes, in any order and
with any repetition, it is the same text or the same fault. -/
theorem Document.canonicalize_rearranged {d d' : Document}
    (h : d.root.toNode.Rearranged d'.root.toNode) (path : Path) {words words' : List String}
    (hwords : ∀ word, word ∈ words ↔ word ∈ words') :
    d.canonicalize path words = d'.canonicalize path words' := by
  have hprefixes : ∀ p, p ∈ words.map prefixOfToken ↔ p ∈ words'.map prefixOfToken := by
    intro p
    simp only [List.mem_map, hwords]
  rcases Element.descend?_rearranged h (fun _ => rfl : Scope.Alike [] []) path with
    ⟨hx, hx'⟩ | ⟨x, x', hx, hx', hsame, hscopes⟩
  · have hnone : d.elementAt? path = none := hx
    have hnone' : d'.elementAt? path = none := hx'
    simp only [Document.canonicalize, hnone, hnone']
  · rw [Document.canonicalize_of_elementAt? hx, Document.canonicalize_of_elementAt? hx']
    exact canonical_rearranged hprefixes hsame hscopes

/-- A tag with two declarations and two attributes, and one with two prefixes that nothing binds, in
two orders; of the two, the same is reported. -/
theorem canonicalize_rearranged_specimen :
    let p : Declaration := ⟨some "p", "urn:p"⟩
    let q : Declaration := ⟨some "q", "urn:q"⟩
    let x : Attribute := ⟨⟨some "p", "x"⟩, some "urn:p", "1"⟩
    let y : Attribute := ⟨⟨none, "x"⟩, none, "2"⟩
    let s : Attribute := ⟨⟨some "s", "x"⟩, some "urn:s", "3"⟩
    let r : Attribute := ⟨⟨some "r", "x"⟩, some "urn:r", "4"⟩
    let inside (attributes : List Attribute) : Node :=
      .element ⟨⟨some "q", "b"⟩, some "urn:q", [], attributes⟩ [.text "5"]
    let d : Document := ⟨⟨⟨⟨none, "a"⟩, none, [p, q], [x, y]⟩, [inside [s, r]]⟩⟩
    let d' : Document := ⟨⟨⟨⟨none, "a"⟩, none, [q, p], [y, x]⟩, [inside [r, s]]⟩⟩
    d.root.toNode.Rearranged d'.root.toNode ∧
      d.canonicalize [] ["q"] = d'.canonicalize [] ["q", "q"] ∧
      d.canonicalize [0] [] = .error (.unboundPrefix "r") ∧
      d'.canonicalize [0] [] = .error (.unboundPrefix "r") := by
  intro p q x y s r inside d d'
  have houter : Tag.Rearranged ⟨⟨none, "a"⟩, none, [p, q], [x, y]⟩
      ⟨⟨none, "a"⟩, none, [q, p], [y, x]⟩ :=
    ⟨rfl, rfl, by decide, by decide, by decide, by decide⟩
  have hinner : Tag.Rearranged ⟨⟨some "q", "b"⟩, some "urn:q", [], [s, r]⟩
      ⟨⟨some "q", "b"⟩, some "urn:q", [], [r, s]⟩ :=
    ⟨rfl, rfl, by decide, by decide, by decide, by decide⟩
  have hrearranged : d.root.toNode.Rearranged d'.root.toNode :=
    .element houter (.cons (.element hinner (.cons .text .nil)) .nil)
  have hwords : ∀ word, word ∈ ["q"] ↔ word ∈ ["q", "q"] := by simp
  have hfault : d.canonicalize [0] [] = .error (.unboundPrefix "r") := by decide +kernel
  have hsame := Document.canonicalize_rearranged hrearranged [0] (fun word => Iff.refl (word ∈ []))
  exact ⟨hrearranged, Document.canonicalize_rearranged hrearranged [] hwords, hfault,
    hsame ▸ hfault⟩

/-- **Not so beside an attribute in the empty namespace**: it is sorted like one in no namespace, so
of two that have one local name the first stays in front. -/
theorem Document.canonicalize_order_of_empty_namespace :
    let x : Attribute := ⟨⟨none, "x"⟩, none, "1"⟩
    let y : Attribute := ⟨⟨some "p", "x"⟩, some "", "2"⟩
    let tag (attributes : List Attribute) : Tag :=
      ⟨⟨none, "a"⟩, none, [⟨some "p", ""⟩], attributes⟩
    let d : Document := ⟨⟨tag [x, y], []⟩⟩
    let d' : Document := ⟨⟨tag [y, x], []⟩⟩
    [x, y].Perm [y, x] ∧ ([x, y].map fun a => (a.ns, a.name.localPart)).Nodup ∧
      d.canonicalize [] [] = .ok "<a xmlns:p=\"\" x=\"1\" p:x=\"2\"></a>".toList ∧
      d'.canonicalize [] [] = .ok "<a xmlns:p=\"\" p:x=\"2\" x=\"1\"></a>".toList ∧
      d.canonicalize [] [] ≠ d'.canonicalize [] [] := by
  intro x y tag d d'
  -- both orders are sorted already
  have hsorted : [x, y].mergeSort attributeLE = [x, y] := List.mergeSort_of_pairwise (by decide)
  have hsorted' : [y, x].mergeSort attributeLE = [y, x] := List.mergeSort_of_pairwise (by decide)
  have hout : d.canonicalize [] [] = .ok "<a xmlns:p=\"\" x=\"1\" p:x=\"2\"></a>".toList := by
    have hcanonical : d.canonicalize [] [] = d.root.toNode.canonical [] [] [] := rfl
    rw [hcanonical]
    simp only [d, Element.toNode, Node.canonical, Tag.write, tag, hsorted]
    decide +kernel
  have hout' : d'.canonicalize [] [] = .ok "<a xmlns:p=\"\" p:x=\"2\" x=\"1\"></a>".toList := by
    have hcanonical : d'.canonicalize [] [] = d'.root.toNode.canonical [] [] [] := rfl
    rw [hcanonical]
    simp only [d', Element.toNode, Node.canonical, Tag.write, tag, hsorted']
    decide +kernel
  refine ⟨by decide, by decide, hout, hout', ?_⟩
  rw [hout, hout']
  decide

end FiscalGateway.Xml

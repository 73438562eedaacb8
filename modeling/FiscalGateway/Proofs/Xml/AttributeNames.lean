import FiscalGateway.Proofs.Xml.Minimal
import FiscalGateway.Proofs.Xml.Rearranged

/-!
# Names of attributes — told apart as they are written

A tag that gives a name twice is refused, but names are compared as they are written, before their
prefixes are looked up. So two attributes of an element have one namespace and one local name
exactly if different prefixes of one namespace stand before that local name (`Tag.HasAliases`).
Where none do, look-ups and canonical form do not depend on the order of attributes
(`Document.attributes_of_parse`); where two do, both depend on it
(`Document.expandedNames_not_nodup`).
-/

namespace FiscalGateway.Xml

variable {scope inner : Scope} {outer : Context}

/-! ## Scopes -/

/-- What a tag declares is definite. -/
theorem Scope.IsDefinite.declare {tag : Tag} (hs : scope.IsDefinite) (h : tag.ResolvedIn outer) :
    (scope.declare tag.declarations).IsDefinite := by
  intro q uri huri
  rw [uri?_declare h.nodup_declarations] at huri
  cases hfind : tag.declarations.find? (·.nsPrefix = some q) with
  | none =>
    rw [hfind] at huri
    exact hs q uri huri
  | some d =>
    rw [hfind] at huri
    obtain rfl : d.uri = uri := Option.some.inj huri
    have hd : d ∈ tag.declarations := List.mem_of_find?_eq_some hfind
    have hq : d.nsPrefix = some q := by
      have hsome := List.find?_some hfind
      exact of_decide_eq_true hsome
    have hread : (TagPart.declares d).IsRead :=
      h.read _ (List.mem_append_left _ (List.mem_map_of_mem hd))
    exact TagPart.isRead_declares.1 hread (by simp [hq])

theorem Element.isDefinite_scopeAround {e x : Element} {path : Path} (h : e.descend? path = some x)
    (hres : e.toNode.ResolvedIn outer) (hs : scope.IsDefinite) :
    (e.scopeAround scope path).IsDefinite := by
  induction path generalizing e scope outer with
  | nil => exact hs
  | cons i path ih =>
    rw [descend?] at h
    obtain ⟨c, hc, hpath⟩ := Option.bind_eq_some_iff.1 h
    rw [scopeAround_cons hc]
    cases hres with
    | element htag hchildren _ =>
      exact ih hpath (hchildren _ (toNode_mem_of_child? hc)) (hs.declare htag)

/-! ## Sorting -/

/-- Of two entries of a list without repetition, one stands in front. -/
theorem not_pair_sublist_swap {α : Type} {l : List α} {a b : α} (hl : l.Nodup)
    (h : [a, b].Sublist l) : ¬ [b, a].Sublist l := by
  intro h'
  induction l with
  | nil => cases h
  | cons c l ih =>
    obtain ⟨hc, hl⟩ := List.nodup_cons.1 hl
    rw [List.cons_sublist_cons'] at h h'
    rcases h with h | ⟨rfl, hb⟩ <;> rcases h' with h' | ⟨rfl, ha⟩
    · exact ih hl h h'
    · exact hc (h.subset (by simp))
    · exact hc (h'.subset (by simp))
    · exact hc (hb.subset (by simp))

/-- **Two attributes that are sorted by the same** stay in the order in which they stood. -/
theorem exists_perm_mergeSort_ne {attributes : List Attribute} (hnodup : attributes.Nodup)
    {a b : Attribute} (ha : a ∈ attributes) (hb : b ∈ attributes) (hne : a ≠ b)
    (hkey : a.key = b.key) : ∃ attributes' : List Attribute, attributes'.Perm attributes ∧
      attributes'.mergeSort attributeLE ≠ attributes.mergeSort attributeLE := by
  obtain ⟨hns, hlocal⟩ := Prod.mk.inj hkey
  have hab : attributeLE a b = true := by simp [attributeLE, hns, hlocal]
  have hba : attributeLE b a = true := by simp [attributeLE, hns, hlocal]
  have hb' : b ∈ attributes.erase a := (List.mem_erase_of_ne (Ne.symm hne)).2 hb
  have hperm : (a :: b :: (attributes.erase a).erase b).Perm attributes :=
    (((List.perm_cons_erase hb').symm).cons a).trans (List.perm_cons_erase ha).symm
  have hperm' : (b :: a :: (attributes.erase a).erase b).Perm attributes :=
    (List.Perm.swap a b _).trans hperm
  have hstands : ∀ c c' : Attribute, [c, c'].Sublist (c :: c' :: (attributes.erase a).erase b) :=
    fun c c' => ((List.nil_sublist _).cons_cons c').cons_cons c
  have hfirst := List.pair_sublist_mergeSort attributeLE_trans attributeLE_total hab (hstands a b)
  have hsecond := List.pair_sublist_mergeSort attributeLE_trans attributeLE_total hba (hstands b a)
  -- one order of the two is the wrong one
  by_contra hsame
  push Not at hsame
  rw [hsame _ hperm] at hfirst
  rw [hsame _ hperm'] at hsecond
  have hsorted : (attributes.mergeSort attributeLE).Nodup :=
    (List.mergeSort_perm _ _).nodup_iff.2 hnodup
  exact not_pair_sublist_swap hsorted hfirst hsecond

/-! ## Tags -/

namespace Tag

variable {tag : Tag}

/-- The names of the attributes with their namespaces. -/
def expandedNames (tag : Tag) : List (Option String × String) :=
  tag.attributes.map fun a => (a.ns, a.name.localPart)

/-- **Different prefixes of one namespace** stand before one local name. -/
def HasAliases (scope : Scope) (tag : Tag) : Prop :=
  ∃ a ∈ tag.attributes, ∃ b ∈ tag.attributes, a.name.localPart = b.name.localPart ∧
    a.name.nsPrefix ≠ b.name.nsPrefix ∧
    scope.attributeNamespace? a.name = scope.attributeNamespace? b.name

section Resolved

variable (h : tag.ResolvedIn outer) (hs : inner.Sees (tag.declarations :: outer))

include h hs

/-- **Expanded names are unique** exactly if there are no aliases, since names as they are written
are unique. -/
theorem ResolvedIn.nodup_expandedNames_iff :
    tag.expandedNames.Nodup ↔ ¬ tag.HasAliases inner := by
  rw [expandedNames, List.nodup_map_iff_inj_on h.nodup_attributes.of_map]
  constructor
  · rintro hinj ⟨a, ha, b, hb, hlocal, hdiffer, hns⟩
    have hsame : a.ns = b.ns := by rw [h.ns_eq hs ha, h.ns_eq hs hb, hns]
    exact hdiffer (by rw [hinj a ha b hb (Prod.ext hsame hlocal)])
  · intro hnone a ha b hb hexpanded
    obtain ⟨hns, hlocal⟩ := Prod.mk.inj hexpanded
    rw [h.ns_eq hs ha, h.ns_eq hs hb] at hns
    by_contra hne
    refine hnone ⟨a, ha, b, hb, hlocal, fun hwritten => hne ?_, hns⟩
    have hname : a.name = b.name := by
      rw [show a.name = ⟨a.name.nsPrefix, a.name.localPart⟩ from rfl, hwritten, hlocal]
    exact List.inj_on_of_nodup_map h.nodup_attributes ha hb hname

/-- No attribute is in the empty namespace. -/
theorem ResolvedIn.ns_ne_empty (hdefinite : inner.IsDefinite) {a : Attribute}
    (ha : a ∈ tag.attributes) : a.ns ≠ some "" := by
  intro hempty
  have hplain : a.name.nsPrefix = none :=
    (h.nsPrefix_eq_none_iff hs hdefinite ha).2 (by rw [hempty]; rfl)
  rw [h.ns_eq hs ha, Scope.attributeNamespace?, hplain] at hempty
  contradiction

/-- Attributes with different expanded names are not sorted by the same. -/
theorem ResolvedIn.nodup_keys (hdefinite : inner.IsDefinite) (hnodup : tag.expandedNames.Nodup) :
    (tag.attributes.map Attribute.key).Nodup := by
  refine (List.nodup_map_iff_inj_on h.nodup_attributes.of_map).2 fun a ha b hb hkey => ?_
  obtain ⟨hdefault, hlocal⟩ := Prod.mk.inj hkey
  have hns : a.ns = b.ns := by
    have hfirst := h.ns_ne_empty hs hdefinite ha
    have hsecond := h.ns_ne_empty hs hdefinite hb
    cases ha' : a.ns <;> cases hb' : b.ns <;> simp_all
  exact List.inj_on_of_nodup_map hnodup ha hb (Prod.ext hns hlocal)

end Resolved

end Tag

/-! ## Documents -/

/-- A look-up in a namespace meets one attribute at most, if expanded names are unique. -/
theorem Element.attributeIn?_eq_of_perm {e e' : Element} (hnodup : e.tag.expandedNames.Nodup)
    (hperm : e'.tag.attributes.Perm e.tag.attributes) (ns l : String) :
    e'.attributeIn? ns l = e.attributeIn? ns l := by
  have hname : ∀ a ∈ e.tag.attributes, (a.name.localPart == l && a.ns == some ns) = true →
      (a.ns, a.name.localPart) = (some ns, l) := by
    intro a _ hal
    simp only [Bool.and_eq_true, beq_iff_eq] at hal
    exact Prod.ext hal.2 hal.1
  refine congrArg _ (find?_perm hperm fun a ha b hb hal hbl => ?_)
  exact List.inj_on_of_nodup_map hnodup ha hb ((hname a ha hal).trans (hname b hb hbl).symm)

section Reading

variable {input : Octets} {d : Document} {path : Path} {e : Element}

/-- **What can be said of the attributes of a document that was read.** Their names are unique as
they are written, and with their namespaces exactly if there are no aliases in the scope of the
element. Attributes without namespace are found whatever the order is, and those in a namespace are
where there are no aliases; and exactly there canonical form writes all of them in one order. -/
theorem Document.attributes_of_parse (hparse : Document.parse input = .ok d)
    (he : d.elementAt? path = some e) :
    (e.tag.attributes.map (·.name)).Nodup ∧
      (e.tag.expandedNames.Nodup ↔ ¬ e.tag.HasAliases (d.scopeAt path)) ∧
      (∀ e' : Element, e'.tag.attributes.Perm e.tag.attributes →
        (∀ l, e'.attribute? l = e.attribute? l) ∧
          (¬ e.tag.HasAliases (d.scopeAt path) →
            ∀ ns l, e'.attributeIn? ns l = e.attributeIn? ns l)) ∧
      ((∀ attributes : List Attribute, attributes.Perm e.tag.attributes →
          attributes.mergeSort attributeLE = e.tag.attributes.mergeSort attributeLE) ↔
        ¬ e.tag.HasAliases (d.scopeAt path)) := by
  have hres := Document.resolved_of_parse hparse
  obtain ⟨context, hx, hsees, -⟩ := Element.resolvedIn_of_descend? he hres Scope.sees_nil
  have hdefinite : (d.root.scopeAround [] path).IsDefinite :=
    Element.isDefinite_scopeAround he hres fun _ _ => nofun
  have hscope : d.scopeAt path = (d.root.scopeAround [] path).declare e.tag.declarations :=
    Element.scopeAt_eq he []
  cases hx with
  | element htag _ _ =>
    have hinner := hsees.declare htag.nodup_declarations
    have hnodup := htag.nodup_expandedNames_iff hinner
    rw [hscope]
    refine ⟨htag.nodup_attributes, hnodup, fun e' hperm => ⟨?_, fun hnone => ?_⟩, ?_, ?_⟩
    · exact Element.attribute?_eq_of_perm htag hperm
    · exact Element.attributeIn?_eq_of_perm (hnodup.2 hnone) hperm
    · rintro hsame ⟨a, ha, b, hb, hlocal, hdiffer, hns⟩
      -- two aliases have one key, so sorting leaves them in the order in which they came
      have hne : a ≠ b := fun hab => hdiffer (by rw [hab])
      have hkey : a.key = b.key := by
        rw [Attribute.key, Attribute.key, htag.ns_eq hinner ha, htag.ns_eq hinner hb, hns, hlocal]
      obtain ⟨attributes, hperm, hother⟩ :=
        exists_perm_mergeSort_ne htag.nodup_attributes.of_map ha hb hne hkey
      exact hother (hsame attributes hperm)
    · intro hnone attributes hperm
      have hkeys := htag.nodup_keys hinner (hdefinite.declare htag) (hnodup.2 hnone)
      exact (mergeSort_attributeLE_eq_of_perm hperm.symm hkeys).symm

end Reading

/-- Three attributes of one local name, two of them in different namespaces. -/
theorem attributes_of_parse_specimen :
    ∃ d, Document.parse (Octets.ofText
        "<a xmlns:p=\"u\" xmlns:q=\"v\" p:x=\"1\" q:x=\"2\" x=\"3\"/>") = .ok d ∧
      d.root.tag.expandedNames.Nodup ∧ ¬ d.root.tag.HasAliases (d.scopeAt []) := by
  let d : Document := ⟨⟨⟨⟨none, "a"⟩, none, [⟨some "p", "u"⟩, ⟨some "q", "v"⟩],
    [⟨⟨some "p", "x"⟩, some "u", "1"⟩, ⟨⟨some "q", "x"⟩, some "v", "2"⟩,
      ⟨⟨none, "x"⟩, none, "3"⟩]⟩, []⟩⟩
  have hread : Document.parse (Octets.ofText
      "<a xmlns:p=\"u\" xmlns:q=\"v\" p:x=\"1\" q:x=\"2\" x=\"3\"/>") = .ok d := by
    rw [Document.parse, Octets.toText?_ofText]
    decide +kernel
  have hnodup : d.root.tag.expandedNames.Nodup := by decide
  have hroot : d.elementAt? [] = some d.root := rfl
  obtain ⟨-, hiff, -⟩ := Document.attributes_of_parse hread hroot
  exact ⟨d, hread, hnodup, hiff.1 hnodup⟩

/-- **Expanded names need not be unique.** Two prefixes of one namespace stand before one local
name; what is found in that namespace, and which attribute canonical form writes first, depends on
their order. -/
theorem Document.expandedNames_not_nodup :
    ∃ d d', Document.parse (Octets.ofText
        "<a xmlns:p=\"u\" xmlns:q=\"u\" p:x=\"1\" q:x=\"2\"/>") = .ok d ∧
      Document.parse (Octets.ofText
        "<a xmlns:p=\"u\" xmlns:q=\"u\" q:x=\"2\" p:x=\"1\"/>") = .ok d' ∧
      d.root.tag.attributes.Perm d'.root.tag.attributes ∧ ¬ d.root.tag.expandedNames.Nodup ∧
      d.root.attributeIn? "u" "x" = some "1" ∧ d'.root.attributeIn? "u" "x" = some "2" ∧
      d.root.tag.attributes.mergeSort attributeLE ≠
        d'.root.tag.attributes.mergeSort attributeLE := by
  let x : Attribute := ⟨⟨some "p", "x"⟩, some "u", "1"⟩
  let y : Attribute := ⟨⟨some "q", "x"⟩, some "u", "2"⟩
  let d (attributes : List Attribute) : Document :=
    ⟨⟨⟨⟨none, "a"⟩, none, [⟨some "p", "u"⟩, ⟨some "q", "u"⟩], attributes⟩, []⟩⟩
  have hread : Document.parse (Octets.ofText
      "<a xmlns:p=\"u\" xmlns:q=\"u\" p:x=\"1\" q:x=\"2\"/>") = .ok (d [x, y]) := by
    rw [Document.parse, Octets.toText?_ofText]
    decide +kernel
  have hread' : Document.parse (Octets.ofText
      "<a xmlns:p=\"u\" xmlns:q=\"u\" q:x=\"2\" p:x=\"1\"/>") = .ok (d [y, x]) := by
    rw [Document.parse, Octets.toText?_ofText]
    decide +kernel
  have hsorted : [x, y].mergeSort attributeLE = [x, y] := List.mergeSort_of_pairwise (by decide)
  have hsorted' : [y, x].mergeSort attributeLE = [y, x] := List.mergeSort_of_pairwise (by decide)
  have hne : [x, y].mergeSort attributeLE ≠ [y, x].mergeSort attributeLE := by
    rw [hsorted, hsorted']
    decide
  exact ⟨d [x, y], d [y, x], hread, hread', by decide, by decide, by decide, by decide, hne⟩

end FiscalGateway.Xml

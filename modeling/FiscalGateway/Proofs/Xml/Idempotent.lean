import FiscalGateway.Proofs.Xml.Independence
import FiscalGateway.Proofs.Xml.Preserved

/-!
# Idempotence — canonical form has no other canonical form

Settling a settled tree, with another list of inclusive prefixes, is settling it once with the
prefixes that both lists have (`settle_settle_of_common`): nothing is left to sort or to drop, and
of the declarations those stay that both would have made (`Tag.ResolvedIn.settle_settle`). For one
list a settled tree is settled already, so canonical form, read and written again, stays what it is
(`Document.canonicalize_idempotent`), as long as all names are proper: a target that the reader cuts
short to `xml` is written as the header of a document, and lost
(`Document.canonicalize_not_idempotent`).
-/

namespace FiscalGateway.Xml

variable {inclusive inclusive' common : List (Option String)}
variable {scope inner rendered rendered' : Scope} {outer context : Context}

/-! ## Attributes in order -/

theorem attributeLE_total (a b : Attribute) : (attributeLE a b || attributeLE b a) = true := by
  simp only [attributeLE]
  by_cases h : a.ns.getD "" = b.ns.getD ""
  · simp [h, String.le_total]
  · simp [h, Ne.symm h, String.le_total]

theorem attributeLE_trans (a b c : Attribute) (hab : attributeLE a b = true)
    (hbc : attributeLE b c = true) : attributeLE a c = true := by
  simp only [attributeLE] at hab hbc ⊢
  split at hab
  · next h =>
    rw [h]
    split at hbc
    · next h' =>
      rw [if_pos h']
      simp only [decide_eq_true_eq] at hab hbc ⊢
      exact String.le_trans hab hbc
    · next h' =>
      rw [if_neg h']
      exact hbc
  · -- different namespaces decide at once, the same one leaves it to the names
    next h =>
    simp only [decide_eq_true_eq] at hab
    split at hbc
    · next h' =>
      rw [← h', if_neg h]
      simpa using hab
    · next h' =>
      simp only [decide_eq_true_eq] at hbc
      have hne : a.ns.getD "" ≠ c.ns.getD "" := by
        intro e
        rw [e] at hab
        exact h' (String.le_antisymm hbc hab)
      rw [if_neg hne]
      simpa using String.le_trans hab hbc

/-- Attributes that are in order stay where they are. -/
theorem mergeSort_mergeSort_attributeLE (attributes : List Attribute) :
    (attributes.mergeSort attributeLE).mergeSort attributeLE = attributes.mergeSort attributeLE :=
  List.mergeSort_of_pairwise
    (List.pairwise_mergeSort attributeLE_trans attributeLE_total attributes)

/-! ## Declarations -/

/-- Prefixes in order are determined by which they are. -/
theorem StrictlySorted.ext {ps qs : List (Option String)} (hps : StrictlySorted ps)
    (hqs : StrictlySorted qs) (h : ∀ p, p ∈ ps ↔ p ∈ qs) : ps = qs := by
  have hperm : List.Perm ps qs :=
    (List.perm_ext_iff_of_nodup (hps.imp fun h => h.2) (hqs.imp fun h => h.2)).2 h
  exact hperm.eq_of_pairwise (fun p q _ _ hpq hqp => prefixLE_antisymm hpq.1 hqp.1) hps hqs

namespace Scope

variable {s t : Scope} {p : Option String} {ps qs : List (Option String)}

/-- The scope that the output makes inside a tag: what the tag needed, and else what was there. -/
theorem uri?_declare_required_eq (hps : ps.Nodup) :
    (rendered.declare (inner.required rendered ps)).uri? p =
      if p ∈ ps ∧ inner.requires rendered p then some ((inner.uri? p).getD "")
      else rendered.uri? p := by
  rw [uri?_declare (nodup_required hps), find?_required]
  split <;> rfl

theorem uri?_declare_required_of_not_mem (hps : ps.Nodup) (hp : p ∉ ps) :
    (rendered.declare (inner.required rendered ps)).uri? p = rendered.uri? p := by
  rw [uri?_declare_required_eq hps, if_neg fun h => hp h.1]

theorem uri?_eq_none_of_declare_required (hps : ps.Nodup)
    (h : (rendered.declare (inner.required rendered ps)).uri? p = none) :
    rendered.uri? p = none := by
  rw [uri?_declare_required_eq hps] at h
  split at h
  · contradiction
  · exact h

theorem requires_xml : inner.requires rendered (some "xml") = false := by simp [requires]

theorem uri?_xml_declare_required (hps : ps.Nodup) :
    (rendered.declare (inner.required rendered ps)).uri? (some "xml") =
      rendered.uri? (some "xml") := by
  rw [uri?_declare_required_eq hps, requires_xml]
  exact if_neg fun h => Bool.false_ne_true h.2

theorem ne_xml_of_requires (h : inner.requires rendered p = true) : p ≠ some "xml" := by
  rintro rfl
  rw [requires_xml] at h
  contradiction

theorem agreeOn_of_eq (h : s.uri? p = t.uri? p) : AgreeOn [p] s t :=
  List.forall_mem_singleton.2 (.inl h)

theorem AgreeOn.at (h : AgreeOn ps s t) (hp : p ∈ ps) : AgreeOn [p] s t :=
  List.forall_mem_singleton.2 (h p hp)

theorem agreeOn_iff : AgreeOn ps s t ↔ ∀ p ∈ ps, AgreeOn [p] s t :=
  ⟨fun h _ hp => h.at hp, fun h p hp => h p hp p List.mem_cons_self⟩

theorem AgreeOn.eq {q : String} (h : AgreeOn [some q] s t) : s.uri? (some q) = t.uri? (some q) :=
  (h _ List.mem_cons_self).resolve_right nofun

theorem AgreeOn.getD_eq (h : AgreeOn [p] s t) : (s.uri? p).getD "" = (t.uri? p).getD "" := by
  rcases h p List.mem_cons_self with hsame | ⟨rfl, hdefault⟩
  · rw [hsame]
  · exact hdefault

theorem AgreeOn.symm (h : AgreeOn [p] s t) : AgreeOn [p] t s :=
  List.forall_mem_singleton.2 <|
    (h p List.mem_cons_self).imp Eq.symm fun hdefault => ⟨hdefault.1, hdefault.2.symm⟩

theorem AgreeOn.trans {u : Scope} (h : AgreeOn [p] s t) (h' : AgreeOn [p] t u) :
    AgreeOn [p] s u := by
  cases p with
  | none => exact List.forall_mem_singleton.2 (.inr ⟨rfl, h.getD_eq.trans h'.getD_eq⟩)
  | some q => exact agreeOn_of_eq (h.eq.trans h'.eq)

/-- **What a tag uses means in the output what it means in the source.** -/
theorem agreeOn_declare_required (hps : ps.Nodup) (hbinds : inner.Binds ps) (hp : p ∈ ps)
    (hxml : p ≠ some "xml") :
    AgreeOn [p] (rendered.declare (inner.required rendered ps)) inner := by
  cases p with
  | none => exact List.forall_mem_singleton.2 (.inr ⟨rfl, default_declare_required hps hp⟩)
  | some q =>
    have hq : q ≠ "xml" := fun e => hxml (congrArg some e)
    obtain ⟨uri, hu⟩ := hbinds q hp hq
    exact agreeOn_of_eq (by rw [uri?_declare_required hps hp hq hu, hu])

/-- What is needed depends on what a prefix is bound to, none and the empty namespace alike. -/
theorem AgreeOn.requires_eq (h : AgreeOn [p] s t) :
    s.requires rendered p = t.requires rendered p := by
  simp only [requires, h.getD_eq]

/-- A binding that the output has already is not needed again. -/
theorem AgreeOn.requires_eq_false (h : AgreeOn [p] s rendered)
    (hbound : p ≠ none → s.uri? p ≠ none) : s.requires rendered p = false := by
  unfold requires
  cases p with
  | none =>
    have hdefault := h.getD_eq
    rw [hdefault]
    cases hr : rendered.uri? none with
    | none => simp
    | some uri => by_cases huri : uri = "" <;> simp [huri]
  | some q =>
    obtain ⟨uri, hu⟩ := Option.ne_none_iff_exists'.1 (hbound nofun)
    simp [← h.eq, hu]

/-- **One set of declarations**: the same prefixes are needed in both, and mean the same. -/
theorem required_congr {rendered' : Scope} (hps : StrictlySorted ps) (hqs : StrictlySorted qs)
    (hneeded : ∀ p, p ∈ ps ∧ s.requires rendered p = true ↔
      p ∈ qs ∧ t.requires rendered' p = true)
    (hsame : ∀ p ∈ ps, s.requires rendered p = true → AgreeOn [p] s t) :
    s.required rendered ps = t.required rendered' qs := by
  have hfilter : ps.filter (s.requires rendered) = qs.filter (t.requires rendered') :=
    StrictlySorted.ext (hps.sublist List.filter_sublist) (hqs.sublist List.filter_sublist)
      fun p => by rw [List.mem_filter, List.mem_filter, hneeded p]
  rw [required, required, ← hfilter]
  refine List.map_congr_left fun p hp => ?_
  obtain ⟨hmem, hr⟩ := List.mem_filter.1 hp
  rw [declaration, declaration, (hsame p hmem hr).getD_eq]

end Scope

/-! ## Tags -/

namespace Tag

variable {tag : Tag} {p : Option String}

/-- A tag uses the prefixes of its names, and inclusive ones that are in scope. -/
theorem mem_usedPrefixes_iff : p ∈ tag.usedPrefixes scope inclusive ↔
    p ∈ tag.prefixes ∨ p ∈ inclusive ∧ (scope.uri? p).isSome := by
  simp only [usedPrefixes, prefixes, mem_sortPrefixes, List.mem_append, List.mem_filter]

theorem strictlySorted_usedPrefixes : StrictlySorted (tag.usedPrefixes scope inclusive) :=
  strictlySorted_sortPrefixes _

theorem mem_prefixes_settle :
    p ∈ (tag.settle inclusive inner rendered).prefixes ↔ p ∈ tag.prefixes := by
  simp only [prefixes, settle, List.mem_cons, List.mem_filter, List.mem_map, List.mem_mergeSort]

/-- The scope in which a settled tag is read again: what the output had, and what the tag
declares. -/
abbrev again (inclusive : List (Option String)) (inner rendered : Scope) (tag : Tag) : Scope :=
  rendered.declare (tag.settle inclusive inner rendered).declarations

theorem ResolvedIn.agreeOn_again (h : tag.ResolvedIn outer)
    (hs : inner.Sees (tag.declarations :: outer)) (hp : p ∈ tag.usedPrefixes inner inclusive)
    (hxml : p ≠ some "xml") : Scope.AgreeOn [p] (tag.again inclusive inner rendered) inner :=
  Scope.agreeOn_declare_required nodup_usedPrefixes (h.binds hs) hp hxml

theorem agreeOn_again_of_not_mem (hp : p ∉ tag.usedPrefixes inner inclusive) :
    Scope.AgreeOn [p] (tag.again inclusive inner rendered) rendered :=
  Scope.agreeOn_of_eq (Scope.uri?_declare_required_of_not_mem nodup_usedPrefixes hp)

theorem agreeOn_again_xml :
    Scope.AgreeOn [some "xml"] (tag.again inclusive inner rendered) rendered :=
  Scope.agreeOn_of_eq (Scope.uri?_xml_declare_required nodup_usedPrefixes)

/-- A prefix that has to be declared again is in scope there: the output has no default namespace to
undo where it has none. -/
theorem ResolvedIn.isSome_again (h : tag.ResolvedIn outer)
    (hs : inner.Sees (tag.declarations :: outer)) (hp : p ∈ tag.usedPrefixes inner inclusive)
    (hsome : (inner.uri? p).isSome) (hagree : Scope.AgreeOn [p] rendered rendered')
    (hr : (tag.again inclusive inner rendered).requires rendered' p = true) :
    ((tag.again inclusive inner rendered).uri? p).isSome := by
  rw [Option.isSome_iff_ne_none] at hsome ⊢
  intro hnone
  cases p with
  | some q =>
    exact hsome ((h.agreeOn_again hs hp (Scope.ne_xml_of_requires hr)).eq.symm.trans hnone)
  | none =>
    have hrendered : rendered.uri? none = none :=
      Scope.uri?_eq_none_of_declare_required nodup_usedPrefixes hnone
    have hsame := (Scope.agreeOn_of_eq (hnone.trans hrendered.symm)).trans hagree
    rw [hsame.requires_eq_false fun hne => absurd rfl hne] at hr
    contradiction

variable (hcommon : ∀ p, p ∈ common ↔ p ∈ inclusive ∧ p ∈ inclusive')

include hcommon

/-- What is used with the prefixes that two lists have in common is used with the first. -/
theorem mem_usedPrefixes_of_common (hp : p ∈ tag.usedPrefixes inner common) :
    p ∈ tag.usedPrefixes inner inclusive := by
  rw [mem_usedPrefixes_iff] at hp ⊢
  exact hp.imp_right fun h => ⟨((hcommon p).1 h.1).1, h.2⟩

variable (h : tag.ResolvedIn outer) (hs : inner.Sees (tag.declarations :: outer))

include h hs

/-- **What has to be declared again**: what has to be declared at once for the prefixes that both
lists have. -/
theorem ResolvedIn.needed_again_iff (hagree : Scope.AgreeOn inclusive' rendered rendered') :
    p ∈ (tag.settle inclusive inner rendered).usedPrefixes (tag.again inclusive inner rendered)
          inclusive' ∧ (tag.again inclusive inner rendered).requires rendered' p = true ↔
      p ∈ tag.usedPrefixes inner common ∧ inner.requires rendered' p = true := by
  rw [mem_usedPrefixes_iff, mem_usedPrefixes_iff, mem_prefixes_settle]
  constructor
  · rintro ⟨hp, hr⟩
    by_cases hmem : p ∈ tag.usedPrefixes inner inclusive
    · refine ⟨?_, (h.agreeOn_again hs hmem (Scope.ne_xml_of_requires hr)).requires_eq ▸ hr⟩
      rcases mem_usedPrefixes_iff.1 hmem with hname | ⟨hword, hsome⟩
      · exact .inl hname
      · exact hp.imp_right fun hp => ⟨(hcommon p).2 ⟨hword, hp.1⟩, hsome⟩
    · -- a prefix that only the second list includes has been declared by the output around it
      have hname : p ∉ tag.prefixes := fun hname => hmem (mem_usedPrefixes_iff.2 (.inl hname))
      obtain ⟨hword, hsome⟩ := hp.resolve_left hname
      have hsame := (agreeOn_again_of_not_mem hmem).trans (hagree.at hword)
      rw [hsame.requires_eq_false fun _ => Option.isSome_iff_ne_none.1 hsome] at hr
      contradiction
  · rintro ⟨hp, hr⟩
    have hmem := mem_usedPrefixes_of_common hcommon (mem_usedPrefixes_iff.2 hp)
    have hr' : (tag.again inclusive inner rendered).requires rendered' p = true :=
      (h.agreeOn_again hs hmem (Scope.ne_xml_of_requires hr)).requires_eq ▸ hr
    refine ⟨hp.imp_right fun hincluded => ?_, hr'⟩
    have hword := ((hcommon p).1 hincluded.1).2
    exact ⟨hword, h.isSome_again hs hmem hincluded.2 (hagree.at hword) hr'⟩

/-- **Settling a settled tag** with another list is settling it once, with the prefixes that both
lists have, if the outputs agree on what the second list includes. -/
theorem ResolvedIn.settle_settle (hagree : Scope.AgreeOn inclusive' rendered rendered') :
    (tag.settle inclusive inner rendered).settle inclusive' (tag.again inclusive inner rendered)
        rendered' = tag.settle common inner rendered' := by
  have hdeclarations := Scope.required_congr strictlySorted_usedPrefixes
    strictlySorted_usedPrefixes (fun _ => h.needed_again_iff hcommon hs hagree) fun p hp hr =>
      have hmem := ((h.needed_again_iff hcommon hs hagree).1 ⟨hp, hr⟩).1
      h.agreeOn_again hs (mem_usedPrefixes_of_common hcommon hmem) (Scope.ne_xml_of_requires hr)
  simp only [Tag.settle, Tag.mk.injEq, true_and]
  exact ⟨hdeclarations, mergeSort_mergeSort_attributeLE _⟩

/-- The outputs go on agreeing on what the second list includes. -/
theorem ResolvedIn.agreeOn_settle (hagree : Scope.AgreeOn inclusive' rendered rendered') :
    Scope.AgreeOn inclusive' (tag.again inclusive inner rendered)
      (tag.again common inner rendered') := by
  refine Scope.agreeOn_iff.2 fun p hword => ?_
  by_cases hxml : p = some "xml"
  · subst hxml
    exact agreeOn_again_xml.trans ((hagree.at hword).trans agreeOn_again_xml.symm)
  by_cases hmem : p ∈ tag.usedPrefixes inner common
  · have hfirst := mem_usedPrefixes_of_common hcommon hmem
    exact (h.agreeOn_again hs hfirst hxml).trans (h.agreeOn_again hs hmem hxml).symm
  · have hfirst : p ∉ tag.usedPrefixes inner inclusive := by
      rw [mem_usedPrefixes_iff] at hmem ⊢
      exact fun hp => hmem (hp.imp_right fun hp => ⟨(hcommon p).2 ⟨hp.1, hword⟩, hp.2⟩)
    exact (agreeOn_again_of_not_mem hfirst).trans
      ((hagree.at hword).trans (agreeOn_again_of_not_mem hmem).symm)

end Tag

/-! ## Trees -/

theorem isEmptyText_settle (n : Node) :
    (n.settle inclusive scope rendered).isEmptyText = n.isEmptyText := by
  cases n <;> rfl

mutual

/-- **Settling a settled tree** with another list is settling it once, with the prefixes that both
lists have; the scope in between is what the first output has declared. -/
theorem settle_settle_of_common (hcommon : ∀ p, p ∈ common ↔ p ∈ inclusive ∧ p ∈ inclusive') :
    ∀ {n : Node} {scope rendered rendered' : Scope} {context : Context},
      n.ResolvedIn context → scope.Sees context → Scope.AgreeOn inclusive' rendered rendered' →
        (n.settle inclusive scope rendered).settle inclusive' rendered rendered' =
          n.settle common scope rendered'
  | .element tag children, scope, rendered, rendered', context, h, hs, hagree => by
    cases h with
    | element htag hchildren hseparated =>
      have hinner := hs.declare htag.nodup_declarations
      simp only [Node.settle, htag.settle_settle hcommon hinner hagree,
        settleAll_settleAll_of_common hcommon hchildren hinner
          (htag.agreeOn_settle hcommon hinner hagree)]
  | .text _, _, _, _, _, _, _, _ => rfl
  | .instruction _ _, _, _, _, _, _, _, _ => rfl

theorem settleAll_settleAll_of_common
    (hcommon : ∀ p, p ∈ common ↔ p ∈ inclusive ∧ p ∈ inclusive') :
    ∀ {nodes : List Node} {scope rendered rendered' : Scope} {context : Context},
      (∀ n ∈ nodes, n.ResolvedIn context) → scope.Sees context → Scope.AgreeOn inclusive' rendered rendered' →
        Node.settleAll inclusive' rendered rendered'
            (Node.settleAll inclusive scope rendered nodes) =
          Node.settleAll common scope rendered' nodes
  | [], _, _, _, _, _, _, _ => rfl
  | n :: nodes, scope, rendered, rendered', context, h, hs, hagree => by
    rw [List.forall_mem_cons] at h
    have hrest := settleAll_settleAll_of_common hcommon h.2 hs hagree
    rw [Node.settleAll, Node.settleAll]
    split
    · exact hrest
    · next hne =>
      rw [Node.settleAll, isEmptyText_settle, if_neg hne,
        settle_settle_of_common hcommon h.1 hs hagree, hrest]

end

/-- **A settled tree is settled where it is read again.** -/
theorem settle_settle {n : Node} (h : n.ResolvedIn context) (hs : scope.Sees context) :
    (n.settle inclusive scope rendered).settle inclusive rendered rendered =
      n.settle inclusive scope rendered :=
  settle_settle_of_common (fun _ => and_self_iff.symm) h hs fun _ _ => .inl rfl

/-! ## Documents -/

section Reading

variable {input : Octets} {d : Document} {path : Path} {e : Element}

/-- **Canonical form is idempotent** where all names are proper: it exists, is read, and what was
read has the same canonical form as a whole. -/
theorem Document.canonicalize_idempotent (h : Document.parse input = .ok d)
    (hnamed : d.root.toNode.NCNamed) (he : d.elementAt? path = some e) (words : List String) :
    ∃ out d', d.canonicalize path words = .ok out ∧
      Document.parse (Octets.ofText (String.ofList out)) = .ok d' ∧
        d'.canonicalize [] words = .ok out := by
  have hres := Document.resolved_of_parse h
  obtain ⟨context, hx, hsees, -⟩ := Element.resolvedIn_of_descend? he hres Scope.sees_nil
  have hout := Document.canonicalize_eq hres he words
  have hread := Document.ofChars_canonicalize hres hnamed he hout
  refine ⟨_, _, hout, (Document.parse_ofText _).trans hread, ?_⟩
  have hroot : ∀ d' : Document, d'.elementAt? [] = some d'.root := fun _ => rfl
  rw [Document.canonicalize_eq (Document.resolved_of_ofChars hread) (hroot _)]
  exact congrArg (fun n : Node => Except.ok n.print) (settle_settle hx hsees)

end Reading

theorem canonicalize_idempotent_specimen :
    ∃ d e, Document.parse (Octets.ofText (String.ofList specimenText)) = .ok d ∧
      d.root.toNode.NCNamed ∧ d.elementAt? [1] = some e ∧
      ∃ out d', d.canonicalize [1] ["q"] = .ok out ∧
        Document.parse (Octets.ofText (String.ofList out)) = .ok d' ∧
          d'.canonicalize [] ["q"] = .ok out := by
  obtain ⟨d, e, hparse, hnamed, he, -⟩ := exists_specimen
  exact ⟨d, e, hparse, hnamed, he, Document.canonicalize_idempotent hparse hnamed he ["q"]⟩

/-- **Not so where a target is cut short.** Behind the target `xml` stands a blank that is none in
markup; canonical form writes one that is, and what it writes is read as the header of a
document. -/
theorem Document.canonicalize_not_idempotent :
    ∃ d d', Document.parse (Octets.ofText "<a><?xml\u00A0d?></a>") = .ok d ∧
      d.canonicalize [] [] = .ok "<a><?xml d?></a>".toList ∧
      Document.parse (Octets.ofText "<a><?xml d?></a>") = .ok d' ∧
      d'.canonicalize [] [] = .ok "<a></a>".toList := by
  let tag : Tag := ⟨⟨none, "a"⟩, none, [], []⟩
  have hread : Document.parse (Octets.ofText "<a><?xml\u00A0d?></a>") =
      .ok ⟨⟨tag, [.instruction "xml" "d"]⟩⟩ := by
    rw [Document.parse, Octets.toText?_ofText]
    decide +kernel
  have hagain : Document.parse (Octets.ofText "<a><?xml d?></a>") = .ok ⟨⟨tag, []⟩⟩ := by
    rw [Document.parse, Octets.toText?_ofText]
    decide +kernel
  refine ⟨_, _, hread, ?_, hagain, ?_⟩
  · rw [Document.canonicalize_eq (Document.resolved_of_parse hread) rfl]
    simp only [Element.settle, Tag.settle, tag, List.mergeSort_nil]
    rfl
  · rw [Document.canonicalize_eq (Document.resolved_of_parse hagain) rfl]
    simp only [Element.settle, Tag.settle, tag, List.mergeSort_nil]
    rfl

end FiscalGateway.Xml

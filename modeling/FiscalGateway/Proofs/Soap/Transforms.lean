import FiscalGateway.Proofs.Soap.Digest
import FiscalGateway.Proofs.Xml.InTurn

/-!
# Several transforms — what is digested of a body, and what a signer digests

A reference may name several transforms, each a canonical form with a list of inclusive prefixes of
its own. A signer applies them in turn, each to what the one before has written. The check makes one
canonical form with the words of all the lists (`digestedBody_eq_flatten`), so the two digest the
same octets exactly if each word that is not on every list changes nothing
(`digestedBody_eq_inTurn_iff`). Where one does, they do not: a prefix that the first transform has
dropped is not there for the second one to keep (`digested_ne_inTurn`).
-/

namespace FiscalGateway.Soap

open Outcome
open Xml (Document Element commonWords)

/-- The lists of inclusive prefixes of the transforms of a reference, in order. -/
def transformLists (reference : Element) : List (List String) :=
  match reference.find? signatureNs "Transforms" with
  | none => []
  | some (_, transforms) => (transforms.findAll signatureNs "Transform").map inclusivePrefixes

theorem TransformPrefixes.eq_flatten {reference : Element} {prefixes : List String}
    (h : TransformPrefixes reference prefixes) : prefixes = (transformLists reference).flatten := by
  unfold transformLists
  rcases h with ⟨hnone, rfl⟩ | ⟨i, transforms, hfirst, -, rfl⟩
  · rw [Element.find?_eq_none_iff.2 hnone]
    rfl
  · rw [Element.find?_eq_some_iff.2 hfirst, List.flatMap_def]

variable {input : Octets} {d : Document} {signedInfo reference : Element}
  {octets stated : Octets}

/-- **What is digested** is one canonical form of the body, with the words of all transforms. -/
theorem digestedBody_eq_flatten (hdigested : digestedBody d signedInfo = .ok (octets, stated))
    (hreference : onlyReference signedInfo = .ok reference) :
    ∃ path body, locate d bodySteps .body = .ok (path, body) ∧ d.elementAt? path = some body ∧
      canonicalOctets d path (transformLists reference).flatten = .ok octets := by
  obtain ⟨hroot, body, r, rfl, -⟩ := digestedBody_eq_ok.1 hdigested
  obtain rfl : r.element = reference :=
    List.cons.inj (r.only.symm.trans (onlyReference_eq_ok.1 hreference)) |>.1
  refine ⟨[body.place], body.element, ?_, body.descend?, ?_⟩
  · exact locate_body_eq_ok.2 ⟨hroot, body, rfl, rfl⟩
  · rw [← r.transforms.eq_flatten]
    exact canonicalOctets_eq_ok.2 ⟨r.digested, r.canonical, rfl⟩

/-- **When the digest is that of the transforms in turn**: exactly if each word that is not on every
list changes nothing where it is the only one. In turn they are one canonical form with the words
that every list has; what is digested is one with the words that some list has. -/
theorem digestedBody_eq_inTurn_iff {words : List String} {rest : List (List String)}
    (hparse : Document.parse input = .ok d) (hnamed : d.root.toNode.NCNamed)
    (hdigested : digestedBody d signedInfo = .ok (octets, stated))
    (hreference : onlyReference signedInfo = .ok reference)
    (hlists : transformLists reference = words :: rest) :
    ∃ path body out, locate d bodySteps .body = .ok (path, body) ∧
      canonicalOctets d path (words :: rest).flatten = .ok octets ∧
      d.canonicalizeInTurn path words rest = .ok out ∧
      d.canonicalize path (commonWords words rest) = .ok out ∧
      (octets = octetsOf out ↔
        ∀ word ∈ (words :: rest).flatten, (∀ list ∈ words :: rest, word ∈ list) ∨
          d.canonicalize path [word] = d.canonicalize path []) := by
  obtain ⟨path, body, hbody, hat, hoctets⟩ := digestedBody_eq_flatten hdigested hreference
  rw [hlists] at hoctets
  obtain ⟨all, hall, rfl⟩ := canonicalOctets_eq_ok.1 hoctets
  have hout := Document.canonicalize_eq (Document.resolved_of_parse hparse) hat
    (commonWords words rest)
  have hturn := Document.canonicalizeInTurn_eq hparse hnamed hat words rest
  refine ⟨path, body, _, hbody, hoctets, hturn.trans hout, hout, ?_⟩
  rw [← Document.inTurn_eq_flatten_iff hparse hnamed hat, hturn, hall, hout, Except.ok.injEq]
  exact octetsOf_inj

/-! ### A message with several transforms -/

section Specimen

open Xml (Context Tag TagPart Node)

/-- A prefix that the body does not use is declared around it. -/
def specimenEnvelopeTag : Tag :=
  templateTag "s" "Envelope" envelopeNs [("s", envelopeNs), ("u", utilityNs), ("p", "urn:p")] []

def inclusiveTag (list : String) : Tag :=
  templateTag "c" "InclusiveNamespaces" canonicalAlgorithm [("c", canonicalAlgorithm)]
    [plainAttribute ("PrefixList", list)]

/-- A transform with a list of inclusive prefixes. -/
def specimenTransform (list : String) : Element :=
  ⟨algorithmTag "Transform" canonicalAlgorithm, [.element (inclusiveTag list) []]⟩

def specimenReference (lists : List String) : Element :=
  ⟨referenceTag, [.element (signatureTag "Transforms" [])
      (lists.map fun list => (specimenTransform list).toNode),
    .element (algorithmTag "DigestMethod" digestAlgorithm) [],
    (valueLeaf (signatureTag "DigestValue" []) [0]).toNode]⟩

def specimenSignedInfo (lists : List String) : Element :=
  ⟨signatureTag "SignedInfo" [], [(specimenReference lists).toNode]⟩

/-- A message with a transform for each list, and an empty body. -/
def specimenMessage (lists : List String) : Document :=
  ⟨⟨specimenEnvelopeTag, [.element headerTag [.element securityTag
    [.element signatureRootTag [(specimenSignedInfo lists).toNode]]], .element bodyTag []]⟩⟩

theorem specimenTransform_printable {outer : Context}
    (h : outer.resolve? (some "ds") = some signatureNs) (list : String) :
    (specimenTransform list).toNode.Printable outer := by
  have hns : canonicalAlgorithm ≠ "" := by decide
  have htag (outer : Context) : (inclusiveTag list).ResolvedIn outer := by
    constructor
    · simp [Context.elementNamespace, Context.resolve?, inclusiveTag, templateTag]
    · simp [Context.attribute, inclusiveTag, templateTag, plainAttribute]
    · simp [inclusiveTag, templateTag, Tag.parts, TagPart.name, TagPart.ofTagAttribute,
        plainAttribute, Xml.Declaration.name]
    · simp [inclusiveTag, templateTag, Tag.parts, plainAttribute, TagPart.isRead_declares,
        TagPart.isRead_ofTagAttribute, hns]
  have hnamed : (inclusiveTag list).NCNamed := by
    have h : (inclusiveTag "").NCNamed := by decide
    refine ⟨h.name, ?_, h.declarations⟩
    simpa [inclusiveTag, templateTag, plainAttribute] using h.attributes
  refine plainElement_printable h (by decide) (by decide) ?_
  simp only [specimenTransform, List.forall_mem_singleton]
  exact ⟨rfl, element_printable (htag _) hnamed (List.forall_mem_nil _)⟩

theorem specimenSignedInfo_printable {outer : Context} (h : BindsSignature outer)
    (lists : List String) : (specimenSignedInfo lists).toNode.Printable outer := by
  refine plainElement_printable h.ds (by decide) (by decide) ?_
  simp only [specimenSignedInfo, List.forall_mem_singleton]
  refine ⟨rfl, plainElement_printable h.inside.ds (by decide) (by decide) ?_⟩
  simp only [specimenReference, List.forall_mem_cons]
  refine ⟨⟨rfl, ?_⟩, ⟨rfl, ?_⟩, ⟨rfl, ?_⟩, List.forall_mem_nil _⟩
  · refine plainElement_printable h.inside.inside.ds (by decide) (by decide) ?_
    simp only [List.forall_mem_map]
    exact fun list _ => ⟨rfl, specimenTransform_printable h.inside.inside.inside.ds list⟩
  · exact plainLeaf_printable h.inside.inside.ds (by decide) (by decide)
  · exact signatureLeaf_printable h.inside.inside.ds (by decide) [0]

theorem specimenMessage_printable (lists : List String) :
    (specimenMessage lists).root.toNode.Printable [] := by
  have henvelope : specimenEnvelopeTag.ResolvedIn [] := by
    have hns : envelopeNs ≠ "" := by decide
    have hu : utilityNs ≠ "" := by decide
    constructor
    · simp [Context.elementNamespace, Context.resolve?, specimenEnvelopeTag, templateTag]
    · simp [specimenEnvelopeTag, templateTag]
    · decide
    · simp [specimenEnvelopeTag, templateTag, Tag.parts, TagPart.isRead_declares, hns, hu]
  have hs : Context.resolve? [specimenEnvelopeTag.declarations] (some "s") = some envelopeNs := by
    simp [Context.resolve?, specimenEnvelopeTag, templateTag]
  have hu : Context.resolve? [specimenEnvelopeTag.declarations] (some "u") = some utilityNs := by
    simp [Context.resolve?, specimenEnvelopeTag, templateTag]
  have hnamed : specimenEnvelopeTag.NCNamed := by decide
  refine element_printable henvelope hnamed ?_
  simp only [specimenMessage, List.forall_mem_cons]
  refine ⟨⟨rfl, plainElement_printable hs (by decide) (by decide) ?_⟩,
    ⟨rfl, element_printable (bodyTag_resolvedIn hs hu) (by decide) (List.forall_mem_nil _)⟩,
    List.forall_mem_nil _⟩
  simp only [List.forall_mem_singleton]
  refine ⟨rfl, element_printable (securityTag_resolvedIn hs) (by decide) ?_⟩
  simp only [List.forall_mem_singleton]
  refine ⟨rfl, element_printable signatureRootTag_resolvedIn (by decide) ?_⟩
  simp only [List.forall_mem_singleton]
  refine ⟨rfl, specimenSignedInfo_printable ⟨?_, ?_⟩ lists⟩
  · simp [Context.resolve?, signatureRootTag, templateTag]
  · simp [Context.resolve?, signatureRootTag, securityTag, templateTag]

theorem parse_specimenMessage (lists : List String) :
    Document.parse (octetsOf (specimenMessage lists).root.toNode.print) =
      .ok (specimenMessage lists) :=
  (parse_octetsOf _).trans (Xml.ofChars_print (specimenMessage_printable lists))

/-- The canonical form of its body. -/
def specimenForm (words : List String) : List Char :=
  let scope := Xml.Scope.declare [] specimenEnvelopeTag.declarations
  let declarations := scope.required [] (bodyTag.usedPrefixes scope (words.map Xml.prefixOfToken))
  (Node.element { bodyTag with declarations := declarations } []).print

theorem canonicalize_specimenMessage (lists words : List String) :
    (specimenMessage lists).canonicalize [1] words = .ok (specimenForm words) := by
  have hres := Document.resolved_of_parse (parse_specimenMessage lists)
  have hat : (specimenMessage lists).elementAt? [1] = some ⟨bodyTag, []⟩ := rfl
  rw [Document.canonicalize_eq hres hat]
  simp only [Element.settle, Tag.settle, bodyTag, templateTag, List.mergeSort_singleton]
  rfl

theorem digestedBody_specimenMessage (lists prefixes : List String)
    (htransforms : transformPrefixes (specimenReference lists) = .ok prefixes) :
    digestedBody (specimenMessage lists) (specimenSignedInfo lists) =
      .ok (octetsOf (specimenForm prefixes), [0]) := by
  have htarget : requireTarget (specimenReference lists) bodyId = .ok () :=
    requireTarget_eq_ok.2 ⟨"#" ++ bodyId, rfl, by rw [String.toList_append]; rfl⟩
  have hstated : decodeValue "DigestValue" (valueLeaf (signatureTag "DigestValue" []) [0]).text =
      .ok [0] := decodeValue_eq_ok.2 (holds_valueLeaf _ _)
  have hoctets := canonicalOctets_eq_ok.2 ⟨_, canonicalize_specimenMessage lists prefixes, rfl⟩
  simp only [digestedBody, bind_eq_ok]
  exact ⟨specimenReference lists, rfl, ([1], ⟨bodyTag, []⟩), rfl, bodyId, rfl, (), htarget,
    prefixes, htransforms, ⟨algorithmTag "DigestMethod" digestAlgorithm, []⟩, rfl, (), rfl,
    valueLeaf (signatureTag "DigestValue" []) [0], rfl, [0], hstated, _,
    mapError_eq_ok.2 hoctets, rfl⟩

/-- Two transforms, where a word of the second list is not in scope: the digest is that of the
transforms in turn. -/
theorem digestedBody_eq_inTurn_specimen : ∃ input octets stated path body out,
    Document.parse input = .ok (specimenMessage ["p", "p q"]) ∧
      (specimenMessage ["p", "p q"]).root.toNode.NCNamed ∧
      digestedBody (specimenMessage ["p", "p q"]) (specimenSignedInfo ["p", "p q"]) =
        .ok (octets, stated) ∧
      onlyReference (specimenSignedInfo ["p", "p q"]) = .ok (specimenReference ["p", "p q"]) ∧
      transformLists (specimenReference ["p", "p q"]) = [["p"], ["p", "q"]] ∧
      locate (specimenMessage ["p", "p q"]) bodySteps .body = .ok (path, body) ∧
      (specimenMessage ["p", "p q"]).canonicalizeInTurn path ["p"] [["p", "q"]] = .ok out ∧
      octets = octetsOf out := by
  have hparse := parse_specimenMessage ["p", "p q"]
  have hnamed := (specimenMessage_printable ["p", "p q"]).ncNamed
  have hdigested := digestedBody_specimenMessage ["p", "p q"] ["p", "p", "q"] rfl
  have hreference : onlyReference (specimenSignedInfo ["p", "p q"]) =
      .ok (specimenReference ["p", "p q"]) := rfl
  have hlists : transformLists (specimenReference ["p", "p q"]) = [["p"], ["p", "q"]] := rfl
  obtain ⟨path, body, out, hbody, -, hturn, -, hiff⟩ :=
    digestedBody_eq_inTurn_iff hparse hnamed hdigested hreference hlists
  obtain ⟨rfl, -⟩ : [1] = path ∧ ⟨bodyTag, []⟩ = body :=
    Prod.mk.inj (Except.ok.inj ((rfl : locate _ bodySteps .body = .ok ([1], _)).symm.trans hbody))
  -- the body uses no prefix, and `q` is bound nowhere
  have hidle : (specimenMessage ["p", "p q"]).canonicalize [1] ["q"] =
      (specimenMessage ["p", "p q"]).canonicalize [1] [] := by
    have hsame : specimenForm ["q"] = specimenForm [] := by decide +kernel
    rw [canonicalize_specimenMessage, canonicalize_specimenMessage, hsame]
  exact ⟨_, _, _, _, _, out, hparse, hnamed, hdigested, hreference, hlists, hbody, hturn,
    hiff.2 (by simp [hidle])⟩

/-- **Not so where a word is in scope.** The second of two transforms keeps a prefix that the body
does not use, after the first one has dropped it. -/
theorem digested_ne_inTurn : ∃ input octets stated out,
    Document.parse input = .ok (specimenMessage ["", "p"]) ∧
      (specimenMessage ["", "p"]).root.toNode.NCNamed ∧
      onlyReference (specimenSignedInfo ["", "p"]) = .ok (specimenReference ["", "p"]) ∧
      transformLists (specimenReference ["", "p"]) = [[], ["p"]] ∧
      digested? (specimenMessage ["", "p"]) = some (octets, stated) ∧
      (specimenMessage ["", "p"]).findPath? bodySteps = some [1] ∧
      (specimenMessage ["", "p"]).canonicalizeInTurn [1] [] [["p"]] = .ok out ∧
      octets ≠ octetsOf out := by
  have hparse := parse_specimenMessage ["", "p"]
  have hnamed := (specimenMessage_printable ["", "p"]).ncNamed
  have hdigested := digestedBody_specimenMessage ["", "p"] ["p"] rfl
  have hsignature : locate (specimenMessage ["", "p"]) signatureSteps .signature =
      .ok ([0, 0, 0], ⟨signatureRootTag, [(specimenSignedInfo ["", "p"]).toNode]⟩) := rfl
  have hinfo : Element.find? ⟨signatureRootTag, [(specimenSignedInfo ["", "p"]).toNode]⟩
      signatureNs "SignedInfo" = some (0, specimenSignedInfo ["", "p"]) := rfl
  have hturn := Document.canonicalizeInTurn_eq hparse hnamed
    (rfl : (specimenMessage ["", "p"]).elementAt? [1] = some ⟨bodyTag, []⟩) [] [["p"]]
  have hoctets : digested? (specimenMessage ["", "p"]) =
      some (octetsOf (specimenForm ["p"]), [0]) := by
    simp [digested?, hsignature, hinfo, hdigested, Except.toOption]
  -- all lists at once declare `p` on the body, one after the other they do not
  have hdiffer : specimenForm ["p"] ≠ specimenForm [] := by decide +kernel
  exact ⟨_, _, _, specimenForm [], hparse, hnamed, rfl, rfl, hoctets, rfl,
    hturn.trans (canonicalize_specimenMessage _ _), fun h => hdiffer (octetsOf_inj.1 h)⟩

end Specimen

end FiscalGateway.Soap

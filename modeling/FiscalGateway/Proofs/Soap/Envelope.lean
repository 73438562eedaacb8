import FiscalGateway.Proofs.Soap.Template
import FiscalGateway.Proofs.Xml.Query
import Mathlib.Data.List.Nodup

/-!
# Envelopes — how the template is read

The header of an envelope is read as the tree that was written (`headerElement_printable`). So an
envelope that can be read with empty slots can be read with any values in them, and the body and
what follows it are the same (`ofChars_filled_eq_ok`).
-/

namespace FiscalGateway.Soap

open Outcome Xml

/-! ## Tags -/

section Tags

variable {outer : Context} {p l ns : String} {attributes : List (String × String)}

/-- A plain tag is resolved where its prefix is bound. -/
theorem plainTag_resolvedIn (hns : outer.resolve? (some p) = some ns)
    (hdistinct : (attributes.map (·.1)).Nodup) (hassigns : "xmlns" ∉ attributes.map (·.1)) :
    (plainTag p l ns attributes).ResolvedIn outer := by
  have hcontext : Context.resolve? ([] :: outer) (some p) = outer.resolve? (some p) := rfl
  constructor
  · simp [Context.elementNamespace, plainTag, templateTag, hcontext, hns]
  · intro a ha
    obtain ⟨b, -, rfl⟩ := List.mem_map.1 ha
    rfl
  · have hname : Function.Injective fun l : String => (⟨none, l⟩ : QName) :=
      fun _ _ h => congrArg QName.localPart h
    have := List.Nodup.map hname hdistinct
    simpa [Tag.parts, plainTag, templateTag, TagPart.name, TagPart.ofTagAttribute, plainAttribute,
      Function.comp_def] using this
  · intro part hpart
    obtain ⟨a, ha, rfl⟩ : ∃ a ∈ attributes, .ofTagAttribute (plainAttribute a) = part := by
      simpa [Tag.parts, plainTag, templateTag] using hpart
    refine TagPart.isRead_ofTagAttribute.2 ⟨by simp [plainAttribute], fun h => hassigns ?_⟩
    exact List.mem_map.2 ⟨a, ha, congrArg QName.localPart h⟩

/-- And it has proper names if its parts do. -/
theorem plainTag_named (hp : IsNCName p) (hl : IsNCName l)
    (hattributes : ∀ a ∈ attributes, IsNCName a.1) : (plainTag p l ns attributes).NCNamed := by
  refine ⟨⟨?_, hl⟩, ?_, List.forall_mem_nil _⟩
  · rintro q ⟨⟩
    exact hp
  · intro a ha
    obtain ⟨b, hb, rfl⟩ := List.mem_map.1 ha
    exact ⟨by simp [plainAttribute], hattributes b hb⟩

theorem envelopeTag_resolvedIn : envelopeTag.ResolvedIn [] := by
  have hns : envelopeNs ≠ "" := by decide
  have hu : utilityNs ≠ "" := by decide
  constructor
  · simp [Context.elementNamespace, Context.resolve?, envelopeTag, templateTag]
  · simp [envelopeTag, templateTag]
  · decide
  · simp [envelopeTag, templateTag, Tag.parts, TagPart.isRead_declares, hns, hu]

theorem securityTag_resolvedIn
    (hs : outer.resolve? (some "s") = some envelopeNs) : securityTag.ResolvedIn outer := by
  have hw : securityNs ≠ "" := by decide
  have hu : utilityNs ≠ "" := by decide
  constructor
  · simp [Context.elementNamespace, Context.resolve?, securityTag, templateTag]
  · have hbound : Context.resolve? (securityTag.declarations :: outer) (some "s") =
        some envelopeNs := by
      simpa [Context.resolve?, securityTag, templateTag] using hs
    intro a ha
    obtain rfl := List.mem_singleton.1 ha
    simp only [Context.attribute, hbound]
  · decide
  · simp [securityTag, templateTag, Tag.parts, TagPart.isRead_declares,
      TagPart.isRead_ofTagAttribute, hw, hu]

theorem tokenTag_resolvedIn (hw : outer.resolve? (some "wsse") = some securityNs)
    (hu : outer.resolve? (some "wse") = some utilityNs) : tokenTag.ResolvedIn outer := by
  have hcontext (p) : Context.resolve? ([] :: outer) p = outer.resolve? p := rfl
  constructor
  · simp [Context.elementNamespace, tokenTag, templateTag, hcontext, hw]
  · simp [Context.attribute, tokenTag, templateTag, plainAttribute, hcontext, hu]
  · decide
  · simp [tokenTag, templateTag, Tag.parts, plainAttribute, TagPart.isRead_ofTagAttribute]

theorem signatureRootTag_resolvedIn : signatureRootTag.ResolvedIn outer := by
  have hd : signatureNs ≠ "" := by decide
  constructor
  · simp [Context.elementNamespace, Context.resolve?, signatureRootTag, templateTag]
  · simp [Context.attribute, signatureRootTag, templateTag, plainAttribute]
  · decide
  · simp [signatureRootTag, templateTag, Tag.parts, plainAttribute, TagPart.isRead_declares,
      TagPart.isRead_ofTagAttribute, hd]

theorem bodyTag_resolvedIn (hs : outer.resolve? (some "s") = some envelopeNs)
    (hu : outer.resolve? (some "u") = some utilityNs) : bodyTag.ResolvedIn outer := by
  have hcontext (p) : Context.resolve? ([] :: outer) p = outer.resolve? p := rfl
  constructor
  · simp [Context.elementNamespace, bodyTag, templateTag, hcontext, hs]
  · simp [Context.attribute, bodyTag, templateTag, hcontext, hu]
  · decide
  · simp [bodyTag, templateTag, Tag.parts, TagPart.isRead_ofTagAttribute]

end Tags

/-! ## The header -/

section Header

variable {outer : Context} {tag : Tag} {children : List Node} {p l ns : String}
  {attributes : List (String × String)}

/-- An element with elements in it can be read again if they can. -/
theorem element_printable (htag : tag.ResolvedIn outer) (hnamed : tag.NCNamed)
    (hchildren : ∀ n ∈ children, n.isText = false ∧ n.Printable (tag.declarations :: outer)) :
    (Node.element tag children).Printable outer := by
  refine .element htag hnamed (fun n hn => (hchildren n hn).2) ?_
  refine List.Pairwise.isChain (List.pairwise_of_forall_mem_list fun n hn m hm => ?_)
  rintro ⟨htext, -⟩
  rw [(hchildren n hn).1] at htext
  contradiction

theorem plainElement_printable (hns : outer.resolve? (some p) = some ns)
    (hnames : IsNCName p ∧ IsNCName l ∧ ∀ a ∈ attributes.map (·.1), IsNCName a ∧ a ≠ "xmlns")
    (hdistinct : (attributes.map (·.1)).Nodup)
    (hchildren : ∀ n ∈ children, n.isText = false ∧ n.Printable ([] :: outer)) :
    (Node.element (plainTag p l ns attributes) children).Printable outer := by
  obtain ⟨hp, hl, ha⟩ := hnames
  refine element_printable (plainTag_resolvedIn hns hdistinct fun h => (ha _ h).2 rfl)
    (plainTag_named hp hl fun a h => (ha _ (List.mem_map_of_mem h)).1) hchildren

theorem plainLeaf_printable (hns : outer.resolve? (some p) = some ns)
    (hnames : IsNCName p ∧ IsNCName l ∧ ∀ a ∈ attributes.map (·.1), IsNCName a ∧ a ≠ "xmlns")
    (hdistinct : (attributes.map (·.1)).Nodup) :
    (Node.element (plainTag p l ns attributes) []).Printable outer :=
  plainElement_printable hns hnames hdistinct (List.forall_mem_nil _)

/-- An element with a value can be read again. -/
theorem valueLeaf_printable (htag : tag.ResolvedIn outer) (hnamed : tag.NCNamed)
    (value : Octets) : (valueLeaf tag value).toNode.Printable outer := by
  unfold valueLeaf
  split
  · exact .element htag hnamed (List.forall_mem_nil _) List.IsChain.nil
  · next hne =>
    refine .element htag hnamed (fun n hn => ?_) (List.IsChain.singleton _)
    obtain rfl := List.mem_singleton.1 hn
    refine .text fun h => hne (Text.Base64.encodeChars_injective (b := []) ?_)
    exact String.ofList_eq_empty_iff.1 h

theorem signatureLeaf_printable (hns : outer.resolve? (some "ds") = some signatureNs)
    (hl : IsNCName l) (value : Octets) :
    (valueLeaf (signatureTag l []) value).toNode.Printable outer :=
  valueLeaf_printable (plainTag_resolvedIn hns (by simp) (by simp))
    (plainTag_named (by decide) hl (by simp)) value

/-- The bindings that the parts of a signature need. -/
structure BindsSignature (outer : Context) : Prop where
  ds : outer.resolve? (some "ds") = some signatureNs
  wsse : outer.resolve? (some "wsse") = some securityNs

theorem BindsSignature.inside (h : BindsSignature outer) : BindsSignature ([] :: outer) :=
  ⟨h.ds, h.wsse⟩

theorem referenceElement_printable (h : BindsSignature outer) (digest : Octets) :
    (referenceElement digest).toNode.Printable outer := by
  refine plainElement_printable h.ds (by decide) (by decide) ?_
  simp only [referenceElement, List.forall_mem_cons]
  refine ⟨⟨rfl, ?_⟩, ⟨rfl, ?_⟩, ⟨rfl, ?_⟩, List.forall_mem_nil _⟩
  · refine plainElement_printable h.ds (by decide) (by decide) ?_
    simp only [List.forall_mem_cons]
    exact ⟨⟨rfl, plainLeaf_printable h.ds (by decide) (by decide)⟩, List.forall_mem_nil _⟩
  · exact plainLeaf_printable h.ds (by decide) (by decide)
  · exact signatureLeaf_printable h.inside.ds (by decide) digest

theorem signedInfoElement_printable (h : BindsSignature outer) (digest : Octets) :
    (signedInfoElement digest).toNode.Printable outer := by
  refine plainElement_printable h.ds (by decide) (by decide) ?_
  simp only [signedInfoElement, List.forall_mem_cons]
  refine ⟨⟨rfl, ?_⟩, ⟨rfl, ?_⟩, ⟨rfl, ?_⟩, List.forall_mem_nil _⟩
  · exact plainLeaf_printable h.ds (by decide) (by decide)
  · exact plainLeaf_printable h.ds (by decide) (by decide)
  · exact referenceElement_printable h.inside digest

theorem signatureElement_printable (h : outer.resolve? (some "wsse") = some securityNs)
    (digest signature : Octets) : (signatureElement digest signature).toNode.Printable outer := by
  have hinside : BindsSignature (signatureRootTag.declarations :: outer) := by
    constructor
    · simp [Context.resolve?, signatureRootTag, templateTag]
    · simpa [Context.resolve?, signatureRootTag, templateTag] using h
  have hnamed : signatureRootTag.NCNamed := by decide
  refine element_printable signatureRootTag_resolvedIn hnamed ?_
  simp only [signatureElement, List.forall_mem_cons]
  refine ⟨⟨rfl, ?_⟩, ⟨rfl, ?_⟩, ⟨rfl, ?_⟩, List.forall_mem_nil _⟩
  · exact signedInfoElement_printable hinside digest
  · exact signatureLeaf_printable hinside.ds (by decide) signature
  · refine plainElement_printable hinside.ds (by decide) (by decide) ?_
    simp only [List.forall_mem_cons]
    refine ⟨⟨rfl, plainElement_printable hinside.wsse (by decide) (by decide) ?_⟩,
      List.forall_mem_nil _⟩
    simp only [List.forall_mem_cons]
    exact ⟨⟨rfl, plainLeaf_printable hinside.wsse (by decide) (by decide)⟩,
      List.forall_mem_nil _⟩

theorem headerElement_printable (certificate digest signature : Octets) :
    (headerElement certificate digest signature).toNode.Printable [envelopeTag.declarations] := by
  refine plainElement_printable ?_ (by decide) (by decide) ?_
  · simp [Context.resolve?, envelopeTag, templateTag]
  simp only [headerElement, List.forall_mem_singleton]
  have hnamed : securityTag.NCNamed := by decide
  refine ⟨rfl, element_printable (securityTag_resolvedIn ?_) hnamed ?_⟩
  · simp [Context.resolve?, envelopeTag, templateTag]
  simp only [securityElement, List.forall_mem_cons]
  refine ⟨⟨rfl, valueLeaf_printable (tokenTag_resolvedIn ?_ ?_) (by decide) _⟩,
    ⟨rfl, signatureElement_printable ?_ digest signature⟩, List.forall_mem_nil _⟩
  · simp [Context.resolve?, securityTag, templateTag]
  · simp [Context.resolve?, securityTag, templateTag]
  · simp [Context.resolve?, securityTag, templateTag]

end Header

/-! ## The envelope -/

section Envelope

variable {certificate digest signature : Octets} {content rest : List Node}

/-- **The reader comes to the body** with the header behind it. -/
theorem ofChars_filled (certificate digest signature : Octets) (body : List Char) :
    Document.ofChars (filled certificate digest signature body) =
      (atSecond envelopeTag bodyTag (headerElement certificate digest signature).toNode).resume
        (body ++ afterBody.toList) >>= Builder.finish := by
  have hmark : dropByteOrderMark (filled certificate digest signature body) =
      filled certificate digest signature body := by
    rw [filled_eq_print]
    rfl
  have henvelope : envelopeTag.ResolvedIn (Builder.context ⟨[], none⟩) := envelopeTag_resolvedIn
  have hbody : bodyTag.ResolvedIn (Builder.context
      ⟨[⟨envelopeTag, [(headerElement certificate digest signature).toNode]⟩], none⟩) := by
    refine bodyTag_resolvedIn ?_ ?_
    all_goals simp [Builder.context, Context.resolve?, envelopeTag, templateTag]
  have halone : Separated
      ([].reverse ++ (headerElement certificate digest signature).toNode :: []) :=
    List.IsChain.singleton _
  rw [ofChars_eq, hmark, filled_eq_print, Tag.resume_print henvelope (by decide),
    resume_printNode (headerElement_printable certificate digest signature) halone
      (by simp [Element.toNode, Node.isText]),
    Tag.resume_print hbody (by decide)]
  rfl

/-- **An envelope that can be read with empty slots can be read with any values in them**, and gives
the same body and the same rest. -/
theorem ofChars_filled_eq_ok {body : List Char} {d : Document}
    (h : Document.ofChars (filled certificate [] [] body) = .ok d) :
    ∃ content rest, ∀ digest signature,
      Document.ofChars (filled certificate digest signature body) =
        .ok ⟨envelopeElement certificate digest signature content rest⟩ := by
  rw [ofChars_filled] at h
  obtain ⟨content, rest, hall⟩ := resume_atSecond h
  refine ⟨content, rest, fun digest signature => ?_⟩
  rw [ofChars_filled, hall _ rfl]
  rfl

/-- Behind the body the envelope is complete. -/
theorem resume_afterBody (content : List Node) :
    Builder.resume ⟨[⟨bodyTag, content.reverse⟩,
        ⟨envelopeTag, [(headerElement certificate digest signature).toNode]⟩], none⟩
          afterBody.toList >>= Builder.finish =
      .ok ⟨envelopeElement certificate digest signature content []⟩ := by
  have hend : afterBody.toList = bodyTag.writeEnd ++ (envelopeTag.writeEnd ++ []) := by
    rw [bodyTag, envelopeTag, writeEnd_templateTag, writeEnd_templateTag]
    unfold afterBody
    repeat rw [String.toList_ofList]
    rfl
  rw [hend, Tag.resume_writeEnd (by decide)]
  -- the body is attached behind the header
  change Builder.resume ⟨[⟨envelopeTag, [.element bodyTag content.reverse.reverse,
    (headerElement certificate digest signature).toNode]⟩], none⟩ (envelopeTag.writeEnd ++ []) >>=
      Builder.finish = _
  rw [Tag.resume_writeEnd (by decide)]
  change Builder.resume _ [] >>= Builder.finish = _
  rw [resume_nil, List.reverse_reverse]
  rfl

/-- **Content that can be written** is what is read in the body. -/
theorem ofChars_filled_printAll
    (hcontent : ∀ n ∈ content, n.Printable [bodyTag.declarations, envelopeTag.declarations])
    (hseparated : Separated content) :
    Document.ofChars (filled certificate digest signature (Node.printAll content)) =
      .ok ⟨envelopeElement certificate digest signature content []⟩ := by
  obtain ⟨rest, hrest⟩ : ∃ rest, afterBody.toList = '<' :: rest := ⟨_, rfl⟩
  rw [ofChars_filled, atSecond, hrest, resume_printAll hcontent (by simpa using hseparated),
    List.append_nil, ← hrest]
  exact resume_afterBody content

/-- An envelope of such content has proper names. -/
theorem envelopeElement_ncNamed
    (hcontent : ∀ n ∈ content, n.Printable [bodyTag.declarations, envelopeTag.declarations]) :
    (envelopeElement certificate digest signature content []).toNode.NCNamed := by
  have hbody : (Node.element bodyTag content).NCNamed :=
    .element (by decide) fun n hn => (hcontent n hn).ncNamed
  have hroot : envelopeTag.NCNamed := by decide
  refine .element hroot ?_
  simp only [envelopeElement, List.forall_mem_cons]
  exact ⟨(headerElement_printable certificate digest signature).ncNamed, hbody,
    List.forall_mem_nil _⟩

/-! ### Its parts -/

theorem firstAt_header : (envelopeElement certificate digest signature content rest).FirstAt
    envelopeNs "Header" 0 (headerElement certificate digest signature) :=
  .of_localPart rfl ⟨rfl, rfl⟩ nofun

theorem firstAt_body : (envelopeElement certificate digest signature content rest).FirstAt
    envelopeNs "Body" 1 ⟨bodyTag, content⟩ :=
  .of_localPart rfl ⟨rfl, rfl⟩ (by
    simp [envelopeElement, headerElement, Element.toNode, headerTag, plainTag, templateTag])

theorem firstAt_security : (headerElement certificate digest signature).FirstAt securityNs
    "Security" 0 (securityElement certificate digest signature) :=
  .of_localPart rfl ⟨rfl, rfl⟩ nofun

theorem firstAt_token : (securityElement certificate digest signature).FirstAt securityNs
    "BinarySecurityToken" 0 (valueLeaf tokenTag certificate) :=
  .of_localPart rfl ⟨rfl, rfl⟩ nofun

theorem firstAt_signature : (securityElement certificate digest signature).FirstAt signatureNs
    "Signature" 1 (signatureElement digest signature) :=
  .of_localPart rfl ⟨rfl, rfl⟩ (by
    simp [securityElement, Element.toNode, tokenTag, templateTag])

theorem firstAt_signedInfo : (signatureElement digest signature).FirstAt signatureNs
    "SignedInfo" 0 (signedInfoElement digest) :=
  .of_localPart rfl ⟨rfl, rfl⟩ nofun

theorem firstAt_signatureValue : (signatureElement digest signature).FirstAt signatureNs
    "SignatureValue" 1 (valueLeaf (signatureTag "SignatureValue" []) signature) :=
  .of_localPart rfl ⟨rfl, rfl⟩ (by
    simp [signatureElement, signedInfoElement, Element.toNode, signatureTag, plainTag, templateTag])

theorem firstAt_canonicalMethod : (signedInfoElement digest).FirstAt signatureNs
    "CanonicalizationMethod" 0 ⟨algorithmTag "CanonicalizationMethod" canonicalAlgorithm, []⟩ :=
  .of_localPart rfl ⟨rfl, rfl⟩ nofun

theorem firstAt_signatureMethod : (signedInfoElement digest).FirstAt signatureNs
    "SignatureMethod" 1 ⟨algorithmTag "SignatureMethod" signatureAlgorithm, []⟩ :=
  .of_localPart rfl ⟨rfl, rfl⟩ (by
    simp [signedInfoElement, algorithmTag, signatureTag, plainTag, templateTag])

theorem firstAt_transforms : (referenceElement digest).FirstAt signatureNs "Transforms" 0
    ⟨signatureTag "Transforms" [], [.element (algorithmTag "Transform" canonicalAlgorithm) []]⟩ :=
  .of_localPart rfl ⟨rfl, rfl⟩ nofun

theorem firstAt_digestMethod : (referenceElement digest).FirstAt signatureNs
    "DigestMethod" 1 ⟨algorithmTag "DigestMethod" digestAlgorithm, []⟩ :=
  .of_localPart rfl ⟨rfl, rfl⟩ (by
    simp [referenceElement, signatureTag, plainTag, templateTag])

theorem firstAt_digestValue : (referenceElement digest).FirstAt signatureNs
    "DigestValue" 2 (valueLeaf (signatureTag "DigestValue" []) digest) :=
  .of_localPart rfl ⟨rfl, rfl⟩ (by
    simp [referenceElement, algorithmTag, signatureTag, plainTag, templateTag])

end Envelope

end FiscalGateway.Soap

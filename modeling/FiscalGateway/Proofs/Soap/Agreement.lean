import FiscalGateway.Proofs.Pki.Pem
import FiscalGateway.Proofs.Soap.Acceptance
import FiscalGateway.Proofs.Soap.Envelope
import FiscalGateway.Proofs.Soap.Slots

/-!
# Agreement — what is signed is checked

The canonical forms of the body and of the signed part do not depend on the values in the slots
behind them (`canonicalize_body`, `canonicalize_signedInfo`), so the signer and the checker compute
the same octets although each reads another text (`signed_is_checked`). So an answer that is signed
under a trusted certificate is accepted (`Verifier.verify_sign`), and this takes no more of the
signer's name than what stands in front of a zero character
(`exists_accepted_of_other_organization`).
-/

namespace FiscalGateway.Soap

open Outcome Xml

/-! ## Canonical forms -/

/-- The canonical form of a body of this content. -/
def bodyForm (content : List Node) : List Char :=
  ((Element.mk bodyTag content).settle []
    ((envelopeElement [] [] [] content []).scopeAround [] [1]) []).toNode.print

/-- The canonical form of the signed part with this digest. -/
def signedInfoForm (digest : Octets) : List Char :=
  ((signedInfoElement digest).settle []
    ((envelopeElement [] digest [] [] []).scopeAround [] [0, 0, 1, 0]) []).toNode.print

section Forms

variable {certificate digest signature : Octets} {content rest : List Node}

theorem canonicalize_body
    (hres : (envelopeElement certificate digest signature content rest).toNode.ResolvedIn []) :
    Document.canonicalize ⟨envelopeElement certificate digest signature content rest⟩ [1] [] =
      .ok (bodyForm content) :=
  Document.canonicalize_eq hres rfl []

theorem canonicalize_signedInfo
    (hres : (envelopeElement certificate digest signature content rest).toNode.ResolvedIn []) :
    Document.canonicalize ⟨envelopeElement certificate digest signature content rest⟩
      [0, 0, 1, 0] [] = .ok (signedInfoForm digest) :=
  Document.canonicalize_eq hres rfl []

end Forms

/-! ## Values -/

theorem toList_text_valueLeaf (tag : Tag) (value : Octets) :
    (valueLeaf tag value).text.toList = Text.Base64.encodeChars value := by
  rw [Element.toList_text, valueLeaf]
  split
  · next h => rw [h]; rfl
  · simp

/-- A value is read from its element. -/
theorem holds_valueLeaf (tag : Tag) (value : Octets) : Holds (valueLeaf tag value) value := by
  have hblank : ∀ c ∈ Text.Base64.encodeChars value, (!Text.isBlank c) = true :=
    Text.Base64.forall_mem_encodeChars (by decide) (by decide) value
  rw [Holds, toList_text_valueLeaf, List.filter_eq_self.2 hblank,
    Text.Base64.decodeChars_encodeChars]

/-! ## Checking what was signed -/

section Checking

variable {certificate digest signature : Octets} {content rest : List Node}

theorem findAll_reference (digest : Octets) :
    (signedInfoElement digest).findAll signatureNs "Reference" = [referenceElement digest] := by
  rw [Element.findAll_eq]
  simp [Element.childElements, signedInfoElement, Element.toNode, Element.isNamed, algorithmTag,
    signatureTag, plainTag, templateTag, referenceElement, referenceTag]

theorem findAll_transform : Element.findAll ⟨signatureTag "Transforms" [],
      [.element (algorithmTag "Transform" canonicalAlgorithm) []]⟩ signatureNs "Transform" =
    [⟨algorithmTag "Transform" canonicalAlgorithm, []⟩] := by
  rw [Element.findAll_eq]
  simp [Element.childElements, Element.isNamed, algorithmTag, signatureTag, plainTag, templateTag]

theorem transformPrefixes_reference (digest : Octets) :
    TransformPrefixes (referenceElement digest) [] := by
  refine .inr ⟨0, _, firstAt_transforms, ?_, ?_⟩
  all_goals rw [findAll_transform]
  · intro t ht
    obtain rfl := List.mem_singleton.1 ht
    rfl
  · rfl

/-- The reference of an envelope covers its body if the digest in it is that of the body. -/
def envelopeReference
    (hres : (envelopeElement certificate digest signature content rest).toNode.ResolvedIn []) :
    BodyReference ⟨envelopeElement certificate digest signature content rest⟩
      (signedInfoElement digest) ⟨bodyTag, content⟩ 1 where
  element := referenceElement digest
  only := findAll_reference digest
  id := bodyId
  identifies := by
    simp [Element.attributeIn?, bodyTag, templateTag]
  target := ⟨"#" ++ bodyId, rfl, by rw [String.toList_append]; rfl⟩
  prefixes := []
  transforms := transformPrefixes_reference digest
  method := ⟨1, _, firstAt_digestMethod⟩
  methodAlgorithm := rfl
  value := ⟨2, _, firstAt_digestValue⟩
  stated := digest
  states := holds_valueLeaf _ digest
  digested := bodyForm content
  canonical := canonicalize_body hres

/-- An envelope whose digest is that of its body is a signed message. -/
def envelopeMessage
    (hres : (envelopeElement certificate digest signature content rest).toNode.ResolvedIn [])
    (hdigest : Crypto.sha256 (octetsOf (bodyForm content)) = digest) :
    SignedMessage ⟨envelopeElement certificate digest signature content rest⟩ where
  envelope := Element.isNamed_iff.2 ⟨rfl, rfl⟩
  body := ⟨1, _, firstAt_body⟩
  header := ⟨0, _, firstAt_header⟩
  security := ⟨0, _, firstAt_security⟩
  signature := ⟨1, _, firstAt_signature⟩
  signedInfo := ⟨0, _, firstAt_signedInfo⟩
  canonicalMethod := ⟨0, _, firstAt_canonicalMethod⟩
  canonicalMethodAlgorithm := rfl
  signatureMethod := ⟨1, _, firstAt_signatureMethod⟩
  signatureMethodAlgorithm := rfl
  reference := envelopeReference hres
  digest := hdigest
  covered := signedInfoForm digest
  canonical := canonicalize_signedInfo hres
  value := ⟨1, _, firstAt_signatureValue⟩
  signed := signature
  holds := holds_valueLeaf _ signature

end Checking

/-! ## Signing -/

section Signing

variable {certificate digest signature : Octets} {content rest : List Node} {body : List Char}
  {key : Pki.PrivateKey}

theorem findPath?_eq_some {d : Document} {ns l : String} {steps : List (String × String)}
    {path : Path} {e : Element} (hroot : d.root.isNamed ns l = true)
    (h : d.root.Leads steps path e) :
    d.findPath? ((ns, l) :: steps) = some path ∧ d.elementAt? path = some e := by
  obtain ⟨hpath, he⟩ := Element.findPath?_descend?_iff.2 h
  rw [Document.findPath?, if_pos hroot]
  exact ⟨hpath, he⟩

theorem isNamed_envelope :
    (envelopeElement certificate digest signature content rest).isNamed envelopeNs "Envelope" =
      true :=
  Element.isNamed_iff.2 ⟨rfl, rfl⟩

/-- Where the body of an envelope is. -/
theorem findPath?_body :
    Document.findPath? ⟨envelopeElement certificate digest signature content rest⟩ bodySteps =
        some [1] ∧
      Document.elementAt? ⟨envelopeElement certificate digest signature content rest⟩ [1] =
        some ⟨bodyTag, content⟩ :=
  findPath?_eq_some isNamed_envelope (.step firstAt_body .here)

/-- Where its token is. -/
theorem findPath?_token :
    Document.findPath? ⟨envelopeElement certificate digest signature content rest⟩ tokenSteps =
        some [0, 0, 0] ∧
      Document.elementAt? ⟨envelopeElement certificate digest signature content rest⟩ [0, 0, 0] =
        some (valueLeaf tokenTag certificate) :=
  findPath?_eq_some isNamed_envelope
    (.step firstAt_header (.step firstAt_security (.step firstAt_token .here)))

/-- Where its signed part is. -/
theorem findPath?_signedInfo :
    Document.findPath? ⟨envelopeElement certificate digest signature content rest⟩
        signedInfoSteps = some [0, 0, 1, 0] ∧
      Document.elementAt? ⟨envelopeElement certificate digest signature content rest⟩
        [0, 0, 1, 0] = some (signedInfoElement digest) :=
  findPath?_eq_some isNamed_envelope (.step firstAt_header (.step firstAt_security
    (.step firstAt_signature (.step firstAt_signedInfo .here))))

/-- The signer of an envelope is the one whose certificate was put into it. -/
theorem signerCertificate_envelope (c : Pki.Certificate) :
    signerCertificate ⟨envelopeElement c.der digest signature content rest⟩ = .ok c :=
  signerCertificate_eq_ok.2 ⟨isNamed_envelope, ⟨0, _, firstAt_header⟩, ⟨0, _, firstAt_security⟩,
    ⟨0, _, firstAt_token⟩, c.der, holds_valueLeaf _ _, c.ofDer?_der⟩

theorem canonicalPart_eq {d : Document} {part : EnvelopePart} {steps : List (String × String)}
    {text out : List Char} {path : Path} (hread : Document.ofChars text = .ok d)
    (hpath : d.findPath? steps = some path) (hcanonical : d.canonicalize path [] = .ok out) :
    canonicalPart part steps text = .ok (octetsOf out) := by
  refine bind_eq_ok.2 ⟨d, mapError_eq_ok.2 hread, ?_⟩
  rw [hpath]
  exact mapError_eq_ok.2 (canonicalOctets_eq_ok.2 ⟨out, hcanonical, rfl⟩)

/-- **Signing an envelope** fills both slots: with the digest of the body, and with the signature
over the part that holds this digest. -/
theorem sign_filled {value : Octets}
    (hread : ∀ digest signature, Document.ofChars (filled certificate digest signature body) =
      .ok ⟨envelopeElement certificate digest signature content rest⟩)
    (hdigest : Crypto.sha256 (octetsOf (bodyForm content)) = digest)
    (hvalue : key.sign? (octetsOf (signedInfoForm digest)) = some value) :
    sign (filled certificate [] [] body) key = .ok (filled certificate digest value body) := by
  -- the digest is taken with both slots empty, the signature with the first one filled
  have hbody : canonicalPart .body bodySteps (filled certificate [] [] body) =
      .ok (octetsOf (bodyForm content)) :=
    canonicalPart_eq (hread [] []) findPath?_body.1
      (canonicalize_body (Document.resolved_of_ofChars (hread [] [])))
  have hsignedInfo : canonicalPart .signedInfo signedInfoSteps (filled certificate digest [] body) =
      .ok (octetsOf (signedInfoForm digest)) :=
    canonicalPart_eq (hread digest []) findPath?_signedInfo.1
      (canonicalize_signedInfo (Document.resolved_of_ofChars (hread digest [])))
  have hfill : fillSlot .digestSlot digestSlot (Crypto.sha256 (octetsOf (bodyForm content)))
      (filled certificate [] [] body) = .ok (filled certificate digest [] body) := by
    rw [hdigest]
    exact fillSlot_digest certificate digest [] body
  refine bind_eq_ok.2 ⟨_, hbody, bind_eq_ok.2 ⟨_, hfill, bind_eq_ok.2 ⟨_, hsignedInfo, ?_⟩⟩⟩
  rw [hvalue]
  exact fillSlot_signature certificate digest value body

/-- With a key that agrees with its public half, both values are there, and the second one is a
signature. -/
theorem exists_signature {k : Crypto.Rsa.PrivateKey}
    (hread : ∀ digest signature, Document.ofChars (filled certificate digest signature body) =
      .ok ⟨envelopeElement certificate digest signature content rest⟩)
    (hdigest : Crypto.sha256 (octetsOf (bodyForm content)) = digest)
    (hkey : key.rsa? = some k) (hagrees : k.Agrees) :
    ∃ value, sign (wrapBody body certificate) key = .ok (filled certificate digest value body) ∧
      Crypto.Rsa.verify .sha256 k.publicKey (octetsOf (signedInfoForm digest)) value = true := by
  obtain ⟨value, hsign, hverifies⟩ :=
    key.exists_sign? hkey hagrees (octetsOf (signedInfoForm digest))
  rw [wrapBody_eq_filled]
  exact ⟨value, sign_filled hread hdigest hsign, hverifies⟩

end Signing

/-- **What is signed is checked.** Whatever the body and the certificate are, if their envelope can
be read, then signing it gives a text that can be read, with the same body and that certificate in
its token, and its signature is accepted under each certificate of the key. -/
theorem signed_is_checked {body : List Char} {certificate : Octets} {d : Document}
    {key : Pki.PrivateKey} {k : Crypto.Rsa.PrivateKey}
    (hd : Document.parse (octetsOf (wrapBody body certificate)) = .ok d)
    (hkey : key.rsa? = some k) (hagrees : k.Agrees) :
    ∃ s d', sign (wrapBody body certificate) key = .ok s ∧ Document.parse (octetsOf s) = .ok d' ∧
      (∃ path path' e, d.findPath? bodySteps = some path ∧ d.elementAt? path = some e ∧
        d'.findPath? bodySteps = some path' ∧ d'.elementAt? path' = some e) ∧
      (∃ path token, d'.findPath? tokenSteps = some path ∧ d'.elementAt? path = some token ∧
        Text.Base64.decodeChars token.text.toList = some certificate) ∧
      ∀ c : Pki.Certificate, c.parts.key = some (.rsa k.publicKey) →
        checkSignature d' c = .ok () := by
  rw [parse_octetsOf, wrapBody_eq_filled] at hd
  obtain ⟨content, rest, hread⟩ := ofChars_filled_eq_ok hd
  obtain rfl := Except.ok.inj (hd.symm.trans (hread [] []))
  obtain ⟨value, hsign, hverifies⟩ := exists_signature hread rfl hkey hagrees
  refine ⟨_, _, hsign, (parse_octetsOf _).trans (hread _ _),
    ⟨_, _, _, findPath?_body.1, findPath?_body.2, findPath?_body.1, findPath?_body.2⟩,
    ⟨_, _, findPath?_token.1, findPath?_token.2, ?_⟩, fun c hc => ?_⟩
  · rw [toList_text_valueLeaf, Text.Base64.decodeChars_encodeChars]
  · exact checkSignature_eq_ok.2
      ⟨envelopeMessage (Document.resolved_of_ofChars (hread _ value)) rfl, _, hc, hverifies⟩

/-- A body with slots of its own, which is closed early and followed by another body under another
meaning of the prefix. -/
def hostileBody : List Char :=
  "<a xmlns:ds=\"u\"><ds:DigestValue></ds:DigestValue></a></s:Body><s:Body xmlns:s=\"v\">".toList

/-- It makes no difference. -/
theorem signed_is_checked_hostile : ∃ s d', sign (wrapBody hostileBody [1]) .specimen = .ok s ∧
    Document.parse (octetsOf s) = .ok d' ∧ checkSignature d' .specimen = .ok () := by
  have hread : (Document.ofChars (filled [1] [] [] hostileBody)).isOk = true := by
    rw [ofChars_filled]
    decide +kernel
  obtain ⟨d, hd⟩ := exists_of_isOk hread
  have hkey : Pki.PrivateKey.specimen.rsa? = some .specimen := rfl
  obtain ⟨s, d', hsign, hparse, -, -, hchecks⟩ := signed_is_checked
    ((parse_octetsOf _).trans hd) hkey Crypto.Rsa.PrivateKey.specimen_agrees
  exact ⟨s, d', hsign, hparse, hchecks _ Pki.Certificate.specimen_says.1⟩

/-- **Whatever answer can be written is accepted** once it is signed under a certificate that is
trusted, as long as it answers the request and no fault stands beside it. -/
theorem Verifier.verify_sign {v : Verifier} {content : List Node} {key : Pki.PrivateKey}
    {k : Crypto.Rsa.PrivateKey} {c : Pki.Certificate} {request : Uuid} {r : Response}
    (hcontent : ∀ n ∈ content, n.Printable [bodyTag.declarations, envelopeTag.declarations])
    (hseparated : Separated content) (hkey : key.rsa? = some k) (hagrees : k.Agrees)
    (hcertified : c.parts.key = some (.rsa k.publicKey))
    (horganization : NamesOrganization c v.organization) (hchain : v.chain c = .ok ())
    (hfault : ∀ e ∈ (Element.mk bodyTag content).childElements,
      e.isNamed envelopeNs "Fault" = false)
    (answer : (Element.mk bodyTag content).First receiptNs "Odpoved")
    (hread : Response.ofElement answer.element = .ok r)
    (hrequest : ∀ found, r.header.uuid = some found → found = request) :
    ∃ s d, sign (wrapBody (Node.printAll content) c.der) key = .ok s ∧
      Document.parse (octetsOf s) = .ok d ∧ d.root.toNode.NCNamed ∧
      signerCertificate d = .ok c ∧ v.verify (octetsOf s) request = .ok r := by
  have hfilled (digest signature : Octets) :
      Document.ofChars (filled c.der digest signature (Node.printAll content)) =
        .ok ⟨envelopeElement c.der digest signature content []⟩ :=
    ofChars_filled_printAll hcontent hseparated
  obtain ⟨value, hsign, hverifies⟩ := exists_signature hfilled rfl hkey hagrees
  have hparse := (parse_octetsOf _).trans
    (hfilled (Crypto.sha256 (octetsOf (bodyForm content))) value)
  have hres := Document.resolved_of_parse hparse
  refine ⟨_, _, hsign, hparse, envelopeElement_ncNamed hcontent, signerCertificate_envelope c,
    verify_of_accepts hparse (m := envelopeMessage hres rfl) ?_⟩
  -- what the signature covers is settled; what is left is the signer, and the answer in the body
  exact {
    noFault := hfault
    signer := ⟨⟨0, _, firstAt_token⟩, c.der, c, holds_valueLeaf _ _, c.ofDer?_der, horganization,
      hchain, _, hcertified, hverifies⟩
    answer := ⟨answer, hread⟩
    outcome := Response.outcome_of_ofElement hread
    request := hrequest }

section Specimen

/-- An answer that confirms a sale. -/
def specimenAnswer : Element :=
  let tag (l : String) (declarations : List Xml.Declaration) (attributes : List Xml.Attribute) :
    Tag := ⟨⟨none, l⟩, some receiptNs, declarations, attributes⟩
  ⟨tag "Odpoved" [⟨none, receiptNs⟩] [], [.element (tag "Hlavicka" [] []) [],
    .element (tag "Potvrzeni" [] [plainAttribute ("fik", "x")]) []]⟩

/-- What it says. -/
def specimenResponse : Response := ⟨⟨none, none, none, none⟩, some ⟨"x", false⟩, none, []⟩

def specimenVerifier : Verifier := ⟨fun _ => .ok (), "A"⟩

def specimenRequest : Uuid := ⟨Octets.ofNat 16 0, Octets.length_ofNat 16 0⟩

theorem specimenAnswer_printable (outer : Context) : specimenAnswer.toNode.Printable outer := by
  have hns : receiptNs ≠ "" := by decide
  refine element_printable ⟨?_, ?_, ?_, ?_⟩ (by decide) ?_
  · simp [Context.elementNamespace, Context.resolve?, hns, specimenAnswer]
  · simp [specimenAnswer]
  · simp [Xml.Tag.parts, TagPart.name, specimenAnswer]
  · simp [Xml.Tag.parts, TagPart.isRead_declares, hns, specimenAnswer]
  simp only [specimenAnswer, List.forall_mem_cons]
  refine ⟨⟨rfl, element_printable ⟨?_, List.forall_mem_nil _, List.nodup_nil,
      List.forall_mem_nil _⟩ (by decide) (List.forall_mem_nil _)⟩,
    ⟨rfl, element_printable ⟨?_, ?_, ?_, ?_⟩ (by decide) (List.forall_mem_nil _)⟩,
    List.forall_mem_nil _⟩
  · simp [Context.elementNamespace, Context.resolve?, hns]
  · simp [Context.elementNamespace, Context.resolve?, hns]
  · simp [Context.attribute, plainAttribute]
  · simp [Xml.Tag.parts, TagPart.name, TagPart.ofTagAttribute, plainAttribute]
  · simp [Xml.Tag.parts, TagPart.isRead_ofTagAttribute, plainAttribute]

/-- A message with this answer is accepted under each certificate of the specimen key whose first
organisation is `A` up to a zero character. -/
theorem exists_accepted_specimen {c : Pki.Certificate} (rest : List Char)
    (hcertified : c.parts.key = some (.rsa Pki.specimenNumbers.key.publicKey))
    (hfirst : c.parts.subject.firstOrganization? = some ("A".toList ++ rest))
    (hrest : ∀ x ∈ rest.head?, x = '\x00') :
    ∃ input d, Document.parse input = .ok d ∧ d.root.toNode.NCNamed ∧ signerCertificate d = .ok c ∧
      specimenVerifier.verify input specimenRequest = .ok specimenResponse := by
  have hkey : Pki.PrivateKey.specimen.rsa? = some .specimen := rfl
  have hanswer : (Element.mk bodyTag [specimenAnswer.toNode]).FirstAt receiptNs "Odpoved" 0
      specimenAnswer := .of_localPart rfl ⟨rfl, rfl⟩ nofun
  have hnames : NamesOrganization c specimenVerifier.organization :=
    ⟨by decide, rest, hfirst, hrest⟩
  have haccepted : ∃ s d, sign (wrapBody (Node.printAll [specimenAnswer.toNode]) c.der) .specimen =
      .ok s ∧ Document.parse (octetsOf s) = .ok d ∧ d.root.toNode.NCNamed ∧
        signerCertificate d = .ok c ∧
          specimenVerifier.verify (octetsOf s) specimenRequest = .ok specimenResponse :=
    Verifier.verify_sign (List.forall_mem_singleton.2 (specimenAnswer_printable _))
      (List.IsChain.singleton _) hkey Crypto.Rsa.PrivateKey.specimen_agrees hcertified hnames rfl
      (by decide) ⟨0, _, hanswer⟩ rfl nofun
  obtain ⟨s, d, -, haccepted⟩ := haccepted
  exact ⟨octetsOf s, d, haccepted⟩

/-- **What stands behind a zero character does not count**: an answer of `A` is accepted from a
signer whose first organisation is another one. -/
theorem exists_accepted_of_other_organization :
    ∃ input d c, Document.parse input = .ok d ∧ signerCertificate d = .ok c ∧
      c.parts.subject.firstOrganization? = some "A\x00B".toList ∧
        specimenVerifier.organization = "A" ∧
          specimenVerifier.verify input specimenRequest = .ok specimenResponse := by
  obtain ⟨c, -, hcertified, hfirst⟩ := Pki.exists_specimenOctets (.tail "A" (.head []))
  have hrest : ∀ x ∈ ['\x00', 'B'].head?, x = '\x00' := fun _ hx => (Option.some.inj hx).symm
  obtain ⟨input, d, hparse, -, hsigner, hverify⟩ :=
    exists_accepted_specimen ['\x00', 'B'] hcertified hfirst hrest
  exact ⟨input, d, c, hparse, hsigner, hfirst, rfl, hverify⟩

end Specimen

end FiscalGateway.Soap

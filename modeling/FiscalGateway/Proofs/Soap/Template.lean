import FiscalGateway.Proofs.Text.Base64
import FiscalGateway.Proofs.Xml.Frame
import FiscalGateway.Proofs.Xml.Printing
import FiscalGateway.Soap.Signing

/-!
# The template — the envelope around a body, as a tree

What `wrapBody` writes in front of a body is the print of a header (`headerElement`) between two
open tags, whatever certificate, digest and signature stand in it (`filled_eq_print`). The template
is compared with the print piece by piece; the names of its namespaces and algorithms need no
references, and are left folded while the rest is spelled out.
-/

namespace FiscalGateway.Soap

open Xml

/-! ## Tags -/

/-- A tag of the template. -/
def templateTag (p l ns : String) (declarations : List (String × String))
    (attributes : List Attribute) : Tag :=
  ⟨⟨some p, l⟩, some ns, declarations.map fun (p, uri) => ⟨some p, uri⟩, attributes⟩

/-- An attribute without prefix. -/
def plainAttribute (a : String × String) : Attribute := ⟨⟨none, a.1⟩, none, a.2⟩

/-- A tag of the template that declares nothing and has no prefix in its attributes. -/
def plainTag (p l ns : String) (attributes : List (String × String)) : Tag :=
  templateTag p l ns [] (attributes.map plainAttribute)

/-- A tag of the signature. -/
def signatureTag (l : String) (attributes : List (String × String)) : Tag :=
  plainTag "ds" l signatureNs attributes

def envelopeTag : Tag :=
  templateTag "s" "Envelope" envelopeNs [("s", envelopeNs), ("u", utilityNs)] []

def headerTag : Tag := plainTag "s" "Header" envelopeNs []

def securityTag : Tag :=
  templateTag "wsse" "Security" securityNs [("wsse", securityNs), ("wse", utilityNs)]
    [⟨⟨some "s", "mustUnderstand"⟩, some envelopeNs, "1"⟩]

def tokenTag : Tag :=
  templateTag "wsse" "BinarySecurityToken" securityNs []
    [plainAttribute ("EncodingType", tokenEncoding), plainAttribute ("ValueType", tokenType),
      ⟨⟨some "wse", "Id"⟩, some utilityNs, tokenId⟩]

/-- The tag of the whole signature, which declares its namespace. -/
def signatureRootTag : Tag :=
  templateTag "ds" "Signature" signatureNs [("ds", signatureNs)] [plainAttribute ("Id", "SIG-1")]

/-- The tag of an algorithm. -/
def algorithmTag (l algorithm : String) : Tag := signatureTag l [("Algorithm", algorithm)]

def referenceTag : Tag := signatureTag "Reference" [("URI", "#" ++ bodyId)]

def tokenReferenceTag : Tag :=
  plainTag "wsse" "Reference" securityNs [("URI", "#" ++ tokenId), ("ValueType", tokenType)]

def bodyTag : Tag :=
  templateTag "s" "Body" envelopeNs [] [⟨⟨some "u", "Id"⟩, some utilityNs, bodyId⟩]

/-! ## Elements -/

/-- An element with octets in base64. -/
def valueLeaf (tag : Tag) (value : Octets) : Element :=
  ⟨tag, if value = [] then [] else [.text (String.ofList (Text.Base64.encodeChars value))]⟩

/-- The reference to the body, with a digest. -/
def referenceElement (digest : Octets) : Element :=
  ⟨referenceTag, [.element (signatureTag "Transforms" [])
      [.element (algorithmTag "Transform" canonicalAlgorithm) []],
    .element (algorithmTag "DigestMethod" digestAlgorithm) [],
    (valueLeaf (signatureTag "DigestValue" []) digest).toNode]⟩

/-- What the signature covers. -/
def signedInfoElement (digest : Octets) : Element :=
  ⟨signatureTag "SignedInfo" [],
    [.element (algorithmTag "CanonicalizationMethod" canonicalAlgorithm) [],
      .element (algorithmTag "SignatureMethod" signatureAlgorithm) [],
      (referenceElement digest).toNode]⟩

/-- The signature, which refers to the token. -/
def signatureElement (digest signature : Octets) : Element :=
  ⟨signatureRootTag, [(signedInfoElement digest).toNode,
    (valueLeaf (signatureTag "SignatureValue" []) signature).toNode,
    .element (signatureTag "KeyInfo" [])
      [.element (plainTag "wsse" "SecurityTokenReference" securityNs [])
        [.element tokenReferenceTag []]]]⟩

def securityElement (certificate digest signature : Octets) : Element :=
  ⟨securityTag, [(valueLeaf tokenTag certificate).toNode,
    (signatureElement digest signature).toNode]⟩

def headerElement (certificate digest signature : Octets) : Element :=
  ⟨headerTag, [(securityElement certificate digest signature).toNode]⟩

/-- The envelope of a body with a header; `rest` stands behind the body. -/
def envelopeElement (certificate digest signature : Octets) (body rest : List Node) : Element :=
  ⟨envelopeTag, (headerElement certificate digest signature).toNode ::
    .element bodyTag body :: rest⟩

/-! ## The text -/

/-- The values of the attributes in the template. -/
def templateValues : List String :=
  [envelopeNs, securityNs, utilityNs, signatureNs, canonicalAlgorithm, signatureAlgorithm,
    digestAlgorithm, tokenEncoding, tokenType, tokenId, bodyId, "1", "SIG-1", "#"]

/-- None of them holds a character that needs a reference. -/
theorem plain_of_mem_templateValues {v : String} (h : v ∈ templateValues) :
    ∀ c ∈ v.toList, c ∉ ['&', '<', '"', '\t', '\n', '\r'] := by
  have hplain : ∀ {s : List Char}, (∀ c ∈ s, c ∉ ['&', '<', '"', '\t', '\n', '\r']) →
      ∀ c ∈ (String.ofList s).toList, c ∉ ['&', '<', '"', '\t', '\n', '\r'] := by
    intro s hs
    rwa [String.toList_ofList]
  simp only [templateValues, List.mem_cons, List.not_mem_nil, or_false] at h
  rcases h with rfl | rfl | rfl | rfl | rfl | rfl | rfl | rfl | rfl | rfl | rfl | rfl | rfl | rfl
  all_goals exact hplain (by decide)

/-- So they stand in it as they are. -/
theorem escapeAttribute_of_mem_templateValues {v : String} (h : v ∈ templateValues) :
    escapeAttribute v.toList = v.toList :=
  escapeAttribute_of_plain (plain_of_mem_templateValues h)

theorem print_templateTag (p l ns : String) (declarations : List (String × String))
    (attributes : List Attribute) :
    (templateTag p l ns declarations attributes).print = '<' :: p.toList ++ ':' :: l.toList ++
      declarations.flatMap (fun d => " xmlns:".toList ++ d.1.toList ++ '=' :: '"' ::
        escapeAttribute d.2.toList ++ ['"']) ++ attributes.flatMap Attribute.write ++ ['>'] := by
  simp [templateTag, Tag.print, Tag.inside, Tag.parts, List.flatMap_map, QName.toChars,
    Declaration.write]

set_option maxRecDepth 2000 in
theorem toList_beforeToken : beforeToken.toList =
    envelopeTag.print ++ headerTag.print ++ securityTag.print ++ tokenTag.print := by
  simp only [envelopeTag, headerTag, securityTag, tokenTag, plainTag, plainAttribute,
    print_templateTag, Attribute.write, QName.toChars, List.map_nil, List.flatMap_cons,
    List.flatMap_nil]
  rw [escapeAttribute_of_mem_templateValues (v := envelopeNs) (by simp [templateValues]),
    escapeAttribute_of_mem_templateValues (v := utilityNs) (by simp [templateValues]),
    escapeAttribute_of_mem_templateValues (v := securityNs) (by simp [templateValues]),
    escapeAttribute_of_mem_templateValues (v := tokenEncoding) (by simp [templateValues]),
    escapeAttribute_of_mem_templateValues (v := tokenType) (by simp [templateValues]),
    escapeAttribute_of_mem_templateValues (v := tokenId) (by simp [templateValues]),
    escapeAttribute_of_mem_templateValues (v := "1") (by simp [templateValues])]
  unfold beforeToken
  generalize envelopeNs = v₁, utilityNs = v₂, securityNs = v₃, tokenEncoding = v₄, tokenType = v₅,
    tokenId = v₆
  simp only [String.toList_append]
  repeat rw [String.toList_ofList]
  simp only [List.cons_append, List.nil_append, List.append_assoc, List.append_nil]

theorem print_element (tag : Tag) (children : List Node) :
    (Node.element tag children).print = tag.print ++ Node.printAll children ++ tag.writeEnd := rfl

theorem writeEnd_templateTag (p l ns : String) (declarations : List (String × String))
    (attributes : List Attribute) :
    (templateTag p l ns declarations attributes).writeEnd =
      '<' :: '/' :: p.toList ++ ':' :: l.toList ++ ['>'] := by
  simp [templateTag, Tag.writeEnd, QName.toChars]

set_option maxRecDepth 2000 in
theorem toList_beforeDigest : beforeDigest.toList =
    tokenTag.writeEnd ++ signatureRootTag.print ++ (signatureTag "SignedInfo" []).print ++
      (Node.element (algorithmTag "CanonicalizationMethod" canonicalAlgorithm) []).print ++
      (Node.element (algorithmTag "SignatureMethod" signatureAlgorithm) []).print ++
      referenceTag.print ++
      (Node.element (signatureTag "Transforms" [])
        [.element (algorithmTag "Transform" canonicalAlgorithm) []]).print ++
      (Node.element (algorithmTag "DigestMethod" digestAlgorithm) []).print := by
  simp only [tokenTag, signatureRootTag, signatureTag, algorithmTag, referenceTag, plainTag,
    plainAttribute, print_element, Node.printAll, print_templateTag, writeEnd_templateTag,
    Attribute.write, QName.toChars, List.map_cons, List.map_nil, List.flatMap_cons,
    List.flatMap_nil, String.toList_append, escapeAttribute_append]
  rw [escapeAttribute_of_mem_templateValues (v := signatureNs) (by simp [templateValues]),
    escapeAttribute_of_mem_templateValues (v := canonicalAlgorithm) (by simp [templateValues]),
    escapeAttribute_of_mem_templateValues (v := signatureAlgorithm) (by simp [templateValues]),
    escapeAttribute_of_mem_templateValues (v := digestAlgorithm) (by simp [templateValues]),
    escapeAttribute_of_mem_templateValues (v := bodyId) (by simp [templateValues]),
    escapeAttribute_of_mem_templateValues (v := "SIG-1") (by simp [templateValues]),
    escapeAttribute_of_mem_templateValues (v := "#") (by simp [templateValues])]
  unfold beforeDigest
  -- what is left is to spell out literals; the long names are kept out of it
  generalize signatureNs = v₁, canonicalAlgorithm = v₂, signatureAlgorithm = v₃,
    digestAlgorithm = v₄, bodyId = v₅
  simp only [String.toList_append]
  repeat rw [String.toList_ofList]
  simp only [List.cons_append, List.nil_append, List.append_assoc, List.append_nil]

theorem toList_beforeSignature : beforeSignature.toList =
    referenceTag.writeEnd ++ (signatureTag "SignedInfo" []).writeEnd := by
  simp only [referenceTag, signatureTag, plainTag, writeEnd_templateTag]
  unfold beforeSignature
  repeat rw [String.toList_ofList]
  rfl

set_option maxRecDepth 2000 in
theorem toList_beforeBody : beforeBody.toList =
    (Node.element (signatureTag "KeyInfo" [])
      [.element (plainTag "wsse" "SecurityTokenReference" securityNs [])
        [.element tokenReferenceTag []]]).print ++
      signatureRootTag.writeEnd ++ securityTag.writeEnd ++ headerTag.writeEnd ++ bodyTag.print := by
  simp only [signatureRootTag, securityTag, headerTag, bodyTag, signatureTag, tokenReferenceTag,
    plainTag, plainAttribute, print_element, Node.printAll, print_templateTag, writeEnd_templateTag,
    Attribute.write, QName.toChars, List.map_cons, List.map_nil, List.flatMap_cons,
    List.flatMap_nil, String.toList_append, escapeAttribute_append]
  rw [escapeAttribute_of_mem_templateValues (v := tokenId) (by simp [templateValues]),
    escapeAttribute_of_mem_templateValues (v := tokenType) (by simp [templateValues]),
    escapeAttribute_of_mem_templateValues (v := bodyId) (by simp [templateValues]),
    escapeAttribute_of_mem_templateValues (v := "#") (by simp [templateValues])]
  unfold beforeBody
  generalize tokenId = v₁, tokenType = v₂, bodyId = v₃
  simp only [String.toList_append]
  repeat rw [String.toList_ofList]
  simp only [List.cons_append, List.nil_append, List.append_assoc, List.append_nil]

theorem escapeText_encodeChars (b : Octets) :
    escapeText (Text.Base64.encodeChars b) = Text.Base64.encodeChars b :=
  escapeText_of_plain (Text.Base64.forall_mem_encodeChars (by decide) (by decide) b)

@[simp] theorem tag_valueLeaf (tag : Tag) (value : Octets) : (valueLeaf tag value).tag = tag := rfl

@[simp] theorem printAll_valueLeaf (tag : Tag) (value : Octets) :
    Node.printAll (valueLeaf tag value).children = Text.Base64.encodeChars value := by
  unfold valueLeaf
  split
  · next h => rw [h]; rfl
  · simp [Node.print, Node.printAll, escapeText_encodeChars]

theorem valueElement_eq_print (l : String) (value : Octets) :
    valueElement l value = (signatureTag l []).print ++ Text.Base64.encodeChars value ++
      (signatureTag l []).writeEnd := by
  unfold signatureTag plainTag valueElement
  simp only [List.map_nil, print_templateTag, writeEnd_templateTag, List.flatMap_nil,
    List.append_nil]
  repeat rw [String.toList_ofList]
  simp only [List.cons_append, List.nil_append, List.append_assoc]

/-- The envelope of a body with values in its slots. -/
def filled (certificate digest signature : Octets) (body : List Char) : List Char :=
  beforeToken.toList ++ Text.Base64.encodeChars certificate ++ beforeDigest.toList ++
    valueElement EnvelopePart.digestSlot.text digest ++ beforeSignature.toList ++
    valueElement EnvelopePart.signatureSlot.text signature ++ beforeBody.toList ++ body ++
    afterBody.toList

theorem wrapBody_eq_filled (body : List Char) (certificate : Octets) :
    wrapBody body certificate = filled certificate [] [] body := rfl

/-- **An envelope is written as a tree** up to its body. -/
theorem filled_eq_print (certificate digest signature : Octets) (body : List Char) :
    filled certificate digest signature body =
      envelopeTag.print ++ ((headerElement certificate digest signature).toNode.print ++
        (bodyTag.print ++ (body ++ afterBody.toList))) := by
  have htoNode : ∀ e : Element, e.toNode = .element e.tag e.children := fun _ => rfl
  simp only [filled, toList_beforeToken, toList_beforeDigest, toList_beforeSignature,
    toList_beforeBody, valueElement_eq_print, EnvelopePart.text, headerElement, securityElement,
    signatureElement, signedInfoElement, referenceElement, htoNode, print_element, Node.printAll,
    tag_valueLeaf, printAll_valueLeaf, List.append_assoc, List.append_nil]

end FiscalGateway.Soap

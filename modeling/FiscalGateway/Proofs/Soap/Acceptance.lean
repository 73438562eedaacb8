import FiscalGateway.Proofs.Outcome
import FiscalGateway.Proofs.Soap.Answer
import FiscalGateway.Proofs.Text.Split
import FiscalGateway.Proofs.Xml.Query
import FiscalGateway.Soap.Verification

/-!
# Acceptance — what an accepted message shows

Each check is turned into the conjunction of what it looks at (`digestedBody_eq_ok`,
`checkSignature_eq_ok`), with places among the children in the stead of look-ups. The look-ups that
are made again meet the same elements, so all of them are about one set of parts (`Parts`).
-/

namespace FiscalGateway.Soap

open Outcome
open Xml (Document Element Path)

/-- The octets of a text are read as the text is. -/
theorem parse_octetsOf (s : List Char) : Document.parse (octetsOf s) = Document.ofChars s := by
  rw [Document.parse, octetsOf, Octets.toText?_ofText]
  simp only [String.toList_ofList]

theorem octetsOf_inj {s t : List Char} : octetsOf s = octetsOf t ↔ s = t := by
  refine ⟨fun h => ?_, congrArg octetsOf⟩
  have htext := congrArg Octets.toText? h
  rw [octetsOf, octetsOf, Octets.toText?_ofText, Octets.toText?_ofText] at htext
  exact String.ofList_injective (Option.some.inj htext)

/-! ## Single checks -/

section Checks

variable {d : Document} {e c : Element}

theorem locate_eq_ok {ns l : String} {steps : List (String × String)} {part : MessagePart}
    {path : Path} : locate d ((ns, l) :: steps) part = .ok (path, e) ↔
      d.root.isNamed ns l = true ∧ d.root.Leads steps path e := by
  rw [← Element.findPath?_descend?_iff]
  have hroot : d.findPath? ((ns, l) :: steps) =
      if d.root.isNamed ns l then d.root.findPath? steps else none := rfl
  have hat : d.elementAt? = d.root.descend? := rfl
  rw [locate, hroot, hat]
  cases d.root.isNamed ns l with
  | false => simp
  | true =>
    cases hp : d.root.findPath? steps with
    | none => simp
    | some p =>
      cases he : d.root.descend? p with
      | none =>
        simp only [if_true, he, true_and, Option.some.injEq, reduceCtorEq, false_iff]
        rintro ⟨rfl, hx⟩
        rw [he] at hx
        contradiction
      | some x =>
        simp only [if_true, he, true_and, Option.some.injEq, Except.ok.injEq, Prod.mk.injEq]
        constructor
        · rintro ⟨rfl, rfl⟩
          exact ⟨rfl, he⟩
        · rintro ⟨rfl, hx⟩
          rw [he] at hx
          exact ⟨rfl, Option.some.inj hx⟩

/-- The body of an envelope. -/
theorem locate_body_eq_ok {part : MessagePart} {path : Path} :
    locate d bodySteps part = .ok (path, e) ↔ d.root.isNamed envelopeNs "Envelope" = true ∧
      ∃ body : d.root.First envelopeNs "Body", path = [body.place] ∧ body.element = e := by
  simp [bodySteps, locate_eq_ok, and_comm]

/-- A child of the security header of an envelope. -/
theorem locate_security_eq_ok {ns l : String} {part : MessagePart} {path : Path} :
    locate d (securitySteps ++ [(ns, l)]) part = .ok (path, e) ↔
      d.root.isNamed envelopeNs "Envelope" = true ∧
        ∃ (header : d.root.First envelopeNs "Header")
          (security : header.element.First securityNs "Security")
          (x : security.element.First ns l),
          path = [header.place, security.place, x.place] ∧ x.element = e := by
  simp [securitySteps, locate_eq_ok, and_comm]

theorem requiredChild_eq_ok {name : String} :
    requiredChild e name = .ok c ↔ ∃ x : e.First signatureNs name, x.element = c := by
  rw [requiredChild]
  constructor
  · intro h
    split at h
    · next i x hx =>
      obtain rfl : x = c := Except.ok.inj h
      exact ⟨⟨i, x, Element.find?_eq_some_iff.1 hx⟩, rfl⟩
    · contradiction
  · rintro ⟨x, rfl⟩
    rw [Element.find?_eq_some_iff.2 x.isFirst]

theorem requireAlgorithm_eq_ok {expected : String} {u : Unit} :
    requireAlgorithm e expected = .ok u ↔ e.attribute? "Algorithm" = some expected := by
  rw [requireAlgorithm]
  split <;> simp_all

/-- The text of an element is octets in base64, but for blanks. -/
def Holds (e : Element) (b : Octets) : Prop :=
  Text.Base64.decodeChars (e.text.toList.filter fun c => !Text.isBlank c) = some b

theorem decodeValue_eq_ok {element : String} {b : Octets} :
    decodeValue element e.text = .ok b ↔ Holds e b := by
  unfold Holds
  rw [decodeValue]
  split <;> simp_all

theorem onlyReference_eq_ok {r : Element} :
    onlyReference e = .ok r ↔ e.findAll signatureNs "Reference" = [r] := by
  rw [onlyReference]
  split <;> simp_all

theorem bodyIdentifier_eq_ok {id : String} : bodyIdentifier e = .ok id ↔
    (e.attributeIn? utilityNs "Id").or (e.attribute? "Id") = some id := by
  rw [bodyIdentifier]
  cases (e.attributeIn? utilityNs "Id").or (e.attribute? "Id") <;> simp

theorem requireTarget_eq_ok {id : String} {u : Unit} : requireTarget e id = .ok u ↔
    ∃ uri, e.attribute? "URI" = some uri ∧ uri.toList = '#' :: id.toList := by
  rw [requireTarget]
  cases e.attribute? "URI" with
  | none => simp
  | some uri => simp

theorem checkFault_eq_ok {u : Unit} :
    checkFault e = .ok u ↔ ∀ c ∈ e.childElements, c.isNamed envelopeNs "Fault" = false := by
  rw [← Element.find?_eq_none_iff, checkFault]
  split <;> simp_all

/-- The inclusive prefixes of a reference: those of all its transforms, each of them the canonical
form. -/
def TransformPrefixes (reference : Element) (prefixes : List String) : Prop :=
  ((∀ c ∈ reference.childElements, c.isNamed signatureNs "Transforms" = false) ∧ prefixes = []) ∨
    ∃ i transforms, reference.FirstAt signatureNs "Transforms" i transforms ∧
      (∀ t ∈ transforms.findAll signatureNs "Transform",
        t.attribute? "Algorithm" = some canonicalAlgorithm) ∧
      (transforms.findAll signatureNs "Transform").flatMap inclusivePrefixes = prefixes

theorem transformPrefixes_eq_ok {prefixes : List String} :
    transformPrefixes e = .ok prefixes ↔ TransformPrefixes e prefixes := by
  rw [transformPrefixes, TransformPrefixes, ← Element.find?_eq_none_iff]
  simp only [← Element.find?_eq_some_iff]
  cases e.find? signatureNs "Transforms" with
  | none => simp [eq_comm]
  | some p =>
    obtain ⟨i, transforms⟩ := p
    simp only [bind_eq_ok, pure_eq_ok, mapM_check_eq_ok, requireAlgorithm_eq_ok]
    simp [List.flatMap]

theorem canonicalOctets_eq_ok {path : Path} {words : List String} {o : Octets} :
    canonicalOctets d path words = .ok o ↔
      ∃ out, d.canonicalize path words = .ok out ∧ octetsOf out = o := by
  rw [canonicalOctets]
  cases d.canonicalize path words <;> simp [Except.map]

end Checks

/-! ## The digest and the signature -/

/-- The reference in a signature, as it covers a body at a place in a document: it is the only one,
it points at that body, and it states a digest of its canonical form. -/
structure BodyReference (d : Document) (signedInfo body : Element) (place : Nat) where
  element : Element
  only : signedInfo.findAll signatureNs "Reference" = [element]
  id : String
  identifies : (body.attributeIn? utilityNs "Id").or (body.attribute? "Id") = some id
  target : ∃ uri, element.attribute? "URI" = some uri ∧ uri.toList = '#' :: id.toList
  /-- The inclusive prefixes of its transforms. -/
  prefixes : List String
  transforms : TransformPrefixes element prefixes
  method : element.First signatureNs "DigestMethod"
  methodAlgorithm : method.element.attribute? "Algorithm" = some digestAlgorithm
  value : element.First signatureNs "DigestValue"
  /-- The digest that it states. -/
  stated : Octets
  states : Holds value.element stated
  /-- The canonical form that is digested. -/
  digested : List Char
  canonical : d.canonicalize [place] prefixes = .ok digested

theorem digestedBody_eq_ok {d : Document} {signedInfo : Element} {octets stated : Octets} :
    digestedBody d signedInfo = .ok (octets, stated) ↔
      d.root.isNamed envelopeNs "Envelope" = true ∧
        ∃ (body : d.root.First envelopeNs "Body")
          (r : BodyReference d signedInfo body.element body.place),
          octetsOf r.digested = octets ∧ r.stated = stated := by
  simp only [digestedBody, bind_eq_ok, onlyReference_eq_ok, bodyIdentifier_eq_ok,
    requireTarget_eq_ok, transformPrefixes_eq_ok, requiredChild_eq_ok, requireAlgorithm_eq_ok,
    decodeValue_eq_ok, mapError_eq_ok, pure_eq_ok, locate_body_eq_ok, Prod.exists,
    canonicalOctets_eq_ok]
  -- the record is made of the outcomes of the steps, and each step of the record's fields
  constructor
  · rintro ⟨element, only, _, _, ⟨hroot, body, rfl, rfl⟩, id, identifies, _, target, prefixes,
      transforms, _, ⟨method, rfl⟩, _, halgorithm, _, ⟨value, rfl⟩, b, hholds, _,
      ⟨out, canonical, rfl⟩, he⟩
    obtain ⟨rfl, rfl⟩ := Prod.mk.inj he
    exact ⟨hroot, body, ⟨element, only, id, identifies, target, prefixes, transforms, method,
      halgorithm, value, b, hholds, out, canonical⟩, rfl, rfl⟩
  · rintro ⟨hroot, body, r, rfl, rfl⟩
    exact ⟨r.element, r.only, _, _, ⟨hroot, body, rfl, rfl⟩, r.id, r.identifies, (), r.target,
      r.prefixes, r.transforms, _, ⟨r.method, rfl⟩, (), r.methodAlgorithm, _, ⟨r.value, rfl⟩,
      r.stated, r.states, _, ⟨r.digested, r.canonical, rfl⟩, rfl⟩

/-- **A signed message**: the parts that its check looks at, each the first of its name in the one
before, with the reference to the body and the canonical form that the signature is over. -/
structure SignedMessage (d : Document) where
  envelope : d.root.isNamed envelopeNs "Envelope" = true
  body : d.root.First envelopeNs "Body"
  header : d.root.First envelopeNs "Header"
  security : header.element.First securityNs "Security"
  signature : security.element.First signatureNs "Signature"
  signedInfo : signature.element.First signatureNs "SignedInfo"
  canonicalMethod : signedInfo.element.First signatureNs "CanonicalizationMethod"
  canonicalMethodAlgorithm :
    canonicalMethod.element.attribute? "Algorithm" = some canonicalAlgorithm
  signatureMethod : signedInfo.element.First signatureNs "SignatureMethod"
  signatureMethodAlgorithm :
    signatureMethod.element.attribute? "Algorithm" = some signatureAlgorithm
  reference : BodyReference d signedInfo.element body.element body.place
  digest : Crypto.sha256 (octetsOf reference.digested) = reference.stated
  /-- The canonical form that is signed. -/
  covered : List Char
  canonical : d.canonicalize [header.place, security.place, signature.place, signedInfo.place]
    (inclusivePrefixes canonicalMethod.element) = .ok covered
  value : signature.element.First signatureNs "SignatureValue"
  /-- The signature over it. -/
  signed : Octets
  holds : Holds value.element signed

/-- The signature of a message is one under the key of a certificate. -/
def SignedMessage.VerifiesUnder {d : Document} (m : SignedMessage d) (c : Pki.Certificate) : Prop :=
  ∃ k, c.parts.key = some (.rsa k) ∧
    Crypto.Rsa.verify .sha256 k (octetsOf m.covered) m.signed = true

theorem checkValue_eq_ok {key : Option Pki.PublicKey} {message signature : Octets} {u : Unit} :
    checkValue key message signature = .ok u ↔
      ∃ k, key = some (.rsa k) ∧ Crypto.Rsa.verify .sha256 k message signature = true := by
  unfold checkValue
  split
  · split <;> simp_all
  · next hne =>
    simp only [reduceCtorEq, false_iff]
    rintro ⟨k, rfl, -⟩
    exact hne k rfl

/-- **The check of the signature** succeeds exactly for signed messages whose signature is one under
the key of the certificate. -/
theorem checkSignature_eq_ok {d : Document} {c : Pki.Certificate} {u : Unit} :
    checkSignature d c = .ok u ↔ ∃ m : SignedMessage d, m.VerifiesUnder c := by
  simp only [checkSignature, bind_eq_ok, signatureSteps, locate_security_eq_ok, Prod.exists]
  constructor
  · rintro ⟨_, _, ⟨hroot, header, security, signature, rfl, rfl⟩, h⟩
    split at h
    · simp at h
    · next k signedInfo hinfo =>
      simp only [bind_eq_ok, requiredChild_eq_ok, requireAlgorithm_eq_ok, digestedBody_eq_ok,
        Prod.exists] at h
      obtain ⟨_, ⟨method, rfl⟩, _, halgorithm, _, ⟨signatureMethod, rfl⟩, _, hsignatureAlgorithm,
        _, _, ⟨-, body, reference, rfl, rfl⟩, h⟩ := h
      split at h
      · simp at h
      · next hdigest =>
        simp only [bind_eq_ok, requiredChild_eq_ok, decodeValue_eq_ok, mapError_eq_ok,
          canonicalOctets_eq_ok, checkValue_eq_ok] at h
        obtain ⟨_, ⟨covered, hcovered, rfl⟩, _, ⟨value, rfl⟩, signed, hholds, hverifies⟩ := h
        exact ⟨{
          envelope := hroot
          body := body
          header := header
          security := security
          signature := signature
          signedInfo := ⟨k, signedInfo, Element.find?_eq_some_iff.1 hinfo⟩
          canonicalMethod := method
          canonicalMethodAlgorithm := halgorithm
          signatureMethod := signatureMethod
          signatureMethodAlgorithm := hsignatureAlgorithm
          reference := reference
          digest := not_not.1 hdigest
          covered := covered
          canonical := hcovered
          value := value
          signed := signed
          holds := hholds }, hverifies⟩
  · rintro ⟨m, hverifies⟩
    refine ⟨_, _, ⟨m.envelope, m.header, m.security, m.signature, rfl, rfl⟩, ?_⟩
    -- back from the record: each step finds what its field says
    rw [Element.find?_eq_some_iff.2 m.signedInfo.isFirst]
    simp only [bind_eq_ok, requiredChild_eq_ok, requireAlgorithm_eq_ok, digestedBody_eq_ok,
      Prod.exists]
    refine ⟨_, ⟨m.canonicalMethod, rfl⟩, (), m.canonicalMethodAlgorithm, _,
      ⟨m.signatureMethod, rfl⟩, (), m.signatureMethodAlgorithm, _, _,
      ⟨m.envelope, m.body, m.reference, rfl, rfl⟩, ?_⟩
    rw [if_neg (not_not.2 m.digest)]
    simp only [bind_eq_ok, requiredChild_eq_ok, decodeValue_eq_ok, mapError_eq_ok,
      canonicalOctets_eq_ok, checkValue_eq_ok]
    exact ⟨_, ⟨m.covered, m.canonical, rfl⟩, _, ⟨m.value, rfl⟩, m.signed, m.holds, hverifies⟩

/-! ## The whole message -/

theorem signerCertificate_eq_ok {d : Document} {c : Pki.Certificate} :
    signerCertificate d = .ok c ↔ d.root.isNamed envelopeNs "Envelope" = true ∧
      ∃ (header : d.root.First envelopeNs "Header")
        (security : header.element.First securityNs "Security")
        (token : security.element.First securityNs "BinarySecurityToken") (der : Octets),
        Holds token.element der ∧ Pki.Certificate.ofDer? der = some c := by
  simp only [signerCertificate, bind_eq_ok, tokenSteps, locate_security_eq_ok, Prod.exists,
    decodeValue_eq_ok]
  constructor
  · rintro ⟨_, _, ⟨hroot, header, security, token, rfl, rfl⟩, der, hholds, h⟩
    split at h
    · next c' hc =>
      obtain rfl : c' = c := by simpa using h
      exact ⟨hroot, header, security, token, der, hholds, hc⟩
    · simp at h
  · rintro ⟨hroot, header, security, token, der, hholds, hc⟩
    refine ⟨_, _, ⟨hroot, header, security, token, rfl, rfl⟩, der, hholds, ?_⟩
    rw [hc]
    rfl

/-- There is one first child of a name. -/
instance {e : Element} {ns l : String} : Subsingleton (e.First ns l) := by
  refine ⟨fun a b => ?_⟩
  obtain ⟨i, c, hc⟩ := a
  obtain ⟨j, b, hb⟩ := b
  obtain ⟨rfl, rfl⟩ := hc.unique hb
  rfl

/-- **What is asked of the signer's name**: its first organisation is this text, or goes on behind
it with a zero character, where the comparison ends. -/
def NamesOrganization (c : Pki.Certificate) (organization : String) : Prop :=
  '\x00' ∉ organization.toList ∧ ∃ rest, c.parts.subject.firstOrganization? =
    some (organization.toList ++ rest) ∧ ∀ x ∈ rest.head?, x = '\x00'

theorem organization?_eq_some_iff {c : Pki.Certificate} {organization : String} :
    c.parts.subject.organization? = some organization ↔ NamesOrganization c organization := by
  have hread : c.parts.subject.organization? = some organization ↔
      ∃ s, c.parts.subject.firstOrganization? = some s ∧
        s.takeWhile (· ≠ '\x00') = organization.toList := by
    simp only [Pki.Name.organization?, Option.bind_eq_bind, Option.bind_eq_some_iff,
      Option.pure_def, Option.some.injEq, ← String.toList_inj, String.toList_ofList]
  simp only [hread, Text.takeWhile_eq_iff, decide_eq_true_eq, decide_eq_false_iff_not, not_not]
  constructor
  · rintro ⟨_, hfirst, hplain, rest, rfl, hrest⟩
    exact ⟨fun hzero => hplain _ hzero rfl, rest, hfirst, hrest⟩
  · rintro ⟨hplain, rest, hfirst, hrest⟩
    exact ⟨_, hfirst, fun x hx hzero => hplain (hzero ▸ hx), rest, rfl, hrest⟩

/-- A name without zero characters names the organisation that it has. -/
theorem NamesOrganization.firstOrganization?_eq {c : Pki.Certificate} {organization : String}
    (h : NamesOrganization c organization)
    (hplain : ∀ s, c.parts.subject.firstOrganization? = some s → '\x00' ∉ s) :
    c.parts.subject.firstOrganization? = some organization.toList := by
  obtain ⟨-, rest, hfirst, hrest⟩ := h
  cases rest with
  | nil => rw [hfirst, List.append_nil]
  | cons x rest =>
    obtain rfl := hrest x rfl
    exact absurd (by simp) (hplain _ hfirst)

theorem Verifier.checkSigner_eq_ok {v : Verifier} {c : Pki.Certificate} {u : Unit} :
    v.checkSigner c = .ok u ↔ NamesOrganization c v.organization ∧ v.chain c = .ok () := by
  rw [← organization?_eq_some_iff]
  simp only [checkSigner]
  split
  · next h => simp [h]
  · next h => simp [not_not.1 h]

theorem Verifier.checkRequest_eq_ok {request : Uuid} {r : Response} {u : Unit} :
    checkRequest request r = .ok u ↔ ∀ found, r.header.uuid = some found → found = request := by
  rw [checkRequest]
  cases r.header.uuid with
  | none => simp
  | some found => simp

/-- An answer that was read has just one outcome. -/
theorem Response.outcome_of_ofElement {e : Element} {r : Response}
    (h : Response.ofElement e = .ok r) : r.confirmation.isSome ≠ r.refusal.isSome :=
  (statesOutcome_iff.1 (ofElement_eq_ok.1 h).outcome).2.2

/-- **What an accepted message shows** beyond its signature: no fault, a certificate that is trusted
and under whose key the signature stands, and one answer to the request. -/
structure Verifier.Accepts (v : Verifier) {d : Document} (m : SignedMessage d) (request : Uuid)
    (r : Response) : Prop where
  noFault : ∀ c ∈ m.body.element.childElements, c.isNamed envelopeNs "Fault" = false
  signer : ∃ (token : m.security.element.First securityNs "BinarySecurityToken") (der : Octets)
    (c : Pki.Certificate), Holds token.element der ∧ Pki.Certificate.ofDer? der = some c ∧
      NamesOrganization c v.organization ∧ v.chain c = .ok () ∧ m.VerifiesUnder c
  answer : ∃ answer : m.body.element.First receiptNs "Odpoved",
    Response.ofElement answer.element = .ok r
  outcome : r.confirmation.isSome ≠ r.refusal.isSome
  request : ∀ found, r.header.uuid = some found → found = request

/-- **An accepted message shows what it should**, all of it about the same parts. -/
theorem Verifier.accepts_of_verify {v : Verifier} {input : Octets} {request : Uuid} {r : Response}
    (h : v.verify input request = .ok r) :
    ∃ d, Document.parse input = .ok d ∧ ∃ m : SignedMessage d, v.Accepts m request r := by
  simp only [verify, bind_eq_ok, mapError_eq_ok] at h
  obtain ⟨d, hd, h⟩ := h
  refine ⟨d, hd, ?_⟩
  split at h
  · simp at h
  · simp only [bind_eq_ok, signatureSteps, locate_body_eq_ok, locate_security_eq_ok, Prod.exists,
      checkFault_eq_ok, signerCertificate_eq_ok, checkSigner_eq_ok, checkSignature_eq_ok] at h
    obtain ⟨_, _, ⟨-, body, rfl, rfl⟩, _, hfault, _, _, -, c,
      ⟨-, header, security, token, der, hholds, hcert⟩, _, ⟨horganization, hchain⟩, _,
      ⟨m, hverifies⟩, h⟩ := h
    -- the parts are found again, and found to be the same
    obtain rfl : header = m.header := Subsingleton.elim _ _
    obtain rfl : security = m.security := Subsingleton.elim _ _
    obtain rfl : body = m.body := Subsingleton.elim _ _
    split at h
    · simp at h
    · next j answer hanswer =>
      simp only [bind_eq_ok, mapError_eq_ok, checkRequest_eq_ok, pure_eq_ok] at h
      obtain ⟨_, hread, _, hrequest, rfl⟩ := h
      exact ⟨m, hfault, ⟨token, der, c, hholds, hcert, horganization, hchain, hverifies⟩,
        ⟨⟨j, answer, Element.find?_eq_some_iff.1 hanswer⟩, hread⟩,
        Response.outcome_of_ofElement hread, hrequest⟩

/-- **A message that shows all of it is accepted.** -/
theorem Verifier.verify_of_accepts {v : Verifier} {input : Octets} {request : Uuid} {r : Response}
    {d : Document} (hd : Document.parse input = .ok d) {m : SignedMessage d}
    (h : v.Accepts m request r) : v.verify input request = .ok r := by
  obtain ⟨token, der, c, hholds, hcert, horganization, hchain, hverifies⟩ := h.signer
  obtain ⟨answer, hread⟩ := h.answer
  simp only [verify, bind_eq_ok, mapError_eq_ok]
  refine ⟨d, hd, ?_⟩
  rw [m.envelope]
  simp only [Bool.not_true, Bool.false_eq_true, if_false, bind_eq_ok, signatureSteps,
    locate_body_eq_ok, locate_security_eq_ok, Prod.exists, checkFault_eq_ok,
    signerCertificate_eq_ok, checkSigner_eq_ok, checkSignature_eq_ok]
  refine ⟨_, _, ⟨m.envelope, m.body, rfl, rfl⟩, (), h.noFault, _, _,
    ⟨m.envelope, m.header, m.security, m.signature, rfl, rfl⟩, c,
    ⟨m.envelope, m.header, m.security, token, der, hholds, hcert⟩, (), ⟨horganization, hchain⟩, (),
    ⟨m, hverifies⟩, ?_⟩
  rw [Element.find?_eq_some_iff.2 answer.isFirst]
  simp only [bind_eq_ok, mapError_eq_ok, checkRequest_eq_ok, pure_eq_ok]
  exact ⟨r, hread, (), h.request, rfl⟩

/-- **Acceptance is sound, and refuses nothing else**: a message is accepted exactly when it is a
document that is a signed message and shows all of this about the same parts. -/
theorem Verifier.verify_eq_ok {v : Verifier} {input : Octets} {request : Uuid} {r : Response} :
    v.verify input request = .ok r ↔
      ∃ d, Document.parse input = .ok d ∧ ∃ m : SignedMessage d, v.Accepts m request r := by
  constructor
  · exact accepts_of_verify
  · rintro ⟨d, hd, m, h⟩
    exact verify_of_accepts hd h

end FiscalGateway.Soap

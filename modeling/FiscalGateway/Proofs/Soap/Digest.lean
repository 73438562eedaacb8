import FiscalGateway.Proofs.Soap.Agreement
import FiscalGateway.Proofs.Soap.Reading

/-!
# What is digested — what is verified is what is read

The check digests the canonical form of the body, and the answer is read from the body as it was
sent. `Verifier.digested_is_read` says that nothing is between the two: the digested octets are
a document of their own, and the answer in it is the answer that was returned.
-/

namespace FiscalGateway.Soap

open Outcome
open Xml (Document Element)

/-- The octets that the check of a signature digests, with the digest that it compares. -/
def digested? (d : Document) : Option (Octets × Octets) := do
  let (_, signature) ← (locate d signatureSteps .signature).toOption
  let (_, signedInfo) ← signature.find? signatureNs "SignedInfo"
  (digestedBody d signedInfo).toOption

/-- They are those of the signed message. -/
theorem SignedMessage.digested?_eq {d : Document} (m : SignedMessage d) :
    digested? d = some (octetsOf m.reference.digested, m.reference.stated) := by
  have hsignature : locate d signatureSteps .signature =
      .ok ([m.header.place, m.security.place, m.signature.place], m.signature.element) := by
    rw [signatureSteps, locate_security_eq_ok]
    exact ⟨m.envelope, m.header, m.security, m.signature, rfl, rfl⟩
  have hbody : digestedBody d m.signedInfo.element =
      .ok (octetsOf m.reference.digested, m.reference.stated) :=
    digestedBody_eq_ok.2 ⟨m.envelope, m.body, m.reference, rfl, rfl⟩
  simp [digested?, hsignature, Element.find?_eq_some_iff.2 m.signedInfo.isFirst, hbody,
    Except.toOption]

/-- **The digested octets hold the answer** that is read from the message. -/
theorem Verifier.exists_answer_in_digested {v : Verifier} {input : Octets} {request : Uuid}
    {r : Response} {d : Document} (hd : Document.parse input = .ok d)
    (hnamed : d.root.toNode.NCNamed) (h : v.verify input request = .ok r) :
    ∃ m : SignedMessage d, ∃ d', Document.parse (octetsOf m.reference.digested) = .ok d' ∧
      ∃ answer : d'.root.First receiptNs "Odpoved", Response.ofElement answer.element = .ok r := by
  obtain ⟨d₁, hd₁, m, haccepts⟩ := accepts_of_verify h
  obtain rfl : d = d₁ := Except.ok.inj (hd.symm.trans hd₁)
  obtain ⟨answer, hread⟩ := haccepts.answer
  have hres := Document.resolved_of_parse hd
  have hat : d.elementAt? [m.body.place] = some m.body.element := m.body.descend?
  obtain ⟨context, hbody, -, -⟩ := Element.resolvedIn_of_descend? hat hres Xml.Scope.sees_nil
  have hparse := Document.ofChars_canonicalize hres hnamed hat m.reference.canonical
  obtain ⟨j, hanswer⟩ := answer.isFirst.settle (m.reference.prefixes.map Xml.prefixOfToken)
    (d.root.scopeAround [] [m.body.place]) []
  refine ⟨m, _, (parse_octetsOf _).trans hparse, ⟨j, _, hanswer⟩, ?_⟩
  rw [Response.ofElement_settle _ _ _ (Element.resolvedIn_of_mem hbody answer.isFirst.mem), hread]

/-- **What is verified is what is read.** The digested octets of an accepted message are a document
whose first answer is the answer that was returned; so any two accepted messages with the same
digested octets give the same answer, whatever else they differ in. -/
theorem Verifier.digested_is_read {v : Verifier} {input : Octets} {request : Uuid} {r : Response}
    {d : Document} (hd : Document.parse input = .ok d) (hnamed : d.root.toNode.NCNamed)
    (h : v.verify input request = .ok r) :
    ∃ octets stated, digested? d = some (octets, stated) ∧ Crypto.sha256 octets = stated ∧
      (∃ d', Document.parse octets = .ok d' ∧ ∃ answer : d'.root.First receiptNs "Odpoved",
        Response.ofElement answer.element = .ok r) ∧
      ∀ (v' : Verifier) (input' : Octets) (request' : Uuid) (d' : Document) (r' : Response),
        Document.parse input' = .ok d' → d'.root.toNode.NCNamed →
          v'.verify input' request' = .ok r' →
            (∃ stated', digested? d' = some (octets, stated')) → r' = r := by
  obtain ⟨m, d₁, hd₁, answer, hread⟩ := exists_answer_in_digested hd hnamed h
  refine ⟨_, _, m.digested?_eq, m.digest, ⟨d₁, hd₁, answer, hread⟩, ?_⟩
  rintro v' input' request' d' r' hd' hnamed' h' ⟨stated', hsame⟩
  obtain ⟨m', d₂, hd₂, answer', hread'⟩ := exists_answer_in_digested hd' hnamed' h'
  rw [m'.digested?_eq] at hsame
  obtain ⟨hoctets, -⟩ := Prod.mk.inj (Option.some.inj hsame)
  rw [hoctets, hd₁] at hd₂
  obtain rfl := Except.ok.inj hd₂
  obtain rfl : answer = answer' := Subsingleton.elim _ _
  exact Except.ok.inj (hread'.symm.trans hread)

/-- There is an accepted message, and its digested octets hold the answer. -/
theorem digested_is_read_specimen : ∃ input d, Document.parse input = .ok d ∧
    d.root.toNode.NCNamed ∧ specimenVerifier.verify input specimenRequest = .ok specimenResponse ∧
    ∃ octets stated d', digested? d = some (octets, stated) ∧ Document.parse octets = .ok d' ∧
      ∃ answer : d'.root.First receiptNs "Odpoved",
        Response.ofElement answer.element = .ok specimenResponse := by
  obtain ⟨hkey, hfirst⟩ := Pki.Certificate.specimen_says
  obtain ⟨input, d, hparse, hnamed, -, hverify⟩ := exists_accepted_specimen [] hkey hfirst nofun
  obtain ⟨octets, stated, hdigested, -, ⟨d', hd', answer, hread⟩, -⟩ :=
    Verifier.digested_is_read hparse hnamed hverify
  exact ⟨input, d, hparse, hnamed, hverify, octets, stated, d', hdigested, hd', answer, hread⟩

end FiscalGateway.Soap

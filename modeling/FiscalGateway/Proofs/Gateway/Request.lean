import FiscalGateway.Gateway.Operations
import FiscalGateway.Proofs.Sale.SecurityCodes
import FiscalGateway.Proofs.Soap.Agreement
import FiscalGateway.Proofs.Soap.Receipt

/-!
# Requests — what the gateway makes of a valid sale

A request carries a sale and is signed twice under one certificate: as a message, and in the codes
of the sale (`SignedReceipt`). The gateway makes such a request of every valid sale with times and
every pair whose key agrees with its public half (`exists_buildRequest`), so none of the faults of
building one occurs.
-/

namespace FiscalGateway

open Outcome Soap Xml

/-- The element that steps lead to. -/
def Xml.Document.reach? (d : Document) (steps : List (String × String)) : Option Element :=
  d.findPath? steps >>= d.elementAt?

/-- **A request that carries a sale and is signed under a certificate.** Whoever reads it finds the
certificate in it, and both signatures are good: the one of the message, and the one of the sale,
whose fingerprint stands beside it. -/
structure SignedReceipt (envelope : Octets) (s : Sale) (c : Pki.Certificate) where
  document : Document
  parse : Document.parse envelope = .ok document
  signer : signerCertificate document = .ok c
  signed : checkSignature document c = .ok ()
  header : Element
  reach_header : document.reach? headerSteps = some header
  uuid : header.attribute? "uuid_zpravy" = some s.uuid.text
  /-- The text that the sale stands for. -/
  text : String
  plaintext : s.plaintext = .ok text
  signatureCode : Element
  reach_signatureCode : document.reach? (codeSteps "pkp") = some signatureCode
  signature : Octets
  decode : Text.Base64.decode? signatureCode.text = some signature
  verifies : checkValue c.parts.key (Octets.ofText text) signature = .ok ()
  fingerprintCode : Element
  reach_fingerprintCode : document.reach? (codeSteps "bkp") = some fingerprintCode
  fingerprint : fingerprintCode.text = FiscalGateway.fingerprint signature

/-! ## Reading a request -/

section Reading

variable {certificate digest value code : Octets} {fingerprintCode : String} {s : Sale}
  {sentAt soldAt : Time.Timestamp}

/-- The envelope of a receipt, as it is read. -/
def receiptDocument (certificate digest value : Octets) (receipt : Element) : Document :=
  ⟨envelopeElement certificate digest value [receipt.toNode] []⟩

theorem reach?_of_leads {d : Document} {ns l : String} {steps : List (String × String)}
    {path : Path} {e : Element} (hroot : d.root.isNamed ns l = true)
    (h : d.root.Leads steps path e) : d.reach? ((ns, l) :: steps) = some e := by
  obtain ⟨hpath, he⟩ := findPath?_eq_some hroot h
  rw [Document.reach?, hpath]
  exact he

theorem reach?_header :
    (receiptDocument certificate digest value
      (receiptElement s sentAt soldAt code fingerprintCode)).reach? headerSteps =
        some ⟨receiptTag "Hlavicka" [] (headerAttributes s sentAt), []⟩ :=
  reach?_of_leads isNamed_envelope
    (.step firstAt_body (.step firstAt_receipt (.step firstAt_receiptHeader .here)))

theorem reach?_signatureCode :
    (receiptDocument certificate digest value
      (receiptElement s sentAt soldAt code fingerprintCode)).reach? (codeSteps "pkp") =
        some (signatureCodeElement code) :=
  reach?_of_leads isNamed_envelope (.step firstAt_body (.step firstAt_receipt
    (.step firstAt_codes (.step firstAt_signatureCode .here))))

theorem reach?_fingerprintCode :
    (receiptDocument certificate digest value
      (receiptElement s sentAt soldAt code fingerprintCode)).reach? (codeSteps "bkp") =
        some (fingerprintCodeElement fingerprintCode) :=
  reach?_of_leads isNamed_envelope (.step firstAt_body (.step firstAt_receipt
    (.step firstAt_codes (.step firstAt_fingerprintCode .here))))

/-- **An envelope that is read as that of a stamped sale** is a request that carries the sale, once
both signatures are good. -/
def signedReceiptOf {envelope : Octets} {text : String} {c : Pki.Certificate}
    {k : Crypto.Rsa.PublicKey}
    (hparse : Document.parse envelope = .ok (receiptDocument c.der digest value
      (receiptElement s sentAt soldAt code (fingerprint code))))
    (hdigest : Crypto.sha256 (octetsOf (bodyForm
      [(receiptElement s sentAt soldAt code (fingerprint code)).toNode])) = digest)
    (hcertified : c.parts.key = some (.rsa k)) (htext : s.plaintext = .ok text)
    (hsigned : Crypto.Rsa.verify .sha256 k (octetsOf (signedInfoForm digest)) value = true)
    (hverifies : Crypto.Rsa.verify .sha256 k (Octets.ofText text) code = true) :
    SignedReceipt envelope s c where
  document := _
  parse := hparse
  signer := signerCertificate_eq_ok.2 ⟨isNamed_envelope, ⟨0, _, firstAt_header⟩,
    ⟨0, _, firstAt_security⟩, ⟨0, _, firstAt_token⟩, c.der, holds_valueLeaf _ _, c.ofDer?_der⟩
  signed := checkSignature_eq_ok.2
    ⟨envelopeMessage (Document.resolved_of_parse hparse) hdigest, k, hcertified, hsigned⟩
  header := _
  reach_header := reach?_header
  uuid := rfl
  text := text
  plaintext := htext
  signatureCode := _
  reach_signatureCode := reach?_signatureCode
  signature := code
  decode := by
    rw [signatureCodeElement, text_receiptLeaf, Text.Base64.decode?, String.toList_ofList,
      Text.Base64.decodeChars_encodeChars]
  verifies := checkValue_eq_ok.2 ⟨k, hcertified, hverifies⟩
  fingerprintCode := _
  reach_fingerprintCode := reach?_fingerprintCode
  fingerprint := by
    rw [fingerprintCodeElement, text_receiptLeaf, String.ofList_toList]

end Reading

/-! ## Building a request -/

/-- **A valid sale becomes a request that carries it.** -/
theorem Gateway.exists_buildRequest {s : Sale} {pair : Pki.KeyPair}
    {sentAt soldAt : Time.Timestamp} (hvalid : s.IsValid) (hsent : s.sentAt = some sentAt)
    (hsold : s.soldAt = some soldAt) (hagrees : pair.rsa.Agrees) :
    ∃ (envelope : Octets) (_ : SignedReceipt envelope s pair.certificate),
      Gateway.buildRequest s pair = .ok envelope := by
  obtain ⟨text, code, htext, hstamp, hverifies⟩ := exists_stamp hsold pair.rsa_eq hagrees
  -- the markup of the stamped sale is read in every envelope
  obtain ⟨hinline, hne⟩ := isInline_fingerprint code
  have hreadable : (receiptMarkup s sentAt soldAt code (fingerprint code)).Readable :=
    receiptMarkup_readable hvalid (Crypto.Rsa.ne_nil_of_verify hverifies) hne hinline
  have hread (digest value : Octets) : Document.ofChars (filled pair.certificate.der digest value
      (receiptMarkup s sentAt soldAt code (fingerprint code)).write) =
        .ok (receiptDocument pair.certificate.der digest value
          (receiptElement s sentAt soldAt code (fingerprint code))) := by
    rw [ofChars_filled_markup hreadable, node_receiptMarkup]
    rfl
  -- so the envelope can be signed, and what is signed is read again
  have hmarkup : (s.withCodes code).markup =
      .ok (receiptMarkup s sentAt soldAt code (fingerprint code)) :=
    markup_eq_ok.2 ⟨sentAt, soldAt, code, fingerprint code, hsent, hsold, rfl, rfl, rfl⟩
  have henvelope : envelopeOf (s.withCodes code) pair.certificate.der =
      .ok (wrapBody (receiptMarkup s sentAt soldAt code (fingerprint code)).write
        pair.certificate.der) := bind_eq_ok.2 ⟨_, hmarkup, rfl⟩
  obtain ⟨value, hsign, hsigned⟩ := exists_signature hread rfl pair.rsa_eq hagrees
  have hparse := (parse_octetsOf _).trans (hread (Crypto.sha256 (octetsOf (bodyForm
    [(receiptElement s sentAt soldAt code (fingerprint code)).toNode]))) value)
  refine ⟨_, signedReceiptOf hparse rfl pair.certified htext hsigned hverifies, ?_⟩
  exact bind_eq_ok.2 ⟨_, mapError_eq_ok.2 hstamp, bind_eq_ok.2 ⟨_, mapError_eq_ok.2 henvelope,
    bind_eq_ok.2 ⟨_, mapError_eq_ok.2 hsign, rfl⟩⟩⟩

end FiscalGateway

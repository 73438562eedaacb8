import FiscalGateway.Proofs.Crypto.Rsa
import FiscalGateway.Proofs.Outcome
import FiscalGateway.Proofs.Text.Inline
import FiscalGateway.Sale.SecurityCodes

/-!
# Security codes — what a stamped sale carries

A key that agrees with its public half stamps every sale with a time: with a signature over its
text that the public half accepts, and with the fingerprint of that signature (`exists_stamp`).
-/

namespace FiscalGateway

open Outcome Text

/-! ## Fingerprints -/

/-- Groups hold what was grouped, and hyphens. -/
theorem isInline_groupEight {s : List Char} (h : IsInline s) : IsInline (groupEight s) := by
  fun_induction groupEight s with
  | case1 s hshort => exact h
  | case2 s hlong ih =>
    have hfirst : IsInline (s.take groupLength) := h.of_subset (List.take_subset _ _)
    have hrest := ih (h.of_subset (List.drop_subset _ _))
    exact isInline_append.2 ⟨hfirst, isInline_cons.2 ⟨by decide, hrest⟩⟩

/-- A hyphen more for each eighth that is followed by others. -/
theorem length_groupEight (s : List Char) :
    (groupEight s).length = s.length + (s.length - 1) / groupLength := by
  fun_induction groupEight s with
  | case1 s hshort =>
    unfold groupLength at *
    omega
  | case2 s hlong ih =>
    simp only [List.length_append, List.length_cons, List.length_take, List.length_drop] at ih ⊢
    unfold groupLength at *
    omega

/-- **A fingerprint is an inline text**, and not empty. -/
theorem isInline_fingerprint (signature : Octets) :
    IsInline (fingerprint signature).toList ∧ (fingerprint signature).toList ≠ [] := by
  have hdigits : IsInline (Hex.encodeWith Hex.upperDigit (Crypto.sha1 signature)) :=
    isInline_encodeWith (by decide) _
  have hlength := length_groupEight (Hex.encodeWith Hex.upperDigit (Crypto.sha1 signature))
  rw [Hex.length_encodeWith, Crypto.length_sha1] at hlength
  rw [fingerprint, String.toList_ofList]
  refine ⟨isInline_groupEight hdigits, fun hnil => ?_⟩
  rw [hnil] at hlength
  exact absurd hlength (by decide)

/-! ## Stamping -/

/-- The sale with these codes. -/
def Sale.withCodes (s : Sale) (signature : Octets) : Sale :=
  { s with
    signatureCode := some signature
    fingerprintCode := some (fingerprint signature) }

/-- **What stamping does**: it signs the text of the sale, and changes nothing but the codes. -/
theorem stamp_eq_ok {s stamped : Sale} {key : Pki.PrivateKey} :
    s.stamp key = .ok stamped ↔ ∃ text signature, s.plaintext = .ok text ∧
      key.sign? (Octets.ofText text) = some signature ∧ s.withCodes signature = stamped := by
  rw [Sale.stamp, bind_eq_ok]
  refine exists_congr fun text => ?_
  cases hsign : key.sign? (Octets.ofText text) with
  | none => simp
  | some signature => simp [Sale.withCodes]

/-- **Every sale with a time can be stamped**, whatever codes it had. -/
theorem exists_stamp {s : Sale} {soldAt : Time.Timestamp} {key : Pki.PrivateKey}
    {k : Crypto.Rsa.PrivateKey} (hsold : s.soldAt = some soldAt) (hkey : key.rsa? = some k)
    (hagrees : k.Agrees) :
    ∃ text signature, s.plaintext = .ok text ∧ s.stamp key = .ok (s.withCodes signature) ∧
      Crypto.Rsa.verify .sha256 k.publicKey (Octets.ofText text) signature = true := by
  have htext : ∃ text, s.plaintext = .ok text := by
    rw [Sale.plaintext, hsold]
    exact ⟨_, rfl⟩
  obtain ⟨text, htext⟩ := htext
  obtain ⟨signature, hsign, hverifies⟩ := key.exists_sign? hkey hagrees (Octets.ofText text)
  exact ⟨text, signature, htext, stamp_eq_ok.2 ⟨text, signature, htext, hsign, rfl⟩, hverifies⟩

end FiscalGateway

import FiscalGateway.Proofs.Soap.Template

/-!
# Slots — what signing replaces

A slot is filled at its first occurrence in the whole text, whatever the body is. In front of its
own place the template holds no beginning of it (`skips_beforeToken`, `skips_beforeDigest`), and
base64 holds no markup, so the slots of the template are the ones that are filled
(`fillSlot_digest`, `fillSlot_signature`).
-/

namespace FiscalGateway.Soap

open Text

section Skips

variable {slot s : List Char} {a v : String}

theorem skips_literal (h : clashesThroughout slot s = true) :
    Skips slot (String.ofList s).toList := by
  rw [String.toList_ofList]
  exact skips_of_clashesThroughout h

/-- Text without markup is skipped. -/
theorem skips_of_head? (hslot : slot.head? = some '<') (hs : '<' ∉ s) : Skips slot s := by
  obtain ⟨part, rfl⟩ := List.head?_eq_some_iff.1 hslot
  exact skips_of_not_mem hs

/-- A value of the template and a piece of its markup are skipped behind what is skipped. -/
theorem skips_step (hslot : slot.head? = some '<') (ha : Skips slot a.toList)
    (hv : v ∈ templateValues) (hs : clashesThroughout slot s = true) :
    Skips slot (a ++ v ++ String.ofList s).toList := by
  have hvalue : Skips slot v.toList :=
    skips_of_head? hslot fun hc => plain_of_mem_templateValues hv _ hc (by decide)
  rw [String.toList_append, String.toList_append]
  exact (ha.append hvalue).append (skips_literal hs)

theorem skips_encodeChars (hslot : slot.head? = some '<') (b : Octets) :
    Skips slot (Base64.encodeChars b) := by
  have hmarkup : ∀ c ∈ Base64.encodeChars b, c ≠ '<' :=
    Base64.forall_mem_encodeChars (by decide) (by decide) b
  exact skips_of_head? hslot fun hc => hmarkup _ hc rfl

end Skips

/-- No slot begins in front of the token. -/
theorem skips_beforeToken {slot : List Char} (h : slot = digestSlot ∨ slot = signatureSlot) :
    Skips slot beforeToken.toList := by
  unfold beforeToken
  rcases h with rfl | rfl
  all_goals
    iterate 7 refine skips_step (by decide) ?_ (by simp [templateValues]) (by decide)
    exact skips_literal (by decide)

/-- Nor between the token and the digest. -/
theorem skips_beforeDigest {slot : List Char} (h : slot = digestSlot ∨ slot = signatureSlot) :
    Skips slot beforeDigest.toList := by
  unfold beforeDigest
  rcases h with rfl | rfl
  all_goals
    iterate 6 refine skips_step (by decide) ?_ (by simp [templateValues]) (by decide)
    exact skips_literal (by decide)

/-- An occurrence behind what is skipped is the one that is filled. -/
theorem fillSlot_of_skips (part : EnvelopePart) {slot before : List Char} (h : Skips slot before)
    (value : Octets) (after : List Char) :
    fillSlot part slot value (before ++ (slot ++ after)) =
      .ok (before ++ (valueElement part.text value ++ after)) := by
  rw [fillSlot, h, replaceFirst?_here]
  rfl

/-- An empty value is written as its slot. -/
theorem valueElement_digest : valueElement EnvelopePart.digestSlot.text [] = digestSlot := by decide

theorem valueElement_signature :
    valueElement EnvelopePart.signatureSlot.text [] = signatureSlot := by decide

section Filled

variable (certificate digest signature : Octets) (body : List Char)

/-- **The digest goes to its place in the template**, whatever the body is. -/
theorem fillSlot_digest :
    fillSlot .digestSlot digestSlot digest (filled certificate [] signature body) =
      .ok (filled certificate digest signature body) := by
  have hbefore : Skips digestSlot
      (beforeToken.toList ++ Base64.encodeChars certificate ++ beforeDigest.toList) :=
    ((skips_beforeToken (.inl rfl)).append (skips_encodeChars (by decide) certificate)).append
      (skips_beforeDigest (.inl rfl))
  have hfill := fillSlot_of_skips .digestSlot hbefore digest (beforeSignature.toList ++
    (valueElement EnvelopePart.signatureSlot.text signature ++
      (beforeBody.toList ++ (body ++ afterBody.toList))))
  simpa only [filled, valueElement_digest, List.append_assoc] using hfill

/-- **And so does the signature.** -/
theorem fillSlot_signature :
    fillSlot .signatureSlot signatureSlot signature (filled certificate digest [] body) =
      .ok (filled certificate digest signature body) := by
  have hwritten : valueElement EnvelopePart.digestSlot.text digest =
      "<ds:DigestValue>".toList ++ Base64.encodeChars digest ++ "</ds:DigestValue>".toList := by
    unfold valueElement EnvelopePart.text
    repeat rw [String.toList_ofList]
    simp only [List.cons_append, List.nil_append, List.append_assoc]
  have hdigest : Skips signatureSlot (valueElement EnvelopePart.digestSlot.text digest) := by
    rw [hwritten]
    exact ((skips_literal (by decide)).append (skips_encodeChars (by decide) digest)).append
      (skips_literal (by decide))
  have hbefore : Skips signatureSlot (beforeToken.toList ++ Base64.encodeChars certificate ++
      beforeDigest.toList ++ valueElement EnvelopePart.digestSlot.text digest ++
        beforeSignature.toList) :=
    ((((skips_beforeToken (.inr rfl)).append (skips_encodeChars (by decide) certificate)).append
      (skips_beforeDigest (.inr rfl))).append hdigest).append (skips_literal (by decide))
  have hfill := fillSlot_of_skips .signatureSlot hbefore signature
    (beforeBody.toList ++ (body ++ afterBody.toList))
  simpa only [filled, valueElement_signature, List.append_assoc] using hfill

end Filled

end FiscalGateway.Soap

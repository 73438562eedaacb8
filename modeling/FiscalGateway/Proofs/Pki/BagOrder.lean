import FiscalGateway.Proofs.Pki.Import

/-!
# The order of a bag — when it matters which certificate comes first

Of the certificates that come with a key, the first one that names itself as the issuer is the one
that is judged, and it may be the wrong one: a name is no proof, and an issuer may have two
certificates under one name. So the order of the others matters exactly where two of them that name
themselves as the issuer would be judged differently (`Bundle.accept_perm_iff`), and a pinned root
that signed the certificate is of no use behind a namesake of its own
(`Bundle.accept_depends_on_order`).
-/

namespace FiscalGateway.Pki

namespace Bundle

variable {b : Bundle} {rules : TrustRules Certificate} {leaf issuer : Certificate}
  {others others' : List Certificate}

/-- A bundle with other certificates beside that of its key. -/
def beside (b : Bundle) (others : List Certificate) : Bundle := { b with others := others }

/-- Only the first one that names itself as the issuer is looked at. -/
theorem accept_congr (hleaf : b.certificate = some leaf)
    (h : others.find? (rules.issued · leaf) = others'.find? (rules.issued · leaf)) :
    (b.beside others).accept rules = (b.beside others').accept rules := by
  have hissuer : acceptIssuer rules leaf others = acceptIssuer rules leaf others' := by
    unfold acceptIssuer
    rw [h]
  obtain ⟨certificate, privateKey, bag⟩ := b
  obtain rfl : certificate = some leaf := hleaf
  cases privateKey with
  | none => rfl
  | some key =>
    exact congrArg (fun outcome => outcome >>= fun _ => KeyPair.ofParts leaf key) hissuer

theorem accept_of_find?_eq_some (hleaf : b.certificate = some leaf)
    (h : others.find? (rules.issued · leaf) = some issuer) :
    (b.beside others).accept rules = (b.beside [issuer]).accept rules := by
  have hsingle : [issuer].find? (rules.issued · leaf) = some issuer :=
    List.find?_cons_of_pos (issued_of_find? h).2
  exact accept_congr hleaf (h.trans hsingle.symm)

/-- **All issuers are judged alike**: whichever of the others that name themselves as the issuer is
the only one, the outcome is the same. -/
def IssuersAgree (b : Bundle) (rules : TrustRules Certificate) : Prop :=
  ∀ leaf, b.certificate = some leaf → ∀ i ∈ b.others, ∀ j ∈ b.others,
    rules.issued i leaf = true → rules.issued j leaf = true →
      (b.beside [i]).accept rules = (b.beside [j]).accept rules

/-- Any of the others may come first. -/
theorem exists_perm_of_mem (h : issuer ∈ b.others) (hissued : rules.issued issuer leaf = true) :
    ∃ others : List Certificate, others.Perm b.others ∧
      others.find? (rules.issued · leaf) = some issuer := by
  obtain ⟨front, back, hsplit⟩ := List.append_of_mem h
  rw [hsplit]
  exact ⟨issuer :: (front ++ back), List.perm_middle.symm, List.find?_cons_of_pos hissued⟩

/-- Where all issuers are judged alike the order does not matter. -/
theorem IssuersAgree.accept_eq (h : b.IssuersAgree rules) (hothers : others.Perm b.others) :
    (b.beside others).accept rules = b.accept rules := by
  change _ = (b.beside b.others).accept rules
  cases hleaf : b.certificate with
  | none => simp only [accept, beside, hleaf]
  | some leaf =>
    cases hfind : b.others.find? (rules.issued · leaf) with
    | none =>
      have hnone : others.find? (rules.issued · leaf) = none := by
        rw [List.find?_eq_none] at hfind ⊢
        exact fun i hi => hfind i (hothers.subset hi)
      exact accept_congr hleaf (hnone.trans hfind.symm)
    | some i =>
      -- another order may find another issuer, but one that passes the same checks
      obtain ⟨hi, hissued⟩ := issued_of_find? hfind
      obtain ⟨j, hj⟩ : ∃ j, others.find? (rules.issued · leaf) = some j :=
        Option.isSome_iff_exists.1 <|
          List.find?_isSome.2 ⟨i, hothers.symm.subset hi, hissued⟩
      obtain ⟨hmem, hissued'⟩ := issued_of_find? hj
      rw [accept_of_find?_eq_some hleaf hfind, accept_of_find?_eq_some hleaf hj]
      exact h leaf hleaf j (hothers.subset hmem) i hi hissued' hissued

/-- Where the order does not matter all issuers are judged alike: each of them may come first. -/
theorem issuersAgree_of_accept_eq
    (h : ∀ others, others.Perm b.others → (b.beside others).accept rules = b.accept rules) :
    b.IssuersAgree rules := by
  intro leaf hleaf i hi j hj hissued hissued'
  obtain ⟨others, hperm, hfind⟩ := exists_perm_of_mem hi hissued
  obtain ⟨others', hperm', hfind'⟩ := exists_perm_of_mem hj hissued'
  rw [← accept_of_find?_eq_some hleaf hfind, ← accept_of_find?_eq_some hleaf hfind',
    h others hperm, h others' hperm']

/-- **A bundle is accepted in every order** if there is an issuer, and each certificate that names
itself as the issuer passes every check. -/
theorem accept_perm_eq_ok_iff {pair : KeyPair} :
    (∀ others, others.Perm b.others → (b.beside others).accept rules = .ok pair) ↔
      b.certificate = some pair.certificate ∧ b.privateKey = some pair.privateKey ∧
        rules.chain pair.certificate = .ok () ∧
          (∃ i ∈ b.others, rules.issued i pair.certificate = true) ∧
            ∀ i ∈ b.others, rules.issued i pair.certificate = true →
              rules.pinned i = true ∧ rules.isAuthority i = .ok true ∧
                rules.signed i pair.certificate = .ok true := by
  constructor
  · intro h
    obtain ⟨hcertificate, hkey, i, hfind, -, -, -, hchain⟩ :=
      accept_eq_ok.1 (h b.others (List.Perm.refl _))
    refine ⟨hcertificate, hkey, hchain, ⟨i, issued_of_find? hfind⟩, fun j hj hissued => ?_⟩
    -- put in front, it is the issuer that is found
    obtain ⟨others, hperm, hfirst⟩ := exists_perm_of_mem hj hissued
    obtain ⟨-, -, j', hfind', hpinned, hauthority, hsigned, -⟩ := accept_eq_ok.1 (h others hperm)
    obtain rfl : j = j' := Option.some.inj (hfirst.symm.trans hfind')
    exact ⟨hpinned, hauthority, hsigned⟩
  · rintro ⟨hcertificate, hkey, hchain, ⟨i, hi, hissued⟩, hchecks⟩ others hperm
    obtain ⟨j, hj⟩ : ∃ j, others.find? (rules.issued · pair.certificate) = some j :=
      Option.isSome_iff_exists.1 <|
        List.find?_isSome.2 ⟨i, hperm.symm.subset hi, hissued⟩
    obtain ⟨hmem, hissued'⟩ := issued_of_find? hj
    obtain ⟨hpinned, hauthority, hsigned⟩ := hchecks j (hperm.subset hmem) hissued'
    exact accept_eq_ok.2 ⟨hcertificate, hkey, j, hj, hpinned, hauthority, hsigned, hchain⟩

/-- **When the order of the others does not matter**: exactly if all that name themselves as the
issuer are judged alike. A bundle is accepted in every order exactly if one of them does, and each
that does is pinned, an authority and the signer, and the path and the key of the certificate pass
too. -/
theorem accept_perm_iff (b : Bundle) (rules : TrustRules Certificate) :
    ((∀ others, others.Perm b.others → (b.beside others).accept rules = b.accept rules) ↔
        b.IssuersAgree rules) ∧
      ∀ pair, (∀ others, others.Perm b.others → (b.beside others).accept rules = .ok pair) ↔
        b.certificate = some pair.certificate ∧ b.privateKey = some pair.privateKey ∧
          rules.chain pair.certificate = .ok () ∧
            (∃ i ∈ b.others, rules.issued i pair.certificate = true) ∧
              ∀ i ∈ b.others, rules.issued i pair.certificate = true →
                rules.pinned i = true ∧ rules.isAuthority i = .ok true ∧
                  rules.signed i pair.certificate = .ok true :=
  ⟨⟨issuersAgree_of_accept_eq, fun h _ => h.accept_eq⟩, fun _ => accept_perm_eq_ok_iff⟩

end Bundle

/-! ### Two certificates of one name -/

/-- A certificate under the name of the root, for the same key, but of no authority. -/
def specimenNamesake : Octets := specimenOctets "A"

/-- Key and certificate, with others beside them. -/
def specimenBag (others : List Octets) : Bundle :=
  ⟨Certificate.ofDer? specimenLeaf, some PrivateKey.specimen, others.filterMap Certificate.ofDer?⟩

/-- **The order matters.** The root is pinned, an authority and the signer; in front of its namesake
it lets the bundle pass, and behind it the bundle is refused. -/
theorem Bundle.accept_depends_on_order :
    (specimenBag [specimenNamesake, specimenRoot]).others.Perm
        (specimenBag [specimenRoot, specimenNamesake]).others ∧
      (∃ pair, (specimenBag [specimenRoot, specimenNamesake]).accept
        ((specimenRoots specimenRoot).rules specimenMoment) = .ok pair) ∧
      (specimenBag [specimenNamesake, specimenRoot]).accept
        ((specimenRoots specimenRoot).rules specimenMoment) = .error .untrustedIssuer := by
  refine ⟨(List.Perm.swap specimenRoot specimenNamesake []).filterMap _, ?_, by decide +kernel⟩
  exact Outcome.exists_of_isOk (by decide +kernel)

end FiscalGateway.Pki

import FiscalGateway.Pki.Import
import FiscalGateway.Proofs.Outcome
import FiscalGateway.Proofs.Pki.Dump
import FiscalGateway.Proofs.Pki.Pem

/-!
# Import — what a bundle has passed when a pair is taken from it

Every check comes before the pair is made, so a pair has passed them all: `acceptIssuer_eq_ok` lists
those on the issuer, and `Roots.Accepts` is what is known of a pair and the bundle that it came in.
Of the issuer it says that its dump shows an authority. It is one where dumps tell the truth
(`Roots.TellsAuthorities`), as those of plain certificates do.
-/

namespace FiscalGateway.Pki

/-- **A certificate is accepted** if the first of the others that issued it passes every check. -/
theorem acceptIssuer_eq_ok {C : Type} {rules : TrustRules C} {leaf : C} {others : List C} :
    acceptIssuer rules leaf others = .ok () ↔
      ∃ issuer, others.find? (rules.issued · leaf) = some issuer ∧ rules.pinned issuer = true ∧
        rules.isAuthority issuer = .ok true ∧ rules.signed issuer leaf = .ok true ∧
          rules.chain leaf = .ok () := by
  unfold acceptIssuer
  cases others.find? (rules.issued · leaf) with
  | none => simp
  | some issuer =>
    cases hpinned : rules.pinned issuer <;>
      rcases hauthority : rules.isAuthority issuer with rejection | (_ | _) <;>
        rcases hsigned : rules.signed issuer leaf with rejection | (_ | _) <;>
          simp [hpinned, hauthority, hsigned]

/-- Its octets make up a certificate. -/
theorem Certificate.eq_of_der_eq {c d : Certificate} (h : c.der = d.der) : c = d := by
  have hparts : some c.parts = some d.parts := by
    rw [← c.read_der, ← d.read_der, h]
  cases c
  cases d
  simp_all

/-- Members are told by their octets. -/
theorem Pool.exists_mem_of_contains {pool : Pool} {c : Certificate} (h : pool.contains c = true) :
    ∃ d ∈ pool.certificates, d.der = c.der := by
  obtain ⟨d, hd, hder⟩ := List.any_eq_true.1 h
  exact ⟨d, hd, by simpa using hder⟩

/-- What was found as the issuer is one of the others, and names itself as the issuer. -/
theorem issued_of_find? {C : Type} {rules : TrustRules C} {leaf issuer : C} {others : List C}
    (h : others.find? (rules.issued · leaf) = some issuer) :
    issuer ∈ others ∧ rules.issued issuer leaf = true :=
  have hissued := List.find?_some h
  ⟨List.mem_of_find?_eq_some h, hissued⟩

/-- A pair has the parts that it is made of. -/
theorem KeyPair.ofParts_eq_ok {certificate : Certificate} {privateKey : PrivateKey}
    {pair : KeyPair} : ofParts certificate privateKey = .ok pair ↔
      certificate = pair.certificate ∧ privateKey = pair.privateKey := by
  constructor
  · intro h
    unfold ofParts at h
    split at h
    · contradiction
    · split at h
      · contradiction
      · split at h
        · obtain rfl := Except.ok.inj h
          exact ⟨rfl, rfl⟩
        · contradiction
  · rintro ⟨rfl, rfl⟩
    exact ofParts_parts pair

/-- **A bundle is accepted** if its certificate is, and its parts make the pair. -/
theorem Bundle.accept_eq_ok {b : Bundle} {rules : TrustRules Certificate} {pair : KeyPair} :
    b.accept rules = .ok pair ↔
      b.certificate = some pair.certificate ∧ b.privateKey = some pair.privateKey ∧
        ∃ issuer, b.others.find? (rules.issued · pair.certificate) = some issuer ∧
          rules.pinned issuer = true ∧ rules.isAuthority issuer = .ok true ∧
            rules.signed issuer pair.certificate = .ok true ∧
              rules.chain pair.certificate = .ok () := by
  obtain ⟨certificate, privateKey, others⟩ := b
  cases certificate with
  | none => simp [accept]
  | some leaf =>
    cases privateKey with
    | none => simp [accept]
    | some key =>
      have haccept : accept ⟨some leaf, some key, others⟩ rules =
          acceptIssuer rules leaf others >>= fun _ => KeyPair.ofParts leaf key := rfl
      -- both parts are there; what is left is the issuer, and whether the parts belong together
      rw [haccept, Outcome.bind_eq_ok]
      constructor
      · rintro ⟨⟨⟩, hissuer, hpair⟩
        obtain ⟨rfl, rfl⟩ := KeyPair.ofParts_eq_ok.1 hpair
        exact ⟨rfl, rfl, acceptIssuer_eq_ok.1 hissuer⟩
      · rintro ⟨hleaf, hkey, hissuer⟩
        cases hleaf
        cases hkey
        exact ⟨(), acceptIssuer_eq_ok.2 hissuer, KeyPair.ofParts_eq_ok.2 ⟨rfl, rfl⟩⟩

/-- **What pinned roots vouch for**: a pair whose parts are those of a bundle, together with an
issuer that is pinned, shown as an authority and the signer of the certificate, and a path to the
roots. -/
structure Roots.Accepts (roots : Roots) (now : Int) (bundle : Bundle) (pair : KeyPair) :
    Prop where
  certificate : bundle.certificate = some pair.certificate
  privateKey : bundle.privateKey = some pair.privateKey
  issuer : ∃ issuer ∈ bundle.others, roots.toolkit.issued issuer pair.certificate = true ∧
    roots.pool.contains issuer = true ∧
      (∃ dump, roots.toolkit.dump issuer = .ok dump ∧ readsAsAuthority dump = true) ∧
        ∃ key, issuer.parts.key = some key ∧ roots.toolkit.verify pair.certificate key = .ok true
  chain : roots.verifyChain now pair.certificate = .ok ()

namespace Roots

variable {roots : Roots} {now : Int} {bundle : Bundle} {pair : KeyPair} {issuer c : Certificate}

theorem marks_eq_ok :
    roots.marks c = .ok true ↔
      ∃ dump, roots.toolkit.dump c = .ok dump ∧ readsAsAuthority dump = true := by
  rw [marks, Outcome.bind_eq_ok]
  simp only [Outcome.pure_eq_ok]

/-- A certificate is signed by an issuer that has a key, with that key. -/
theorem signed_eq_ok :
    roots.signed issuer c = .ok true ↔
      ∃ key, issuer.parts.key = some key ∧ roots.toolkit.verify c key = .ok true := by
  unfold signed
  cases issuer.parts.key <;> simp

/-- **A pair that was imported is vouched for.** -/
theorem accepts_of_importBundle {octets : Octets} {password : String}
    (h : importBundle octets password roots now = .ok pair) :
    ∃ bundle, roots.toolkit.openBundle octets password = some bundle ∧
      roots.Accepts now bundle pair := by
  unfold importBundle at h
  cases hopen : roots.toolkit.openBundle octets password with
  | none =>
    rw [hopen] at h
    cases h
  | some bundle =>
    rw [hopen] at h
    refine ⟨bundle, rfl, ?_⟩
    obtain ⟨hcertificate, hkey, issuer, hfind, hpinned, hauthority, hsigned, hchain⟩ :=
      Bundle.accept_eq_ok.1 h
    obtain ⟨hmem, hissued⟩ := issued_of_find? hfind
    exact ⟨hcertificate, hkey, ⟨issuer, hmem, hissued, hpinned, marks_eq_ok.1 hauthority,
      signed_eq_ok.1 hsigned⟩, hchain⟩

/-- **Dumps tell the truth about authorities**: a pinned certificate that is shown as that of an
authority is marked as one. -/
def TellsAuthorities (roots : Roots) : Prop :=
  ∀ c ∈ roots.pool.certificates, roots.marks c = .ok true → c.isAuthority = true

/-- They do where the certificates are plain. -/
theorem tellsAuthorities_of_isPlain (htoolkit : roots.toolkit = .standard)
    (hplain : ∀ c ∈ roots.pool.certificates, c.IsPlain) : roots.TellsAuthorities := by
  intro c hc hmarks
  obtain ⟨dump, hdump, hreads⟩ := marks_eq_ok.1 hmarks
  rw [htoolkit] at hdump
  obtain rfl := Except.ok.inj hdump
  rwa [readsAsAuthority_dump (hplain c hc)] at hreads

/-- Where they do, a pair that is vouched for has an authority as its issuer. -/
theorem Accepts.exists_authority (h : roots.Accepts now bundle pair)
    (htells : roots.TellsAuthorities) :
    ∃ issuer ∈ bundle.others, roots.pool.contains issuer = true ∧ issuer.isAuthority = true ∧
      ∃ key, issuer.parts.key = some key ∧
        roots.toolkit.verify pair.certificate key = .ok true := by
  obtain ⟨issuer, hmem, -, hpinned, hmarks, hsigned⟩ := h.issuer
  obtain ⟨c, hc, hder⟩ := Pool.exists_mem_of_contains hpinned
  obtain rfl := Certificate.eq_of_der_eq hder
  exact ⟨_, hmem, hpinned, htells _ hc (marks_eq_ok.2 hmarks), hsigned⟩

end Roots

/-! ## A bundle that can be computed with -/

section Specimen

open Asn1 (write writeNatural objectId)

/-- A certificate that is signed. -/
def specimenLeaf : Octets := specimenIssued "B" [] fun signed =>
  (Crypto.Rsa.sign? .sha256 specimenNumbers.key signed).getD []

/-- A certificate with these extensions, by kind and value; nobody looks at the signature of a
root. -/
def specimenAuthority (extensions : List (Octets × Octets)) : Octets :=
  let extension (kind value : Octets) := write Asn1.sequence <|
    write Asn1.objectIdentifier kind ++ write Asn1.octetString value
  let list := write Asn1.sequence (extensions.flatMap fun (kind, value) => extension kind value)
  specimenIssued "A" (write (Asn1.context 3) list) fun _ => [0]

/-- A certificate of an authority. -/
def specimenRoot : Octets :=
  specimenAuthority
    [(Certificate.basicConstraintsKind, write Asn1.sequence (write Asn1.boolean [0xFF]))]

/-- A certificate without constraints. Its key may sign certificates, and its comment has lines. -/
def specimenCommented : Octets :=
  specimenAuthority
    [(Certificate.keyUsageKind, write Asn1.bitString [2, 4]),
      (objectId [2, 16, 840, 1, 113730, 1, 13],
        write 0x16 (Octets.ofText "\nX509v3 Basic Constraints:\nCA:TRUE"))]

def specimenContent (kind value : Octets) : Octets :=
  write Asn1.sequence <| write Asn1.objectIdentifier kind ++ write (Asn1.context 0) value

/-- Key, certificate and root in bags that are neither encrypted nor authenticated. -/
def specimenBundle (root : Octets) : Octets :=
  let certificate (der : Octets) := specimenContent (Bundle.bagKind 3) <|
    specimenContent Bundle.certificateKind (write Asn1.octetString der)
  let bags := write Asn1.sequence <| specimenContent (Bundle.bagKind 1) PrivateKey.specimen.der ++
    certificate specimenLeaf ++ certificate root
  let part (b : Octets) := specimenContent Bundle.dataKind (write Asn1.octetString b)
  write Asn1.sequence <| writeNatural 3 ++ part (write Asn1.sequence (part bags))

def specimenRoots (root : Octets) : Roots :=
  { pool := ⟨(Certificate.ofDer? root).toList⟩ }

/-- A moment in the year 2028. -/
def specimenMoment : Int := 64000000000

theorem exists_importBundle_specimen :
    ∃ pair, importBundle (specimenBundle specimenRoot) "" (specimenRoots specimenRoot)
      specimenMoment = .ok pair :=
  Outcome.exists_of_isOk (by decide +kernel)

/-- The root is an authority. -/
theorem tellsAuthorities_specimen : (specimenRoots specimenRoot).TellsAuthorities :=
  have hauthority : ∀ c ∈ (specimenRoots specimenRoot).pool.certificates, c.isAuthority = true := by
    decide +kernel
  fun c hc _ => hauthority c hc

/-- A comment passes for constraints. -/
theorem exists_importBundle_commented :
    ∃ pair, importBundle (specimenBundle specimenCommented) "" (specimenRoots specimenCommented)
      specimenMoment = .ok pair :=
  Outcome.exists_of_isOk (by decide +kernel)

/-- But it makes no authority. -/
theorem isAuthority_commented :
    ∀ c ∈ (specimenRoots specimenCommented).pool.certificates, c.isAuthority = false := by
  decide +kernel

end Specimen

end FiscalGateway.Pki

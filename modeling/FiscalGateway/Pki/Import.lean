import FiscalGateway.Pki.Toolkit

/-!
# Taking credentials from a bundle

`acceptIssuer` judges a certificate by those that came with it; the rules by which it judges are a
parameter. `importBundle` applies it to a bundle with the rules of the pinned roots, and pairs the
certificate with its key.
-/

namespace FiscalGateway.Pki

/-- What is asked about certificates; asking may fail. -/
structure TrustRules (C : Type) where
  /-- Whether the first names itself as the issuer of the second. -/
  issued : C → C → Bool
  pinned : C → Bool
  isAuthority : C → Except Rejection Bool
  /-- Whether the key of the first made the signature of the second. -/
  signed : C → C → Except Rejection Bool
  chain : C → Except Rejection Unit

/-- Judges a certificate by the first of the others that issued it. -/
def acceptIssuer {C : Type} (rules : TrustRules C) (leaf : C) (others : List C) :
    Except Rejection Unit := do
  match others.find? (rules.issued · leaf) with
  | none => throw (.missing .issuerCertificate)
  | some issuer =>
    if !rules.pinned issuer then throw .untrustedIssuer
    if !(← rules.isAuthority issuer) then throw .untrustedIssuer
    if !(← rules.signed issuer leaf) then throw .badSignature
    rules.chain leaf

/-- The rules of the pinned roots. -/
def Roots.rules (r : Roots) (now : Int) : TrustRules Certificate where
  issued := r.toolkit.issued
  pinned := r.pool.contains
  isAuthority := r.marks
  signed := r.signed
  chain := r.verifyChain now

/-- The key pair of a bundle that the rules accept. -/
def Bundle.accept (b : Bundle) (rules : TrustRules Certificate) : Except Rejection KeyPair := do
  match b.certificate, b.privateKey with
  | none, _ => throw (.missing .certificate)
  | some _, none => throw (.missing .privateKey)
  | some leaf, some key =>
    acceptIssuer rules leaf b.others
    KeyPair.ofParts leaf key

/-- The key pair of a bundle, judged by the pinned roots at a time. -/
def importBundle (b : Octets) (password : String) (roots : Roots) (now : Int) :
    Except Rejection KeyPair :=
  match roots.toolkit.openBundle b password with
  | none => throw .bundle
  | some bundle => bundle.accept (roots.rules now)

end FiscalGateway.Pki

import FiscalGateway.Pki.Bundle
import FiscalGateway.Pki.Dump
import FiscalGateway.Pki.Pool

/-!
# What judges certificates

A `Toolkit` opens bundles and answers questions about certificates. It is a parameter of what is
built on it; `Toolkit.standard` answers by the definitions of this library, so it knows the
signatures of RSA keys only. `Roots` are pinned certificates, together with the toolkit that judges
others by them.
-/

namespace FiscalGateway.Pki

/-- What is asked about bundles and certificates. -/
structure Toolkit where
  /-- The parts of a bundle, under its password. -/
  openBundle : Octets → String → Option Bundle
  /-- Whether the first names itself as the issuer of the second. -/
  issued : Certificate → Certificate → Bool
  /-- A certificate in words. -/
  dump : Certificate → Except Rejection (List Char)
  /-- Whether the signature of a certificate is that of a key. -/
  verify : Certificate → PublicKey → Except Rejection Bool
  /-- Whether a path leads from a certificate to the pool, at a time. -/
  trusts : Pool → Int → Certificate → Except Rejection Bool

/-- The toolkit of this library. -/
def Toolkit.standard : Toolkit where
  openBundle := Bundle.read?
  issued := Certificate.issued
  dump c := .ok c.dump
  verify c key := .ok (c.isSignedBy key)
  trusts pool now c := .ok (pool.trusts now c)

/-- Pinned certificates, and what judges others by them. -/
structure Roots where
  pool : Pool
  toolkit : Toolkit := .standard

instance : Coe Pool Roots := ⟨fun pool => { pool }⟩

namespace Roots

/-- Whether the dump of a certificate shows that of an authority. -/
def marks (r : Roots) (c : Certificate) : Except Rejection Bool := do
  return readsAsAuthority (← r.toolkit.dump c)

/-- Whether the key of the first made the signature of the second. -/
def signed (r : Roots) (issuer c : Certificate) : Except Rejection Bool :=
  match issuer.parts.key with
  | some key => r.toolkit.verify c key
  | none => .error .damaged

/-- Checks the path of a certificate. -/
def verifyChain (r : Roots) (now : Int) : ChainCheck :=
  r.pool.checkPath (r.toolkit.trusts r.pool now)

end Roots
end FiscalGateway.Pki

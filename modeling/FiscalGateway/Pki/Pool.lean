import FiscalGateway.Pki.Pem
import FiscalGateway.Pki.Rejection

/-!
# Pools of pinned certificates

Every member of a pool is an anchor of trust, also one that is no root. A path has at most one
step: `Pool.issuer?` chooses the member that issued a certificate, and `Pool.trusts` judges both.
`Pool.load` reads a pool from files.
-/

namespace FiscalGateway.Pki

/-- The pinned certificates, in order. -/
structure Pool where
  certificates : List Certificate

/-- The check of a certificate against what is trusted. -/
abbrev ChainCheck := Certificate → Except Rejection Unit

namespace Pool

/-- The pool that trusts nothing. -/
def empty : Pool := ⟨[]⟩

/-- The pool of an armoured text. -/
def ofPem (b : Octets) : Except Rejection Pool :=
  match Pem.certificates? b with
  | some cs => .ok ⟨cs⟩
  | none => .error .damaged

/-- The certificates of a file, at least one. -/
def loadFile (readFile : ReadFile) (path : String) : Except Rejection (List Certificate) :=
  match readFile path with
  | .error e => .error (.load path (.system e))
  | .ok b =>
    match Pem.certificates? b with
    | none => .error (.load path .malformed)
    | some [] => .error (.load path .noCertificates)
    | some cs => .ok cs

/-- The pool of several files. -/
def load (readFile : ReadFile) (paths : List String) : Except Rejection Pool := do
  return ⟨(← paths.mapM (loadFile readFile)).flatten⟩

/-- Whether a certificate is a member, compared by its octets. -/
def contains (p : Pool) (c : Certificate) : Bool := p.certificates.any (·.der == c.der)

/-- The one of two candidates that stays valid longer, the first if neither does. -/
def later (a b : Certificate) : Certificate :=
  if a.parts.notAfter.getD 0 < b.parts.notAfter.getD 0 then b else a

/-- The member that issued a certificate: the first that is valid now, or else the one whose
validity ended last. -/
def issuer? (p : Pool) (now : Int) (c : Certificate) : Option Certificate :=
  let candidates := p.certificates.filter (·.likelyIssued c)
  match candidates.find? (·.isValidAt now) with
  | some i => some i
  | none =>
    match candidates with
    | [] => none
    | first :: rest => some (rest.foldl later first)

/-- Whether an issuer stands properly above a certificate. -/
def stepHolds (now : Int) (issuer c : Certificate) : Bool :=
  issuer.mayIssue && !issuer.hasUnknownDemand && issuer.isValidAt now &&
    match issuer.parts.key with
    | some key => c.isSignedBy key
    | none => false

/-- Whether a path leads from a certificate to the pool. A certificate that names itself must be a
member, and so must one whose issuer is not. -/
def trusts (p : Pool) (now : Int) (c : Certificate) : Bool :=
  let alone := p.contains c
  !c.hasUnknownDemand && c.isValidAt now &&
    if c.isSelfIssued then alone
    else
      match p.issuer? now c with
      | some issuer => stepHolds now issuer c
      | none => alone

/-- Checks the path of a certificate, of which a judge tells whether it leads to the pool. A pool
that trusts nothing asks no judge. -/
def checkPath (p : Pool) (judge : Certificate → Except Rejection Bool) : ChainCheck := fun c => do
  if p.certificates.isEmpty then throw (.chain .emptyPool)
  if !(← judge c) then throw (.chain .path)

/-- Checks the path of a certificate at a time. -/
def verifyChain (p : Pool) (now : Int) : ChainCheck := p.checkPath fun c => .ok (p.trusts now c)

end Pool
end FiscalGateway.Pki

import FiscalGateway.SystemError

/-!
# Why credentials are refused

The causes for which certificates, keys and bundles are refused. A detail that only the decoder
knows is not part of the interface and is written `*`.
-/

namespace FiscalGateway.Pki

/-- The parts that a bundle must have. -/
inductive BundlePart where
  | certificate
  | privateKey
  | issuerCertificate
  deriving DecidableEq, Repr

/-- The wording of a part. -/
def BundlePart.text : BundlePart → String
  | .certificate => "certificate"
  | .privateKey => "private key"
  | .issuerCertificate => "issuer certificate"

/-- Why a path to the pinned certificates is refused. -/
inductive ChainFault where
  | emptyPool
  | path
  deriving DecidableEq, Repr

/-- Why a file of certificates is refused. -/
inductive LoadFault where
  | system (error : SystemError)
  | noCertificates
  | malformed
  deriving DecidableEq, Repr

/-- The causes of refusal. -/
inductive Rejection where
  /-- The bundle is damaged or the password is wrong. -/
  | bundle
  | missing (part : BundlePart)
  | untrustedIssuer
  | badSignature
  | keyMismatch
  | notRsa
  | chain (fault : ChainFault)
  | load (path : String) (fault : LoadFault)
  /-- A certificate or key that cannot be used. -/
  | damaged
  deriving DecidableEq, Repr

/-- The wording of a fault of the path. -/
def ChainFault.message : ChainFault → String
  | .emptyPool => "no pinned certificates configured"
  | .path => "*"

/-- The wording of a fault of a file. -/
def LoadFault.message : LoadFault → String
  | .system error => error.message
  | .noCertificates => "no certificates found"
  | .malformed => "*"

/-- The wording of a refusal. -/
def Rejection.message : Rejection → String
  | .bundle => "cannot decode PKCS#12 bundle: *"
  | .missing part => "PKCS#12 bundle has no " ++ part.text
  | .untrustedIssuer => "issuer is not a pinned root certificate"
  | .badSignature => "certificate was not signed by its issuer"
  | .keyMismatch => "private key does not match the certificate"
  | .notRsa => "private key is not an RSA key"
  | .chain fault => "certificate chain rejected: " ++ fault.message
  | .load path fault => "cannot load certificates from " ++ path ++ ": " ++ fault.message
  | .damaged => "*"

end FiscalGateway.Pki

/-!
# Names in messages

The namespaces, the algorithms and the identifiers that a signed message uses, and the ways through
a message that lead to its parts.
-/

namespace FiscalGateway.Soap

def envelopeNs : String := "http://schemas.xmlsoap.org/soap/envelope/"

def securityNs : String :=
  "http://docs.oasis-open.org/wss/2004/01/oasis-200401-wss-wssecurity-secext-1.0.xsd"

def utilityNs : String :=
  "http://docs.oasis-open.org/wss/2004/01/oasis-200401-wss-wssecurity-utility-1.0.xsd"

def signatureNs : String := "http://www.w3.org/2000/09/xmldsig#"

/-- The namespace of the receipts. -/
def receiptNs : String := "http://fs.mfcr.cz/eet/schema/v3"

/-- Exclusive canonical form; also the namespace of its parameters. -/
def canonicalAlgorithm : String := "http://www.w3.org/2001/10/xml-exc-c14n#"

def signatureAlgorithm : String := "http://www.w3.org/2001/04/xmldsig-more#rsa-sha256"

def digestAlgorithm : String := "http://www.w3.org/2001/04/xmlenc#sha256"

def tokenEncoding : String :=
  "http://docs.oasis-open.org/wss/2004/01/oasis-200401-wss-soap-message-security-1.0#Base64Binary"

def tokenType : String :=
  "http://docs.oasis-open.org/wss/2004/01/oasis-200401-wss-x509-token-profile-1.0#X509v3"

/-- The identifier of the body, which the signature refers to. -/
def bodyId : String := "_1"

/-- The identifier of the token with the certificate. -/
def tokenId : String := "X509-cert"

/-- The way to the body. -/
def bodySteps : List (String × String) := [(envelopeNs, "Envelope"), (envelopeNs, "Body")]

/-- The way to the security header. -/
def securitySteps : List (String × String) :=
  [(envelopeNs, "Envelope"), (envelopeNs, "Header"), (securityNs, "Security")]

/-- The way to the signature. -/
def signatureSteps : List (String × String) := securitySteps ++ [(signatureNs, "Signature")]

/-- The way to what the signature covers. -/
def signedInfoSteps : List (String × String) := signatureSteps ++ [(signatureNs, "SignedInfo")]

/-- The way to the certificate of the signer. -/
def tokenSteps : List (String × String) := securitySteps ++ [(securityNs, "BinarySecurityToken")]

end FiscalGateway.Soap

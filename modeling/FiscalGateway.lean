import FiscalGateway.Asn1.Item
import FiscalGateway.Crypto.Aes
import FiscalGateway.Crypto.Block
import FiscalGateway.Crypto.Chaining
import FiscalGateway.Crypto.Gcm
import FiscalGateway.Crypto.Hmac
import FiscalGateway.Crypto.Rsa
import FiscalGateway.Crypto.Sha1
import FiscalGateway.Crypto.Sha256
import FiscalGateway.Crypto.Sha512
import FiscalGateway.Crypto.TripleDes
import FiscalGateway.Directory
import FiscalGateway.Gateway.Fault
import FiscalGateway.Gateway.Operations
import FiscalGateway.Gateway.Transport
import FiscalGateway.Gateway.World
import FiscalGateway.Json.Printer
import FiscalGateway.Json.Reader
import FiscalGateway.Json.Record
import FiscalGateway.Json.Token
import FiscalGateway.Json.Value
import FiscalGateway.Main
import FiscalGateway.Net.Address
import FiscalGateway.Net.Listener
import FiscalGateway.Number.Binary64
import FiscalGateway.Number.Decimal
import FiscalGateway.Number.Integer
import FiscalGateway.Number.Shortest
import FiscalGateway.Pki.Bundle
import FiscalGateway.Pki.Certificate
import FiscalGateway.Pki.Import
import FiscalGateway.Pki.KeyPair
import FiscalGateway.Pki.Name
import FiscalGateway.Pki.Pem
import FiscalGateway.Pki.Pool
import FiscalGateway.Pki.PrivateKey
import FiscalGateway.Pki.Rejection
import FiscalGateway.Program
import FiscalGateway.Retry
import FiscalGateway.Sale.Basic
import FiscalGateway.Sale.Json
import FiscalGateway.Sale.SecurityCodes
import FiscalGateway.Sale.Validation
import FiscalGateway.Server.Api
import FiscalGateway.Server.CommandLine
import FiscalGateway.Server.Health
import FiscalGateway.Server.MediaType
import FiscalGateway.Server.Message
import FiscalGateway.Server.Start
import FiscalGateway.Settings.Basic
import FiscalGateway.Settings.Reader
import FiscalGateway.Settings.Toml
import FiscalGateway.Soap.Envelope
import FiscalGateway.Soap.Markup
import FiscalGateway.Soap.Response
import FiscalGateway.Soap.Signing
import FiscalGateway.Soap.Verification
import FiscalGateway.Soap.Vocabulary
import FiscalGateway.SystemError
import FiscalGateway.Table
import FiscalGateway.Text.Base64
import FiscalGateway.Text.Blank
import FiscalGateway.Text.Hex
import FiscalGateway.Text.Octets
import FiscalGateway.Text.Quoted
import FiscalGateway.Text.Split
import FiscalGateway.Text.Unprintable
import FiscalGateway.Time.Rfc3339
import FiscalGateway.Time.Timestamp
import FiscalGateway.Url.Form
import FiscalGateway.Url.Host
import FiscalGateway.Url.Percent
import FiscalGateway.Url.Punycode
import FiscalGateway.Url.Reader
import FiscalGateway.Uuid
import FiscalGateway.Vault.Connection
import FiscalGateway.Vault.Entry
import FiscalGateway.Vault.Fault
import FiscalGateway.Vault.Operations
import FiscalGateway.Vault.Sealing
import FiscalGateway.Vault.Store
import FiscalGateway.Vault.World
import FiscalGateway.Xml.Canonical
import FiscalGateway.Xml.CharacterData
import FiscalGateway.Xml.Document
import FiscalGateway.Xml.Error
import FiscalGateway.Xml.Query
import FiscalGateway.Xml.Scope
import FiscalGateway.Xml.Tag
import FiscalGateway.Xml.Token
import FiscalGateway.Xml.Tree
import FiscalGateway.Proofs.Text.Base64
import FiscalGateway.Proofs.Text.Split
import FiscalGateway.Proofs.Xml.CharacterData
import FiscalGateway.Proofs.Xml.Name
import FiscalGateway.Proofs.Xml.Scan
import FiscalGateway.Proofs.Xml.WrittenTag
import FiscalGateway.Proofs.Xml.Printing
import FiscalGateway.Proofs.Xml.Scopes
import FiscalGateway.Proofs.Xml.Settled
import FiscalGateway.Proofs.Xml.Preserved
import FiscalGateway.Proofs.Xml.Idempotent
import FiscalGateway.Proofs.Xml.Query
import FiscalGateway.Proofs.Soap.Reading
import FiscalGateway.Proofs.Outcome
import FiscalGateway.Proofs.Soap.Acceptance
import FiscalGateway.Proofs.Soap.Digest
import FiscalGateway.Proofs.Xml.Frame
import FiscalGateway.Proofs.Soap.Template
import FiscalGateway.Proofs.Soap.Envelope
import FiscalGateway.Proofs.Soap.Slots
import FiscalGateway.Proofs.Soap.Agreement
import FiscalGateway.Proofs.Crypto.Rsa
import FiscalGateway.Proofs.Pki.Pem
import FiscalGateway.Proofs.Vault.Quiet
import FiscalGateway.Proofs.Vault.Registry
import FiscalGateway.Proofs.Vault.Refinement
import FiscalGateway.Proofs.Vault.Atomic
import FiscalGateway.Proofs.Vault.Concurrent
import FiscalGateway.Proofs.Vault.Alone
import FiscalGateway.Proofs.Vault.Rotation
import FiscalGateway.Proofs.Text.Inline
import FiscalGateway.Proofs.Soap.Markup
import FiscalGateway.Proofs.Sale.Validation
import FiscalGateway.Proofs.Sale.SecurityCodes
import FiscalGateway.Proofs.Soap.Receipt
import FiscalGateway.Proofs.Gateway.Request
import FiscalGateway.Proofs.Gateway.Sending
import FiscalGateway.Proofs.Xml.Independence
import FiscalGateway.Proofs.Vault.Course
import FiscalGateway.Proofs.Vault.Holdings
import FiscalGateway.Proofs.Gateway.Course
import FiscalGateway.Proofs.Gateway.Delivery
import FiscalGateway.Proofs.Gateway.Cancellation
import FiscalGateway.Proofs.Pki.Import
import FiscalGateway.Proofs.Gateway.Trust
import FiscalGateway.Proofs.Vault.Locality
import FiscalGateway.Proofs.Vault.Isolation
import FiscalGateway.Proofs.Pki.BagOrder
import FiscalGateway.Proofs.Xml.Prefixwise
import FiscalGateway.Proofs.Xml.InTurn
import FiscalGateway.Proofs.Soap.Transforms
import FiscalGateway.Proofs.Number.Doubling
import FiscalGateway.Proofs.Vault.Conflicts
import FiscalGateway.Proofs.Xml.Minimal
import FiscalGateway.Proofs.Xml.Rearranged
import FiscalGateway.Proofs.Xml.AttributeNames
import FiscalGateway.Proofs.Xml.Bindings
import FiscalGateway.Proofs.Soap.SaleFields
import FiscalGateway.Proofs.Xml.Comments
import FiscalGateway.Proofs.Xml.LineEnds
import FiscalGateway.Proofs.Xml.Transit
import FiscalGateway.Proofs.Number.Digits
import FiscalGateway.Proofs.Number.Decimal
import FiscalGateway.Proofs.Time.Rfc3339
import FiscalGateway.Proofs.Sale.Amounts
import FiscalGateway.Proofs.Sale.Plaintext
import FiscalGateway.Proofs.Sale.Times
import FiscalGateway.Proofs.Text.Hex
import FiscalGateway.Proofs.Uuid
import FiscalGateway.Proofs.Json.Scan
import FiscalGateway.Proofs.Json.Reader
import FiscalGateway.Proofs.Json.Record
import FiscalGateway.Proofs.Sale.Json
import FiscalGateway.Proofs.Sale.Fingerprints
import FiscalGateway.Proofs.Soap.Answer
import FiscalGateway.Proofs.Vault.Opening
import FiscalGateway.Proofs.Retry

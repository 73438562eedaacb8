import FiscalGateway.Net.Listener
import FiscalGateway.Pki.Pool
import FiscalGateway.Retry
import FiscalGateway.Text.Quoted
import FiscalGateway.Url.Reader

/-!
# Settings

What the gateway is told when it starts, with the standard value of each setting, and the checks on
it. The first check that fails decides; they go section by section.
-/

namespace FiscalGateway

/-- The registry that sales are sent to. -/
inductive Environment where
  | playground
  | production
  deriving DecidableEq, Repr

namespace Environment

/-- The name in messages and records. -/
def title : Environment → String
  | playground => "Playground"
  | production => "Production"

/-- The address of the registry. -/
def endpoint : Environment → String
  | playground => "https://pg.eet.cz/eet/services/EETServiceSOAP/v3"
  | production => "https://prod.eet.cz/eet/services/EETServiceSOAP/v3"

/-- The name of the setting that lists its roots. -/
def rootsSetting : Environment → String
  | playground => "playground_roots"
  | production => "production_roots"

end Environment

/-- Why settings are refused. -/
inductive SettingsFault where
  /-- The file cannot be read. -/
  | file (path : String) (error : SystemError)
  /-- The file holds other octets than text. -/
  | encoding (path : String)
  /-- The text is not a file of these settings. -/
  | form
  | timeout
  | connectTimeout
  | endpoint (text : String)
  | endpointScheme (text : String)
  | maxAttempts
  | storeUrl
  | storeScheme (scheme : String)
  | noMerchantRoots (environment : Environment)
  | noAuthorityRoots
  | noOrganization
  deriving DecidableEq, Repr

/-- What is wrong with a value. -/
def SettingsFault.detail : SettingsFault → String
  | .timeout => "authority.timeout_secs must be between 1 and 300"
  | .connectTimeout => "authority.connect_timeout_secs must be between 1 and 60"
  | .endpoint text => "authority.url " ++ Text.quoted text ++ ": *"
  | .endpointScheme text => "authority.url must use https: " ++ text
  | .maxAttempts => "vault.max_attempts must be between 1 and 100"
  | .storeUrl => "vault.url: *"
  | .storeScheme scheme => "vault.url must be redis:// or rediss://, got " ++ scheme
  | .noMerchantRoots environment =>
    "trust." ++ environment.rootsSetting ++ " must name at least one PEM file"
  | .noAuthorityRoots => "trust.authority_roots must name at least one PEM file"
  | .noOrganization => "trust.authority_organization must not be empty"
  | .file _ error => error.message
  | .encoding _ => "stream did not contain valid UTF-8"
  | .form => "*"

/-- The wording of a refusal. -/
def SettingsFault.message (f : SettingsFault) : String :=
  match f with
  | .file path _ | .encoding path => "failed to read " ++ path ++ ": " ++ f.detail
  | .form => "invalid configuration file: " ++ f.detail
  | _ => "invalid configuration: " ++ f.detail

/-- The version of the protocol between gateway and registry. -/
inductive HttpVersion where
  | http1
  | auto
  deriving DecidableEq, Repr

/-- The name in answers. -/
def HttpVersion.title : HttpVersion → String
  | http1 => "Http1"
  | auto => "Auto"

/-- How the registry is reached; times are in seconds. -/
structure AuthoritySettings where
  url : Option String
  timeout : Nat
  connectTimeout : Nat
  maxIdle : Nat
  httpVersion : HttpVersion
  deriving DecidableEq, Repr

namespace AuthoritySettings

/-- The standard settings. -/
def standard : AuthoritySettings := ⟨none, 10, 5, 10, .auto⟩

/-- The address that a text tells, which must be one of a secured connection. -/
def readEndpoint (text : String) : Except SettingsFault Url :=
  match Url.read? text.toList with
  | none => .error (.endpoint text)
  | some url =>
    if url.scheme = "https".toList then .ok url else .error (.endpointScheme text)

/-- The address of the registry. -/
def endpoint (a : AuthoritySettings) (environment : Environment) : Except SettingsFault Url :=
  readEndpoint (a.url.getD environment.endpoint)

/-- Checks the section. -/
def validate (a : AuthoritySettings) : Except SettingsFault Unit := do
  if a.timeout = 0 ∨ 300 < a.timeout then throw .timeout
  if a.connectTimeout = 0 ∨ 60 < a.connectTimeout then throw .connectTimeout
  match a.url with
  | none => return
  | some text => let _ ← readEndpoint text

end AuthoritySettings

/-- Where credentials are kept. -/
inductive StoreKind where
  | redis
  | memory
  deriving DecidableEq, Repr

/-- The name in answers. -/
def StoreKind.title : StoreKind → String
  | redis => "Redis"
  | memory => "Memory"

/-- The settings of the vault. -/
structure VaultSettings where
  kind : StoreKind
  url : String
  maxAttempts : Nat
  /-- Stands in front of every identifier in the store. -/
  space : String
  deriving DecidableEq, Repr

namespace VaultSettings

/-- The standard settings. -/
def standard : VaultSettings := ⟨.redis, "redis://127.0.0.1:6379", RetryPolicy.standard.maxAttempts, ""⟩

/-- Checks the section. -/
def validate (v : VaultSettings) : Except SettingsFault Unit := do
  if v.maxAttempts = 0 ∨ 100 < v.maxAttempts then throw .maxAttempts
  if v.kind = .redis then
    match Url.read? v.url.toList with
    | none => throw .storeUrl
    | some url =>
      if url.scheme ≠ "redis".toList ∧ url.scheme ≠ "rediss".toList then
        throw (.storeScheme (String.ofList url.scheme))

/-- How persistently transactions are tried again. -/
def policy (v : VaultSettings) : RetryPolicy := .withMaxAttempts v.maxAttempts

end VaultSettings

/-- The files of the pinned certificates, and the organization of the registry. -/
structure TrustSettings where
  playgroundRoots : List String
  productionRoots : List String
  authorityRoots : List String
  organization : String
  deriving DecidableEq, Repr

namespace TrustSettings

/-- The standard settings. -/
def standard : TrustSettings := ⟨[], [], [], "Česká republika - Generální finanční ředitelství"⟩

/-- The files of the roots of merchants. -/
def merchantRoots (t : TrustSettings) : Environment → List String
  | .playground => t.playgroundRoots
  | .production => t.productionRoots

/-- Checks the section; the roots of the other environment may be missing. -/
def validate (t : TrustSettings) (environment : Environment) : Except SettingsFault Unit := do
  if (t.merchantRoots environment).isEmpty then throw (.noMerchantRoots environment)
  if t.authorityRoots.isEmpty then throw .noAuthorityRoots
  if Text.isAllBlank t.organization.toList then throw .noOrganization

end TrustSettings

/-- All settings. -/
structure Settings where
  environment : Environment
  authority : AuthoritySettings
  vault : VaultSettings
  trust : TrustSettings
  listen : Net.ListenAddress
  deriving DecidableEq, Repr

namespace Settings

/-- Checks every section. -/
def validate (s : Settings) : Except SettingsFault Unit := do
  s.authority.validate
  s.vault.validate
  s.trust.validate s.environment

/-- The address of the registry. -/
def endpoint (s : Settings) : Except SettingsFault Url := s.authority.endpoint s.environment

/-- The roots of merchants of the environment. -/
def merchantPool (s : Settings) (readFile : ReadFile) : Except Pki.Rejection Pki.Pool :=
  Pki.Pool.load readFile (s.trust.merchantRoots s.environment)

/-- The roots of the registry. -/
def authorityPool (s : Settings) (readFile : ReadFile) : Except Pki.Rejection Pki.Pool :=
  Pki.Pool.load readFile s.trust.authorityRoots

end Settings
end FiscalGateway

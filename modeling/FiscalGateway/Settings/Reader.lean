import FiscalGateway.Settings.Basic
import FiscalGateway.Settings.Toml

/-!
# Reading settings

A section is a table with known names, or an array with its values in order; a name that is not
known spoils the file. What is missing has its standard value.
-/

namespace FiscalGateway.Toml

/-- The values of a section under their names. -/
def section? (names : List String) : Value → Option Entries
  | .table _ entries => if entries.all fun e => names.contains e.1 then some entries else none
  | .array items => some (names.zip items)
  | .rows tables => some (names.zip (tables.map (Value.table .header)))
  | _ => none

/-- The value under a name, or what stands for it. -/
def Entries.getD (entries : Entries) (name : String) (read? : Value → Option α) (standard : α) :
    Option α :=
  match entries.lookup name with
  | none => some standard
  | some v => read? v

/-- A text. -/
def text? : Value → Option String
  | .text s => some s
  | _ => none

/-- A natural number below a bound. -/
def below? (bound : Nat) : Value → Option Nat
  | .integer i => if 0 ≤ i ∧ i < bound then some i.toNat else none
  | _ => none

/-- Texts in an array. -/
def texts? : Value → Option (List String)
  | .array items => items.mapM text?
  | _ => none

/-- One of these names: as a text, or as the only name of a table under which there is nothing. -/
def choice? (choices : List (String × α)) : Value → Option α
  | .text s => choices.lookup s
  | .table _ [(name, .table _ [])] | .table _ [(name, .array [])] => choices.lookup name
  | _ => none

end FiscalGateway.Toml

namespace FiscalGateway

open Toml

/-- The section on the registry. -/
def AuthoritySettings.ofValue? (v : Value) : Option AuthoritySettings := do
  let e ← section?
    ["url", "timeout_secs", "connect_timeout_secs", "pool_max_idle_per_host", "http_version"] v
  let standard := AuthoritySettings.standard
  return {
    url := ← e.getD "url" (fun v => (text? v).map some) standard.url
    timeout := ← e.getD "timeout_secs" (below? UInt64.size) standard.timeout
    connectTimeout := ← e.getD "connect_timeout_secs" (below? UInt64.size) standard.connectTimeout
    maxIdle := ← e.getD "pool_max_idle_per_host" (below? UInt64.size) standard.maxIdle
    httpVersion := ← e.getD "http_version" (choice? [("http1", .http1), ("auto", .auto)])
      standard.httpVersion }

/-- The section on the vault. -/
def VaultSettings.ofValue? (v : Value) : Option VaultSettings := do
  let e ← section? ["backend", "url", "max_attempts", "namespace"] v
  let standard := VaultSettings.standard
  return {
    kind := ← e.getD "backend" (choice? [("redis", .redis), ("memory", .memory)]) standard.kind
    url := ← e.getD "url" text? standard.url
    maxAttempts := ← e.getD "max_attempts" (below? UInt32.size) standard.maxAttempts
    space := ← e.getD "namespace" text? standard.space }

/-- The section on the pinned certificates. -/
def TrustSettings.ofValue? (v : Value) : Option TrustSettings := do
  let e ← section?
    ["playground_roots", "production_roots", "authority_roots", "authority_organization"] v
  let standard := TrustSettings.standard
  return {
    playgroundRoots := ← e.getD "playground_roots" texts? standard.playgroundRoots
    productionRoots := ← e.getD "production_roots" texts? standard.productionRoots
    authorityRoots := ← e.getD "authority_roots" texts? standard.authorityRoots
    organization := ← e.getD "authority_organization" text? standard.organization }

/-- The section on the server. -/
def Net.ListenAddress.ofValue? (v : Value) : Option Net.ListenAddress := do
  let e ← section? ["listen"] v
  e.getD "listen" (fun v => text? v >>= fun s => Net.ListenAddress.read? s.toList) .standard

namespace Settings

/-- The settings of a table. -/
def ofValue? (v : Value) : Option Settings := do
  let e ← section? ["environment", "authority", "vault", "trust", "server"] v
  let environments := [("playground", Environment.playground), ("production", .production)]
  return {
    environment := ← e.getD "environment" (choice? environments) .playground
    authority := ← e.getD "authority" AuthoritySettings.ofValue? .standard
    vault := ← e.getD "vault" VaultSettings.ofValue? .standard
    trust := ← e.getD "trust" TrustSettings.ofValue? .standard
    listen := ← e.getD "server" Net.ListenAddress.ofValue? .standard }

/-- Reads and checks settings. -/
def read (text : String) : Except SettingsFault Settings := do
  match Toml.read? text.toList >>= ofValue? with
  | none => throw .form
  | some s =>
    s.validate
    return s

/-- Reads and checks the settings in a file. -/
def load (readFile : ReadFile) (path : String) : Except SettingsFault Settings :=
  match readFile path with
  | .error e => .error (.file path e)
  | .ok b =>
    match Octets.toText? b with
    | none => .error (.encoding path)
    | some text => read text

end Settings
end FiscalGateway

import FiscalGateway.Vault.World

/-!
# The registry — what the vault is for

A registry keeps credentials under identifiers in the clear, and `Registry.serve` says in one line
for each request what is replied and what is kept from then on. `Vault.serve` is the vault under the
same requests: it runs the operation in a world of records, sealed texts and random octets.
-/

namespace FiscalGateway

namespace Vault

/-- What can be asked of the vault. -/
inductive Request where
  | store (id : String) (password : Octets) (pair : Pki.KeyPair)
  | get (id : String) (password : Octets)
  | list (offset limit : Nat)
  | updateId (oldId newId : String)
  | updatePassword (id : String) (oldPassword newPassword : Octets)
  | delete (id : String)

/-- What is replied to a request that succeeds. -/
inductive Reply where
  | done
  | pair (p : Pki.KeyPair)
  | ids (l : List String)
  deriving DecidableEq

/-- The passwords that a request names. -/
def Request.passwords : Request → List Octets
  | .store _ password _ => [password]
  | .get _ password => [password]
  | .updatePassword _ oldPassword newPassword => [oldPassword, newPassword]
  | .list .. | .updateId .. | .delete _ => []

/-- The pairs that a request brings. -/
def Request.pairs : Request → List Pki.KeyPair
  | .store _ _ pair => [pair]
  | .get .. | .list .. | .updateId .. | .updatePassword .. | .delete _ => []

/-- The operation that a request asks for. -/
def Request.call (v : Vault) : Request → Call (Except Fault Reply)
  | .store id password pair => andThen (v.store id password pair) fun _ => .ok .done
  | .get id password => andThen (v.get id password) fun pair => .ok (.pair pair)
  | .list offset limit => andThen (v.list offset limit) fun ids => .ok (.ids ids)
  | .updateId oldId newId => andThen (v.updateId oldId newId) fun _ => .ok .done
  | .updatePassword id oldPassword newPassword =>
    andThen (v.updatePassword id oldPassword newPassword) fun _ => .ok .done
  | .delete id => andThen (v.delete id) fun _ => .ok .done

/-- A pair and the password that it is kept under. -/
structure Credential where
  password : Octets
  pair : Pki.KeyPair

/-- Credentials under their identifiers. -/
abbrev Registry := Table Credential

/-- **What a registry replies**, and what it keeps from then on. -/
def Registry.serve (m : Registry) : Request → Except Fault Reply × Registry
  | .store id password pair =>
    if m.contains id then (.error (.idExists id), m) else (.ok .done, m.put id ⟨password, pair⟩)
  | .get id password =>
    match m.get? id with
    | none => (.error (.notFound id), m)
    | some c => (if password = c.password then .ok (.pair c.pair) else .error .badPassword, m)
  | .list offset limit => (.ok (.ids ((m.keys.drop offset).take limit)), m)
  | .updateId oldId newId =>
    match m.get? oldId with
    | none => (.error (.notFound oldId), m)
    | some c =>
      if m.contains newId then (.error (.idExists newId), m)
      else (.ok .done, (m.erase oldId).put newId c)
  | .updatePassword id oldPassword newPassword =>
    match m.get? id with
    | none => (.error (.notFound id), m)
    | some c =>
      if oldPassword = c.password then (.ok .done, m.put id ⟨newPassword, c.pair⟩)
      else (.error .badPassword, m)
  | .delete id =>
    if m.contains id then (.ok .done, m.erase id) else (.error (.notFound id), m)

/-- Serves requests one after the other: the replies, and what there is at the end. -/
def serveAll {σ : Type} (serve : σ → Request → Except Fault Reply × σ) (s : σ) :
    List Request → List (Except Fault Reply) × σ
  | [] => ([], s)
  | r :: rs =>
    let (reply, s) := serve s r
    let (replies, s) := serveAll serve s rs
    (reply :: replies, s)

end Vault

/-- What the vault replies, and what becomes of the world around it. -/
def Vault.serve (v : Vault) (w : Vault.World) (r : Vault.Request) :
    Except Vault.Fault Vault.Reply × Vault.World :=
  (r.call v).run w

end FiscalGateway

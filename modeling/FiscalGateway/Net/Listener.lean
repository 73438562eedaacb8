import FiscalGateway.Net.Address
import FiscalGateway.SystemError

/-!
# Addresses to listen on

An address of the network with a port, and what the system says to a request to listen there.
-/

namespace FiscalGateway.Net

/-- An address with a port. -/
inductive ListenAddress where
  | v4 (address : Ipv4) (port : Nat)
  | v6 (address : Ipv6) (scope port : Nat)
  deriving DecidableEq, Repr

namespace ListenAddress

/-- A port number. -/
def readPort? (s : List Char) : Option Nat := (readDigits? 10 s).filter (· < UInt16.size)

/-- The number of a network interface behind a percent sign; it may be left out. -/
def readScope? : List Char → Option Nat
  | [] => some 0
  | '%' :: digits => (readDigits? 10 digits).filter (· < UInt32.size)
  | _ => none

/-- Reads the address in brackets with its port. -/
def readV6? (s : List Char) : Option ListenAddress := do
  let (inside, rest) ← Text.splitOnce (· == ']') s
  let address ← Ipv6.read? (inside.takeWhile (· ≠ '%'))
  let scope ← readScope? (inside.dropWhile (· ≠ '%'))
  match rest with
  | ':' :: port => some (.v6 address scope (← readPort? port))
  | _ => none

/-- Reads an address and a port. -/
def read? (s : List Char) : Option ListenAddress :=
  match s with
  | '[' :: rest => readV6? rest
  | _ => do
    let (address, port) ← Text.splitOnce (· == ':') s
    some (.v4 (← Ipv4.read? address) (← readPort? port))

/-- The address with its port. -/
def write : ListenAddress → List Char
  | v4 address port => address.write ++ ':' :: Nat.toDigits 10 port
  | v6 address scope port =>
    let suffix := if scope = 0 then [] else '%' :: Nat.toDigits 10 scope
    '[' :: address.writeMixed ++ suffix ++ ']' :: ':' :: Nat.toDigits 10 port

/-- The port. -/
def port : ListenAddress → Nat
  | v4 _ port | v6 _ _ port => port

/-- Port 8080 of the machine itself. -/
def standard : ListenAddress := v4 ⟨[127, 0, 0, 1]⟩ 8080

/-- What the system says to one without special rights who wants to listen on an address that the
machine does not own: the low ports are forbidden before the address is looked at. -/
def refusal (a : ListenAddress) : SystemError :=
  if 0 < a.port ∧ a.port < 1024 then .permissionDenied else .addressUnavailable

end ListenAddress
end FiscalGateway.Net

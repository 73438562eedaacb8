import FiscalGateway.Settings.Basic

/-!
# The way to the registry

What can go wrong between the gateway and the registry, and the check on the address before
anything is sent.
-/

namespace FiscalGateway

/-- Why there is no answer of the registry. -/
inductive TransportFault where
  /-- The connection failed; `late` says whether it took too long. -/
  | http (late : Bool)
  | status (code : Nat)
  | invalidUrl (reason : String)
  /-- The answer is longer than this limit. -/
  | tooLarge (limit : Nat)
  deriving DecidableEq, Repr

namespace TransportFault

/-- The wording of a fault. -/
def message : TransportFault → String
  | http _ => "HTTP request failed: *"
  | status code => "unexpected HTTP status " ++ toString code
  | invalidUrl reason => "invalid endpoint: " ++ reason
  | tooLarge limit => "response body exceeds " ++ toString limit ++ " bytes"

/-- Whether the request took too long. -/
def isTimeout : TransportFault → Bool
  | http late => late
  | _ => false

end TransportFault

/-- An address that sales may be sent to: one of a secured connection to a host. -/
def Url.checkEndpoint (u : Url) : Except TransportFault Url :=
  if u.scheme ≠ "https".toList then
    .error (.invalidUrl ("only HTTPS URLs are allowed: " ++ u.text))
  else if !u.hasHost then .error (.invalidUrl ("URL missing host: " ++ u.text))
  else .ok u

end FiscalGateway

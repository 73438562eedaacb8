import FiscalGateway.Gateway.Operations
import FiscalGateway.Number.Integer
import FiscalGateway.Sale.Json
import FiscalGateway.Server.Health
import FiscalGateway.Server.Message
import FiscalGateway.Url.Form

/-!
# The interface of the server

Which operation a request asks for, what it tells it, and how the outcome is answered. A request is
matched by path, then by method; its query or body is read before the operation starts. `Server.answer`
puts the three together: it is a program of the gateway.
-/

namespace FiscalGateway.Server

open Json (Refusal)

/-! ## Routes -/

/-- What a request may ask for. -/
inductive Route where
  | ping
  | sendSale
  | storeCert
  | listCerts
  | deleteCert
  | updateCertId
  | updateCertPassword
  deriving DecidableEq, Repr

namespace Route

/-- The routes of a path with their methods. What can be got can also be asked about. -/
def ofPath (path : String) : List (String × Route) :=
  match path with
  | "/v1/ping" => [("GET", ping), ("HEAD", ping)]
  | "/v1/sale" => [("POST", sendSale)]
  | "/v1/certs" =>
    [("POST", storeCert), ("GET", listCerts), ("HEAD", listCerts), ("DELETE", deleteCert)]
  | "/v1/certs/id" => [("PUT", updateCertId)]
  | "/v1/certs/password" => [("PUT", updateCertPassword)]
  | _ => []

/-- The route of a request, or the response to one that has none. -/
def ofRequest (r : Request) : Except Response Route :=
  match ofPath (String.ofList r.path) with
  | [] => .error ⟨404, .none⟩
  | methods =>
    match methods.lookup r.method with
    | some route => .ok route
    | none => .error ⟨405, .none⟩

end Route

/-! ## What requests tell -/

/-- A text under a name, which must be there. -/
def textMember (name : String) : Json.Member String := .required name Json.readString

/-- A sale and the pair that signs it. -/
structure SaleRequest where
  id : String
  password : String
  sale : Sale

/-- Reads the request to register a sale. -/
def SaleRequest.ofJson (v : Json) : Except Refusal SaleRequest := do
  let id := textMember "cert_id"
  let password := textMember "cert_password"
  let sale := Json.Member.required "sale" Sale.ofJson
  let r ← Json.Record.ofJson [id.toCheck, password.toCheck, sale.toCheck] v
  return ⟨← id.get r, ← password.get r, ← sale.get r⟩

/-- A bundle to be stored. -/
structure StoreRequest where
  id : String
  password : String
  /-- The bundle in base 64. -/
  bundle : String
  bundlePassword : String
  deriving DecidableEq, Repr

/-- Reads the request to store a bundle. -/
def StoreRequest.ofJson (v : Json) : Except Refusal StoreRequest := do
  let id := textMember "id"
  let password := textMember "password"
  let bundle := textMember "pkcs12"
  let bundlePassword := textMember "pkcs12_password"
  let r ← Json.Record.ofJson
    [id.toCheck, password.toCheck, bundle.toCheck, bundlePassword.toCheck] v
  return ⟨← id.get r, ← password.get r, ← bundle.get r, ← bundlePassword.get r⟩

/-- Reads the request to give a pair another identifier: the old one and the new one. -/
def readUpdateId (v : Json) : Except Refusal (String × String) := do
  let oldId := textMember "old_id"
  let newId := textMember "new_id"
  let r ← Json.Record.ofJson [oldId.toCheck, newId.toCheck] v
  return (← oldId.get r, ← newId.get r)

/-- The new password of a pair. -/
structure PasswordRequest where
  id : String
  oldPassword : String
  newPassword : String
  deriving DecidableEq, Repr

/-- Reads the request to change a password. -/
def PasswordRequest.ofJson (v : Json) : Except Refusal PasswordRequest := do
  let id := textMember "id"
  let oldPassword := textMember "old_password"
  let newPassword := textMember "new_password"
  let r ← Json.Record.ofJson [id.toCheck, oldPassword.toCheck, newPassword.toCheck] v
  return ⟨← id.get r, ← oldPassword.get r, ← newPassword.get r⟩

/-- Reads the request to delete a pair: its identifier. -/
def readDelete (v : Json) : Except Refusal String := do
  let id := textMember "id"
  id.get (← Json.Record.ofJson [id.toCheck] v)

/-- Which identifiers are asked for. -/
structure Page where
  offset : Nat
  limit : Nat
  deriving DecidableEq, Repr

/-- The number under a name, which may be there once. -/
def numberOf? (pairs : List (Octets × Octets)) (name : String) (standard : Nat) : Option Nat :=
  match pairs.filter (·.1 == Octets.ofText name) with
  | [] => some standard
  | [(_, value)] => do (Number.readWord 64 (← value.toText?).toList).toOption
  | _ => none

/-- Reads a page: the first hundred identifiers unless the query tells another offset or limit. -/
def Page.ofQuery? (query : List Char) : Option Page := do
  let pairs := Url.formPairs query
  return ⟨← numberOf? pairs "offset" 0, ← numberOf? pairs "limit" 100⟩

/-! ## Answers -/

/-- A failure with its code, as it is written. -/
def failureJson (message code : String) : Json :=
  .object [("error", .string message), ("code", .string code)]

/-- The response to a failure. -/
def refusal (f : GatewayFault) : Response :=
  ⟨f.kind.status, .json (failureJson f.message f.kind.code)⟩

/-- The response to a request that cannot be used. -/
def badRequest (reason : String) : Response :=
  ⟨400, .json (failureJson ("bad request: " ++ reason) "BAD_REQUEST")⟩

/-- The response to an outcome. -/
def respond (c : Gateway.Call (Gateway.Outcome α)) (success : α → Response) :
    Gateway.Call Response := do
  match ← c with
  | .ok a => return success a
  | .error f => return refusal f

/-- Goes on with what a request tells. -/
def reading (read : Except Response α) (next : α → Gateway.Call Response) : Gateway.Call Response :=
  match read with
  | .ok a => next a
  | .error response => return response

/-- The response to a probe. -/
def pingResponse (uptime : Nat) : Except Gateway.PingFault Unit → Response
  | .ok _ => ⟨200, .json (HealthReport.toJson ⟨uptime, []⟩)⟩
  | .error .cancelled => refusal .cancelled
  | .error (.unhealthy h) => ⟨h.kind.status, .json (HealthReport.toJson ⟨uptime, h.failures⟩)⟩

/-- A response without content. -/
def done (status : Nat) (_ : Unit) : Response := ⟨status, .none⟩

/-- Answers a request for a route at a time, the server having run for `uptime` seconds. -/
def serve (g : Gateway) (now : Time.Timestamp) (uptime : Nat) (r : Request) :
    Route → Gateway.Call Response
  | .ping => do return pingResponse uptime (← Gateway.ping)
  | .sendSale =>
    reading (r.readBody SaleRequest.ofJson) fun q =>
      respond (g.sendSale now q.id (Octets.ofText q.password) q.sale) fun answer =>
        ⟨200, .json answer.toJson⟩
  | .storeCert =>
    reading (r.readBody StoreRequest.ofJson) fun q =>
      match Text.Base64.decodeChars (Text.trim q.bundle.toList) with
      | none => return badRequest "pkcs12 is not base64: *"
      | some bundle =>
        respond (g.storeCert now.seconds q.id (Octets.ofText q.password) bundle q.bundlePassword)
          (done 201)
  | .listCerts =>
    match Page.ofQuery? r.query with
    | none => return Request.noted 400
    | some page =>
      respond (g.listCertIds page.offset page.limit) fun ids =>
        ⟨200, .json (.object [("ids", .array (ids.map .string))])⟩
  | .deleteCert =>
    reading (r.readBody readDelete) fun id => respond (g.deleteId id) (done 204)
  | .updateCertId =>
    reading (r.readBody readUpdateId) fun (oldId, newId) =>
      respond (g.updateCertId oldId newId) (done 204)
  | .updateCertPassword =>
    reading (r.readBody PasswordRequest.ofJson) fun q =>
      respond
        (g.updateCertPassword q.id (Octets.ofText q.oldPassword) (Octets.ofText q.newPassword))
        (done 204)

/-- A response as a request of this method gets it: who only asks about a page does not get it. -/
def Response.forMethod (method : String) (response : Response) : Response :=
  if method = "HEAD" then { response with content := .none } else response

/-- Answers a request. -/
def answer (g : Gateway) (now : Time.Timestamp) (uptime : Nat) (r : Request) :
    Gateway.Call Response := do
  let response ← reading (Route.ofRequest r) (serve g now uptime r)
  return response.forMethod r.method

end FiscalGateway.Server

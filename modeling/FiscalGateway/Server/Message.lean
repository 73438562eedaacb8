import FiscalGateway.Json.Printer
import FiscalGateway.Json.Record
import FiscalGateway.Server.MediaType
import FiscalGateway.Text.Octets

/-!
# Requests and responses

What a client sends and gets. `Request.readBody` takes the body of a request as a value of one kind
or tells the response that refuses it: the type of the body is looked at first, then its size, then
its form.
-/

namespace FiscalGateway.Server

/-- What a client sends. -/
structure Request where
  method : String
  /-- The address, from the path on or in full. -/
  target : List Char
  headers : List (String × String)
  body : Octets

/-- What a response holds. -/
inductive Content where
  | none
  | json (value : Json)
  /-- A note for people; its wording is not part of the interface. -/
  | note
  deriving Inhabited

/-- What a client gets. -/
structure Response where
  status : Nat
  content : Content
  deriving Inhabited

namespace Request

/-- The value of the first header of a name, for which case does not count. -/
def header? (r : Request) (name : String) : Option String :=
  (r.headers.find? fun h => h.1.map Char.toLower == name).map (·.2)

/-- The address without its fragment. -/
def address (r : Request) : List Char := r.target.takeWhile (· ≠ '#')

/-- The query, empty if there is none. -/
def query (r : Request) : List Char := (r.address.dropWhile (· ≠ '?')).drop 1

/-- What follows the host of a full address. -/
def behindHost? : List Char → Option (List Char)
  | ':' :: '/' :: '/' :: rest => some (rest.dropWhile (· ≠ '/'))
  | _ :: rest => behindHost? rest
  | [] => none

/-- The path. An address that is not a path tells it behind its host. -/
def path (r : Request) : List Char :=
  let s := r.address.takeWhile (· ≠ '?')
  match s with
  | '/' :: _ => s
  | _ =>
    match behindHost? s with
    | some [] => ['/']
    | some path => path
    | none => []

/-- The most octets that are taken as a body. -/
def bodyLimit : Nat := 2097152

/-- Whether the request says that its body is JSON. -/
def hasJson (r : Request) : Bool :=
  ((r.header? "content-type").bind fun value => MediaType.read? value.toList).any MediaType.isJson

/-- A response that only notes why a request is not understood. -/
def noted (status : Nat) : Response := ⟨status, .note⟩

/-- The body as a value of one kind, or the response that refuses it. -/
def readBody (r : Request) (read : Json → Except Json.Refusal α) : Except Response α :=
  if !r.hasJson then .error (noted 415)
  else if r.body.length > bodyLimit then .error (noted 413)
  else
    match r.body.toText? with
    | none => .error (noted 400)
    | some text =>
      (Json.readText read text).mapError fun
        | .malformed => noted 400
        | .mismatch => noted 422

end Request
end FiscalGateway.Server

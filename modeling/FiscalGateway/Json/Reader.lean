import FiscalGateway.Json.Token

/-!
# Reading JSON

One pass over the tokens with a stack of open arrays and objects. A token that cannot stand where it
does is a fault: it is entered at its place and every open container ends with it.
-/

namespace FiscalGateway.Json

/-- A container that is open, its content in reverse. -/
inductive Frame where
  | array (items : List Json)
  | object (members : List (String × Json))
  deriving Repr, Inhabited

/-- What may come next. -/
inductive Expected where
  /-- A value; `mayClose` tells whether the array may end here. -/
  | value (mayClose : Bool)
  /-- A member name; `mayClose` tells whether the object may end here. -/
  | name (mayClose : Bool)
  /-- The colon behind a member name. -/
  | colon
  /-- The value of the member named last. -/
  | memberValue
  /-- A comma, or the end of the container. -/
  | separator
  /-- Nothing; `ended` tells whether nothing came. -/
  | nothing (v : Json) (ended : Bool)
  deriving Repr, Inhabited

/-- The state of reading. A member whose value has not come yet stands first in its frame. -/
structure Reading where
  opened : List Frame
  expected : Expected
  deriving Repr, Inhabited

/-- A container with its content in order. -/
def Frame.close : Frame → Json
  | .array items => .array items.reverse
  | .object members => .object members.reverse

/-- A container with a value entered: as the next item, or as the value of the first member. -/
def Frame.put (v : Json) : Frame → Frame
  | .array items => .array (v :: items)
  | .object ((name, _) :: members) => .object ((name, v) :: members)
  | .object [] => .object [("", v)]

/-- Enters a value and ends every open container, the innermost one first. -/
def closeAll (v : Json) (opened : List Frame) : Json :=
  opened.foldl (fun v frame => (frame.put v).close) v

namespace Reading

/-- The state once a value is complete. -/
def enter (v : Json) : List Frame → Reading
  | [] => ⟨[], .nothing v true⟩
  | frame :: outer => ⟨frame.put v :: outer, .separator⟩

/-- What has been read so far, with a fault at the place that has been reached: in an object that is
the place of the next member unless a member still waits for its value. -/
def broken (r : Reading) : Json :=
  match r.expected, r.opened with
  | .name _, .object members :: outer | .separator, .object members :: outer =>
    closeAll .fault (.object (("", .fault) :: members) :: outer)
  | _, opened => closeAll .fault opened

/-- Stops with a fault at the place that has been reached. -/
def stop (r : Reading) : Reading :=
  match r.expected with
  | .nothing v _ => ⟨[], .nothing v false⟩
  | _ => ⟨[], .nothing r.broken true⟩

/-- Begins a value with this token. -/
def begin (r : Reading) : Token → Reading
  | .scalar v => enter v r.opened
  | .openArray => ⟨.array [] :: r.opened, .value true⟩
  | .openObject => ⟨.object [] :: r.opened, .name true⟩
  | _ => r.stop

/-- Takes one token. -/
def step (r : Reading) (t : Token) : Reading :=
  match r.expected, t, r.opened with
  | .value true, .closeArray, frame :: outer => enter frame.close outer
  | .value _, t, _ => r.begin t
  | .name true, .closeObject, frame :: outer => enter frame.close outer
  -- until its value is there, a member holds a fault in its place
  | .name _, .scalar (.string s), .object members :: outer =>
    ⟨.object ((s, .fault) :: members) :: outer, .colon⟩
  | .colon, .colon, opened => ⟨opened, .memberValue⟩
  | .memberValue, t, _ => r.begin t
  | .separator, .comma, .array items :: outer => ⟨.array items :: outer, .value false⟩
  | .separator, .comma, .object members :: outer => ⟨.object members :: outer, .name false⟩
  | .separator, .closeArray, .array items :: outer => enter (.array items.reverse) outer
  | .separator, .closeObject, .object members :: outer => enter (.object members.reverse) outer
  | _, _, _ => r.stop

end Reading

/-- What reading a text gives: a value, and whether nothing but blanks follows it. -/
structure Document where
  value : Json
  ended : Bool
  deriving Repr, Inhabited

/-- Reads a text. -/
def read (s : List Char) : Document :=
  let r := (Token.scan s).foldl Reading.step ⟨[], .value false⟩
  match r.expected with
  | .nothing v ended => ⟨v, ended⟩
  | _ => ⟨r.broken, true⟩

end FiscalGateway.Json

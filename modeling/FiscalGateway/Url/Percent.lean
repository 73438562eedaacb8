import FiscalGateway.Text.Hex

/-!
# Percent encoding

A character of a class is written as the octets of its encoding, each as a percent sign and two
digits. The classes are those of the parts of an address: each part keeps more characters as they
are than the one before it in the list of definitions keeps.
-/

namespace FiscalGateway.Url

/-- One octet as it is written when it is encoded. -/
def encodeOctet (o : UInt8) : List Char :=
  ['%', Text.Hex.upperDigit (o.toNat / 16), Text.Hex.upperDigit (o.toNat % 16)]

/-- Encodes the characters of a class. -/
def percentEncode (encoded : Char → Bool) (s : List Char) : List Char :=
  s.flatMap fun c => if encoded c then (Octets.ofText (String.singleton c)).flatMap encodeOctet else [c]

/-- The octets of a text in which what is encoded is decoded; a percent sign without two digits
stands for itself. -/
def percentDecode : List Char → Octets
  | '%' :: a :: b :: rest =>
    match Text.Hex.digit? a, Text.Hex.digit? b with
    | some high, some low => UInt8.ofNat (high * 16 + low) :: percentDecode rest
    | _, _ => Octets.ofText "%" ++ percentDecode (a :: b :: rest)
  | c :: rest => Octets.ofText (String.singleton c) ++ percentDecode rest
  | [] => []

/-- Whether a character is one of these. -/
def isOneOf (cs : String) (c : Char) : Bool := cs.toList.contains c

/-- Controls and all that is not ASCII. -/
def encodesControls (c : Char) : Bool := c.toNat < 0x20 || 0x7E < c.toNat

/-- What is encoded in a fragment. -/
def encodesFragment (c : Char) : Bool := encodesControls c || isOneOf " \"<>`" c

/-- What is encoded in a query. -/
def encodesQuery (c : Char) : Bool := encodesControls c || isOneOf " \"#<>" c

/-- What is encoded in the query of a well-known scheme. -/
def encodesSpecialQuery (c : Char) : Bool := encodesQuery c || c == '\''

/-- What is encoded in a path. -/
def encodesPath (c : Char) : Bool := encodesFragment c || isOneOf "#?\x7b\x7d" c

/-- What is encoded in the name of a user. -/
def encodesUser (c : Char) : Bool := encodesPath c || isOneOf "/:;=@[\\]^|" c

end FiscalGateway.Url

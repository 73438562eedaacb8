import FiscalGateway.Text.Split
import FiscalGateway.Url.Percent

/-!
# Forms in an address

The query of an address as a list of named values: pairs stand between ampersands, a plus is a
blank, and what is percent encoded is decoded. Empty pairs are skipped; a pair without an equals
sign has an empty value.
-/

namespace FiscalGateway.Url

/-- A name or a value as it was before it was encoded. -/
def decodeForm (s : List Char) : Octets :=
  percentDecode (s.map fun c => if c = '+' then ' ' else c)

/-- The name and the value of a pair. -/
def formPair (s : List Char) : Octets × Octets :=
  let (name, value) := (Text.splitOnce (· == '=') s).getD (s, [])
  (decodeForm name, decodeForm value)

/-- The pairs of a query in order. -/
def formPairs (s : List Char) : List (Octets × Octets) :=
  ((Text.splitEach (· == '&') s).filter fun pair => !pair.isEmpty).map formPair

end FiscalGateway.Url

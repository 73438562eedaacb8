import FiscalGateway.Crypto.Block

/-!
# The hash SHA-1

A digest of 20 octets.
-/

namespace FiscalGateway.Crypto

namespace Sha1

/-- The five words that a block changes. -/
structure State where
  a : UInt32
  b : UInt32
  c : UInt32
  d : UInt32
  e : UInt32
  deriving DecidableEq, Repr, Inhabited

/-- The state before the first block. -/
def initial : State := ⟨0x67452301, 0xEFCDAB89, 0x98BADCFE, 0x10325476, 0xC3D2E1F0⟩

/-- Extends the words of a block, the latest first. -/
def extend : (count : Nat) → List UInt32 → List UInt32
  | 0, w => w
  | count + 1, w =>
    let x := w.getD 2 0 ^^^ w.getD 7 0 ^^^ w.getD 13 0 ^^^ w.getD 15 0
    extend count (rotateLeft x 1 :: w)

/-- One round. -/
def round (s : State) (t : Nat) (w : UInt32) : State :=
  let (f, k) : UInt32 × UInt32 :=
    if t < 20 then ((s.b &&& s.c) ||| (~~~s.b &&& s.d), 0x5A827999)
    else if t < 40 then (s.b ^^^ s.c ^^^ s.d, 0x6ED9EBA1)
    else if t < 60 then ((s.b &&& s.c) ||| (s.b &&& s.d) ||| (s.c &&& s.d), 0x8F1BBCDC)
    else (s.b ^^^ s.c ^^^ s.d, 0xCA62C1D6)
  ⟨rotateLeft s.a 5 + f + s.e + k + w, s.a, rotateLeft s.b 30, s.c, s.d⟩

/-- Takes one block. -/
def compress (s : State) (block : Octets) : State :=
  let w := (extend 64 (wordsOf block).reverse).reverse
  let r := (w.foldl (fun (s, t) w => (round s t w, t + 1)) (s, 0)).1
  ⟨s.a + r.a, s.b + r.b, s.c + r.c, s.d + r.d, s.e + r.e⟩

end Sha1

/-- The digest of a message. -/
def sha1 (message : Octets) : Octets :=
  let s := (blocks 64 (padMessage 64 message)).foldl Sha1.compress Sha1.initial
  [s.a, s.b, s.c, s.d, s.e].flatMap octetsOfWord

@[simp] theorem length_sha1 (message : Octets) : (sha1 message).length = 20 := by
  simp [sha1, octetsOfWord]

end FiscalGateway.Crypto

import FiscalGateway.Text.Octets

/-!
# Blocks and words

What hash functions and ciphers share: cutting octets into blocks, words of four octets with the
most significant first, and the padding that ends with the length in bits.
-/

namespace FiscalGateway.Crypto

/-- Cuts octets into blocks; the last one may be short. -/
def blocks (size : Nat) (b : Octets) : List Octets :=
  if _h : size = 0 ∨ b = [] then []
  else b.take size :: blocks size (b.drop size)
termination_by b.length
decreasing_by
  have : 0 < b.length := List.length_pos_iff.2 (by simp_all)
  simp only [List.length_drop]
  omega

/-- Four octets as a word. -/
def wordOf (a b c d : UInt8) : UInt32 :=
  (a.toUInt32 <<< 24) ||| (b.toUInt32 <<< 16) ||| (c.toUInt32 <<< 8) ||| d.toUInt32

/-- Octets as words; what is left over is dropped. -/
def wordsOf : Octets → List UInt32
  | a :: b :: c :: d :: rest => wordOf a b c d :: wordsOf rest
  | _ => []

/-- The four octets of a word. -/
def octetsOfWord (w : UInt32) : Octets :=
  [(w >>> 24).toUInt8, (w >>> 16).toUInt8, (w >>> 8).toUInt8, w.toUInt8]

/-- A message filled up to blocks: a set bit, zeros, and the length in bits, which takes an eighth of
a block. -/
def padMessage (size : Nat) (b : Octets) : Octets :=
  let zeros := (2 * size - 1 - size / 8 - b.length % size) % size
  b ++ 0x80 :: List.replicate zeros 0 ++ Octets.ofNat (size / 8) (b.length * 8)

/-- Rotates a word to the left. -/
@[inline] def rotateLeft (w : UInt32) (n : UInt32) : UInt32 := (w <<< n) ||| (w >>> (32 - n))

/-- Rotates a word to the right. -/
@[inline] def rotateRight (w : UInt32) (n : UInt32) : UInt32 := (w >>> n) ||| (w <<< (32 - n))

end FiscalGateway.Crypto

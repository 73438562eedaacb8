import FiscalGateway.Crypto.Sha1
import FiscalGateway.Crypto.Sha256
import FiscalGateway.Crypto.Sha512

/-!
# Keyed hashing and keys from passwords

Authentication codes over the hashes in use, and the two derivations by which a bundle turns a
password into keys: one that iterates a keyed hash, and the older one of the bundle format that
works on blocks of the hash with a purpose number.
-/

namespace FiscalGateway.Crypto

/-- The hashes in use. -/
inductive Hash where
  | sha1
  | sha224
  | sha256
  | sha384
  | sha512
  deriving DecidableEq, Repr

namespace Hash

/-- The digest of a message. -/
def digest : Hash → Octets → Octets
  | .sha1 => Crypto.sha1
  | .sha224 => Crypto.sha224
  | .sha256 => Crypto.sha256
  | .sha384 => Crypto.sha384
  | .sha512 => Crypto.sha512

/-- The length of a digest. -/
def size : Hash → Nat
  | .sha1 => 20
  | .sha224 => 28
  | .sha256 => 32
  | .sha384 => 48
  | .sha512 => 64

/-- The length of the blocks that a hash works on. -/
def blockSize : Hash → Nat
  | .sha1 | .sha224 | .sha256 => 64
  | .sha384 | .sha512 => 128

@[simp] theorem length_digest (h : Hash) (m : Octets) : (h.digest m).length = h.size := by
  cases h <;> simp [digest, size]

end Hash

/-- A key filled up to a block; a longer one is hashed first. -/
def hmacKey (h : Hash) (key : Octets) : Octets :=
  let k := if key.length > h.blockSize then h.digest key else key
  k ++ List.replicate (h.blockSize - k.length) 0

/-- The authentication code of a message. -/
def hmac (h : Hash) (key message : Octets) : Octets :=
  let k := hmacKey h key
  h.digest (k.map (· ^^^ 0x5C) ++ h.digest (k.map (· ^^^ 0x36) ++ message))

/-- Hashes `count` more times and adds the results up. -/
def iterateHmac (h : Hash) (password : Octets) : (count : Nat) → (last sum : Octets) → Octets
  | 0, _, sum => sum
  | count + 1, last, sum =>
    let next := hmac h password last
    iterateHmac h password count next (Octets.xor sum next)

/-- One block of the key that a password gives. -/
def derivedBlock (h : Hash) (password salt : Octets) (iterations index : Nat) : Octets :=
  let first := hmac h password (salt ++ Octets.ofNat 4 index)
  iterateHmac h password (iterations - 1) first first

/-- The key that a password gives by iterated keyed hashing. -/
def deriveKey (h : Hash) (password salt : Octets) (iterations length : Nat) : Octets :=
  let count := (length + h.size - 1) / h.size
  (((List.range count).map (· + 1)).flatMap (derivedBlock h password salt iterations)).take length

/-- Repeats octets up to a multiple of the block, if there are any. -/
def fillBlocks (size : Nat) (b : Octets) : Octets :=
  let total := (b.length + size - 1) / size * size
  ((List.replicate (total / (max b.length 1) + 1) b).flatten).take total

/-- Hashes again `count` times. -/
def iterateHash (h : Hash) : (count : Nat) → Octets → Octets
  | 0, b => b
  | count + 1, b => iterateHash h count (h.digest b)

/-- The key that a password gives for one purpose, block by block. `input` is what the purpose is
hashed with; each block adds itself to it. -/
def purposeBlocks (h : Hash) (purpose : UInt8) (iterations : Nat) :
    (count : Nat) → (input : Octets) → Octets
  | 0, _ => []
  | count + 1, input =>
    let a := iterateHash h (iterations - 1) (h.digest (List.replicate h.blockSize purpose ++ input))
    let b := (fillBlocks h.blockSize a).take h.blockSize
    let addend := Octets.toNat b + 1
    let next := (blocks h.blockSize input).flatMap fun j =>
      Octets.ofNat h.blockSize (Octets.toNat j + addend)
    a ++ purposeBlocks h purpose iterations count next

/-- A password as the older derivation takes it: two octets for each unit, and a zero unit. -/
def wideText (s : List Char) : Octets :=
  (s ++ ['\x00']).flatMap fun c =>
    let n := c.toNat
    if n < 0x10000 then Octets.ofNat 2 n
    else Octets.ofNat 2 (0xD800 + (n - 0x10000) / 0x400) ++
      Octets.ofNat 2 (0xDC00 + (n - 0x10000) % 0x400)

/-- The key that a password gives for one purpose: 1 for encryption, 2 for the initial block, 3 for
authentication. -/
def purposeKey (h : Hash) (purpose : UInt8) (password salt : Octets) (iterations length : Nat) :
    Octets :=
  let count := (length + h.size - 1) / h.size
  let fill := fillBlocks h.blockSize
  (purposeBlocks h purpose iterations count (fill salt ++ fill password)).take length

end FiscalGateway.Crypto

import FiscalGateway.Crypto.Block

/-!
# The block cipher AES

Blocks of 16 octets under keys of 16, 24 or 32 octets. The state is the list of its octets, column
by column.
-/

namespace FiscalGateway.Crypto.Aes

/-- The substitution of octets. -/
def substitution : Array UInt8 :=
  #[0x63, 0x7c, 0x77, 0x7b, 0xf2, 0x6b, 0x6f, 0xc5, 0x30, 0x01, 0x67, 0x2b, 0xfe, 0xd7, 0xab, 0x76,
    0xca, 0x82, 0xc9, 0x7d, 0xfa, 0x59, 0x47, 0xf0, 0xad, 0xd4, 0xa2, 0xaf, 0x9c, 0xa4, 0x72, 0xc0,
    0xb7, 0xfd, 0x93, 0x26, 0x36, 0x3f, 0xf7, 0xcc, 0x34, 0xa5, 0xe5, 0xf1, 0x71, 0xd8, 0x31, 0x15,
    0x04, 0xc7, 0x23, 0xc3, 0x18, 0x96, 0x05, 0x9a, 0x07, 0x12, 0x80, 0xe2, 0xeb, 0x27, 0xb2, 0x75,
    0x09, 0x83, 0x2c, 0x1a, 0x1b, 0x6e, 0x5a, 0xa0, 0x52, 0x3b, 0xd6, 0xb3, 0x29, 0xe3, 0x2f, 0x84,
    0x53, 0xd1, 0x00, 0xed, 0x20, 0xfc, 0xb1, 0x5b, 0x6a, 0xcb, 0xbe, 0x39, 0x4a, 0x4c, 0x58, 0xcf,
    0xd0, 0xef, 0xaa, 0xfb, 0x43, 0x4d, 0x33, 0x85, 0x45, 0xf9, 0x02, 0x7f, 0x50, 0x3c, 0x9f, 0xa8,
    0x51, 0xa3, 0x40, 0x8f, 0x92, 0x9d, 0x38, 0xf5, 0xbc, 0xb6, 0xda, 0x21, 0x10, 0xff, 0xf3, 0xd2,
    0xcd, 0x0c, 0x13, 0xec, 0x5f, 0x97, 0x44, 0x17, 0xc4, 0xa7, 0x7e, 0x3d, 0x64, 0x5d, 0x19, 0x73,
    0x60, 0x81, 0x4f, 0xdc, 0x22, 0x2a, 0x90, 0x88, 0x46, 0xee, 0xb8, 0x14, 0xde, 0x5e, 0x0b, 0xdb,
    0xe0, 0x32, 0x3a, 0x0a, 0x49, 0x06, 0x24, 0x5c, 0xc2, 0xd3, 0xac, 0x62, 0x91, 0x95, 0xe4, 0x79,
    0xe7, 0xc8, 0x37, 0x6d, 0x8d, 0xd5, 0x4e, 0xa9, 0x6c, 0x56, 0xf4, 0xea, 0x65, 0x7a, 0xae, 0x08,
    0xba, 0x78, 0x25, 0x2e, 0x1c, 0xa6, 0xb4, 0xc6, 0xe8, 0xdd, 0x74, 0x1f, 0x4b, 0xbd, 0x8b, 0x8a,
    0x70, 0x3e, 0xb5, 0x66, 0x48, 0x03, 0xf6, 0x0e, 0x61, 0x35, 0x57, 0xb9, 0x86, 0xc1, 0x1d, 0x9e,
    0xe1, 0xf8, 0x98, 0x11, 0x69, 0xd9, 0x8e, 0x94, 0x9b, 0x1e, 0x87, 0xe9, 0xce, 0x55, 0x28, 0xdf,
    0x8c, 0xa1, 0x89, 0x0d, 0xbf, 0xe6, 0x42, 0x68, 0x41, 0x99, 0x2d, 0x0f, 0xb0, 0x54, 0xbb, 0x16]

/-- The substitution of one octet. -/
def substitute (x : UInt8) : UInt8 := substitution.getD x.toNat 0

/-- The substitution read backwards. -/
def inverseSubstitution : Array UInt8 :=
  (List.range 256).foldl
    (fun t i => t.setIfInBounds (substitute (UInt8.ofNat i)).toNat (UInt8.ofNat i))
    (Array.replicate 256 0)

/-- The substitution of one octet undone. -/
def unsubstitute (x : UInt8) : UInt8 := inverseSubstitution.getD x.toNat 0

/-- Doubling in the field of 256 elements. -/
def double (x : UInt8) : UInt8 := if x &&& 0x80 = 0 then x <<< 1 else (x <<< 1) ^^^ 0x1B

/-- The field product with an octet given by its bits. -/
def times (k : Nat) (x : UInt8) : UInt8 :=
  let x2 := double x
  let x4 := double x2
  let x8 := double x4
  (if k.testBit 0 then x else 0) ^^^ (if k.testBit 1 then x2 else 0) ^^^
    (if k.testBit 2 then x4 else 0) ^^^ (if k.testBit 3 then x8 else 0)

/-- Where the octets of the state go when its rows are shifted. -/
def shifted : List Nat := [0, 5, 10, 15, 4, 9, 14, 3, 8, 13, 2, 7, 12, 1, 6, 11]

/-- Where they go when the rows are shifted back. -/
def unshifted : List Nat := [0, 13, 10, 7, 4, 1, 14, 11, 8, 5, 2, 15, 12, 9, 6, 3]

/-- Reorders the state. -/
def arrange (order : List Nat) (s : Octets) : Octets :=
  let a := s.toArray
  order.map fun i => a.getD i 0

/-- Multiplies each column by a matrix whose rows are the first one rotated. -/
def mixColumns (k0 k1 k2 k3 : Nat) : Octets → Octets
  | a :: b :: c :: d :: rest =>
    (times k0 a ^^^ times k1 b ^^^ times k2 c ^^^ times k3 d) ::
    (times k3 a ^^^ times k0 b ^^^ times k1 c ^^^ times k2 d) ::
    (times k2 a ^^^ times k3 b ^^^ times k0 c ^^^ times k1 d) ::
    (times k1 a ^^^ times k2 b ^^^ times k3 c ^^^ times k0 d) :: mixColumns k0 k1 k2 k3 rest
  | _ => []

/-- Cuts or fills octets to the length of a block. -/
def fit (b : Octets) : Octets := (b ++ List.replicate 16 0).take 16

@[simp] theorem length_fit (b : Octets) : (fit b).length = 16 := by
  simp only [fit, List.length_take, List.length_append, List.length_replicate]
  omega

/-- Adds a round key. -/
def addKey (s k : Octets) : Octets := Octets.xor (fit s) (fit k)

@[simp] theorem length_addKey (s k : Octets) : (addKey s k).length = 16 := by
  simp [addKey, Octets.xor]

/-- The next word of the key schedule. `index` counts words and `width` is the length of the key in
words. -/
def nextWord (width index : Nat) (constant : UInt8) (last first : Octets) : Octets :=
  if index % width = 0 then
    match last with
    | [a, b, c, d] =>
      Octets.xor first [substitute b ^^^ constant, substitute c, substitute d, substitute a]
    | w => w
  else if width > 6 ∧ index % width = 4 then Octets.xor first (last.map substitute)
  else Octets.xor first last

/-- Extends the words of a key, the latest first. -/
def expand (width : Nat) : (count : Nat) → (index : Nat) → (constant : UInt8) → List Octets →
    List Octets
  | 0, _, _, words => words
  | count + 1, index, constant, words =>
    let w := nextWord width index constant (words.getD 0 []) (words.getD (width - 1) [])
    let constant := if index % width = 0 then double constant else constant
    expand width count (index + 1) constant (w :: words)

/-- The round keys of a key, from the first to the last. -/
def roundKeys (key : Octets) : List Octets :=
  let width := key.length / 4
  let total := 4 * (width + 7)
  let words := (expand width (total - width) width 1 (blocks 4 key).reverse).reverse
  blocks 16 words.flatten

/-- The rounds behind the first key. -/
def encryptRounds (s : Octets) : List Octets → Octets
  | [] => fit s
  | [last] => addKey (arrange shifted (s.map substitute)) last
  | k :: rest =>
    encryptRounds (addKey (mixColumns 2 3 1 1 (arrange shifted (s.map substitute))) k) rest

@[simp] theorem length_encryptRounds (s : Octets) (keys : List Octets) :
    (encryptRounds s keys).length = 16 := by
  fun_induction encryptRounds s keys <;> simp_all

/-- Enciphers a block under the round keys. -/
def encryptBlock (keys : List Octets) (block : Octets) : Octets :=
  encryptRounds (addKey block (keys.headD [])) keys.tail

@[simp] theorem length_encryptBlock (keys : List Octets) (block : Octets) :
    (encryptBlock keys block).length = 16 := length_encryptRounds _ _

/-- The rounds backwards; the keys come from the last but one to the first. -/
def decryptRounds (s : Octets) : List Octets → Octets
  | [] => s
  | [first] => addKey ((arrange unshifted s).map unsubstitute) first
  | k :: rest =>
    decryptRounds (mixColumns 14 11 13 9 (addKey ((arrange unshifted s).map unsubstitute) k)) rest

/-- Deciphers a block under the round keys. -/
def decryptBlock (keys : List Octets) (block : Octets) : Octets :=
  match keys.reverse with
  | [] => block
  | last :: rest => decryptRounds (addKey block last) rest

end FiscalGateway.Crypto.Aes

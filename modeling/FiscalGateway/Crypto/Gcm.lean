import FiscalGateway.Crypto.Aes

/-!
# Authenticated encryption

AES in counter mode with an authentication tag of 16 octets, for nonces of 12 octets and without
further data. The key stream depends on key, nonce and length alone, so deciphering is enciphering
again; the tag is computed from the ciphertext.
-/

namespace FiscalGateway.Crypto.Gcm

/-- The polynomial that reduces products, the lowest power in the highest bit. -/
def reduction : Nat := 0xE1 <<< 120

/-- One step of a product: adds the multiple `v` if the bit is set, and halves it. -/
def multiplyStep (x : Nat) (zv : Nat × Nat) (bit : Nat) : Nat × Nat :=
  let (z, v) := zv
  (if x.testBit (127 - bit) then z ^^^ v else z,
    if v % 2 = 1 then (v >>> 1) ^^^ reduction else v >>> 1)

/-- The product of two elements of the field of `2 ^ 128` elements. -/
def multiply (x y : Nat) : Nat := ((List.range 128).foldl (multiplyStep x) (0, y)).1

/-- The hash of a sequence of blocks under the key `h`. -/
def ghash (h : Nat) (data : List Octets) : Nat :=
  data.foldl (fun acc b => multiply (acc ^^^ (Aes.fit b).toNat) h) 0

/-- The counter block for a nonce. -/
def counterBlock (nonce : Octets) (counter : Nat) : Octets := nonce ++ Octets.ofNat 4 counter

/-- The key stream for a message of this length, from the second counter on. -/
def keyStream (keys : List Octets) (nonce : Octets) (length : Nat) : Octets :=
  ((List.range ((length + 15) / 16)).flatMap fun i =>
    Aes.encryptBlock keys (counterBlock nonce (i + 2))).take length

@[simp] theorem length_keyStream (keys : List Octets) (nonce : Octets) (length : Nat) :
    (keyStream keys nonce length).length = length := by
  have h : ((List.range ((length + 15) / 16)).flatMap fun i =>
      Aes.encryptBlock keys (counterBlock nonce (i + 2))).length = (length + 15) / 16 * 16 := by
    simp only [List.length_flatMap, Aes.length_encryptBlock, List.map_const', List.length_range,
      List.sum_replicate_nat]
  rw [keyStream, List.length_take, h]
  omega

/-- Enciphers or deciphers a message. -/
def crypt (keys : List Octets) (nonce message : Octets) : Octets :=
  Octets.xor message (keyStream keys nonce message.length)

@[simp] theorem length_crypt (keys : List Octets) (nonce message : Octets) :
    (crypt keys nonce message).length = message.length := by
  simp [crypt, Octets.xor]

/-- Enciphering twice changes nothing. -/
theorem crypt_crypt (keys : List Octets) (nonce message : Octets) :
    crypt keys nonce (crypt keys nonce message) = message := by
  rw [crypt, length_crypt, crypt]
  generalize hk : keyStream keys nonce message.length = k
  have hl : k.length = message.length := by rw [← hk, length_keyStream]
  clear hk
  induction message generalizing k with
  | nil => simp [Octets.xor]
  | cons x message ih =>
    cases k with
    | nil => simp at hl
    | cons y k =>
      have h := ih k (by simpa using hl)
      simp only [Octets.xor, List.zipWith_cons_cons] at h ⊢
      rw [h, UInt8.xor_assoc, UInt8.xor_self, UInt8.xor_zero]

/-- The tag of a ciphertext. -/
def tag (keys : List Octets) (nonce ciphertext : Octets) : Octets :=
  let h := (Aes.encryptBlock keys (List.replicate 16 0)).toNat
  let lengths := Octets.ofNat 8 0 ++ Octets.ofNat 8 (ciphertext.length * 8)
  Octets.xor (Octets.ofNat 16 (ghash h (blocks 16 ciphertext ++ [lengths])))
    (Aes.encryptBlock keys (counterBlock nonce 1))

@[simp] theorem length_tag (keys : List Octets) (nonce ciphertext : Octets) :
    (tag keys nonce ciphertext).length = 16 := by
  simp [tag, Octets.xor]

/-- Ciphertext and tag of a message under a key. -/
def encrypt (key nonce message : Octets) : Octets × Octets :=
  let keys := Aes.roundKeys key
  let ciphertext := crypt keys nonce message
  (ciphertext, tag keys nonce ciphertext)

/-- The message of a ciphertext whose tag is right. -/
def decrypt? (key nonce ciphertext givenTag : Octets) : Option Octets :=
  let keys := Aes.roundKeys key
  if tag keys nonce ciphertext = givenTag then some (crypt keys nonce ciphertext) else none

end FiscalGateway.Crypto.Gcm

import FiscalGateway.Crypto.Chaining
import FiscalGateway.Pki.KeyPair

/-!
# Bundles

A bundle holds certificates and keys under a password (PKCS#12). `Bundle.read?` checks its
authentication code, opens what is encrypted and sorts the content: the certificate that belongs to
the first key, that key, and the other certificates in order.
-/

namespace FiscalGateway.Pki

open Asn1 (Item objectId)

/-- What a bundle holds. -/
structure Bundle where
  certificate : Option Certificate
  privateKey : Option PrivateKey
  /-- The certificates that do not belong to the key. -/
  others : List Certificate

namespace Bundle

/-- A password. The absent one differs from the empty one where the password is taken as text of
two octets for each character. -/
abbrev Password := Option String

/-- The octets of a password for iterated hashing. -/
def plainPassword (p : Password) : Octets := (p.map Octets.ofText).getD []

/-- The octets of a password for the older derivation. -/
def widePassword (p : Password) : Octets := (p.map fun s => Crypto.wideText s.toList).getD []

/-- An algorithm with its parameters. -/
structure Algorithm where
  kind : Octets
  parameters : Option Item

/-- Reads an algorithm. -/
def Algorithm.ofItem? (i : Item) : Option Algorithm := do
  match ← i.sequence? with
  | kind :: rest => return ⟨← kind.content? Asn1.objectIdentifier, rest.head?⟩
  | [] => none

/-- The hash of a digest algorithm. -/
def digestHash? (kind : Octets) : Option Crypto.Hash :=
  if kind = objectId [1, 3, 14, 3, 2, 26] then some .sha1
  else if kind = objectId [2, 16, 840, 1, 101, 3, 4, 2, 1] then some .sha256
  else if kind = objectId [2, 16, 840, 1, 101, 3, 4, 2, 2] then some .sha384
  else if kind = objectId [2, 16, 840, 1, 101, 3, 4, 2, 3] then some .sha512
  else if kind = objectId [2, 16, 840, 1, 101, 3, 4, 2, 4] then some .sha224
  else none

/-- The hash of a keyed hash algorithm. -/
def keyedHash? (kind : Octets) : Option Crypto.Hash :=
  if kind = objectId [1, 2, 840, 113549, 2, 7] then some .sha1
  else if kind = objectId [1, 2, 840, 113549, 2, 9] then some .sha256
  else if kind = objectId [1, 2, 840, 113549, 2, 10] then some .sha384
  else if kind = objectId [1, 2, 840, 113549, 2, 11] then some .sha512
  else if kind = objectId [1, 2, 840, 113549, 2, 8] then some .sha224
  else none

/-- The cipher of an encryption algorithm. -/
def cipher? (kind : Octets) : Option Crypto.Cipher :=
  if kind = objectId [2, 16, 840, 1, 101, 3, 4, 1, 2] then some (.aes 16)
  else if kind = objectId [2, 16, 840, 1, 101, 3, 4, 1, 22] then some (.aes 24)
  else if kind = objectId [2, 16, 840, 1, 101, 3, 4, 1, 42] then some (.aes 32)
  else if kind = objectId [1, 2, 840, 113549, 3, 7] then some .tripleDes
  else none

/-- Opens what is encrypted under a key from iterated hashing. -/
def openIterated? (parameters : Item) (password : Password) (ciphertext : Octets) :
    Option Octets := do
  match ← parameters.sequence? with
  | [derivation, encryption] =>
    let derivation ← Algorithm.ofItem? derivation
    let encryption ← Algorithm.ofItem? encryption
    if derivation.kind ≠ objectId [1, 2, 840, 113549, 1, 5, 12] then none
    else
      match ← (← derivation.parameters).sequence? with
      | salt :: iterations :: rest =>
        -- the length of a key may be in front of the hash, and the hash may be left out
        let hash ← match rest.find? (·.tag = Asn1.sequence) with
          | none => some .sha1
          | some i => do keyedHash? (← Algorithm.ofItem? i).kind
        let cipher ← cipher? encryption.kind
        let initial ← (← encryption.parameters).content? Asn1.octetString
        if initial.length ≠ cipher.blockSize then none
        else
          let key := Crypto.deriveKey hash (plainPassword password)
            (← salt.content? Asn1.octetString) (← iterations.natural?) cipher.keySize
          cipher.decrypt? key initial ciphertext
      | _ => none
  | _ => none

/-- Opens what is encrypted under a key of the older derivation. With `twoKeys` the third key of the
cipher is the first one again. -/
def openPurpose? (twoKeys : Bool) (parameters : Item) (password : Password) (ciphertext : Octets) :
    Option Octets := do
  match ← parameters.sequence? with
  | [salt, iterations] =>
    let salt ← salt.content? Asn1.octetString
    let iterations ← iterations.natural?
    let derive (purpose : UInt8) (length : Nat) :=
      Crypto.purposeKey .sha1 purpose (widePassword password) salt iterations length
    let key := if twoKeys then derive 1 16 ++ (derive 1 16).take 8 else derive 1 24
    Crypto.Cipher.tripleDes.decrypt? key (derive 2 8) ciphertext
  | _ => none

/-- Opens what is encrypted. -/
def open? (algorithm : Item) (password : Password) (ciphertext : Octets) : Option Octets := do
  let a ← Algorithm.ofItem? algorithm
  let parameters ← a.parameters
  if a.kind = objectId [1, 2, 840, 113549, 1, 5, 13] then
    openIterated? parameters password ciphertext
  else if a.kind = objectId [1, 2, 840, 113549, 1, 12, 1, 3] then
    openPurpose? false parameters password ciphertext
  else if a.kind = objectId [1, 2, 840, 113549, 1, 12, 1, 4] then
    openPurpose? true parameters password ciphertext
  else none

/-- A piece of content with its kind. -/
structure Content where
  kind : Octets
  value : Item

/-- Reads a piece of content. -/
def Content.ofItems? : List Item → Option Content
  | kind :: value :: _ => do
    if value.tag ≠ Asn1.context 0 then none
    else
      match ← Item.readAll? value.content with
      | [v] => return ⟨← kind.content? Asn1.objectIdentifier, v⟩
      | _ => none
  | _ => none

def dataKind : Octets := objectId [1, 2, 840, 113549, 1, 7, 1]

def encryptedKind : Octets := objectId [1, 2, 840, 113549, 1, 7, 6]

/-- The kinds of bag, by their last number. -/
def bagKind (n : Nat) : Octets := objectId [1, 2, 840, 113549, 1, 12, 10, 1, n]

def certificateKind : Octets := objectId [1, 2, 840, 113549, 1, 9, 22, 1]

/-- What was found so far: the first key and every certificate. -/
structure Found where
  privateKey : Option PrivateKey
  certificates : List Certificate

/-- Takes the content of one bag that holds no other bags. -/
def Found.takeBag? (found : Found) (password : Password) (bag : Content) : Option Found :=
  if bag.kind = bagKind 1 then
    match found.privateKey with
    -- one key is enough: another one is not even read
    | some _ => some found
    | none => do return { found with privateKey := some (← PrivateKey.ofDer? bag.value.encoding) }
  else if bag.kind = bagKind 2 then
    match found.privateKey with
    | some _ => some found
    | none => do
      match ← bag.value.sequence? with
      | [algorithm, ciphertext] =>
        let plain ← open? algorithm password (← ciphertext.content? Asn1.octetString)
        return { found with privateKey := some (← PrivateKey.ofDer? plain) }
      | _ => none
  else if bag.kind = bagKind 3 then do
    let content ← Content.ofItems? (← bag.value.sequence?)
    if content.kind ≠ certificateKind then return found
    else
      let c ← Certificate.ofDer? (← content.value.content? Asn1.octetString)
      return { found with certificates := found.certificates ++ [c] }
  else some found

/-- Takes bags in order; `depth` bounds how deep bags may lie within bags. -/
def Found.takeBags? (password : Password) : (depth : Nat) → Found → List Item → Option Found
  | 0, _, _ => none
  | depth + 1, found, items => items.foldlM (fun found item => do
      let bag ← Content.ofItems? (← item.sequence?)
      if bag.kind = bagKind 6 then
        Found.takeBags? password depth found (← bag.value.sequence?)
      else found.takeBag? password bag) found

/-- Takes the bags written in these octets. -/
def Found.takeAll? (found : Found) (password : Password) (b : Octets) : Option Found := do
  Found.takeBags? password b.length found (← Item.readSequence? b)

/-- The algorithm and the ciphertext of encrypted content. -/
def encrypted? (i : Item) : Option (Item × Octets) := do
  match ← i.sequence? with
  | _ :: content :: _ =>
    match ← content.sequence? with
    | [_, algorithm, ciphertext] => return (algorithm, ← ciphertext.content? 0x80)
    | _ => none
  | _ => none

/-- Takes the content of one part of a bundle; parts of unknown kind are passed over. -/
def Found.takePart? (password : Password) (found : Found) (part : Item) : Option Found := do
  let content ← Content.ofItems? (← part.sequence?)
  if content.kind = dataKind then
    found.takeAll? password (← content.value.content? Asn1.octetString)
  else if content.kind = encryptedKind then
    let (algorithm, ciphertext) ← encrypted? content.value
    found.takeAll? password (← open? algorithm password ciphertext)
  else return found

/-- Whether an authentication code is right under a password. -/
def authenticates? (code : Item) (content : Octets) (password : Password) : Option Bool := do
  match ← code.sequence? with
  | digest :: salt :: rest =>
    match ← digest.sequence? with
    | [algorithm, expected] =>
      let hash ← digestHash? (← Algorithm.ofItem? algorithm).kind
      -- if no number of iterations is stated it is one
      let iterations ← match rest with
        | [] => some 1
        | i :: _ => i.natural?
      let key := Crypto.purposeKey hash 3 (widePassword password)
        (← salt.content? Asn1.octetString) iterations hash.size
      return Crypto.hmac hash key content == (← expected.content? Asn1.octetString)
    | _ => none
  | _ => none

/-- The readings of a password: an empty one may also mean that there is none. -/
def readings (password : String) : List Password :=
  if password.isEmpty then [none, some ""] else [some password]

/-- The reading of the password under which the code is right; without a code the first one. -/
def reading? (code : Option Item) (content : Octets) (password : String) : Option Password :=
  match code with
  | none => (readings password).head?
  | some code => (readings password).find? fun p => authenticates? code content p == some true

/-- Sorts what was found. The certificate of the key is the first that certifies it. -/
def Found.sort (found : Found) : Bundle :=
  match found.privateKey.bind (·.publicKey?) with
  | none => ⟨none, found.privateKey, found.certificates⟩
  | some key =>
    let certifies (c : Certificate) := c.parts.key == some key
    ⟨found.certificates.find? certifies, found.privateKey, found.certificates.eraseP certifies⟩

/-- Reads a bundle; what follows it is ignored. -/
def read? (b : Octets) (password : String) : Option Bundle := do
  match ← Item.readSequence? b with
  | _ :: safe :: rest =>
    let safe ← Content.ofItems? (← safe.sequence?)
    if safe.kind ≠ dataKind then none
    else
      let content ← safe.value.content? Asn1.octetString
      let password ← reading? rest.head? content password
      let found ← (← Item.readSequence? content).foldlM (Found.takePart? password) ⟨none, []⟩
      return found.sort
  | _ => none

end Bundle
end FiscalGateway.Pki

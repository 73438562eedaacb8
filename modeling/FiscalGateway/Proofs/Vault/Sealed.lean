import FiscalGateway.Proofs.Pki.Pem
import FiscalGateway.Vault.Entry

/-!
# Sealed records — what is sealed under a password, the password opens

`Sealing.Lawful` is what a cipher with tags does with a key of its own, and `standard_lawful` says
that AES-256 in counter mode does it. `openRecord_record` reads a sealed pair back,
`openRecord_record_of_ne` says what another password gives, and `putAll_record` that a record sealed
anew holds nothing of the old one.
-/

namespace FiscalGateway.Vault.Sealing

variable {g : Sealing} {password other : Octets} {noise noise' : Noise} {pair pair' : Pki.KeyPair}

/-! ## Ciphers -/

/-- A cipher that opens what it sealed under the same key, with tags of the one length. -/
structure Lawful (g : Sealing) : Prop where
  decrypt?_encrypt : ∀ key nonce text,
    g.decrypt? key nonce (g.encrypt key nonce text).1 (g.encrypt key nonce text).2 = some text
  length_tag : ∀ key nonce text, (g.encrypt key nonce text).2.length = tagLength

/-- **AES-256 in counter mode opens what it sealed.** -/
theorem standard_lawful : standard.Lawful where
  decrypt?_encrypt key nonce text := by
    simp only [standard, Crypto.Gcm.encrypt, Crypto.Gcm.decrypt?, Crypto.Gcm.crypt_crypt, if_true]
  length_tag key nonce text := by
    simp only [standard, Crypto.Gcm.encrypt, Crypto.Gcm.length_tag, tagLength]

/-- Nonce, encrypted text and tag are found again by their lengths. -/
theorem openText_sealText (hg : g.Lawful) (key sealingKey : Octets) {nonce : Octets}
    (hnonce : nonce.length = nonceLength) (text : Octets) :
    g.openText key (g.sealText sealingKey nonce text) =
      (g.decrypt? key nonce (g.encrypt sealingKey nonce text).1
        (g.encrypt sealingKey nonce text).2).elim (.error .badPassword) .ok := by
  have htag := hg.length_tag sealingKey nonce text
  obtain ⟨encrypted, tag, hencrypt⟩ : ∃ e t, g.encrypt sealingKey nonce text = (e, t) :=
    ⟨_, _, rfl⟩
  rw [hencrypt] at htag ⊢
  dsimp only at htag ⊢
  -- the nonce and the tag have fixed lengths, so the parts are cut where they were joined
  have hroom : ¬ (nonce ++ encrypted ++ tag).length < nonceLength + tagLength := by
    simp only [List.length_append]
    omega
  have hrest : (nonce ++ encrypted ++ tag).drop nonceLength = encrypted ++ tag := by
    rw [List.append_assoc, List.drop_left' hnonce]
  have hfront : (nonce ++ encrypted ++ tag).take nonceLength = nonce := by
    rw [List.append_assoc, List.take_left' hnonce]
  have hlength : (encrypted ++ tag).length - tagLength = encrypted.length := by
    simp only [List.length_append]
    omega
  simp only [openText, sealText, hencrypt, if_neg hroom, hrest, hfront, hlength,
    List.take_left, List.drop_left]
  cases g.decrypt? key nonce encrypted tag <;> rfl

/-- A cipher that hides nothing: it leaves a text as it is, and tags it with the front of the
key. -/
def transparent : Sealing where
  key password salt := password ++ salt
  encrypt key _ text := (text, (key ++ List.replicate tagLength 0).take tagLength)
  decrypt? key _ text tag :=
    if (key ++ List.replicate tagLength 0).take tagLength = tag then some text else none

theorem transparent_lawful : transparent.Lawful where
  decrypt?_encrypt _ _ _ := if_pos rfl
  length_tag _ _ _ := by simp [transparent]

/-! ## Records -/

/-- The record of a pair that is sealed under a password. -/
def record (g : Sealing) (password : Octets) (noise : Noise) (pair : Pki.KeyPair) : Record :=
  .ofList (g.sealPair password noise pair)

/-- What each field of the record holds. -/
theorem get?_record (g : Sealing) (password : Octets) (noise : Noise) (pair : Pki.KeyPair)
    (name : String) : (g.record password noise pair).get? name =
    if name = saltField then some noise.salt
    else if name = keyField then
      some (g.sealText (g.key password noise.salt) noise.keyNonce
        (Pki.Pem.writePrivateKey pair.privateKey))
    else if name = certificateField then
      some (g.sealText (g.key password noise.salt) noise.certificateNonce
        (Pki.Pem.writeCertificate pair.certificate))
    else none := by
  simp only [record, sealPair, Table.ofList, Table.putAll, List.foldl_cons, List.foldl_nil,
    Table.get?_put, Table.get?_empty]

/-- **A record sealed anew** holds nothing of the old one. -/
theorem putAll_record : (g.record password noise pair).putAll (g.sealPair other noise' pair') =
    g.record other noise' pair' := by
  refine Table.ext_get? fun name => ?_
  rw [get?_record]
  simp only [sealPair, Table.putAll, List.foldl_cons, List.foldl_nil, Table.get?_put]
  rw [get?_record]
  split_ifs <;> rfl

theorem isEmpty_record : (g.record password noise pair).isEmpty = false := by
  have h := get?_record g password noise pair saltField
  rw [if_pos rfl, ← Table.mem_entries_iff] at h
  cases hempty : (g.record password noise pair).isEmpty with
  | false => rfl
  | true => rw [List.isEmpty_iff.1 hempty] at h; cases h

theorem requireField_salt : requireField (g.record password noise pair) saltField =
    .ok noise.salt := by
  simp only [requireField, get?_record, if_true]

theorem requireField_key : requireField (g.record password noise pair) keyField =
    .ok (g.sealText (g.key password noise.salt) noise.keyNonce
      (Pki.Pem.writePrivateKey pair.privateKey)) := by
  have h : keyField ≠ saltField := by decide
  simp only [requireField, get?_record, if_neg h, if_true]

theorem requireField_certificate : requireField (g.record password noise pair) certificateField =
    .ok (g.sealText (g.key password noise.salt) noise.certificateNonce
      (Pki.Pem.writeCertificate pair.certificate)) := by
  have h : certificateField ≠ saltField := by decide
  have h' : certificateField ≠ keyField := by decide
  simp only [requireField, get?_record, if_neg h, if_neg h', if_true]

/-- **A password opens what is sealed under it.** -/
theorem openRecord_record (hg : g.Lawful) :
    g.openRecord password (g.record password noise pair) = .ok pair := by
  have hcertificate := openText_sealText hg (g.key password noise.salt)
    (g.key password noise.salt) noise.length_certificateNonce
    (Pki.Pem.writeCertificate pair.certificate)
  have hkey := openText_sealText hg (g.key password noise.salt) (g.key password noise.salt)
    noise.length_keyNonce (Pki.Pem.writePrivateKey pair.privateKey)
  rw [hg.decrypt?_encrypt, Option.elim_some] at hcertificate hkey
  rw [openRecord, requireField_salt, requireField_certificate, requireField_key]
  simp only [bind, Except.bind, noise.length_salt, ne_eq, not_true, if_false,
    hcertificate, hkey, Pki.Pem.certificate?_writeCertificate, Pki.Pem.privateKey?_writePrivateKey,
    Pki.KeyPair.ofParts_parts]

/-- **What is assumed of a cipher** about some passwords, random octets and pairs: no two passwords
make one key, and what was encrypted under one key has the wrong tag under another. -/
structure Separates (g : Sealing) (passwords : List Octets) (noises : List Noise)
    (pairs : List Pki.KeyPair) : Prop where
  key_injective : ∀ p ∈ passwords, ∀ q ∈ passwords, ∀ n ∈ noises,
    g.key p n.salt = g.key q n.salt → p = q
  decrypt?_eq_none : ∀ p ∈ passwords, ∀ q ∈ passwords, ∀ n ∈ noises, ∀ pair ∈ pairs,
    g.key p n.salt ≠ g.key q n.salt →
      let sealed := g.encrypt (g.key p n.salt) n.certificateNonce
        (Pki.Pem.writeCertificate pair.certificate)
      g.decrypt? (g.key q n.salt) n.certificateNonce sealed.1 sealed.2 = none

/-- One password needs no separation. -/
theorem separates_of_forall_eq (password : Octets) {passwords : List Octets}
    (h : ∀ p ∈ passwords, p = password) (g : Sealing) (noises : List Noise)
    (pairs : List Pki.KeyPair) :
    g.Separates passwords noises pairs where
  key_injective p hp q hq _ _ _ := (h p hp).trans (h q hq).symm
  decrypt?_eq_none p hp q hq _ _ _ _ hne := absurd (by rw [h p hp, h q hq]) hne

/-- The tags of the transparent cipher tell passwords of one length, if they are not too long. -/
theorem transparent_separates {passwords : List Octets} {n : Nat} (hn : n ≤ tagLength)
    (h : ∀ p ∈ passwords, p.length = n) (noises : List Noise) (pairs : List Pki.KeyPair) :
    transparent.Separates passwords noises pairs where
  key_injective p _ q _ _ _ hkey := List.append_cancel_right hkey
  decrypt?_eq_none p hp q hq noise _ pair _ hne := by
    have hfront {x : Octets} (hx : x ∈ passwords) (rest : Octets) :
        ((x ++ noise.salt ++ rest).take tagLength).take n = x := by
      rw [List.take_take, Nat.min_eq_left hn, List.append_assoc, List.take_left' (h x hx)]
    refine if_neg fun htag => hne ?_
    have hsame := congrArg (List.take n) htag
    rw [show p = q from (hfront hp _).symm.trans (hsame.symm.trans (hfront hq _))]

/-- **Another password does not open it**, and nothing is read of it. -/
theorem openRecord_record_of_ne {passwords : List Octets} {noises : List Noise}
    {pairs : List Pki.KeyPair} (hg : g.Lawful) (hs : g.Separates passwords noises pairs)
    (hpassword : password ∈ passwords) (hother : other ∈ passwords) (hnoise : noise ∈ noises)
    (hpair : pair ∈ pairs) (hne : password ≠ other) :
    g.openRecord other (g.record password noise pair) = .error .badPassword := by
  have hkey : g.key password noise.salt ≠ g.key other noise.salt := fun h =>
    hne (hs.key_injective _ hpassword _ hother _ hnoise h)
  have hcertificate := openText_sealText hg (g.key other noise.salt)
    (g.key password noise.salt) noise.length_certificateNonce
    (Pki.Pem.writeCertificate pair.certificate)
  rw [hs.decrypt?_eq_none _ hpassword _ hother _ hnoise _ hpair hkey, Option.elim_none]
    at hcertificate
  rw [openRecord, requireField_salt, requireField_certificate]
  simp only [bind, Except.bind, noise.length_salt, ne_eq, not_true, if_false, hcertificate]

end FiscalGateway.Vault.Sealing

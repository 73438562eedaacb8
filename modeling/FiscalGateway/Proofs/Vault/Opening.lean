import FiscalGateway.Proofs.Vault.Sealed

/-!
# Opening — what opens was sealed

A sealed text opens under its key, and nothing else does: what opens is the sealing of what comes
out (`openText_eq_ok`). For that the cipher has to be exact, which is more than lawful: the tag is
made of the encrypted text, so an encrypted text with its tag is what the cipher makes of the text
in it (`standard_exact`). The slices of a sealed text are all in range (`openChecked?_eq`).
-/

namespace FiscalGateway.Vault.Sealing

variable {g : Sealing} {key nonce text sealed : Octets}

/-! ## Slices -/

/-- Cuts octets at a position that is in range. -/
def splitAt? (b : Octets) (position : Nat) : Option (Octets × Octets) :=
  if position ≤ b.length then some (b.take position, b.drop position) else none

/-- The difference of two lengths, if it is none below zero. -/
def difference? (m n : Nat) : Option Nat := if n ≤ m then some (m - n) else none

/-- Opens what is sealed with all slices checked. There is no outcome at all if one of them is out of
range. -/
def openChecked? (g : Sealing) (key sealed : Octets) : Option (Except Fault Octets) :=
  if sealed.length < nonceLength + tagLength then
    some (.error (.corrupted (.truncated sealed.length)))
  else do
    let (nonce, rest) ← splitAt? sealed nonceLength
    let length ← difference? rest.length tagLength
    let (encrypted, tag) ← splitAt? rest length
    match g.decrypt? key nonce encrypted tag with
    | some text => return .ok text
    | none => return .error .badPassword

/-- **No slice is out of range.** -/
theorem openChecked?_eq (g : Sealing) (key sealed : Octets) :
    g.openChecked? key sealed = some (g.openText key sealed) := by
  unfold openChecked? openText
  split
  · rfl
  · next hlong =>
    have hnonce : nonceLength ≤ sealed.length := by omega
    have htag : tagLength ≤ (sealed.drop nonceLength).length := by
      rw [List.length_drop]
      omega
    simp only [splitAt?, difference?, if_pos hnonce, if_pos htag, Nat.sub_le, if_true,
      Option.bind_eq_bind, Option.bind_some]
    generalize g.decrypt? key (sealed.take nonceLength)
      ((sealed.drop nonceLength).take ((sealed.drop nonceLength).length - tagLength))
      ((sealed.drop nonceLength).drop ((sealed.drop nonceLength).length - tagLength)) = opened
    cases opened <;> rfl

/-! ## Outcomes -/

/-- What may come of opening. -/
theorem openText_cases (g : Sealing) (key sealed : Octets) :
    (sealed.length < nonceLength + tagLength ∧
      g.openText key sealed = .error (.corrupted (.truncated sealed.length))) ∨
    (nonceLength + tagLength ≤ sealed.length ∧
      ((∃ text, g.openText key sealed = .ok text) ∨
        g.openText key sealed = .error .badPassword)) := by
  unfold openText
  split
  · next hshort => exact .inl ⟨hshort, rfl⟩
  · next hlong =>
    refine .inr ⟨Nat.not_lt.1 hlong, ?_⟩
    dsimp only
    split
    · next text _ => exact .inl ⟨text, rfl⟩
    · exact .inr rfl

/-- **What is too short** for a nonce and a tag is corrupted. -/
theorem openText_eq_corrupted {why : Corruption} :
    g.openText key sealed = .error (.corrupted why) ↔
      sealed.length < nonceLength + tagLength ∧ why = .truncated sealed.length := by
  rcases openText_cases g key sealed with ⟨hshort, h⟩ | ⟨hlong, ⟨text, h⟩ | h⟩
  · simp [h, hshort, eq_comm]
  · simp [h, Nat.not_lt.2 hlong]
  · simp [h, Nat.not_lt.2 hlong]

/-! ## Exact ciphers -/

/-- A cipher of which nothing opens but what it made, and which keeps lengths. -/
structure Exact (g : Sealing) : Prop extends Lawful g where
  encrypt_of_decrypt? : ∀ {key nonce encrypted tag text},
    g.decrypt? key nonce encrypted tag = some text → g.encrypt key nonce text = (encrypted, tag)
  length_encrypt : ∀ key nonce text, (g.encrypt key nonce text).1.length = text.length

/-- **AES-256 in counter mode is exact**: the tag is that of the encrypted text, and enciphering
what was deciphered gives the encrypted text again. -/
theorem standard_exact : standard.Exact where
  toLawful := standard_lawful
  encrypt_of_decrypt? := by
    intro key nonce encrypted tag text h
    simp only [standard, Crypto.Gcm.decrypt?, Option.ite_none_right_eq_some,
      Option.some.injEq] at h
    obtain ⟨htag, rfl⟩ := h
    simp only [standard, Crypto.Gcm.encrypt, Crypto.Gcm.crypt_crypt, htag]
  length_encrypt _ _ _ := Crypto.Gcm.length_crypt _ _ _

section Exact

variable (hg : g.Exact)

include hg

theorem length_sealText : (g.sealText key nonce text).length =
    nonce.length + text.length + tagLength := by
  have htag := hg.length_tag key nonce text
  have hencrypt := hg.length_encrypt key nonce text
  simp only [sealText, List.length_append, htag, hencrypt]

/-- **A sealed text opens** under its key. -/
theorem openText_sealText_self (hnonce : nonce.length = nonceLength) :
    g.openText key (g.sealText key nonce text) = .ok text := by
  rw [openText_sealText hg.toLawful key key hnonce, hg.decrypt?_encrypt, Option.elim_some]

/-- **What opens was sealed**, with the nonce at its front. -/
theorem openText_eq_ok : g.openText key sealed = .ok text ↔
    sealed = g.sealText key (sealed.take nonceLength) text := by
  constructor
  · intro h
    unfold openText at h
    split at h
    · contradiction
    · dsimp only at h
      split at h
      · next hopen =>
        obtain rfl := Except.ok.inj h
        rw [sealText, hg.encrypt_of_decrypt? hopen]
        dsimp only
        rw [List.append_assoc, List.take_append_drop, List.take_append_drop]
      · contradiction
  · intro h
    -- nothing was said of the length of `sealed`: a sealing is too long for a nonce that is cut short
    have hlength := congrArg List.length h
    rw [length_sealText hg, List.length_take] at hlength
    have hnonce : (sealed.take nonceLength).length = nonceLength := by
      rw [List.length_take]
      unfold tagLength at hlength
      omega
    rw [h]
    exact openText_sealText_self hg hnonce

/-- **Everything else of sufficient length** counts as sealed under another password. -/
theorem openText_eq_badPassword : g.openText key sealed = .error .badPassword ↔
    nonceLength + tagLength ≤ sealed.length ∧
      ∀ text, sealed ≠ g.sealText key (sealed.take nonceLength) text := by
  simp only [ne_eq, ← openText_eq_ok hg]
  rcases openText_cases g key sealed with ⟨hshort, h⟩ | ⟨hlong, ⟨text, h⟩ | h⟩
  · simp [h, hshort]
  · simp [h]
  · simp [h, hlong]

end Exact

/-! ## The standard cipher -/

/-- **Sealing and opening are exact inverses.** What is sealed opens as the text that it was made
of, and is longer by a nonce at the front and a tag. Whatever else is opened, its slices are in
range; it is corrupted exactly if it is too short for nonce and tag, it opens exactly if it is a
sealing with its own nonce, and it is taken for one under another password in all other cases. -/
theorem seal_open_inverse (key : Octets) :
    (∀ nonce text, nonce.length = nonceLength →
      standard.openText key (standard.sealText key nonce text) = .ok text ∧
      (standard.sealText key nonce text).length = nonceLength + text.length + tagLength ∧
      nonce <+: standard.sealText key nonce text) ∧
    ∀ sealed,
      standard.openChecked? key sealed = some (standard.openText key sealed) ∧
      (∀ why, standard.openText key sealed = .error (.corrupted why) ↔
        sealed.length < nonceLength + tagLength ∧ why = .truncated sealed.length) ∧
      (∀ text, standard.openText key sealed = .ok text ↔
        sealed = standard.sealText key (sealed.take nonceLength) text) ∧
      (standard.openText key sealed = .error .badPassword ↔
        nonceLength + tagLength ≤ sealed.length ∧
          ∀ text, sealed ≠ standard.sealText key (sealed.take nonceLength) text) := by
  refine ⟨fun nonce text hnonce => ⟨openText_sealText_self standard_exact hnonce, ?_, ?_⟩,
    fun sealed => ⟨openChecked?_eq standard key sealed, fun _ => openText_eq_corrupted,
      fun _ => openText_eq_ok standard_exact, openText_eq_badPassword standard_exact⟩⟩
  · rw [length_sealText standard_exact, hnonce]
  · rw [sealText]
    dsimp only
    rw [List.append_assoc]
    exact List.prefix_append _ _

/-- The empty text and a block of zeros, under a key of zeros and with a nonce of zeros. -/
theorem seal_open_inverse_zeros :
    let key : Octets := List.replicate 32 0
    let nonce : Octets := List.replicate 12 0
    let text : Octets := List.replicate 16 0
    nonce.length = nonceLength ∧
      (standard.sealText key nonce [] = nonce ++
          [0x53, 0x0F, 0x8A, 0xFB, 0xC7, 0x45, 0x36, 0xB9, 0xA9, 0x63, 0xB4, 0xF1, 0xC4, 0xCB, 0x73,
            0x8B] ∧
        standard.openText key (standard.sealText key nonce []) = .ok []) ∧
      standard.sealText key nonce text = nonce ++
          [0xCE, 0xA7, 0x40, 0x3D, 0x4D, 0x60, 0x6B, 0x6E, 0x07, 0x4E, 0xC5, 0xD3, 0xBA, 0xF3, 0x9D,
            0x18] ++
          [0xD0, 0xD1, 0xC8, 0xA7, 0x99, 0x99, 0x6B, 0xF0, 0x26, 0x5B, 0x98, 0xB5, 0xD4, 0x8A, 0xB9,
            0x19] ∧
        standard.openText key (standard.sealText key nonce text) = .ok text := by
  intro key nonce text
  have hnonce : nonce.length = nonceLength := by decide
  have hopens := fun text => ((seal_open_inverse key).1 nonce text hnonce).1
  exact ⟨hnonce, ⟨by decide +kernel, hopens []⟩, by decide +kernel, hopens text⟩

end FiscalGateway.Vault.Sealing

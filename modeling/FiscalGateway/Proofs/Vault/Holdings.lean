import FiscalGateway.Proofs.Vault.Course
import FiscalGateway.Proofs.Vault.Rotation

/-!
# Holdings — every record is a sealed credential

Whatever is asked of the vault, its records are credentials of the run, each sealed as a whole
(`Holds`): a record is written from one pair, one password and one set of random octets, or moved as
it is. `Holds.serveAlone` is one request, and `Holds.runOn_call` one request while anything may
happen.
-/

namespace FiscalGateway.Vault

/-- A sealed record has its three fields and no other. -/
theorem Sealing.keys_record (g : Sealing) (password : Octets) (noise : Noise) (pair : Pki.KeyPair) :
    (g.record password noise pair).keys = [certificateField, keyField, saltField] := rfl

/-- **Records that hold credentials of a sort**: each stands under the key of an identifier, and is
one of these credentials, sealed with some of these octets. -/
def Holds (v : Vault) (P : Credential → Prop) (noises : List Noise) (records : Table Record) :
    Prop :=
  ∀ key r, records.get? key = some r → ∃ id c, key = v.recordKey id ∧ P c ∧
    ∃ noise ∈ noises, r = v.sealing.record c.password noise c.pair

/-- The credentials that a request makes, where there are those of a sort. -/
def Request.Makes (P : Credential → Prop) : Request → Credential → Prop
  | .store _ password pair, c => c = ⟨password, pair⟩
  | .updatePassword _ _ newPassword, c => c.password = newPassword ∧ ∃ old, P ⟨old, c.pair⟩
  | .get .., _ | .list .., _ | .updateId .., _ | .delete _, _ => False

/-- Less to be told apart. -/
theorem Sealing.Separates.of_subset {g : Sealing} {passwords passwords' : List Octets}
    {noises noises' : List Noise} {pairs pairs' : List Pki.KeyPair}
    (h : g.Separates passwords noises pairs) (hpasswords : passwords' ⊆ passwords)
    (hnoises : noises' ⊆ noises) (hpairs : pairs' ⊆ pairs) :
    g.Separates passwords' noises' pairs' where
  key_injective p hp q hq n hn :=
    h.key_injective p (hpasswords hp) q (hpasswords hq) n (hnoises hn)
  decrypt?_eq_none p hp q hq n hn pair hpair :=
    h.decrypt?_eq_none p (hpasswords hp) q (hpasswords hq) n (hnoises hn) pair (hpairs hpair)

/-- Where nothing is stored no password is changed. -/
theorem serveAlone_updatePassword_none {v : Vault} {records : Table Record} {id : String}
    (h : records.get? (v.recordKey id) = none) (old new : Octets) (noise : Noise) :
    v.serveAlone records (.updatePassword id old new) noise =
      (.error (.notFound id), records) := by
  have hempty : (Store.quiet records).record (v.recordKey id) =
      (records.get? (v.recordKey id)).getD .empty := rfl
  rw [serveAlone_updatePassword, hempty, h]
  rfl

namespace Holds

variable {v : Vault} {P Q : Credential → Prop} {noises noises' : List Noise}
  {records : Table Record}

/-- Nothing is held by no records. -/
theorem empty : v.Holds P noises .empty := nofun

theorem mono (h : v.Holds P noises records) (hP : ∀ c, P c → Q c) (hnoises : noises ⊆ noises') :
    v.Holds Q noises' records := by
  intro key r hr
  obtain ⟨id, c, hkey, hc, noise, hnoise, hsealed⟩ := h key r hr
  exact ⟨id, c, hkey, hP c hc, noise, hnoises hnoise, hsealed⟩

/-- One more credential. -/
theorem put (h : v.Holds P noises records) {c : Credential} (hc : P c) {noise : Noise}
    (hnoise : noise ∈ noises) (id : String) :
    v.Holds P noises
      (records.put (v.recordKey id) (v.sealing.record c.password noise c.pair)) := by
  intro key r hr
  rw [Table.get?_put] at hr
  split at hr
  · next hkey =>
    obtain rfl := Option.some.inj hr
    exact ⟨id, c, hkey, hc, noise, hnoise, rfl⟩
  · exact h key r hr

theorem erase (h : v.Holds P noises records) (key : String) :
    v.Holds P noises (records.erase key) := by
  intro key' r hr
  rw [Table.get?_erase] at hr
  split at hr
  · contradiction
  · exact h key' r hr

/-- A record that is moved is the same credential. -/
theorem move (h : v.Holds P noises records) {key : String} {r : Record}
    (hr : records.get? key = some r) (id : String) :
    v.Holds P noises ((records.erase key).put (v.recordKey id) r) := by
  obtain ⟨-, c, -, hc, noise, hnoise, rfl⟩ := h key r hr
  exact (h.erase key).put hc hnoise id

variable {passwords : List Octets} {pairs : List Pki.KeyPair}

/-- **One request** keeps it: what is held then is what was held, or what the request made, and it
made something only if it succeeded. -/
theorem serveAlone (hlawful : v.sealing.Lawful) (hs : v.sealing.Separates passwords noises pairs)
    (h : v.Holds P noises records) (hP : ∀ c, P c → c.password ∈ passwords ∧ c.pair ∈ pairs)
    {r : Request} (hpasswords : r.passwords ⊆ passwords) {noise : Noise}
    (hnoise : r.draws = true → noise ∈ noises) :
    v.Holds (fun c => P c ∨
        (∃ reply, (v.serveAlone records r noise).1 = .ok reply) ∧ r.Makes P c) noises
      (v.serveAlone records r noise).2 := by
  -- what was held is held
  have hkeep {Q : Credential → Prop} : v.Holds (fun c => P c ∨ Q c) noises records :=
    h.mono (fun c => .inl) (List.Subset.refl _)
  cases r with
  | store id password pair =>
    rw [serveAlone_store]
    split
    · exact hkeep
    · exact hkeep.put (c := ⟨password, pair⟩) (.inr ⟨⟨.done, rfl⟩, rfl⟩) (hnoise rfl) id
  | get id password =>
    rw [serveAlone_get_snd]
    exact hkeep
  | list offset limit =>
    rw [serveAlone_list_snd]
    exact hkeep
  | updateId oldId newId =>
    rw [serveAlone_updateId]
    cases hr : records.get? (v.recordKey oldId) with
    | none => exact hkeep
    | some r =>
      dsimp only
      split
      · exact hkeep
      · exact hkeep.move hr newId
  | updatePassword id oldPassword newPassword =>
    cases hr : records.get? (v.recordKey id) with
    | none =>
      rw [serveAlone_updatePassword_none hr oldPassword newPassword noise]
      exact hkeep
    | some r =>
      obtain ⟨-, c, -, hc, noise', hnoise', rfl⟩ := h _ r hr
      obtain ⟨hcurrent, hpair⟩ := hP c hc
      have hone := hs.of_subset (List.Subset.refl _) (List.Subset.refl _)
        (List.cons_subset.2 ⟨hpair, List.nil_subset _⟩)
      rw [serveAlone_updatePassword_record hlawful hone hcurrent
        (hpasswords (by simp [Request.passwords])) hnoise' hr newPassword]
      split
      · exact hkeep.put (c := ⟨newPassword, c.pair⟩)
          (.inr ⟨⟨.done, rfl⟩, rfl, c.password, hc⟩) (hnoise rfl) id
      · exact hkeep
  | delete id =>
    rw [serveAlone_delete]
    split
    · exact hkeep.erase _
    · exact hkeep

/-- **One request in any course of events.** -/
theorem runOn_call (hlawful : v.sealing.Lawful) {s : Course} {r : Request}
    (hs : v.sealing.Separates passwords (noises ++ s.drawn ((r.call v).runOn s).2) pairs)
    (h : v.Holds P noises s.records) (hP : ∀ c, P c → c.password ∈ passwords ∧ c.pair ∈ pairs)
    (hpasswords : r.passwords ⊆ passwords) :
    v.Holds (fun c => P c ∨ (∃ reply, ((r.call v).runOn s).1 = .ok reply) ∧ r.Makes P c)
      (noises ++ s.drawn ((r.call v).runOn s).2) ((r.call v).runOn s).2.records := by
  have hbefore := h.mono (fun _ => id) (List.subset_append_left _ (s.drawn ((r.call v).runOn s).2))
  rcases Vault.runOn_call v r s with ⟨hrecords, -⟩ | ⟨noise, hnoise, hserve⟩
  · rw [hrecords]
    exact hbefore.mono (fun _ => .inl) (List.Subset.refl _)
  · have hafter := hbefore.serveAlone hlawful hs hP hpasswords
      fun hdraws => List.mem_append_right noises (hnoise hdraws)
    rwa [hserve] at hafter

end Holds

end FiscalGateway.Vault

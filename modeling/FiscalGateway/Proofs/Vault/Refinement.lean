import FiscalGateway.Proofs.Vault.Quiet
import FiscalGateway.Proofs.Vault.Registry
import Mathlib.Data.Option.Basic

/-!
# The vault as a registry — a run of the one is a run of the other

`Mirrors` is what holds of a world and a registry that were under the same requests: each identifier
has a credential exactly if its key has a record, the record is that credential sealed, and the keys
of others are as they were. `Mirrors.serve` is one request, and `serveAll_eq` a run.
-/

namespace FiscalGateway.Vault

variable {v : Vault} {id id' key : String}

/-! ## Keys and identifiers -/

theorem recordKey_inj : v.recordKey id = v.recordKey id' ↔ id = id' := by
  refine ⟨fun h => ?_, congrArg _⟩
  have h := congrArg String.toList h
  simp only [recordKey, String.toList_append, List.append_cancel_left_eq] at h
  exact String.toList_inj.1 h

theorem beginsWith_recordKey (v : Vault) (id : String) :
    beginsWith v.space (v.recordKey id) = true := by
  simp [beginsWith, recordKey]

theorem identifier?_recordKey (v : Vault) (id : String) :
    v.identifier? (v.recordKey id) = some id := by
  rw [identifier?, if_pos (beginsWith_recordKey v id), recordKey, String.toList_append,
    ← String.length_toList, List.drop_left, String.ofList_toList]

theorem eq_recordKey_of_identifier? (h : v.identifier? key = some id) : key = v.recordKey id := by
  unfold identifier? at h
  split at h
  · next hstart =>
    obtain ⟨rest, hrest⟩ := List.isPrefixOf_iff_prefix.1 hstart
    rw [← hrest, ← String.length_toList, List.drop_left] at h
    obtain rfl := Option.some.inj h
    rw [← String.toList_inj, recordKey, String.toList_append, String.toList_ofList, hrest]
  · contradiction

/-- The keys of identifiers are those with the text of the space in front. -/
theorem identifier?_eq_some_iff : v.identifier? key = some id ↔ key = v.recordKey id :=
  ⟨eq_recordKey_of_identifier?, fun h => h ▸ identifier?_recordKey v id⟩

theorem ne_recordKey (h : v.identifier? key = none) (id : String) : key ≠ v.recordKey id := by
  rintro rfl
  rw [identifier?_recordKey] at h
  contradiction

/-- Sorting gives the one sorted list of the same texts. -/
theorem mergeSort_eq_of_mem_iff {l l' : List String} (hl : l.Nodup) (hl' : l'.Pairwise (· < ·))
    (h : ∀ s, s ∈ l ↔ s ∈ l') : l.mergeSort (· ≤ ·) = l' := by
  have hperm : l.Perm l' :=
    (List.perm_ext_iff_of_nodup hl (hl'.imp String.ne_of_lt)).2 fun s => h s
  have hsorted : (l.mergeSort (· ≤ ·)).Pairwise fun a b => decide (a ≤ b) = true := by
    refine List.pairwise_mergeSort (fun a b c hab hbc => ?_) (fun a b => ?_) l
    · simp only [decide_eq_true_eq] at hab hbc ⊢
      exact String.le_trans hab hbc
    · simpa using String.le_total a b
  have hsorted' : l'.Pairwise fun a b => decide (a ≤ b) = true :=
    hl'.imp fun {a b} hlt => decide_eq_true <|
      String.not_lt.1 fun hgt => String.lt_irrefl a (String.lt_trans hlt hgt)
  refine ((List.mergeSort_perm l _).trans hperm).eq_of_pairwise (fun a b _ _ hab hba => ?_)
    hsorted hsorted'
  exact String.le_antisymm (of_decide_eq_true hab) (of_decide_eq_true hba)

/-! ## A world and a registry -/

variable {passwords : List Octets} {noises : List Noise} {pairs : List Pki.KeyPair}
  {w₀ w : World} {m : Registry}

/-- A credential and a record that holds it, among what is known of a run. -/
structure Sealed (v : Vault) (passwords : List Octets) (noises : List Noise)
    (pairs : List Pki.KeyPair) (c : Credential) (r : Record) : Prop where
  password : c.password ∈ passwords
  pair : c.pair ∈ pairs
  record : ∃ noise ∈ noises, r = v.sealing.record c.password noise c.pair

/-- **A world that is a registry** to those who ask by identifiers, and as it was at the start to
everybody else. -/
structure Mirrors (v : Vault) (passwords : List Octets) (noises : List Noise)
    (pairs : List Pki.KeyPair) (w₀ w : World) (m : Registry) : Prop where
  quiet : w.Quiet
  own : ∀ id, Option.Rel (Sealed v passwords noises pairs) (m.get? id)
    (w.store.records.get? (v.recordKey id))
  foreign : ∀ key, v.identifier? key = none →
    w.store.records.get? key = w₀.store.records.get? key

/-- Opening a sealed record: the password tells. -/
theorem openFound_record (hlawful : v.sealing.Lawful)
    (hs : v.sealing.Separates passwords noises pairs) {current password : Octets} {noise : Noise}
    {pair : Pki.KeyPair} (hcurrent : current ∈ passwords) (hpassword : password ∈ passwords)
    (hnoise : noise ∈ noises) (hpair : pair ∈ pairs) (id : String) :
    v.openFound id password (v.sealing.record current noise pair) =
      if password = current then .ok pair else .error .badPassword := by
  rw [openFound, Sealing.isEmpty_record, if_neg (by decide)]
  split
  · next he => rw [he, Sealing.openRecord_record hlawful]
  · next hne =>
    rw [Sealing.openRecord_record_of_ne hlawful hs hcurrent hpassword hnoise hpair (Ne.symm hne)]

/-- A world behind another one, with at most one draw between them. -/
structure Follows (w w' : World) : Prop where
  noise : w'.noise = w.noise
  le_drawn : w.drawn ≤ w'.drawn
  drawn_le : w'.drawn ≤ w.drawn + 1

namespace Mirrors

/-- There is a credential exactly if there is a record. -/
theorem contains_eq (h : Mirrors v passwords noises pairs w₀ w m) (id : String) :
    w.store.records.contains (v.recordKey id) = m.contains id := by
  have hown := h.own id
  rw [Table.contains, Table.contains]
  generalize w.store.records.get? (v.recordKey id) = r, m.get? id = c at hown
  cases hown <;> rfl

theorem exists_sealed (h : Mirrors v passwords noises pairs w₀ w m) {c : Credential}
    (hc : m.get? id = some c) : ∃ r, w.store.records.get? (v.recordKey id) = some r ∧
      Sealed v passwords noises pairs c r := by
  have hown := h.own id
  rw [hc] at hown
  generalize w.store.records.get? (v.recordKey id) = r at hown
  cases hown with
  | some hsealed => exact ⟨_, rfl, hsealed⟩

/-- A draw changes nothing of it. -/
theorem draw (h : Mirrors v passwords noises pairs w₀ w m) :
    Mirrors v passwords noises pairs w₀ w.draw m :=
  ⟨h.quiet.draw, h.own, h.foreign⟩

/-- Putting a credential and its record under one identifier keeps it. -/
theorem put (h : Mirrors v passwords noises pairs w₀ w m) {c : Credential} {r : Record}
    (hs : Sealed v passwords noises pairs c r) (id : String) :
    Mirrors v passwords noises pairs w₀
      (w.withRecords (w.store.records.put (v.recordKey id) r)) (m.put id c) where
  quiet := h.quiet.withRecords _
  own id' := by
    simp only [World.withRecords, Table.get?_put, recordKey_inj]
    split
    · exact .some hs
    · exact h.own id'
  foreign key hkey := by
    rw [World.withRecords, Table.get?_put, if_neg (ne_recordKey hkey id)]
    exact h.foreign key hkey

/-- And so does taking both out. -/
theorem erase (h : Mirrors v passwords noises pairs w₀ w m) (id : String) :
    Mirrors v passwords noises pairs w₀
      (w.withRecords (w.store.records.erase (v.recordKey id))) (m.erase id) where
  quiet := h.quiet.withRecords _
  own id' := by
    simp only [World.withRecords, Table.get?_erase, recordKey_inj]
    split
    · exact .none
    · exact h.own id'
  foreign key hkey := by
    rw [World.withRecords, Table.get?_erase, if_neg (ne_recordKey hkey id)]
    exact h.foreign key hkey

/-- The keys of the space, sorted by their identifiers, are the identifiers in order. -/
theorem identifiers_eq (h : Mirrors v passwords noises pairs w₀ w m) :
    ((w.store.records.keys.filter (beginsWith v.space)).filterMap v.identifier?).mergeSort
      (· ≤ ·) = m.keys := by
  refine mergeSort_eq_of_mem_iff ?_ m.sorted_keys fun id => ?_
  · have hkeys : w.store.records.keys.Nodup := w.store.records.sorted_keys.imp String.ne_of_lt
    refine (hkeys.filter _).filterMap fun key key' id hkey hkey' => ?_
    rw [identifier?_eq_some_iff.1 hkey, identifier?_eq_some_iff.1 hkey']
  · simp only [List.mem_filterMap, identifier?_eq_some_iff, exists_eq_right, List.mem_filter,
      Table.mem_keys_iff, h.contains_eq, beginsWith_recordKey, and_true]

/-- Opening what is found under an identifier: the password tells. -/
theorem openFound_eq (hlawful : v.sealing.Lawful)
    (hs : v.sealing.Separates passwords noises pairs)
    (h : Mirrors v passwords noises pairs w₀ w m) {password : Octets}
    (hpassword : password ∈ passwords) (id : String) :
    v.openFound id password (w.store.record (v.recordKey id)) =
      match m.get? id with
      | none => .error (.notFound id)
      | some c => if password = c.password then .ok c.pair else .error .badPassword := by
  have hown := h.own id
  rw [Store.record]
  generalize w.store.records.get? (v.recordKey id) = r, m.get? id = c at hown
  cases hown with
  | none => rfl
  | some hsealed =>
    obtain ⟨hcurrent, hpair, noise, hnoise, rfl⟩ := hsealed
    exact openFound_record hlawful hs hcurrent hpassword hnoise hpair id

/-! ## One request -/

/-- A request is replied to as the registry replies, and keeps the likeness. -/
def Serves (v : Vault) (passwords : List Octets) (noises : List Noise) (pairs : List Pki.KeyPair)
    (w₀ w : World) (m : Registry) (r : Request) : Prop :=
  ∃ w', v.serve w r = ((m.serve r).1, w') ∧
    Mirrors v passwords noises pairs w₀ w' (m.serve r).2 ∧ Follows w w'

theorem serve_store (h : Mirrors v passwords noises pairs w₀ w m) (id : String)
    {password : Octets} {pair : Pki.KeyPair} (hpassword : password ∈ passwords)
    (hpair : pair ∈ pairs) (hnoise : w.noise w.drawn ∈ noises) :
    Serves v passwords noises pairs w₀ w m (.store id password pair) := by
  have hsealed : Sealed v passwords noises pairs ⟨password, pair⟩
      (v.sealing.record password (w.noise w.drawn) pair) :=
    ⟨hpassword, hpair, _, hnoise, rfl⟩
  rw [Serves, Vault.serve, Request.call, run_andThen, run_store v id password pair h.quiet,
    h.contains_eq, Registry.serve]
  split
  · exact ⟨_, rfl, h.draw, rfl, Nat.le_succ _, le_rfl⟩
  · exact ⟨_, rfl, h.draw.put hsealed id, rfl, Nat.le_succ _, le_rfl⟩

theorem serve_get (hlawful : v.sealing.Lawful) (hs : v.sealing.Separates passwords noises pairs)
    (h : Mirrors v passwords noises pairs w₀ w m) (id : String) {password : Octets}
    (hpassword : password ∈ passwords) :
    Serves v passwords noises pairs w₀ w m (.get id password) := by
  rw [Serves, Vault.serve, Request.call, run_andThen, run_get v id password h.quiet,
    h.openFound_eq hlawful hs hpassword, Registry.serve]
  cases m.get? id with
  | none => exact ⟨w, rfl, h, rfl, le_rfl, Nat.le_succ _⟩
  | some c =>
    refine ⟨w, ?_, h, rfl, le_rfl, Nat.le_succ _⟩
    dsimp only
    split <;> rfl

theorem serve_list (h : Mirrors v passwords noises pairs w₀ w m) (offset limit : Nat) :
    Serves v passwords noises pairs w₀ w m (.list offset limit) := by
  rw [Serves, Vault.serve, Request.call, run_andThen, run_list v h.quiet, h.identifiers_eq]
  exact ⟨w, rfl, h, rfl, le_rfl, Nat.le_succ _⟩

theorem serve_updateId (h : Mirrors v passwords noises pairs w₀ w m) (oldId newId : String) :
    Serves v passwords noises pairs w₀ w m (.updateId oldId newId) := by
  rw [Serves, Vault.serve, Request.call, run_andThen, run_updateId v oldId newId h.quiet,
    h.contains_eq, Registry.serve]
  have hown := h.own oldId
  generalize w.store.records.get? (v.recordKey oldId) = r, m.get? oldId = c at hown
  cases hown with
  | none => exact ⟨w, rfl, h, rfl, le_rfl, Nat.le_succ _⟩
  | some hsealed =>
    dsimp only
    split
    · exact ⟨w, rfl, h, rfl, le_rfl, Nat.le_succ _⟩
    · exact ⟨_, rfl, (h.erase oldId).put hsealed newId, rfl, le_rfl, Nat.le_succ _⟩

theorem serve_updatePassword (hlawful : v.sealing.Lawful)
    (hs : v.sealing.Separates passwords noises pairs)
    (h : Mirrors v passwords noises pairs w₀ w m) (id : String) {oldPassword newPassword : Octets}
    (hold : oldPassword ∈ passwords) (hnew : newPassword ∈ passwords)
    (hnoise : w.noise w.drawn ∈ noises) :
    Serves v passwords noises pairs w₀ w m (.updatePassword id oldPassword newPassword) := by
  have hopen := h.openFound_eq hlawful hs hold id
  have hne : v.openFound id oldPassword (w.store.record (v.recordKey id)) ≠ .error .conflict := by
    rw [hopen]
    split
    · simp
    · split <;> simp
  rw [Serves, Vault.serve, Request.call, run_andThen, run_updatePassword v newPassword h.quiet hne,
    hopen, Registry.serve]
  cases hc : m.get? id with
  | none => exact ⟨_, rfl, h.draw, rfl, Nat.le_succ _, le_rfl⟩
  | some c =>
    dsimp only
    -- what is sealed opens under its own password only
    by_cases hcurrent : oldPassword = c.password
    · obtain ⟨_, hr, -, hpair, noise, -, rfl⟩ := h.exists_sealed hc
      have hrecord : w.store.record (v.recordKey id) =
          v.sealing.record c.password noise c.pair := by
        rw [Store.record, hr]
        rfl
      have hsealed : Sealed v passwords noises pairs ⟨newPassword, c.pair⟩
          (v.sealing.record newPassword (w.noise w.drawn) c.pair) :=
        ⟨hnew, hpair, _, hnoise, rfl⟩
      simp only [if_pos hcurrent, hrecord, Sealing.putAll_record]
      exact ⟨_, rfl, h.draw.put hsealed id, rfl, Nat.le_succ _, le_rfl⟩
    · simp only [if_neg hcurrent]
      exact ⟨_, rfl, h.draw, rfl, Nat.le_succ _, le_rfl⟩

theorem serve_delete (h : Mirrors v passwords noises pairs w₀ w m) (id : String) :
    Serves v passwords noises pairs w₀ w m (.delete id) := by
  rw [Serves, Vault.serve, Request.call, run_andThen, run_delete v id h.quiet, h.contains_eq,
    Registry.serve]
  have herase := h.erase id
  split
  · exact ⟨_, rfl, herase, rfl, le_rfl, Nat.le_succ _⟩
  · next hc =>
    -- nothing is there, so nothing is taken out of the registry either
    rw [Table.erase_eq_self (Table.get?_eq_none_iff.2 hc)] at herase
    exact ⟨_, rfl, herase, rfl, le_rfl, Nat.le_succ _⟩

/-- **One request**, whichever it is. -/
theorem serve (hlawful : v.sealing.Lawful) (hs : v.sealing.Separates passwords noises pairs)
    (h : Mirrors v passwords noises pairs w₀ w m) {r : Request}
    (hpasswords : r.passwords ⊆ passwords) (hpairs : r.pairs ⊆ pairs)
    (hnoise : w.noise w.drawn ∈ noises) : Serves v passwords noises pairs w₀ w m r := by
  cases r with
  | store id password pair =>
    exact h.serve_store id (hpasswords (by simp [Request.passwords]))
      (hpairs (by simp [Request.pairs])) hnoise
  | get id password => exact h.serve_get hlawful hs id (hpasswords (by simp [Request.passwords]))
  | list offset limit => exact h.serve_list offset limit
  | updateId oldId newId => exact h.serve_updateId oldId newId
  | updatePassword id oldPassword newPassword =>
    exact h.serve_updatePassword hlawful hs id (hpasswords (by simp [Request.passwords]))
      (hpasswords (by simp [Request.passwords])) hnoise
  | delete id => exact h.serve_delete id

end Mirrors

/-! ## A run -/

/-- The octets that the next draws give. -/
def World.supply (w : World) (n : Nat) : List Noise :=
  (List.range n).map fun i => w.noise (w.drawn + i)

theorem mem_supply {n : Nat} {noise : Noise} :
    noise ∈ w.supply n ↔ ∃ i < n, w.noise (w.drawn + i) = noise := by
  simp [World.supply]

/-- After a request the rest of a run draws from what is left. -/
theorem Follows.supply_subset {w' : World} (h : Follows w w') (n : Nat) :
    w'.supply n ⊆ w.supply (n + 1) := by
  intro noise hnoise
  obtain ⟨i, hi, rfl⟩ := mem_supply.1 hnoise
  have hle := h.le_drawn
  have hdrawn := h.drawn_le
  refine mem_supply.2 ⟨w'.drawn - w.drawn + i, by omega, ?_⟩
  rw [h.noise]
  congr 1
  omega

/-- What one request keeps, a run keeps. -/
theorem Mirrors.serveAll (hlawful : v.sealing.Lawful)
    (hs : v.sealing.Separates passwords noises pairs) {rs : List Request}
    (hpasswords : ∀ r ∈ rs, r.passwords ⊆ passwords) (hpairs : ∀ r ∈ rs, r.pairs ⊆ pairs)
    (hnoises : w.supply rs.length ⊆ noises) (h : Mirrors v passwords noises pairs w₀ w m) :
    ∃ w', Vault.serveAll v.serve w rs = ((Vault.serveAll Registry.serve m rs).1, w') ∧
      Mirrors v passwords noises pairs w₀ w' (Vault.serveAll Registry.serve m rs).2 := by
  induction rs generalizing w m with
  | nil => exact ⟨w, rfl, h⟩
  | cons r rs ih =>
    have hnoise : w.noise w.drawn ∈ noises := hnoises (mem_supply.2 ⟨0, by simp, rfl⟩)
    obtain ⟨w', hserve, hmirrors, hfollows⟩ := h.serve hlawful hs (hpasswords r (by simp))
      (hpairs r (by simp)) hnoise
    -- octets are drawn in order, so those for the rest are some of those for all
    have hrest : w'.supply rs.length ⊆ noises :=
      List.Subset.trans (hfollows.supply_subset rs.length) hnoises
    obtain ⟨w'', hserveAll, hmirrors'⟩ := ih (fun r hr => hpasswords r (by simp [hr]))
      (fun r hr => hpairs r (by simp [hr])) hrest hmirrors
    refine ⟨w'', ?_, hmirrors'⟩
    rw [Vault.serveAll, hserve]
    dsimp only
    rw [hserveAll]
    rfl

/-- **The vault is a registry**: whatever is asked of it, in whatever order, under whatever policy
and with whatever random octets, it replies what a registry replies, and leaves alone the keys that
are not its own. The cipher is sound, and separates the passwords of the run. -/
theorem serveAll_eq (v : Vault) (w : World) (rs : List Request) (hlawful : v.sealing.Lawful)
    (hseparates : v.sealing.Separates (rs.flatMap Request.passwords) (w.supply rs.length)
      (rs.flatMap Request.pairs))
    (hquiet : w.Quiet)
    (hfree : ∀ key, beginsWith v.space key = true → w.store.records.get? key = none) :
    (serveAll v.serve w rs).1 = (serveAll Registry.serve .empty rs).1 ∧
      ∀ key, beginsWith v.space key = false →
        (serveAll v.serve w rs).2.store.records.get? key = w.store.records.get? key := by
  -- no key of the vault is taken, so it mirrors a registry that is empty
  have hstart : Mirrors v (rs.flatMap Request.passwords) (w.supply rs.length)
      (rs.flatMap Request.pairs) w w .empty := by
    refine ⟨hquiet, fun id => ?_, fun _ _ => rfl⟩
    rw [hfree _ (beginsWith_recordKey v id)]
    exact .none
  obtain ⟨w', hserve, hmirrors⟩ := Mirrors.serveAll hlawful hseparates
    (fun r hr p hp => List.mem_flatMap.2 ⟨r, hr, hp⟩)
    (fun r hr p hp => List.mem_flatMap.2 ⟨r, hr, hp⟩) (List.Subset.refl _) hstart
  rw [hserve]
  refine ⟨rfl, fun key hkey => hmirrors.foreign key ?_⟩
  rw [identifier?, hkey]
  rfl

/-! ### Two runs -/

/-- A world with a record of somebody else. -/
def specimenWorld : World :=
  ⟨⟨Table.empty.put "other" .empty, 0, true⟩, 0, fun _ => specimenNoise, 0⟩

/-- A run with two passwords, each of which is the wrong one at some time. -/
def specimenRun : List Request :=
  [.store "a" [1] .specimen, .store "a" [2] .specimen, .get "a" [2], .updatePassword "a" [1] [2],
    .get "a" [1], .updateId "a" "b", .get "b" [2], .list 0 5, .delete "a"]

/-- A run with one password. -/
def specimenRunOfOne : List Request :=
  [.store "b" [1] .specimen, .store "a" [1] .specimen, .list 1 1, .updateId "a" "b",
    .get "a" [1], .delete "a", .get "a" [1]]

/-- Both runs meet the assumptions, the second one under the cipher that is in use. -/
theorem serveAll_specimen :
    (serveAll (Vault.mk .transparent .standard "eet:").serve specimenWorld specimenRun).1 =
        [.ok .done, .error (.idExists "a"), .error .badPassword, .ok .done, .error .badPassword,
          .ok .done, .ok (.pair .specimen), .ok (.ids ["b"]), .error (.notFound "a")] ∧
      (serveAll (Vault.mk .standard .standard "eet:").serve specimenWorld specimenRunOfOne).1 =
        [.ok .done, .ok .done, .ok (.ids ["b"]), .error (.idExists "b"), .ok (.pair .specimen),
          .ok .done, .error (.notFound "a")] := by
  have hquiet : specimenWorld.Quiet := ⟨rfl, rfl⟩
  have hfree (key : String) (hkey : beginsWith "eet:" key = true) :
      specimenWorld.store.records.get? key = none := by
    have hne : key ≠ "other" := by
      rintro rfl
      exact absurd hkey (by decide)
    rw [specimenWorld, Table.get?_put, if_neg hne, Table.get?_empty]
  constructor
  · rw [(serveAll_eq _ _ specimenRun Sealing.transparent_lawful
      (Sealing.transparent_separates (n := 1) (by decide) (by decide) _ _) hquiet hfree).1]
    rfl
  · rw [(serveAll_eq _ _ specimenRunOfOne Sealing.standard_lawful
      (Sealing.separates_of_forall_eq [1] (by decide) _ _ _) hquiet hfree).1]
    rfl

end FiscalGateway.Vault

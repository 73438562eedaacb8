import FiscalGateway.Proofs.Vault.Concurrent
import FiscalGateway.Proofs.Vault.Refinement

/-!
# Requests served alone — what each request does to the records

Where nothing interferes there is one equation for each request: its reply, and the records that it
leaves (`serveAlone_store` and those behind it). What they have in common is read off them once. A
request that succeeds does what it is for, key by key (`Request.Changes`), whatever the records are:
those of others, those that lack fields or have more of them, those that nothing opens. One that
fails does nothing (`allOrNothing_serveAlone`), and no record is touched that no identifier of the
request stands for (`get?_serveAlone`).
-/

namespace FiscalGateway.Vault

variable {v : Vault} {records before after : Table Record} {noises : List Noise}

/-! ## One equation for each request -/

/-- The world in which a request is served alone. -/
def World.alone (records : Table Record) (noise : Noise) : World :=
  ⟨.quiet records, 0, fun _ => noise, 0⟩

theorem World.quiet_alone (records : Table Record) (noise : Noise) : (alone records noise).Quiet :=
  ⟨rfl, rfl⟩

theorem serveAlone_eq_run (v : Vault) (records : Table Record) (r : Request) (noise : Noise) :
    v.serveAlone records r noise = ((Call.run (r.call v) (.alone records noise)).1,
      (Call.run (r.call v) (.alone records noise)).2.store.records) := rfl

section Equations

variable (v : Vault) (records : Table Record) (noise : Noise)

theorem serveAlone_store (id : String) (password : Octets) (pair : Pki.KeyPair) :
    v.serveAlone records (.store id password pair) noise =
      if records.contains (v.recordKey id) then (.error (.idExists id), records)
      else (.ok .done,
        records.put (v.recordKey id) (v.sealing.record password noise pair)) := by
  have hrecords : (World.alone records noise).store.records = records := rfl
  rw [serveAlone_eq_run, Request.call, run_andThen,
    run_store v id password pair (World.quiet_alone records noise), hrecords]
  split <;> rfl

/-- Opening a record leaves all of them as they are. -/
theorem serveAlone_get_snd (id : String) (password : Octets) :
    (v.serveAlone records (.get id password) noise).2 = records := by
  rw [serveAlone_eq_run, Request.call, run_andThen,
    run_get v id password (World.quiet_alone records noise)]
  rfl

/-- And so does listing them. -/
theorem serveAlone_list_snd (offset limit : Nat) :
    (v.serveAlone records (.list offset limit) noise).2 = records := by
  rw [serveAlone_eq_run, Request.call, run_andThen,
    run_list v (World.quiet_alone records noise)]
  rfl

theorem serveAlone_updateId (oldId newId : String) :
    v.serveAlone records (.updateId oldId newId) noise =
      match records.get? (v.recordKey oldId) with
      | none => (.error (.notFound oldId), records)
      | some r =>
        if records.contains (v.recordKey newId) then (.error (.idExists newId), records)
        else (.ok .done, (records.erase (v.recordKey oldId)).put (v.recordKey newId) r) := by
  have hrecords : (World.alone records noise).store.records = records := rfl
  rw [serveAlone_eq_run, Request.call, run_andThen,
    run_updateId v oldId newId (World.quiet_alone records noise), hrecords]
  cases records.get? (v.recordKey oldId) with
  | none => rfl
  | some r =>
    dsimp only
    split <;> rfl

theorem serveAlone_updatePassword (id : String) (old new : Octets) :
    v.serveAlone records (.updatePassword id old new) noise =
      match v.openFound id old ((Store.quiet records).record (v.recordKey id)) with
      | .error f => (.error f, records)
      | .ok pair => (.ok .done, records.put (v.recordKey id)
          (((Store.quiet records).record (v.recordKey id)).putAll
            (v.sealing.sealPair new noise pair))) := by
  have hstore : (World.alone records noise).store = .quiet records := rfl
  rw [serveAlone_eq_run, Request.call, run_andThen, run_updatePassword v new
    (World.quiet_alone records noise) (isFinal_openFound v id old _).1, hstore]
  cases v.openFound id old ((Store.quiet records).record (v.recordKey id)) <;> rfl

theorem serveAlone_delete (id : String) :
    v.serveAlone records (.delete id) noise =
      if records.contains (v.recordKey id) then (.ok .done, records.erase (v.recordKey id))
      else (.error (.notFound id), records) := by
  have hrecords : (World.alone records noise).store.records = records := rfl
  rw [serveAlone_eq_run, Request.call, run_andThen,
    run_delete v id (World.quiet_alone records noise), hrecords]
  split
  · rfl
  · next hfree =>
    dsimp only [World.withRecords]
    rw [Table.erase_eq_self (Table.get?_eq_none_iff.2 hfree)]
    rfl

end Equations

/-! ## All or nothing -/

/-- The identifiers that a request names. -/
def Request.identifiers : Request → List String
  | .store id _ _ | .get id _ | .updatePassword id _ _ | .delete id => [id]
  | .updateId oldId newId => [oldId, newId]
  | .list .. => []

/-- **What a request does when it succeeds**, with one set of these random octets: the records
behind it, key by key. -/
def Request.Changes (v : Vault) (noises : List Noise) (before after : Table Record) :
    Request → Prop
  | .store id password pair =>
    before.get? (v.recordKey id) = none ∧ ∃ noise ∈ noises, ∀ key,
      after.get? key = if key = v.recordKey id then some (v.sealing.record password noise pair)
        else before.get? key
  | .updateId oldId newId =>
    ∃ r, before.get? (v.recordKey oldId) = some r ∧ before.get? (v.recordKey newId) = none ∧
      ∀ key, after.get? key = if key = v.recordKey newId then some r
        else if key = v.recordKey oldId then none else before.get? key
  | .updatePassword id oldPassword newPassword =>
    ∃ r r', before.get? (v.recordKey id) = some r ∧
      (∀ key, after.get? key = if key = v.recordKey id then some r' else before.get? key) ∧
      ∃ pair, v.sealing.openRecord oldPassword r = .ok pair ∧ ∃ noise ∈ noises, ∀ name,
        r'.get? name = if name = certificateField ∨ name = keyField ∨ name = saltField
          then (v.sealing.record newPassword noise pair).get? name else r.get? name
  | .delete id =>
    before.contains (v.recordKey id) = true ∧ ∀ key,
      after.get? key = if key = v.recordKey id then none else before.get? key
  | .get .. | .list .. => after = before

/-- **All or nothing**: a request that fails does nothing, and one that succeeds does what it is
for. -/
structure AllOrNothing (v : Vault) (noises : List Noise) (before after : Table Record)
    (reply : Except Fault Reply) (r : Request) : Prop where
  error : ∀ f, reply = .error f → after = before
  ok : ∀ a, reply = .ok a → r.Changes v noises before after

/-- A request that failed. -/
theorem AllOrNothing.of_error {f : Fault} {r : Request} :
    AllOrNothing v noises before before (.error f) r :=
  ⟨fun _ _ => rfl, nofun⟩

/-- A request that succeeded. -/
theorem AllOrNothing.of_ok {a : Reply} {r : Request} (h : r.Changes v noises before after) :
    AllOrNothing v noises before after (.ok a) r :=
  ⟨nofun, fun _ _ => h⟩

/-- Sealing a record anew replaces three fields, and keeps all others. -/
theorem Sealing.get?_putAll_sealPair (g : Sealing) (r : Record) (password : Octets) (noise : Noise)
    (pair : Pki.KeyPair) (name : String) :
    (r.putAll (g.sealPair password noise pair)).get? name =
      if name = certificateField ∨ name = keyField ∨ name = saltField
        then (g.record password noise pair).get? name else r.get? name := by
  rw [get?_record]
  simp only [sealPair, Table.putAll, List.foldl_cons, List.foldl_nil, Table.get?_put]
  by_cases hsalt : name = saltField
  · simp [hsalt]
  by_cases hkey : name = keyField
  · simp [hkey]
  by_cases hcertificate : name = certificateField
  · simp [hcertificate]
  simp [hsalt, hkey, hcertificate]

/-- What opens was found. -/
theorem openFound_eq_ok {id : String} {password : Octets} {pair : Pki.KeyPair} {s : Store}
    (h : v.openFound id password (s.record (v.recordKey id)) = .ok pair) :
    ∃ r, s.records.get? (v.recordKey id) = some r ∧ s.record (v.recordKey id) = r ∧
      v.sealing.openRecord password r = .ok pair := by
  unfold openFound at h
  split at h
  · contradiction
  · next hempty =>
    cases hr : s.records.get? (v.recordKey id) with
    | none =>
      rw [Store.record, hr] at hempty
      exact absurd rfl hempty
    | some r =>
      have hrecord : s.record (v.recordKey id) = r := by rw [Store.record, hr, Option.getD_some]
      exact ⟨r, rfl, hrecord, hrecord ▸ h⟩

/-- **A request that nothing interferes with** does all or nothing. -/
theorem allOrNothing_serveAlone (v : Vault) (records : Table Record) (r : Request) {noise : Noise}
    (hnoise : r.draws = true → noise ∈ noises) :
    AllOrNothing v noises records (v.serveAlone records r noise).2 (v.serveAlone records r noise).1
      r := by
  cases r with
  | store id password pair =>
    rw [serveAlone_store]
    split
    · exact .of_error
    · next hfree =>
      exact .of_ok ⟨Table.get?_eq_none_iff.2 hfree, noise, hnoise rfl, fun key => Table.get?_put ..⟩
  | get id password =>
    have hsame := serveAlone_get_snd v records noise id password
    exact ⟨fun _ _ => hsame, fun _ _ => hsame⟩
  | list offset limit =>
    have hsame := serveAlone_list_snd v records noise offset limit
    exact ⟨fun _ _ => hsame, fun _ _ => hsame⟩
  | updateId oldId newId =>
    rw [serveAlone_updateId]
    cases hr : records.get? (v.recordKey oldId) with
    | none => exact .of_error
    | some r =>
      dsimp only
      split
      · exact .of_error
      · next hfree =>
        refine .of_ok ⟨r, hr, Table.get?_eq_none_iff.2 hfree, fun key => ?_⟩
        rw [Table.get?_put, Table.get?_erase]
  | updatePassword id oldPassword newPassword =>
    rw [serveAlone_updatePassword]
    cases hopen : v.openFound id oldPassword
        ((Store.quiet records).record (v.recordKey id)) with
    | error f => exact .of_error
    | ok pair =>
      obtain ⟨r, hr, hrecord, hpair⟩ := openFound_eq_ok hopen
      rw [hrecord]
      exact .of_ok ⟨r, _, hr, fun key => Table.get?_put .., pair, hpair, noise, hnoise rfl,
        Sealing.get?_putAll_sealPair v.sealing r newPassword noise pair⟩
  | delete id =>
    rw [serveAlone_delete]
    split
    · next hfound => exact .of_ok ⟨hfound, fun key => Table.get?_erase ..⟩
    · exact .of_error

/-- **The keys of no identifier that is named** keep their records. -/
theorem AllOrNothing.get?_eq {reply : Except Fault Reply} {r : Request}
    (h : AllOrNothing v noises before after reply r) {key : String}
    (hkey : ∀ id ∈ r.identifiers, key ≠ v.recordKey id) : after.get? key = before.get? key := by
  cases reply with
  | error f => rw [h.error f rfl]
  | ok a =>
    have hchanges := h.ok a rfl
    cases r with
    | store id password pair =>
      obtain ⟨-, noise, -, hafter⟩ := hchanges
      rw [hafter, if_neg (hkey id List.mem_cons_self)]
    | get id password => rw [show after = before from hchanges]
    | list offset limit => rw [show after = before from hchanges]
    | updateId oldId newId =>
      obtain ⟨r, -, -, hafter⟩ := hchanges
      rw [hafter, if_neg (hkey newId (by simp [Request.identifiers])),
        if_neg (hkey oldId (by simp [Request.identifiers]))]
    | updatePassword id oldPassword newPassword =>
      obtain ⟨r, r', -, hafter, -⟩ := hchanges
      rw [hafter, if_neg (hkey id List.mem_cons_self)]
    | delete id =>
      obtain ⟨-, hafter⟩ := hchanges
      rw [hafter, if_neg (hkey id List.mem_cons_self)]

/-- A request leaves alone the records of identifiers that it does not name. -/
theorem get?_serveAlone (v : Vault) (records : Table Record) (noise : Noise) {r : Request}
    {id : String} (h : id ∉ r.identifiers) :
    (v.serveAlone records r noise).2.get? (v.recordKey id) = records.get? (v.recordKey id) := by
  refine (allOrNothing_serveAlone v records r fun _ => List.mem_singleton_self noise).get?_eq ?_
  intro id' hid' hkey
  exact h (recordKey_inj.1 hkey ▸ hid')

end FiscalGateway.Vault

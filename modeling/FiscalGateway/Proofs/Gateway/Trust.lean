import FiscalGateway.Proofs.Gateway.Cancellation
import FiscalGateway.Proofs.Gateway.Delivery
import FiscalGateway.Proofs.Pki.Import
import FiscalGateway.Proofs.Vault.Holdings

/-!
# Trust — whatever is stored was accepted

A `History` is any sequence of operations from an empty store on, each in a course of events of its
own: with conflicts, outages and cancellations at every step. Each operation leaves the vault with
credentials that are accounted for (`Supplied`, `Imported`): only a write that succeeds makes one, of
a pair that an accepted bundle held and under a password that was supplied with it
(`holds_of_history`).
-/

namespace FiscalGateway.Gateway

/-! ## Histories -/

/-- What can be asked of the gateway. -/
inductive Request where
  | ping
  | sendSale (now : Time.Timestamp) (id : String) (password : Octets) (sale : Sale)
  | listCertIds (offset limit : Nat)
  | write (w : Write)

/-- The operation that a request asks for, and whether it succeeds. -/
def Request.call (g : Gateway) : Request → Call Bool
  | ping => return (← Gateway.ping).isOk
  | sendSale now id password sale => return (← g.sendSale now id password sale).isOk
  | listCertIds offset limit => return (← g.listCertIds offset limit).isOk
  | write w => return (← w.call g).isOk

/-- What a request asks of the vault if it is to change what is stored. -/
def Request.change? (g : Gateway) : Request → Option Vault.Request
  | write w => (w.request g).toOption
  | ping | sendSale .. | listCertIds .. => none

/-- The password under which a write is to keep a pair. -/
def Write.supplied? : Write → Option Octets
  | storeCert _ _ password _ _ => some password
  | updateCertPassword _ _ newPassword => some newPassword
  | updateCertId .. | deleteId _ => none

/-- A request, and the course of events in which it is served. -/
structure Service where
  request : Request
  course : Course

namespace Service

/-- Whether the request succeeded, if it has ended, and the course of events behind it. -/
def ended (g : Gateway) (x : Service) : Option Bool × Course := (x.request.call g).runOn x.course

/-- The request succeeded. -/
def Succeeded (g : Gateway) (x : Service) : Prop := (x.ended g).1 = some true

/-- The passwords that a change names. -/
def passwords (g : Gateway) (x : Service) : List Octets :=
  (x.request.change? g).toList.flatMap Vault.Request.passwords

/-- The pairs that a change brings. -/
def pairs (g : Gateway) (x : Service) : List Pki.KeyPair :=
  (x.request.change? g).toList.flatMap Vault.Request.pairs

/-- The octets that were drawn. -/
def drawn (g : Gateway) (x : Service) : List Vault.Noise :=
  x.course.vault.drawn (x.ended g).2.vault

end Service

/-- **A history**: requests that were served one after the other, from no records on. Each has a
course of events of its own, which takes the records as the last one left them. -/
inductive History (g : Gateway) : List Service → Table Vault.Record → Prop where
  | start : History g [] .empty
  | serve {past : List Service} {records : Table Vault.Record} {x : Service}
      (h : History g past records) (hx : x.course.records = records) :
    History g (past ++ [x]) (x.ended g).2.records

/-- A password that was supplied with a write that succeeded. -/
def Supplied (g : Gateway) (past : List Service) (password : Octets) : Prop :=
  ∃ x ∈ past, x.Succeeded g ∧ ∃ w : Write, x.request = .write w ∧ w.supplied? = some password

/-- A pair that was stored from a bundle. -/
def Imported (g : Gateway) (past : List Service) (pair : Pki.KeyPair) : Prop :=
  ∃ x ∈ past, x.Succeeded g ∧ ∃ now id password bundle bundlePassword,
    x.request = .write (.storeCert now id password bundle bundlePassword) ∧
      Pki.importBundle bundle bundlePassword g.merchantRoots now = .ok pair

/-- A credential that is accounted for. -/
def Accounted (g : Gateway) (past : List Service) (c : Vault.Credential) : Prop :=
  Supplied g past c.password ∧ Imported g past c.pair

/-! ## One request -/

section One

variable {g : Gateway} {s : Course}

theorem records_runOn_ping (s : Course) : (ping.runOn s).2.records = s.records := by
  rw [ping, runOn_bind, runOn_isCancelled]
  dsimp only
  split
  · rfl
  · have hprobe : ∃ a, Call.runOn (Program.request .probe) s.idle = (some a, s.idle.idle) :=
      ⟨_, runOn_request _ _⟩
    obtain ⟨a, hprobe⟩ := hprobe
    obtain ⟨s', hvault, hsame, -⟩ := runOn_ofVault Vault.ping s.idle.idle
    rw [runOn_bind, hprobe]
    dsimp only
    rw [runOn_bind, hvault]
    dsimp only
    have hrecords : s'.records = s.records :=
      (congrArg Vault.Course.records hsame).trans (Vault.records_runOn_ping _)
    split <;> exact hrecords

theorem records_runOn_listCertIds (offset limit : Nat) (s : Course) :
    ((g.listCertIds offset limit).runOn s).2.records = s.records := by
  rw [listCertIds, runOn_cancellable]
  split
  · rfl
  · obtain ⟨s', hrun, hvault, -⟩ := runOn_ofVault (g.vault.list offset limit) s.idle
    rw [hrun]
    exact (congrArg Vault.Course.records hvault).trans (Vault.records_runOn_list ..)

/-- Whether an operation succeeded is all that is asked of it. -/
theorem runOn_isOk {ε α : Type} (c : Call (Except ε α)) (s : Course) :
    Call.runOn (do return (← c).isOk) s =
      ((Call.runOn c s).1.map Except.isOk, (Call.runOn c s).2) := by
  rw [runOn_bind]
  rcases Call.runOn c s with ⟨_ | a, s'⟩ <;> rfl

/-- **Reading changes no record.** -/
theorem records_of_change?_eq_none {r : Request} (h : r.change? g = none) (s : Course) :
    ((r.call g).runOn s).2.records = s.records := by
  cases r with
  | ping =>
    rw [Request.call, runOn_isOk]
    exact records_runOn_ping s
  | sendSale now id password sale =>
    rw [Request.call, runOn_isOk]
    exact (concluded_sendSale g now id password sale s).records
  | listCertIds offset limit =>
    rw [Request.call, runOn_isOk]
    exact records_runOn_listCertIds offset limit s
  | write w =>
    cases hr : w.request g with
    | ok r =>
      rw [Request.change?, hr] at h
      contradiction
    | error rejection =>
      rw [Request.call, runOn_isOk, Write.call_of_error hr]
      rfl

variable {P : Vault.Credential → Prop} {passwords : List Octets} {noises : List Vault.Noise}
  {pairs : List Pki.KeyPair}

/-- **A write leaves what it makes**, if it succeeds, beside what there was. -/
theorem holds_write (hlawful : g.vault.sealing.Lawful) {w : Write} {r : Vault.Request}
    (hr : w.request g = .ok r)
    (hs : g.vault.sealing.Separates passwords
      (noises ++ s.vault.drawn ((w.call g).runOn s).2.vault) pairs)
    (h : g.vault.Holds P noises s.records) (hP : ∀ c, P c → c.password ∈ passwords ∧ c.pair ∈ pairs)
    (hpasswords : r.passwords ⊆ passwords) :
    g.vault.Holds (fun c => P c ∨ ((w.call g).runOn s).1 = some (.ok ()) ∧ r.Makes P c)
      (noises ++ s.vault.drawn ((w.call g).runOn s).2.vault)
      ((w.call g).runOn s).2.records := by
  obtain ⟨c, hcall, hrequest⟩ := Write.exists_call hr
  rw [hcall] at hs ⊢
  cases hcancelled : s.isCancelled with
  | true =>
    rw [runOn_committing, hcancelled, if_pos rfl]
    exact h.mono (fun _ => .inl) (List.subset_append_left _ _)
  | false =>
    -- the vault is asked in the step behind the one that asks for the token
    obtain ⟨s', hrun, hvault⟩ := runOn_committing_ofVault (c := c) hcancelled
    have halone := Vault.runOn_andThen c (fun _ => .ok Vault.Reply.done) s.idle.vault
    rw [← hrequest] at halone
    have hafter : ((r.call g.vault).runOn s.idle.vault).2 = s'.vault := by rw [halone, hvault]
    rw [hrun] at hs ⊢
    dsimp only at hs ⊢
    rw [← hafter] at hs ⊢
    have hrecords : s'.records = ((r.call g.vault).runOn s.idle.vault).2.records :=
      (congrArg Vault.Course.records hafter).symm
    rw [hrecords]
    refine (Vault.Holds.runOn_call (s := s.idle.vault) hlawful hs h hP hpasswords).mono
      (fun c => ?_) (List.Subset.refl _)
    refine .imp_right (.imp_left fun ⟨reply, hreply⟩ => ?_)
    rw [halone] at hreply
    obtain ⟨a, ha, -⟩ := Outcome.bind_eq_ok.1 hreply
    rw [ha]
    rfl

end One

/-! ## A history -/

section All

variable {g : Gateway} {past : List Service} {records : Table Vault.Record} {x : Service}
  {c : Vault.Credential} {w : Write}

/-- A write succeeds if its outcome is no failure. -/
theorem Service.succeeded_write (hx : x.request = .write w) :
    x.Succeeded g ↔ ((w.call g).runOn x.course).1 = some (.ok ()) := by
  rw [Service.Succeeded, Service.ended, hx, Request.call, runOn_isOk]
  rcases (w.call g).runOn x.course with ⟨_ | _ | _, s'⟩ <;> simp [Except.isOk, Except.toBool]

/-- A bundle that is rejected is not stored. -/
theorem Service.exists_request_of_succeeded (h : x.Succeeded g) (hx : x.request = .write w) :
    ∃ r, w.request g = .ok r := by
  cases hr : w.request g with
  | ok r => exact ⟨r, rfl⟩
  | error rejection =>
    rw [Service.succeeded_write hx, Write.call_of_error hr] at h
    cases h

/-- Nothing is forgotten. -/
theorem Supplied.append {password : Octets} (h : Supplied g past password) (x : Service) :
    Supplied g (past ++ [x]) password :=
  h.imp fun _ => .imp_left (List.mem_append_left _)

theorem Imported.append {pair : Pki.KeyPair} (h : Imported g past pair) (x : Service) :
    Imported g (past ++ [x]) pair :=
  h.imp fun _ => .imp_left (List.mem_append_left _)

/-- The password is one of those that the vault is told. -/
theorem Write.mem_passwords {r : Vault.Request} {password : Octets} (hr : w.request g = .ok r)
    (h : w.supplied? = some password) : password ∈ r.passwords := by
  cases w with
  | storeCert now id password' bundle bundlePassword =>
    obtain ⟨pair, -, rfl⟩ := Write.request_storeCert.1 hr
    cases h
    simp [Vault.Request.passwords]
  | updateCertPassword id oldPassword newPassword =>
    cases hr
    cases h
    simp [Vault.Request.passwords]
  | updateCertId oldId newId => cases h
  | deleteId id => cases h

theorem Supplied.mem_passwords {password : Octets} (h : Supplied g past password) :
    password ∈ past.flatMap (·.passwords g) := by
  obtain ⟨x, hx, hsucceeded, w, hw, hsupplied⟩ := h
  obtain ⟨r, hr⟩ := Service.exists_request_of_succeeded hsucceeded hw
  refine List.mem_flatMap.2 ⟨x, hx, List.mem_flatMap.2 ⟨r, ?_, Write.mem_passwords hr hsupplied⟩⟩
  rw [hw, Request.change?, hr]
  exact List.mem_singleton_self r

theorem Imported.mem_pairs {pair : Pki.KeyPair} (h : Imported g past pair) :
    pair ∈ past.flatMap (·.pairs g) := by
  obtain ⟨x, hx, -, now, id, password, bundle, bundlePassword, hw, himport⟩ := h
  have hr : (Write.storeCert now id password bundle bundlePassword).request g =
      .ok (.store id password pair) := Write.request_storeCert.2 ⟨pair, himport, rfl⟩
  have hpair : pair ∈ Vault.Request.pairs (.store id password pair) := List.mem_singleton_self pair
  refine List.mem_flatMap.2 ⟨x, hx, List.mem_flatMap.2 ⟨_, ?_, hpair⟩⟩
  rw [hw, Request.change?, hr]
  exact List.mem_singleton_self _

/-- **What a write makes is accounted for** by the write itself, and by what there was before. -/
theorem accounted_of_makes {r : Vault.Request} (hx : x.request = .write w)
    (hsucceeded : x.Succeeded g) (hr : w.request g = .ok r) (h : r.Makes (Accounted g past) c) :
    Accounted g (past ++ [x]) c := by
  have hmem : x ∈ past ++ [x] := List.mem_append_right _ (List.mem_singleton_self x)
  cases w with
  | storeCert now id password bundle bundlePassword =>
    obtain ⟨pair, himport, rfl⟩ := Write.request_storeCert.1 hr
    obtain rfl : c = ⟨password, pair⟩ := h
    exact ⟨⟨x, hmem, hsucceeded, _, hx, rfl⟩,
      ⟨x, hmem, hsucceeded, now, id, password, bundle, bundlePassword, hx, himport⟩⟩
  | updateCertPassword id oldPassword newPassword =>
    cases hr
    -- the pair is one that was imported before; only its password is new
    obtain ⟨hnew, old, -, himported⟩ := h
    exact ⟨⟨x, hmem, hsucceeded, _, hx, by rw [hnew]; rfl⟩, himported.append x⟩
  | updateCertId oldId newId =>
    cases hr
    exact h.elim
  | deleteId id =>
    cases hr
    exact h.elim

/-- Only a write changes what is stored. -/
theorem exists_write_of_change? {request : Request} {r : Vault.Request}
    (h : request.change? g = some r) : ∃ w, request = .write w ∧ w.request g = .ok r := by
  cases request with
  | write w =>
    refine ⟨w, rfl, ?_⟩
    rw [Request.change?] at h
    cases hr : w.request g with
    | ok r' =>
      rw [hr] at h
      rw [← Option.some.inj h]
    | error rejection =>
      rw [hr] at h
      cases h
  | ping => cases h
  | sendSale now id password sale => cases h
  | listCertIds offset limit => cases h

/-- **Each record is accounted for.** -/
theorem holds_of_history (h : History g past records) (hlawful : g.vault.sealing.Lawful)
    (hs : g.vault.sealing.Separates (past.flatMap (·.passwords g)) (past.flatMap (·.drawn g))
      (past.flatMap (·.pairs g))) :
    g.vault.Holds (Accounted g past) (past.flatMap (·.drawn g)) records := by
  induction h with
  | start => exact .empty
  | @serve past records x h hx ih =>
    simp only [List.flatMap_append, List.flatMap_singleton] at hs ⊢
    have hbefore := ih (hs.of_subset (List.subset_append_left _ _) (List.subset_append_left _ _)
      (List.subset_append_left _ _))
    have hkeep : ∀ c, Accounted g past c → Accounted g (past ++ [x]) c :=
      fun c hc => ⟨hc.1.append x, hc.2.append x⟩
    -- a request that changes nothing keeps what was held; any other one is a request to the vault
    cases hchange : x.request.change? g with
    | none =>
      have hrecords := records_of_change?_eq_none hchange x.course
      rw [Service.ended, hrecords, hx]
      exact hbefore.mono hkeep (List.subset_append_left _ _)
    | some r =>
      obtain ⟨w, hw, hr⟩ := exists_write_of_change? hchange
      -- whether it is wrapped in a request makes no difference to the world behind it
      have hended : (x.ended g).2 = ((w.call g).runOn x.course).2 := by
        rw [Service.ended, hw, Request.call, runOn_isOk]
      have hpasswords : x.passwords g = r.passwords := by
        rw [Service.passwords, hchange, Option.toList_some, List.flatMap_singleton]
      rw [Service.drawn, hended] at hs ⊢
      refine (holds_write hlawful hr (hs.of_subset (List.Subset.refl _) (List.Subset.refl _)
        (List.subset_append_left _ _)) (hx ▸ hbefore) (fun c hc => ?_) ?_).mono (fun c hc => ?_)
          (List.Subset.refl _)
      · exact ⟨List.mem_append_left _ hc.1.mem_passwords, hc.2.mem_pairs⟩
      · rw [hpasswords]
        exact List.subset_append_right _ _
      · rcases hc with hc | ⟨hok, hmakes⟩
        · exact hkeep c hc
        · exact accounted_of_makes hw ((Service.succeeded_write hw).2 hok) hr hmakes

/-- **What is stored was accepted.** After any history, each record is one of the vault, has exactly
the three fields of a sealed pair, and opens under a password that was supplied with a write that
succeeded. The pair that it holds has an RSA key, which its certificate certifies, and was taken from
the bundle of a write that succeeded: one with an issuer that is a merchant root, whose dump shows an
authority, and whose key signed the certificate, and with a path to the roots. The issuer is an
authority where the dumps of the roots tell the truth; they need not. The cipher is sound, and
separates the passwords of the history. -/
theorem stored_is_trusted (h : History g past records) (hlawful : g.vault.sealing.Lawful)
    (hseparates : g.vault.sealing.Separates (past.flatMap (·.passwords g))
      (past.flatMap (·.drawn g)) (past.flatMap (·.pairs g)))
    {key : String} {record : Vault.Record} (hrecord : records.get? key = some record) :
    (∃ id, key = g.vault.recordKey id) ∧
      record.keys = [Vault.certificateField, Vault.keyField, Vault.saltField] ∧
      ∃ password pair, g.vault.sealing.openRecord password record = .ok pair ∧
        (∃ x ∈ past, x.Succeeded g ∧
          ∃ w : Write, x.request = .write w ∧ w.supplied? = some password) ∧
        pair.privateKey.rsa? = some pair.rsa ∧
        pair.certificate.parts.key = some (.rsa pair.rsa.publicKey) ∧
        ∃ x ∈ past, x.Succeeded g ∧ ∃ now id password octets bundlePassword,
          x.request = .write (.storeCert now id password octets bundlePassword) ∧
            ∃ bundle, g.merchantRoots.toolkit.openBundle octets bundlePassword = some bundle ∧
              g.merchantRoots.Accepts now bundle pair ∧
              (g.merchantRoots.TellsAuthorities → ∃ issuer ∈ bundle.others,
                g.merchantRoots.pool.contains issuer = true ∧ issuer.isAuthority = true ∧
                  ∃ key, issuer.parts.key = some key ∧
                    g.merchantRoots.toolkit.verify pair.certificate key = .ok true) := by
  obtain ⟨id, ⟨password, pair⟩, hkey, ⟨hsupplied, himported⟩, noise, -, rfl⟩ :=
    holds_of_history h hlawful hseparates key record hrecord
  obtain ⟨x, hx, hsucceeded, now, id', password', octets, bundlePassword, hw, himport⟩ := himported
  obtain ⟨bundle, hopen, haccepts⟩ := Pki.Roots.accepts_of_importBundle himport
  exact ⟨⟨id, hkey⟩, Vault.Sealing.keys_record .., password, pair,
    Vault.Sealing.openRecord_record hlawful, hsupplied, pair.rsa_eq, pair.certified, x, hx,
    hsucceeded, now, id', password', octets, bundlePassword, hw, bundle, hopen, haccepts,
    haccepts.exists_authority⟩

end All

section Specimen

/-- A gateway that trusts one root. -/
def trustingGateway (root : Octets) : Gateway :=
  { specimenGateway with merchantRoots := Pki.specimenRoots root }

/-- A bundle that is accepted is stored, and its record opens as the pair. -/
theorem exists_history_of_importBundle {root : Octets} {pair : Pki.KeyPair}
    (himport : Pki.importBundle (Pki.specimenBundle root) "" (Pki.specimenRoots root)
      Pki.specimenMoment = .ok pair) :
    ∃ past records record, History (trustingGateway root) past records ∧
      records.get? "eet:a" = some record ∧
      (trustingGateway root).vault.sealing.openRecord [1] record = .ok pair ∧
      ∀ p ∈ past.flatMap (·.passwords (trustingGateway root)), p = [1] := by
  let write : Write := .storeCert Pki.specimenMoment "a" [1] (Pki.specimenBundle root) ""
  let w : World := { specimenWorld with vault := { specimenWorld.vault with store := .empty } }
  let x : Service := ⟨.write write, w.calm⟩
  let record := Vault.Sealing.transparent.record [1] Vault.specimenNoise pair
  have hcall : write.call (trustingGateway root) =
      committing (ofVault ((trustingGateway root).vault.store "a" [1] pair)) :=
    Write.call_storeCert himport
  have hrun : Call.run (write.call (trustingGateway root)) w = some (.ok (),
      { w with vault := w.vault.draw.withRecords (Table.empty.put "eet:a" record) }) := by
    have hlive : w.token.isCancelled w.vault.clock = false := rfl
    rw [hcall]
    refine (run_cancellable hlive _).trans ?_
    rw [run_ofVault, Vault.run_store _ "a" [1] pair ⟨rfl, rfl⟩]
    rfl
  have hended : (x.ended (trustingGateway root)).2.records = Table.empty.put "eet:a" record := by
    rw [Service.ended, Request.call, runOn_isOk, (runOn_calm _ w).1 _ _ hrun]
    rfl
  have hhistory : History (trustingGateway root) [x] (Table.empty.put "eet:a" record) :=
    hended ▸ History.serve .start rfl
  have hrecord : (Table.empty.put "eet:a" record).get? "eet:a" = some record := by
    rw [Table.get?_put, if_pos rfl]
  have hpasswords : ∀ p ∈ [x].flatMap (·.passwords (trustingGateway root)), p = [1] := by
    have hr : write.request (trustingGateway root) = .ok (.store "a" [1] pair) :=
      Write.request_storeCert.2 ⟨pair, himport, rfl⟩
    have hchange : x.request.change? (trustingGateway root) = some (.store "a" [1] pair) := by
      rw [Request.change?, hr]
      rfl
    intro p hp
    simpa [Service.passwords, hchange, Vault.Request.passwords] using hp
  exact ⟨[x], _, record, hhistory, hrecord,
    Vault.Sealing.openRecord_record Vault.Sealing.transparent_lawful, hpasswords⟩

/-- A certificate is stored, and its record holds what was accepted, with an authority as issuer. -/
theorem stored_is_trusted_specimen :
    ∃ past records record, History (trustingGateway Pki.specimenRoot) past records ∧
      records.get? "eet:a" = some record ∧
      ∃ password pair bundle,
        (trustingGateway Pki.specimenRoot).vault.sealing.openRecord password record = .ok pair ∧
        (∃ now, (Pki.specimenRoots Pki.specimenRoot).Accepts now bundle pair) ∧
        ∃ issuer ∈ bundle.others, issuer.isAuthority = true := by
  obtain ⟨_, himport⟩ := Pki.exists_importBundle_specimen
  obtain ⟨past, records, record, hhistory, hrecord, -, hpasswords⟩ :=
    exists_history_of_importBundle himport
  obtain ⟨-, -, password, pair, hopen, -, -, -, _, -, -, now, -, -, -, -, -, bundle, -, haccepts,
      htells⟩ :=
    stored_is_trusted hhistory Vault.Sealing.transparent_lawful
      (Vault.Sealing.separates_of_forall_eq [1] hpasswords _ _ _) hrecord
  obtain ⟨issuer, hmem, -, hauthority, -⟩ := htells Pki.tellsAuthorities_specimen
  exact ⟨past, records, record, hhistory, hrecord, password, pair, bundle, hopen, ⟨now, haccepts⟩,
    issuer, hmem, hauthority⟩

/-- **A pair may be stored though no merchant root is an authority.** The comment of a root has lines
that its dump shows like constraints. -/
theorem stored_without_authority :
    ∃ past records record pair, History (trustingGateway Pki.specimenCommented) past records ∧
      records.get? "eet:a" = some record ∧
      (trustingGateway Pki.specimenCommented).vault.sealing.openRecord [1] record = .ok pair ∧
      ∀ c ∈ (trustingGateway Pki.specimenCommented).merchantRoots.pool.certificates,
        c.isAuthority = false := by
  obtain ⟨pair, himport⟩ := Pki.exists_importBundle_commented
  obtain ⟨past, records, record, hhistory, hrecord, hopen, -⟩ :=
    exists_history_of_importBundle himport
  exact ⟨past, records, record, pair, hhistory, hrecord, hopen, Pki.isAuthority_commented⟩

end Specimen

end FiscalGateway.Gateway

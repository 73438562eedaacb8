import FiscalGateway.Proofs.Json.Record
import FiscalGateway.Proofs.Number.Decimal
import FiscalGateway.Proofs.Text.Base64
import FiscalGateway.Proofs.Time.Rfc3339
import FiscalGateway.Proofs.Uuid
import FiscalGateway.Sale.Json

/-!
# Sales as JSON — what is written is read

A sale is written as the fields of its members (`Sale.toJson_eq`), and what one member makes of its
field does not depend on the others; so a sale is read back part by part (`Sale.ofJson_toJson`).
Each part has one form in which it is written and is found in it again, with its places, its
fraction of a second and its offset.

The number of the premises is a natural number here and a word on the wire: a sale that was read
keeps within it (`Sale.premises_lt_of_ofJson`), and that is all that the way back asks for. So
whatever text a sale came from, its own text gives the sale again (`Sale.read_text_toJson`).
-/

namespace FiscalGateway

open Json (Member Refusal Field IsForm)

/-! ## The parts of a sale -/

namespace Json

theorem isForm_string (s : String) : IsForm readString (.string s) s := ⟨trivial, by nofun, rfl⟩

theorem isForm_bool (b : Bool) : IsForm readBool (.bool b) b := ⟨trivial, by nofun, rfl⟩

theorem isForm_ofNat {bound n : Nat} (hbound : bound ≤ UInt64.size) (h : n < bound) :
    IsForm (readBelow bound) (ofNat n) n :=
  ⟨isWritten_ofNat n, by nofun, readBelow_ofNat hbound h⟩

theorem lt_of_readBelow {bound n : Nat} {v : Json} (h : readBelow bound v = .ok n) : n < bound := by
  unfold readBelow at h
  split at h
  · split at h
    · cases h
    · split at h
      · next hi => exact Except.ok.inj h ▸ hi.2
      · cases h
    · cases h
  · cases h

/-- A text with a form of its own. -/
theorem isForm_ofChars {α : Type} {read? : List Char → Option α} {s : List Char} {a : α}
    (h : read? s = some a) : IsForm (readWith read?) (ofChars s) a :=
  ⟨trivial, by nofun, by simp [readWith, readString, ofChars, h]⟩

/-- An amount is read with its places. -/
theorem isForm_decimal (d : Number.Decimal) : IsForm readDecimal (ofChars d.write) d :=
  ⟨trivial, by nofun, by simp [readDecimal, ofChars, Number.Decimal.read?_write]⟩

theorem isForm_regime (r : Regime) : IsForm readRegime (ofNat r.code) r := by
  have hcode : readBelow 256 (ofNat r.code) = .ok r.code :=
    readBelow_ofNat (by decide) (by cases r <;> decide)
  refine ⟨isWritten_ofNat r.code, by nofun, ?_⟩
  rw [readRegime, hcode]
  cases r <;> rfl

end Json

namespace Sale

/-! ## The fields of a sale -/

/-- The fields of a sale, in the order of the wire. -/
def fields (s : Sale) : List Field :=
  [SaleMember.uuid.field (some (Json.ofChars s.uuid.write)),
    SaleMember.sentAt.field (s.sentAt.map fun t => Json.ofChars t.write),
    SaleMember.firstSending.field (some (.bool s.firstSending)),
    SaleMember.checkOnly.field (s.checkOnly.map .bool),
    SaleMember.taxId.field (some (.string s.taxId)),
    SaleMember.delegateTaxId.field (s.delegateTaxId.map .string),
    SaleMember.premises.field (some (.ofNat s.premises)),
    SaleMember.register.field (some (.string s.register)),
    SaleMember.serial.field (some (.string s.serial)),
    SaleMember.soldAt.field (s.soldAt.map fun t => Json.ofChars t.write),
    SaleMember.total.field (some (Json.ofChars s.total.write))] ++
  AmountKind.all.map (fun k =>
    (SaleMember.amount k).field ((s.amount k).map fun d => Json.ofChars d.write)) ++
  [SaleMember.regime.field (some (.ofNat s.regime.code)),
    SaleMember.signatureCode.field
      (s.signatureCode.map fun b => Json.ofChars (Text.Base64.encodeChars b)),
    SaleMember.fingerprintCode.field (s.fingerprintCode.map .string)]

/-- They belong to the members that the reader knows. -/
theorem map_check_fields (s : Sale) : s.fields.map Field.check = SaleMember.all := by
  simp only [fields, SaleMember.all, List.map_append, List.map_map]
  rfl

theorem nodup_name_fields (s : Sale) : (s.fields.map Field.name).Nodup := by
  have hnames : s.fields.map Field.name = SaleMember.all.map (·.name) := by
    rw [← s.map_check_fields, List.map_map]
    rfl
  rw [hnames]
  decide +kernel

theorem optionalMember_eq {α : Type} (name : String) (write : α → Json) (o : Option α) :
    optionalMember name write o = ((o.map write).map (name, ·)).toList := by
  cases o <;> rfl

/-- **A sale is written as its fields.** -/
theorem toJson_eq (s : Sale) : s.toJson = .object (Json.written s.fields) := by
  have hamounts (kinds : List AmountKind) : Json.written (kinds.map fun k =>
      (SaleMember.amount k).field ((s.amount k).map fun d => Json.ofChars d.write)) =
      kinds.flatMap fun k =>
        optionalMember k.wireName (fun d => Json.ofChars d.write) (s.amount k) := by
    induction kinds with
    | nil => rfl
    | cons k kinds ih =>
      rw [List.map_cons, Json.written_cons, ih, List.flatMap_cons, optionalMember_eq]
      rfl
  rw [toJson, fields, Json.written_append, Json.written_append, hamounts]
  simp only [optionalMember_eq, Json.written_cons, Json.written_nil, List.append_assoc,
    List.append_nil]
  rfl

end Sale

/-! ## Reading the fields -/

namespace SaleMember

open Json.Member (holds_some holds_optional)

variable (s : Sale)

theorem holds_uuid : uuid.Holds (some (Json.ofChars s.uuid.write)) s.uuid :=
  holds_some (Json.isForm_ofChars (Uuid.read?_write s.uuid))

theorem holds_sentAt : sentAt.Holds (s.sentAt.map fun t => Json.ofChars t.write) s.sentAt :=
  holds_optional s.sentAt fun t => Json.isForm_ofChars (Time.readRelaxed?_write t)

theorem holds_firstSending : firstSending.Holds (some (.bool s.firstSending)) s.firstSending :=
  holds_some (Json.isForm_bool s.firstSending)

theorem holds_checkOnly : checkOnly.Holds (s.checkOnly.map .bool) s.checkOnly :=
  holds_optional s.checkOnly Json.isForm_bool

theorem holds_taxId : taxId.Holds (some (.string s.taxId)) s.taxId :=
  holds_some (Json.isForm_string s.taxId)

theorem holds_delegateTaxId : delegateTaxId.Holds (s.delegateTaxId.map .string) s.delegateTaxId :=
  holds_optional s.delegateTaxId Json.isForm_string

theorem holds_premises (h : s.premises < UInt32.size) :
    premises.Holds (some (.ofNat s.premises)) s.premises :=
  holds_some (Json.isForm_ofNat (by decide) h)

theorem holds_register : register.Holds (some (.string s.register)) s.register :=
  holds_some (Json.isForm_string s.register)

theorem holds_serial : serial.Holds (some (.string s.serial)) s.serial :=
  holds_some (Json.isForm_string s.serial)

theorem holds_soldAt : soldAt.Holds (s.soldAt.map fun t => Json.ofChars t.write) s.soldAt :=
  holds_optional s.soldAt fun t => Json.isForm_ofChars (Time.readRelaxed?_write t)

theorem holds_total : total.Holds (some (Json.ofChars s.total.write)) s.total :=
  holds_some (Json.isForm_decimal s.total)

theorem holds_amount (k : AmountKind) :
    (amount k).Holds ((s.amount k).map fun d => Json.ofChars d.write) (s.amount k) :=
  holds_optional (s.amount k) Json.isForm_decimal

theorem holds_regime : regime.Holds (some (.ofNat s.regime.code)) s.regime :=
  holds_some (Json.isForm_regime s.regime)

theorem holds_signatureCode :
    signatureCode.Holds (s.signatureCode.map fun b => Json.ofChars (Text.Base64.encodeChars b))
      s.signatureCode :=
  holds_optional s.signatureCode fun b =>
    Json.isForm_ofChars (Text.Base64.decodeChars_encodeChars b)

theorem holds_fingerprintCode :
    fingerprintCode.Holds (s.fingerprintCode.map .string) s.fingerprintCode :=
  holds_optional s.fingerprintCode Json.isForm_string

end SaleMember

namespace Sale

variable {s : Sale} {v : Json}

/-- A sale whose parts are what the members make of a record. -/
structure IsReadFrom (s : Sale) (r : Json.Record) : Prop where
  uuid : SaleMember.uuid.get r = .ok s.uuid
  sentAt : SaleMember.sentAt.get r = .ok s.sentAt
  firstSending : SaleMember.firstSending.get r = .ok s.firstSending
  checkOnly : SaleMember.checkOnly.get r = .ok s.checkOnly
  taxId : SaleMember.taxId.get r = .ok s.taxId
  delegateTaxId : SaleMember.delegateTaxId.get r = .ok s.delegateTaxId
  premises : SaleMember.premises.get r = .ok s.premises
  register : SaleMember.register.get r = .ok s.register
  serial : SaleMember.serial.get r = .ok s.serial
  soldAt : SaleMember.soldAt.get r = .ok s.soldAt
  total : SaleMember.total.get r = .ok s.total
  amount : SaleMember.amountsOf r = s.amount
  regime : SaleMember.regime.get r = .ok s.regime
  signatureCode : SaleMember.signatureCode.get r = .ok s.signatureCode
  fingerprintCode : SaleMember.fingerprintCode.get r = .ok s.fingerprintCode

theorem ofJson_eq_ok_iff :
    ofJson v = .ok s ↔ ∃ r, Json.Record.ofJson SaleMember.all v = .ok r ∧ s.IsReadFrom r := by
  simp only [ofJson, Outcome.bind_eq_ok, Outcome.pure_eq_ok]
  constructor
  · rintro ⟨r, hr, _, h₁, _, h₂, _, h₃, _, h₄, _, h₅, _, h₆, _, h₇, _, h₈, _, h₉, _, h₁₀, _, h₁₁,
      _, h₁₂, _, h₁₃, _, h₁₄, rfl⟩
    exact ⟨r, hr, h₁, h₂, h₃, h₄, h₅, h₆, h₇, h₈, h₉, h₁₀, h₁₁, rfl, h₁₂, h₁₃, h₁₄⟩
  · rintro ⟨r, hr, h⟩
    refine ⟨r, hr, _, h.uuid, _, h.sentAt, _, h.firstSending, _, h.checkOnly, _, h.taxId, _,
      h.delegateTaxId, _, h.premises, _, h.register, _, h.serial, _, h.soldAt, _, h.total, _,
      h.regime, _, h.signatureCode, _, h.fingerprintCode, ?_⟩
    rw [h.amount]

/-- The number of the premises is a word, however it was written. -/
theorem premises_lt_of_ofJson (h : ofJson v = .ok s) : s.premises < UInt32.size := by
  obtain ⟨r, -, hr⟩ := ofJson_eq_ok_iff.1 h
  have hget := hr.premises
  rw [Json.Member.get_eq] at hget
  cases hv : r.lookup SaleMember.premises.name with
  | none =>
    rw [hv] at hget
    cases hget
  | some n =>
    rw [hv] at hget
    exact Json.lt_of_readBelow hget

open SaleMember

/-- Every field is accepted by its member. -/
theorem stands_fields (h : s.premises < UInt32.size) : ∀ f ∈ s.fields, f.Stands := by
  have hamounts : ∀ f ∈ AmountKind.all.map (fun k =>
      (SaleMember.amount k).field ((s.amount k).map fun d => Json.ofChars d.write)), f.Stands := by
    intro f hf
    obtain ⟨k, -, rfl⟩ := List.mem_map.1 hf
    exact (holds_amount s k).stands
  simp only [fields, List.forall_mem_append, List.forall_mem_cons]
  exact ⟨⟨⟨(holds_uuid s).stands, (holds_sentAt s).stands, (holds_firstSending s).stands,
    (holds_checkOnly s).stands, (holds_taxId s).stands, (holds_delegateTaxId s).stands,
    (holds_premises s h).stands, (holds_register s).stands, (holds_serial s).stands,
    (holds_soldAt s).stands, (holds_total s).stands, by simp⟩, hamounts⟩,
    (holds_regime s).stands, (holds_signatureCode s).stands, (holds_fingerprintCode s).stands,
    by simp⟩

/-- And gives the part that it was written for. -/
theorem isReadFrom_written (h : s.premises < UInt32.size) :
    s.IsReadFrom (Json.written s.fields) := by
  -- a member is read from the field that it was written to: names are distinct
  have hget {α : Type} {m : Member α} {value? : Option Json} {a : α} (hm : m.Holds value? a)
      (hmem : m.field value? ∈ s.fields) : m.get (Json.written s.fields) = .ok a :=
    hm.get_eq_ok s.nodup_name_fields hmem
  have hamount (k : AmountKind) : (SaleMember.amount k).field
      ((s.amount k).map fun d => Json.ofChars d.write) ∈ s.fields := by
    refine List.mem_append_left _ (List.mem_append_right _ ?_)
    exact List.mem_map.2 ⟨k, AmountKind.mem_all k, rfl⟩
  constructor
  case uuid => exact hget (holds_uuid s) (by simp [fields])
  case sentAt => exact hget (holds_sentAt s) (by simp [fields])
  case firstSending => exact hget (holds_firstSending s) (by simp [fields])
  case checkOnly => exact hget (holds_checkOnly s) (by simp [fields])
  case taxId => exact hget (holds_taxId s) (by simp [fields])
  case delegateTaxId => exact hget (holds_delegateTaxId s) (by simp [fields])
  case premises => exact hget (holds_premises s h) (by simp [fields])
  case register => exact hget (holds_register s) (by simp [fields])
  case serial => exact hget (holds_serial s) (by simp [fields])
  case soldAt => exact hget (holds_soldAt s) (by simp [fields])
  case total => exact hget (holds_total s) (by simp [fields])
  case amount =>
    funext k
    rw [amountsOf, hget (holds_amount s k) (hamount k)]
  case regime => exact hget (holds_regime s) (by simp [fields])
  case signatureCode => exact hget (holds_signatureCode s) (by simp [fields])
  case fingerprintCode => exact hget (holds_fingerprintCode s) (by simp [fields])

/-- **What is written is read.** -/
theorem ofJson_toJson (h : s.premises < UInt32.size) : ofJson s.toJson = .ok s := by
  refine ofJson_eq_ok_iff.2 ⟨Json.written s.fields, ?_, isReadFrom_written h⟩
  rw [s.toJson_eq, ← s.map_check_fields]
  exact Json.ofJson_written s.nodup_name_fields (stands_fields h)

theorem isWritten_toJson (h : s.premises < UInt32.size) : s.toJson.IsWritten := by
  rw [s.toJson_eq]
  exact Json.isWritten_written (stands_fields h)

theorem exists_ofJson_of_read {text : String} (h : read text = .ok s) : ∃ v, ofJson v = .ok s := by
  simp only [read, Json.readText, Outcome.bind_eq_ok] at h
  obtain ⟨t, ht, h⟩ := h
  split at h
  · cases h
    exact ⟨_, ht⟩
  · exact absurd h Outcome.throw_ne_ok

/-- **Whatever text a sale was read from, its own text is read as the same sale**, which has that
text again. -/
theorem read_text_toJson {text : String} (h : read text = .ok s) :
    read s.toJson.text = .ok s ∧
      (read s.toJson.text).map (fun t => t.toJson.text) = .ok s.toJson.text := by
  obtain ⟨v, hv⟩ := exists_ofJson_of_read h
  have hpremises := premises_lt_of_ofJson hv
  have hread : read s.toJson.text = .ok s := by
    rw [read, Json.readText_text ofJson (isWritten_toJson hpremises)]
    exact ofJson_toJson hpremises
  exact ⟨hread, by rw [hread]; rfl⟩

/-- A sale in odd spelling: an unknown member, a name of the scheme `urn:uuid:` in upper case, a
leap second of a year of five digits, escapes, a sign on zero, a full coefficient, an exponent. -/
def oddlySpelled : String :=
  "\x7b\"note\":[1e5,null],\"uuid_zpravy\":\"urn:uuid:550E8400-E29B-41D4-A716-446655440000\"," ++
    "\"dat_odesl\":null,\"dat_trzby\":\"+10000-1-1 23:59:60.25Z\"," ++
    "\"dic_popl\":\"CZ\\u00300000019\",\"id_provoz\":141,\"id_pokl\":\"1\"," ++
    "\"porad_cis\":\"a\\/b\",\"celk_trzba\":\"-0.00\"," ++
    "\"dan1\":\"7.9228162514264337593543950335\",\"zakl_dan1\":1e2,\"rezim\":1,\"pkp\":\"AQI=\"\x7d"

/-- Its own text. -/
def plainlySpelled : String :=
  "\x7b\"uuid_zpravy\":\"550e8400-e29b-41d4-a716-446655440000\",\"prvni_zaslani\":true," ++
    "\"dic_popl\":\"CZ00000019\",\"id_provoz\":141,\"id_pokl\":\"1\",\"porad_cis\":\"a/b\"," ++
    "\"dat_trzby\":\"+10000-01-01T23:59:60.250Z\",\"celk_trzba\":\"0.00\",\"zakl_dan1\":\"100\"," ++
    "\"dan1\":\"7.9228162514264337593543950335\",\"rezim\":1,\"pkp\":\"AQI=\"\x7d"

theorem read_text_toJson_oddlySpelled :
    ∃ s, read oddlySpelled = .ok s ∧ s.toJson.text = plainlySpelled ∧
      read plainlySpelled = .ok s ∧
      (read plainlySpelled).map (fun t => t.toJson.text) = .ok plainlySpelled := by
  have htext : (read oddlySpelled).toOption.map (fun s => s.toJson.text) = some plainlySpelled := by
    decide +kernel
  obtain ⟨s, hsome, hs⟩ := Option.map_eq_some_iff.1 htext
  have hread := Outcome.toOption_eq_some.1 hsome
  have hback := read_text_toJson hread
  rw [hs] at hback
  exact ⟨s, hread, hs, hback⟩

end Sale
end FiscalGateway

import FiscalGateway.Proofs.Pki.Pem
import FiscalGateway.Proofs.Sale.SecurityCodes
import FiscalGateway.Proofs.Soap.Acceptance
import FiscalGateway.Proofs.Soap.Receipt

/-!
# Sales on the wire — each part is read back under its name

`headerFields` and `dataFields` list the parts of a sale under the names of the registry and in its
order, each with its text where it is set. A valid sale that was stamped is written as an element
that is read with exactly these attributes and with both codes (`SaleElement`); and what its
merchant signed is what stands in it, so a registry that joins the parts it reads has the text that
was signed (`exists_saleElement`).
-/

namespace FiscalGateway.Soap

open Xml

/-! ## The parts of a sale -/

/-- A part of a sale: its name, and its text where it is set. -/
structure SaleField where
  name : String
  text : Sale → Option String

/-- The attribute of a part that is set. -/
def SaleField.attribute? (f : SaleField) (s : Sale) : Option Attribute :=
  (f.text s).map fun text => ⟨⟨none, f.name⟩, none, text⟩

/-- An amount that a sale may have. -/
def SaleField.amount (name : String) (kind : AmountKind) : SaleField :=
  ⟨name, fun s => (s.amount kind).map formatAmount⟩

/-- The parts in the header of a sale. -/
def headerFields : List SaleField :=
  [⟨"uuid_zpravy", fun s => some s.uuid.text⟩,
    ⟨"dat_odesl", fun s => s.sentAt.map formatTime⟩,
    ⟨"prvni_zaslani", fun s => some (toString s.firstSending)⟩,
    ⟨"overeni", fun s => s.checkOnly.map toString⟩]

/-- The parts in its data. -/
def dataFields : List SaleField :=
  [⟨"dic_popl", fun s => some s.taxId⟩,
    ⟨"dic_poverujiciho", fun s => s.delegateTaxId⟩,
    ⟨"id_provoz", fun s => some (toString s.premises)⟩,
    ⟨"id_pokl", fun s => some s.register⟩,
    ⟨"porad_cis", fun s => some s.serial⟩,
    ⟨"dat_trzby", fun s => s.soldAt.map formatTime⟩,
    ⟨"celk_trzba", fun s => some (formatAmount s.total)⟩,
    .amount "zakl_nepodl_dph" .exempt,
    .amount "zakl_dan1" .baseStandard,
    .amount "dan1" .taxStandard,
    .amount "zakl_dan2" .baseFirstReduced,
    .amount "dan2" .taxFirstReduced,
    .amount "zakl_dan3" .baseSecondReduced,
    .amount "dan3" .taxSecondReduced,
    .amount "cest_sluz" .travel,
    .amount "pouzit_zboz1" .usedStandard,
    .amount "pouzit_zboz2" .usedFirstReduced,
    .amount "pouzit_zboz3" .usedSecondReduced,
    .amount "urceno_cerp_zuct" .prepaid,
    .amount "cerp_zuct" .drawn,
    ⟨"rezim", fun s => some (match s.regime with
      | .standard => "0"
      | .simplified => "1")⟩]

/-- The names of the parts that a merchant signs. -/
def signedNames : List String :=
  ["dic_popl", "id_provoz", "id_pokl", "porad_cis", "dat_trzby", "celk_trzba"]

/-- **An element that carries a sale**: its header and its data have the attributes of the parts
that are set and no others, and the texts of its codes are those of the sale. -/
structure SaleElement (root : Element) (s : Sale) where
  named : root.isNamed receiptNs "Trzba" = true
  header : Element
  data : Element
  codes : Element
  children : root.children = [header.toNode, data.toNode, codes.toNode]
  header_named : header.isNamed receiptNs "Hlavicka" = true
  header_attributes : header.tag.attributes = headerFields.filterMap (·.attribute? s)
  data_named : data.isNamed receiptNs "Data" = true
  data_attributes : data.tag.attributes = dataFields.filterMap (·.attribute? s)
  codes_named : codes.isNamed receiptNs "KontrolniKody" = true
  signatureCode : Element
  fingerprintCode : Element
  codes_children : codes.children = [signatureCode.toNode, fingerprintCode.toNode]
  signatureCode_named : signatureCode.isNamed receiptNs "pkp" = true
  signatureCode_decodes : Text.Base64.decode? signatureCode.text = s.signatureCode
  fingerprintCode_named : fingerprintCode.isNamed receiptNs "bkp" = true
  fingerprintCode_text : some fingerprintCode.text = s.fingerprintCode

/-! ## Attributes -/

section Attributes

variable {s : Sale} {sentAt soldAt : Time.Timestamp}

theorem toList_flagText (b : Bool) : String.ofList (flagText b) = toString b := by
  cases b <;> decide

/-- What is written of the header is what its parts say. -/
theorem attributes_header (hsent : s.sentAt = some sentAt) (l : String) :
    (receiptTag l [] (headerAttributes s sentAt)).attributes =
      headerFields.filterMap (·.attribute? s) := by
  rw [receiptTag, headerAttributes, headerFields]
  cases hcheck : s.checkOnly with
  | none => simp [SaleField.attribute?, optionalAttribute, hsent, hcheck, toList_flagText,
      Uuid.text, formatTime]
  | some b => simp [SaleField.attribute?, optionalAttribute, hsent, hcheck, toList_flagText,
      Uuid.text, formatTime]

/-- The amounts are written in the order of their kinds, whichever of them are set. -/
theorem attributes_amounts (kinds : List AmountKind) :
    ((kinds.filterMap fun k => (s.amount k).map (k.wireName, ·)).map fun a =>
        (⟨⟨none, a.1⟩, none, formatAmount a.2⟩ : Attribute)) =
      (kinds.map fun k => SaleField.amount k.wireName k).filterMap (·.attribute? s) := by
  rw [List.map_filterMap, List.filterMap_map]
  refine congrArg (List.filterMap · kinds) (funext fun k => ?_)
  simp [SaleField.attribute?, SaleField.amount, Option.map_map, Function.comp_def]

/-- And so it is with the data. -/
theorem attributes_data (hsold : s.soldAt = some soldAt) (l : String) :
    (receiptTag l [] (dataAttributes s soldAt)).attributes =
      dataFields.filterMap (·.attribute? s) := by
  have hfields : dataFields = dataFields.take 7 ++
      AmountKind.all.map (fun k => SaleField.amount k.wireName k) ++ dataFields.drop 20 := rfl
  have hregime : String.ofList (Nat.toDigits 10 s.regime.code) = match s.regime with
      | .standard => "0"
      | .simplified => "1" := by
    cases s.regime <;> decide
  have hwire : ∀ d : Number.Decimal, String.ofList d.wire = formatAmount d := fun _ => rfl
  have hpremises : String.ofList (Nat.toDigits 10 s.premises) = toString s.premises := rfl
  rw [hfields, List.filterMap_append, List.filterMap_append, ← attributes_amounts]
  simp only [receiptTag, dataAttributes, Sale.amounts, List.map_append, List.map_cons, List.map_map,
    Function.comp_def, hwire, hregime, hpremises]
  cases hdelegate : s.delegateTaxId with
  | none => simp [dataFields, SaleField.attribute?, optionalAttribute, hsold, hdelegate, formatTime]
  | some d =>
    simp [dataFields, SaleField.attribute?, optionalAttribute, hsold, hdelegate, formatTime]

/-- In a list of parts with different names each one is found under its own. -/
theorem attribute?_eq_text {fields : List SaleField} (hdistinct : (fields.map (·.name)).Nodup)
    {e : Element} (he : e.tag.attributes = fields.filterMap (·.attribute? s)) {f : SaleField}
    (hf : f ∈ fields) : e.attribute? f.name = f.text s := by
  rw [Element.attribute?, he, List.find?_filterMap]
  cases hfind : fields.find? fun g => (g.attribute? s).any fun a =>
      a.ns == none && a.name.localPart == f.name with
  | none =>
    have hself := List.find?_eq_none.1 hfind f hf
    cases htext : f.text s with
    | none => rfl
    | some text => simp [SaleField.attribute?, htext] at hself
  | some g =>
    have hname : g.name = f.name := by
      have hg := List.find?_some hfind
      obtain ⟨text, -, hname⟩ : ∃ text, g.text s = some text ∧ g.name = f.name := by
        simpa [SaleField.attribute?, Option.any_eq_true] using hg
      exact hname
    obtain rfl := List.inj_on_of_nodup_map hdistinct (List.mem_of_find?_eq_some hfind) hf hname
    simp [SaleField.attribute?, Option.map_map, Function.comp_def]

/-- **The signed parts are found in the data**, as they stand in the text that is signed. -/
theorem exists_signedValues {e : Element}
    (he : e.tag.attributes = dataFields.filterMap (·.attribute? s))
    (hsold : s.soldAt = some soldAt) :
    ∃ values : List String, signedNames.mapM e.attribute? = some values ∧
      s.plaintext = .ok ("|".intercalate values) := by
  have hdistinct : (dataFields.map (·.name)).Nodup := by decide
  -- names are distinct, so each attribute is the one that its field wrote
  have hfield {f : SaleField} (i : Nat) (hf : dataFields[i]? = some f) :
      e.attribute? f.name = f.text s :=
    attribute?_eq_text hdistinct he (List.mem_of_getElem? hf)
  have htaxId : e.attribute? "dic_popl" = some s.taxId := hfield 0 rfl
  have hpremises : e.attribute? "id_provoz" = some (toString s.premises) := hfield 2 rfl
  have hregister : e.attribute? "id_pokl" = some s.register := hfield 3 rfl
  have hserial : e.attribute? "porad_cis" = some s.serial := hfield 4 rfl
  have htime : e.attribute? "dat_trzby" = s.soldAt.map formatTime := hfield 5 rfl
  have htotal : e.attribute? "celk_trzba" = some (formatAmount s.total) := hfield 6 rfl
  refine ⟨[s.taxId, toString s.premises, s.register, s.serial, formatTime soldAt,
    formatAmount s.total], ?_, ?_⟩
  · simp [signedNames, htaxId, hpremises, hregister, hserial, htime, htotal, hsold]
  · rw [Sale.plaintext, hsold]
    refine congrArg Except.ok (String.toList_inj.1 ?_)
    rw [String.toList_ofList, String.toList_intercalate]
    simp [Sale.signedParts, plaintextSeparator, formatTime, formatAmount]

end Attributes

/-! ## The element -/

section Element

variable {s : Sale} {sentAt soldAt : Time.Timestamp} {code : Octets} {fingerprintCode : String}

/-- The element that is read carries the sale. -/
def saleElementOf (hsent : s.sentAt = some sentAt) (hsold : s.soldAt = some soldAt)
    (hcode : s.signatureCode = some code)
    (hfingerprint : s.fingerprintCode = some fingerprintCode) :
    SaleElement (receiptElement s sentAt soldAt code fingerprintCode) s where
  named := rfl
  header := ⟨receiptTag "Hlavicka" [] (headerAttributes s sentAt), []⟩
  data := ⟨receiptTag "Data" [] (dataAttributes s soldAt), []⟩
  codes := codesElement code fingerprintCode
  children := rfl
  header_named := rfl
  header_attributes := attributes_header hsent "Hlavicka"
  data_named := rfl
  data_attributes := attributes_data hsold "Data"
  codes_named := rfl
  signatureCode := signatureCodeElement code
  fingerprintCode := fingerprintCodeElement fingerprintCode
  codes_children := rfl
  signatureCode_named := rfl
  signatureCode_decodes := by
    rw [signatureCodeElement, text_receiptLeaf, Text.Base64.decode?, String.toList_ofList,
      Text.Base64.decodeChars_encodeChars, hcode]
  fingerprintCode_named := rfl
  fingerprintCode_text := by
    rw [fingerprintCodeElement, text_receiptLeaf, String.ofList_toList, hfingerprint]

/-- **A valid stamped sale is read back as it is.** Its element is a document of its own, every
part that is set stands in it under its name, and the signed parts are those that were signed. -/
theorem exists_saleElement {unstamped : Sale} {key : Pki.PrivateKey}
    (hvalid : s.validate = .ok ()) (hsent : s.sentAt = some sentAt) (hsold : s.soldAt = some soldAt)
    (hstamped : unstamped.stamp key = .ok s) :
    ∃ (m : Markup) (d : Document) (e : SaleElement d.root s) (values : List String),
      s.markup = .ok m ∧ Document.parse (octetsOf m.write) = .ok d ∧
        signedNames.mapM e.data.attribute? = some values ∧
        s.plaintext = .ok ("|".intercalate values) := by
  obtain ⟨text, code, -, hsign, rfl⟩ := stamp_eq_ok.1 hstamped
  obtain ⟨hinline, hne⟩ := isInline_fingerprint code
  -- stamped, a sale still is a valid one, and what was stamped on it can be written
  have hreadable : (receiptMarkup (unstamped.withCodes code) sentAt soldAt code
      (fingerprint code)).Readable :=
    receiptMarkup_readable (Sale.validate_eq_ok.1 hvalid) (Pki.PrivateKey.ne_nil_of_sign? hsign)
      hne hinline
  have hmarkup : (unstamped.withCodes code).markup = .ok (receiptMarkup (unstamped.withCodes code)
      sentAt soldAt code (fingerprint code)) :=
    markup_eq_ok.2 ⟨sentAt, soldAt, code, fingerprint code, hsent, hsold, rfl, rfl, rfl⟩
  have hparse : Document.parse (octetsOf (receiptMarkup (unstamped.withCodes code) sentAt soldAt
      code (fingerprint code)).write) =
        .ok ⟨receiptElement (unstamped.withCodes code) sentAt soldAt code (fingerprint code)⟩ := by
    rw [parse_octetsOf]
    cases hreadable with
    | element htag hchildren =>
      exact Markup.ofChars_write htag hchildren (node_receiptMarkup [])
  let e : SaleElement (receiptElement (unstamped.withCodes code) sentAt soldAt code
      (fingerprint code)) (unstamped.withCodes code) := saleElementOf hsent hsold rfl rfl
  obtain ⟨values, hvalues, hplaintext⟩ := exists_signedValues e.data_attributes hsold
  exact ⟨_, ⟨_⟩, e, values, hmarkup, hparse, hvalues, hplaintext⟩

end Element

/-- A sale with a delegating merchant and some amounts, one of them negative and without places. -/
theorem exists_saleElement_specimen :
    ∃ (unstamped s : Sale) (m : Markup) (d : Document) (e : SaleElement d.root s)
        (values : List String),
      s.validate = .ok () ∧ s.sentAt.isSome ∧ s.soldAt.isSome ∧
        unstamped.stamp Pki.PrivateKey.specimen = .ok s ∧
        s.delegateTaxId = some "CZ683555118" ∧ (s.amount .taxStandard).isSome ∧
        s.markup = .ok m ∧
        Document.parse (octetsOf m.write) = .ok d ∧
        signedNames.mapM e.data.attribute? = some values ∧
        s.plaintext = .ok ("|".intercalate values) := by
  let time : Time.Timestamp :=
    ⟨⟨2019, 8, 11⟩, ⟨15, 36, 14, 0⟩, 120, by decide, by decide, by decide, by decide⟩
  let unstamped : Sale := {
    uuid := ⟨[0, 0, 0, 0, 0, 0, 0x40, 0, 0x80, 0, 0, 0, 0, 0, 0, 0], rfl⟩
    sentAt := some time
    firstSending := true
    checkOnly := some false
    taxId := "CZ00000019"
    delegateTaxId := some "CZ683555118"
    premises := 141
    register := "1patro-vpravo"
    serial := "141-18543-05"
    soldAt := some time
    total := { negative := false, coefficient := 236, places := 0 }
    amount
      | .taxStandard => some { negative := true, coefficient := 4096, places := 2 }
      | .drawn => some { negative := true, coefficient := 7, places := 0 }
      | _ => none
    regime := .simplified
    signatureCode := none
    fingerprintCode := none }
  have hunstamped : unstamped.validate = .ok () :=
    Sale.validate_eq_ok.2 ⟨by decide, by decide, by decide, by decide, by decide, by decide,
      by decide⟩
  have hsold : unstamped.soldAt = some time := rfl
  have hkey : Pki.PrivateKey.specimen.rsa? = some Pki.specimenNumbers.key := rfl
  obtain ⟨-, code, -, hstamped, -⟩ :=
    exists_stamp hsold hkey Crypto.Rsa.PrivateKey.specimen_agrees
  -- the codes are not looked at by validation
  have hvalid : (unstamped.withCodes code).validate = .ok () := hunstamped
  obtain ⟨m, d, e, values, hcarried⟩ := exists_saleElement hvalid rfl rfl hstamped
  exact ⟨unstamped, unstamped.withCodes code, m, d, e, values, hvalid, rfl, rfl, hstamped, rfl, rfl,
    hcarried⟩

end FiscalGateway.Soap

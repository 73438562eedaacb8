import FiscalGateway.Proofs.Sale.Validation
import FiscalGateway.Proofs.Soap.Envelope
import FiscalGateway.Proofs.Soap.Markup

/-!
# Receipts — how the element of a sale is read

The markup of a valid sale can be read (`receiptMarkup_readable`), and what it is read as is
`receiptElement`, wherever it stands (`node_receiptMarkup`): each part of the sale is the value of
the attribute of its name, and both codes are the texts of their elements.
-/

namespace FiscalGateway.Soap

open Outcome Xml Text

/-! ## Names -/

/-- The names in the header of a sale. -/
def headerNames : List String := ["uuid_zpravy", "dat_odesl", "prvni_zaslani", "overeni"]

/-- The names in the data of a sale, those of the amounts included. -/
def dataNames : List String :=
  ["dic_popl", "dic_poverujiciho", "id_provoz", "id_pokl", "porad_cis", "dat_trzby",
    "celk_trzba"] ++ AmountKind.all.map AmountKind.wireName ++ ["rezim"]

/-- Attributes with some of these names, in this order. -/
def NamedAmong (names : List String) (attributes : List MarkupAttribute) : Prop :=
  (attributes.map (·.1)).Sublist names

theorem namedAmong_optionalAttribute {α : Type} (name : String) (write : α → List Char)
    (a : Option α) : NamedAmong [name] (optionalAttribute name write a) := by
  cases a with
  | none => exact List.nil_sublist _
  | some a => exact List.Sublist.refl _

theorem NamedAmong.append {names names' : List String} {attributes attributes'}
    (h : NamedAmong names attributes) (h' : NamedAmong names' attributes') :
    NamedAmong (names ++ names') (attributes ++ attributes') := by
  rw [NamedAmong, List.map_append]
  exact List.Sublist.append h h'

theorem namedAmong_headerAttributes (s : Sale) (sentAt : Time.Timestamp) :
    NamedAmong headerNames (headerAttributes s sentAt) := by
  have hfixed : NamedAmong ["uuid_zpravy", "dat_odesl", "prvni_zaslani"]
      [("uuid_zpravy", s.uuid.write), ("dat_odesl", sentAt.writeSeconds),
        ("prvni_zaslani", flagText s.firstSending)] := List.Sublist.refl _
  exact hfixed.append (namedAmong_optionalAttribute "overeni" flagText s.checkOnly)

/-- The amounts that are set are written in the order of their kinds. -/
theorem namedAmong_amounts (s : Sale) :
    NamedAmong ("celk_trzba" :: AmountKind.all.map AmountKind.wireName)
      (s.amounts.map fun (name, d) => (name, d.wire)) := by
  have hset : ∀ kinds : List AmountKind,
      ((kinds.filterMap fun k => (s.amount k).map (k.wireName, ·)).map (·.1)).Sublist
        (kinds.map AmountKind.wireName) := by
    intro kinds
    induction kinds with
    | nil => exact List.nil_sublist _
    | cons k kinds ih =>
      cases hk : s.amount k with
      | none =>
        -- a kind that is not set leaves its name out
        simpa [hk] using ih.cons k.wireName
      | some d => simpa [hk] using ih
  rw [NamedAmong, List.map_map]
  exact (hset AmountKind.all).cons_cons "celk_trzba"

theorem namedAmong_dataAttributes (s : Sale) (soldAt : Time.Timestamp) :
    NamedAmong dataNames (dataAttributes s soldAt) := by
  have hmerchant : NamedAmong ["dic_popl"] [("dic_popl", s.taxId.toList)] := List.Sublist.refl _
  have hplace : NamedAmong ["id_provoz", "id_pokl", "porad_cis", "dat_trzby"]
      [("id_provoz", Nat.toDigits 10 s.premises), ("id_pokl", s.register.toList),
        ("porad_cis", s.serial.toList), ("dat_trzby", soldAt.writeSeconds)] := List.Sublist.refl _
  have hregime : NamedAmong ["rezim"] [("rezim", Nat.toDigits 10 s.regime.code)] :=
    List.Sublist.refl _
  have hdelegate := namedAmong_optionalAttribute "dic_poverujiciho" String.toList s.delegateTaxId
  exact (((hmerchant.append hdelegate).append hplace).append (namedAmong_amounts s)).append hregime

/-- **Names that differ make a tag**, if they are proper and the values inline. -/
theorem NamedAmong.isTag {names : List String} {attributes : List MarkupAttribute} {name : String}
    (h : NamedAmong names attributes) (hname : IsNCName name) (hnames : ∀ n ∈ names, IsNCName n)
    (hdistinct : names.Nodup) (hvalues : ∀ a ∈ attributes, IsInline a.2) :
    Markup.IsTag name attributes where
  name := hname
  names := fun a ha => hnames a.1 (h.subset (List.mem_map_of_mem ha))
  distinct := h.nodup hdistinct
  values := hvalues

/-! ## Values -/

section Values

variable {s : Sale}

theorem isInline_flagText (b : Bool) : IsInline (flagText b) := by
  cases b <;> decide

/-- An optional attribute is inline if its value is, where it is set. -/
theorem isInline_optionalAttribute {α : Type} {name : String} {write : α → List Char}
    {a : Option α} (h : ∀ x, a = some x → IsInline (write x)) :
    ∀ m ∈ optionalAttribute name write a, IsInline m.2 := by
  cases a with
  | none => exact List.forall_mem_nil _
  | some x =>
    intro m hm
    obtain rfl := List.mem_singleton.1 hm
    exact h x rfl

theorem isTag_header (s : Sale) (sentAt : Time.Timestamp) :
    Markup.IsTag "Hlavicka" (headerAttributes s sentAt) := by
  refine (namedAmong_headerAttributes s sentAt).isTag (by decide) (by decide) (by decide) ?_
  simp only [headerAttributes, List.forall_mem_append, List.forall_mem_cons]
  exact ⟨⟨isInline_write_uuid _, Time.isInline_writeSeconds _, isInline_flagText _,
    List.forall_mem_nil _⟩, isInline_optionalAttribute fun b _ => isInline_flagText b⟩

theorem isTag_data (h : s.IsValid) (soldAt : Time.Timestamp) :
    Markup.IsTag "Data" (dataAttributes s soldAt) := by
  refine (namedAmong_dataAttributes s soldAt).isTag (by decide) (by decide) (by decide) ?_
  have hdelegate : ∀ d, s.delegateTaxId = some d → IsInline d.toList :=
    fun d hd => isInline_of_isTaxId (h.delegate d hd).1
  simp only [dataAttributes, List.forall_mem_append, List.forall_mem_cons, List.forall_mem_map]
  exact ⟨⟨⟨⟨⟨isInline_of_isTaxId h.taxId, List.forall_mem_nil _⟩,
    isInline_optionalAttribute hdelegate⟩,
    isInline_toDigits _, isInline_of_isIdentifier h.register, isInline_of_isIdentifier h.serial,
    Time.isInline_writeSeconds _, List.forall_mem_nil _⟩, fun a _ => isInline_wire a.2⟩,
    isInline_toDigits _, List.forall_mem_nil _⟩

end Values

/-! ## The element -/

/-- The markup of a sale with all its parts. -/
def receiptMarkup (s : Sale) (sentAt soldAt : Time.Timestamp) (signatureCode : Octets)
    (fingerprintCode : String) : Markup :=
  .element "Trzba" [("xmlns", receiptNs.toList)]
    [.empty "Hlavicka" (headerAttributes s sentAt), .empty "Data" (dataAttributes s soldAt),
      codesMarkup signatureCode fingerprintCode]

/-- **A sale has markup exactly if no part is missing.** -/
theorem markup_eq_ok {s : Sale} {m : Markup} : s.markup = .ok m ↔
    ∃ sentAt soldAt signatureCode fingerprintCode, s.sentAt = some sentAt ∧
      s.soldAt = some soldAt ∧ s.signatureCode = some signatureCode ∧
      s.fingerprintCode = some fingerprintCode ∧
      receiptMarkup s sentAt soldAt signatureCode fingerprintCode = m := by
  have hrequire {α : Type} {part : RequiredPart} {o : Option α} {a : α} :
      require part o = .ok a ↔ o = some a := by
    cases o <;> simp [require]
  unfold Sale.markup
  simp only [bind_eq_ok, hrequire, pure_eq_ok, receiptMarkup]
  constructor
  · rintro ⟨sentAt, hsent, soldAt, hsold, signatureCode, hsignature, fingerprintCode, hfinger, rfl⟩
    exact ⟨sentAt, soldAt, signatureCode, fingerprintCode, hsent, hsold, hsignature, hfinger, rfl⟩
  · rintro ⟨sentAt, soldAt, signatureCode, fingerprintCode, hsent, hsold, hsignature, hfinger, rfl⟩
    exact ⟨sentAt, hsent, soldAt, hsold, signatureCode, hsignature, fingerprintCode, hfinger, rfl⟩

/-- A tag of a receipt. -/
def receiptTag (l : String) (declarations : List Declaration)
    (attributes : List MarkupAttribute) : Tag :=
  ⟨⟨none, l⟩, some receiptNs, declarations,
    attributes.map fun a => ⟨⟨none, a.1⟩, none, String.ofList a.2⟩⟩

/-- An element of a receipt with a text. -/
def receiptLeaf (l : String) (attributes : List MarkupAttribute) (text : List Char) : Element :=
  ⟨receiptTag l [] attributes, [.text (String.ofList text)]⟩

/-- The text of a code is what was written into it. -/
theorem text_receiptLeaf (l : String) (attributes : List MarkupAttribute) (text : List Char) :
    (receiptLeaf l attributes text).text = String.ofList text := by
  refine String.toList_inj.1 ?_
  rw [Element.toList_text]
  simp [receiptLeaf]

/-- The attributes of the signature code. -/
def signatureCodeAttributes : List MarkupAttribute :=
  [("digest", "SHA256".toList), ("cipher", "RSA2048".toList), ("encoding", "base64".toList)]

/-- The attributes of the fingerprint code. -/
def fingerprintCodeAttributes : List MarkupAttribute :=
  [("digest", "SHA1".toList), ("encoding", "base16".toList)]

def signatureCodeElement (signatureCode : Octets) : Element :=
  receiptLeaf "pkp" signatureCodeAttributes (Base64.encodeChars signatureCode)

def fingerprintCodeElement (fingerprintCode : String) : Element :=
  receiptLeaf "bkp" fingerprintCodeAttributes fingerprintCode.toList

def codesElement (signatureCode : Octets) (fingerprintCode : String) : Element :=
  ⟨receiptTag "KontrolniKody" [] [], [(signatureCodeElement signatureCode).toNode,
    (fingerprintCodeElement fingerprintCode).toNode]⟩

/-- **The element of a sale**, each value under its name. -/
def receiptElement (s : Sale) (sentAt soldAt : Time.Timestamp) (signatureCode : Octets)
    (fingerprintCode : String) : Element :=
  ⟨receiptTag "Trzba" [⟨none, receiptNs⟩] [],
    [.element (receiptTag "Hlavicka" [] (headerAttributes s sentAt)) [],
      .element (receiptTag "Data" [] (dataAttributes s soldAt)) [],
      (codesElement signatureCode fingerprintCode).toNode]⟩

section Element

variable {s : Sale} {sentAt soldAt : Time.Timestamp} {signatureCode : Octets}
  {fingerprintCode : String} {outer : Context}

/-- Attributes that declare nothing are all values. -/
theorem NamedAmong.declares_nothing {names : List String} {attributes : List MarkupAttribute}
    (h : NamedAmong names attributes) (hnames : "xmlns" ∉ names) :
    Markup.declarations attributes = [] ∧ Markup.values attributes =
      attributes.map fun a => ⟨⟨none, a.1⟩, none, String.ofList a.2⟩ := by
  have hne : ∀ a ∈ attributes, a.1 ≠ "xmlns" := by
    intro a ha hname
    exact hnames (hname ▸ h.subset (List.mem_map_of_mem ha))
  constructor
  · have hpart : attributes.map Markup.part =
        attributes.map fun a => .assigns ⟨none, a.1⟩ (String.ofList a.2) :=
      List.map_congr_left fun a ha => if_neg (hne a ha)
    rw [Markup.declarations, hpart, declarationsOf, List.filterMap_map]
    exact List.filterMap_eq_nil_iff.2 fun _ _ => rfl
  · rw [Markup.values, List.filter_eq_self.2 fun a ha => decide_eq_true (hne a ha)]

/-- Inside a receipt the default namespace is that of receipts. -/
theorem tag_inside {l : String} {names : List String} {attributes : List MarkupAttribute}
    (h : NamedAmong names attributes) (hnames : "xmlns" ∉ names)
    (houter : outer.resolve? none = some receiptNs) :
    Markup.tag outer l attributes = receiptTag l [] attributes := by
  obtain ⟨hdeclarations, hvalues⟩ := h.declares_nothing hnames
  have hns : receiptNs ≠ "" := by decide
  have hresolve : Context.resolve? ([] :: outer) none = outer.resolve? none := rfl
  rw [Markup.tag, hdeclarations, hvalues, hresolve, houter, receiptTag]
  simp [hns]

/-- The element of a sale declares this namespace itself. -/
theorem tag_receipt (outer : Context) :
    Markup.tag outer "Trzba" [("xmlns", receiptNs.toList)] =
      receiptTag "Trzba" [⟨none, receiptNs⟩] [] := by
  have hns : receiptNs ≠ "" := by decide
  have hdeclarations : Markup.declarations [("xmlns", receiptNs.toList)] = [⟨none, receiptNs⟩] := by
    simp [Markup.declarations, Markup.part, declarationsOf]
  have hvalues : Markup.values [("xmlns", receiptNs.toList)] = [] := rfl
  rw [Markup.tag, hdeclarations, hvalues, receiptTag]
  simp [Context.resolve?, hns]

/-- The markup of both codes means their element. -/
theorem node_codesMarkup (houter : outer.resolve? none = some receiptNs) :
    (codesMarkup signatureCode fingerprintCode).node outer =
      (codesElement signatureCode fingerprintCode).toNode := by
  have hnothing : NamedAmong [] [] := List.Sublist.refl _
  have hsignature : NamedAmong ["digest", "cipher", "encoding"] signatureCodeAttributes :=
    List.Sublist.refl _
  have hfingerprint : NamedAmong ["digest", "encoding"] fingerprintCodeAttributes :=
    List.Sublist.refl _
  have hinside : Context.resolve? ([] :: outer) none = some receiptNs := houter
  have hcodes := tag_inside (l := "KontrolniKody") hnothing (by decide) houter
  have hpkp := tag_inside (l := "pkp") hsignature (by decide) hinside
  have hbkp := tag_inside (l := "bkp") hfingerprint (by decide) hinside
  have hdeclarations : Markup.declarations [] = [] := rfl
  rw [codesMarkup, ← signatureCodeAttributes, ← fingerprintCodeAttributes]
  simp only [Markup.node, Markup.nodes, hcodes, hpkp, hbkp, hdeclarations]
  rfl

/-- **The markup of a sale means its element.** -/
theorem node_receiptMarkup (outer : Context) :
    (receiptMarkup s sentAt soldAt signatureCode fingerprintCode).node outer =
      (receiptElement s sentAt soldAt signatureCode fingerprintCode).toNode := by
  have hroot : Markup.declarations [("xmlns", receiptNs.toList)] = [⟨none, receiptNs⟩] :=
    congrArg Tag.declarations (tag_receipt outer)
  have hinside : Context.resolve? ([⟨none, receiptNs⟩] :: outer) none = some receiptNs := by
    simp [Context.resolve?]
  have hheader := tag_inside (l := "Hlavicka") (namedAmong_headerAttributes s sentAt) (by decide)
    hinside
  have hdata := tag_inside (l := "Data") (namedAmong_dataAttributes s soldAt) (by decide) hinside
  rw [receiptMarkup]
  simp only [Markup.node, Markup.nodes, tag_receipt, hroot, hheader, hdata,
    node_codesMarkup hinside]
  rfl

/-- **The markup of a valid sale can be read**, where its codes are not empty. -/
theorem receiptMarkup_readable (hvalid : s.IsValid) (hsignature : signatureCode ≠ [])
    (hfingerprint : fingerprintCode.toList ≠ []) (hinline : IsInline fingerprintCode.toList) :
    (receiptMarkup s sentAt soldAt signatureCode fingerprintCode).Readable := by
  have hroot : Markup.IsTag "Trzba" [("xmlns", receiptNs.toList)] :=
    ⟨by decide, by decide, by decide, by decide⟩
  have hcodes : Markup.IsTag "KontrolniKody" [] := ⟨by decide, by decide, by decide, by decide⟩
  have hpkp : Markup.IsTag "pkp" signatureCodeAttributes :=
    ⟨by decide, by decide, by decide, by decide⟩
  have hbkp : Markup.IsTag "bkp" fingerprintCodeAttributes :=
    ⟨by decide, by decide, by decide, by decide⟩
  have hencoded : Base64.encodeChars signatureCode ≠ [] := by
    intro h
    exact hsignature (Base64.encodeChars_injective (b := []) h)
  refine .element hroot ?_
  simp only [List.forall_mem_cons]
  refine ⟨.empty (isTag_header s sentAt), .empty (isTag_data hvalid soldAt),
    .element hcodes ?_, List.forall_mem_nil _⟩
  simp only [List.forall_mem_cons]
  exact ⟨.leaf hpkp hencoded (isInline_encodeChars _), .leaf hbkp hfingerprint hinline,
    List.forall_mem_nil _⟩

end Element

/-! ## The envelope of a sale -/

/-- The way to the element of a sale. -/
def saleSteps : List (String × String) := bodySteps ++ [(receiptNs, "Trzba")]

/-- The way to its header. -/
def headerSteps : List (String × String) := saleSteps ++ [(receiptNs, "Hlavicka")]

/-- The way to one of its codes. -/
def codeSteps (name : String) : List (String × String) :=
  saleSteps ++ [(receiptNs, "KontrolniKody"), (receiptNs, name)]

section Envelope

variable {certificate digest signature : Octets} {s : Sale} {sentAt soldAt : Time.Timestamp}
  {signatureCode : Octets} {fingerprintCode : String}

/-- **Readable markup is read in the body of an envelope** as what it means. -/
theorem ofChars_filled_markup {m : Markup} (h : m.Readable) :
    Document.ofChars (filled certificate digest signature m.write) =
      .ok ⟨envelopeElement certificate digest signature
        [m.node [bodyTag.declarations, envelopeTag.declarations]] []⟩ := by
  rw [ofChars_filled, atSecond, h.isReadIn]
  exact resume_afterBody [_]

theorem firstAt_receipt : (Element.mk bodyTag
      [(receiptElement s sentAt soldAt signatureCode fingerprintCode).toNode]).FirstAt receiptNs
    "Trzba" 0 (receiptElement s sentAt soldAt signatureCode fingerprintCode) :=
  .of_localPart rfl ⟨rfl, rfl⟩ (by simp)

theorem firstAt_receiptHeader :
    (receiptElement s sentAt soldAt signatureCode fingerprintCode).FirstAt receiptNs "Hlavicka" 0
      ⟨receiptTag "Hlavicka" [] (headerAttributes s sentAt), []⟩ :=
  .of_localPart rfl ⟨rfl, rfl⟩ (by simp)

theorem firstAt_codes :
    (receiptElement s sentAt soldAt signatureCode fingerprintCode).FirstAt receiptNs
      "KontrolniKody" 2 (codesElement signatureCode fingerprintCode) :=
  .of_localPart rfl ⟨rfl, rfl⟩ (by simp [receiptElement, receiptTag])

theorem firstAt_signatureCode : (codesElement signatureCode fingerprintCode).FirstAt receiptNs
    "pkp" 0 (signatureCodeElement signatureCode) :=
  .of_localPart rfl ⟨rfl, rfl⟩ (by simp)

theorem firstAt_fingerprintCode : (codesElement signatureCode fingerprintCode).FirstAt receiptNs
    "bkp" 1 (fingerprintCodeElement fingerprintCode) :=
  .of_localPart rfl ⟨rfl, rfl⟩ (by
    simp [codesElement, signatureCodeElement, receiptLeaf, receiptTag, Element.toNode])

end Envelope

end FiscalGateway.Soap

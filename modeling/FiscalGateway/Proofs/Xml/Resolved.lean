import FiscalGateway.Proofs.Outcome
import FiscalGateway.Proofs.Text.Split
import FiscalGateway.Proofs.Xml.Scan
import Mathlib.Data.List.Chain
import Mathlib.Data.List.DropRight

/-!
# Resolved trees — what every parsed document satisfies

A tag that was read has its prefixes looked up in what surrounds it, and no attribute twice
(`Tag.ResolvedIn`); adjacent texts are joined (`Separated`) and instructions cut at a blank
(`IsInstruction`). Each token keeps this (`Builder.Resolved.step`), so it holds of every document
(`Document.resolved_of_parse`).
-/

namespace FiscalGateway.Xml

open Outcome

/-! ## Parts of a tag -/

/-- The name under which a declaration is written. -/
def Declaration.name (d : Declaration) : QName :=
  match d.nsPrefix with
  | some p => ⟨some "xmlns", p⟩
  | none => ⟨none, "xmlns"⟩

theorem Declaration.name_inj {d d' : Declaration} :
    d.name = d'.name ↔ d.nsPrefix = d'.nsPrefix := by
  obtain ⟨p, _⟩ := d
  obtain ⟨p', _⟩ := d'
  cases p <;> cases p' <;> simp [Declaration.name]

namespace TagPart

/-- The name of a part. -/
def name : TagPart → QName
  | declares d => d.name
  | assigns n _ => n

/-- The value of a part. -/
def value : TagPart → String
  | declares d => d.uri
  | assigns _ v => v

/-- The attribute of a tag as a part. -/
def ofTagAttribute (a : Attribute) : TagPart := assigns a.name a.value

/-- Whether a name and a value give just this part. -/
def IsRead (p : TagPart) : Prop := ofAttribute p.name p.value = .ok p

theorem of_ofAttribute {name : QName} {value : String} {p : TagPart}
    (h : ofAttribute name value = .ok p) : p.name = name ∧ p.value = value := by
  obtain ⟨n, l⟩ := name
  cases n with
  | none =>
    simp only [ofAttribute] at h
    split at h
    · next hl =>
      obtain rfl := Except.ok.inj h
      simp [TagPart.name, TagPart.value, Declaration.name, hl]
    · obtain rfl := Except.ok.inj h
      exact ⟨rfl, rfl⟩
  | some q =>
    simp only [ofAttribute] at h
    split at h
    · next hq =>
      split at h
      · contradiction
      · obtain rfl := Except.ok.inj h
        simp [TagPart.name, TagPart.value, Declaration.name, hq]
    · obtain rfl := Except.ok.inj h
      exact ⟨rfl, rfl⟩

/-- A declaration is read if it does not bind a prefix to nothing. -/
theorem isRead_declares {d : Declaration} :
    (declares d).IsRead ↔ (d.nsPrefix ≠ none → d.uri ≠ "") := by
  obtain ⟨p, uri⟩ := d
  cases p <;> simp [IsRead, ofAttribute, name, value, Declaration.name]

/-- An attribute is read if it does not have the name of a declaration. -/
theorem isRead_ofTagAttribute {a : Attribute} : (ofTagAttribute a).IsRead ↔
    a.name.nsPrefix ≠ some "xmlns" ∧ a.name ≠ ⟨none, "xmlns"⟩ := by
  obtain ⟨⟨p, l⟩, ns, v⟩ := a
  cases p with
  | none => simp [IsRead, ofAttribute, name, value, ofTagAttribute]
  | some p =>
    simp only [IsRead, ofAttribute, name, value, ofTagAttribute]
    by_cases hp : p = "xmlns"
    · by_cases hv : v.isEmpty = true <;> simp [hp, hv]
    · simp [hp]

/-- What is read as an attribute does not have the name of a declaration. -/
theorem IsRead.name_ne {a : Attribute} (h : (ofTagAttribute a).IsRead) (d : Declaration) :
    a.name ≠ d.name := by
  obtain ⟨hbound, hname⟩ := isRead_ofTagAttribute.1 h
  obtain ⟨p, uri⟩ := d
  cases p with
  | none => exact hname
  | some p =>
    intro e
    exact hbound (by rw [e]; rfl)

end TagPart

/-- The parts of a tag: its declarations, and its attributes behind them. -/
def Tag.parts (tag : Tag) : List TagPart :=
  tag.declarations.map .declares ++ tag.attributes.map .ofTagAttribute

/-- **What is read of a tag** has names that differ, and each part is given by its name and
value. -/
theorem readTagParts_spec {seen : List (List Char)} {s : List Char} {parts : List TagPart}
    (h : readTagParts seen s = .ok parts) :
    (parts.map (·.name)).Nodup ∧ (∀ p ∈ parts, p.name.toChars ∉ seen) ∧ ∀ p ∈ parts, p.IsRead := by
  fun_induction readTagParts seen s generalizing parts with
  | case1 =>
    obtain rfl := Except.ok.inj h
    simp
  | case2 => contradiction
  | case3 => contradiction
  | case4 => contradiction
  | case5 => contradiction
  | case6 seen s first behind hs name raw after ha hseen value hv part hpart ih =>
    obtain ⟨more, hmore, rfl⟩ := map_eq_ok.1 h
    -- what is read behind this part does not have its name: the name was noted before it
    obtain ⟨hnodup, hfresh, hread⟩ := ih hmore
    obtain ⟨hname, hvalue⟩ := TagPart.of_ofAttribute hpart
    have hchars : part.name.toChars = name := by rw [hname, QName.toChars_ofChars]
    refine ⟨?_, ?_, ?_⟩
    · rw [List.map_cons, List.nodup_cons]
      refine ⟨fun hm => ?_, hnodup⟩
      obtain ⟨q, hq, he⟩ := List.mem_map.1 hm
      refine hfresh q hq ?_
      rw [he, hchars]
      exact List.mem_cons_self
    · intro p hp
      rcases List.mem_cons.1 hp with rfl | hp
      · rw [hchars]
        exact hseen
      · exact fun hm => hfresh p hp (List.mem_cons_of_mem name hm)
    · intro p hp
      rcases List.mem_cons.1 hp with rfl | hp
      · rw [TagPart.IsRead, hname, hvalue]
        exact hpart
      · exact hread p hp

/-! ## Tags -/

/-- A tag as it is read where `outer` is visible. -/
structure Tag.ResolvedIn (outer : Context) (tag : Tag) : Prop where
  /-- The prefix of the name is looked up. -/
  ns : Context.elementNamespace (tag.declarations :: outer) tag.name = .ok tag.ns
  /-- And so are those of the attributes. -/
  attributes : ∀ a ∈ tag.attributes,
    Context.attribute (tag.declarations :: outer) a.name a.value = .ok a
  /-- No name is given twice. -/
  distinct : (tag.parts.map (·.name)).Nodup
  /-- Declarations and attributes are told apart by their names. -/
  read : ∀ p ∈ tag.parts, p.IsRead

namespace Tag

variable {tag : Tag} {outer : Context}

/-- A tag declares each prefix once. -/
theorem ResolvedIn.nodup_declarations (h : tag.ResolvedIn outer) :
    (tag.declarations.map (·.nsPrefix)).Nodup := by
  have hnames := h.distinct
  rw [parts, List.map_append, List.map_map, List.nodup_append] at hnames
  refine List.pairwise_map.2 ((List.pairwise_map.1 hnames.1).imp fun hne he => hne ?_)
  exact Declaration.name_inj.2 he

/-- And has each attribute once. -/
theorem ResolvedIn.nodup_attributes (h : tag.ResolvedIn outer) :
    (tag.attributes.map (·.name)).Nodup := by
  have hnames := h.distinct
  rw [parts, List.map_append, List.nodup_append, List.map_map, List.map_map] at hnames
  exact hnames.2.1

/-- An attribute in no namespace has no prefix. -/
theorem ResolvedIn.nsPrefix_eq_none (h : tag.ResolvedIn outer) {a : Attribute}
    (ha : a ∈ tag.attributes) (hns : a.ns = none) : a.name.nsPrefix = none := by
  have hself := h.attributes a ha
  unfold Context.attribute at hself
  split at hself
  · split at hself
    · rw [← Except.ok.inj hself] at hns
      contradiction
    · contradiction
  · assumption

end Tag

/-- An attribute that is looked up has the name and the value that are given. -/
theorem Context.ofTagAttribute_of_attribute {context : Context} {name : QName} {value : String}
    {a : Attribute} (h : context.attribute name value = .ok a) :
    TagPart.ofTagAttribute a = .assigns name value ∧ context.attribute a.name a.value = .ok a := by
  have hself : a.name = name ∧ a.value = value := by
    unfold Context.attribute at h
    split at h
    · split at h
      · obtain rfl := Except.ok.inj h
        exact ⟨rfl, rfl⟩
      · contradiction
    · obtain rfl := Except.ok.inj h
      exact ⟨rfl, rfl⟩
  obtain ⟨rfl, rfl⟩ := hself
  exact ⟨rfl, h⟩

/-- The attributes have the names and values of the parts that are no declarations. -/
theorem attributesOf_spec {context : Context} {parts : List TagPart} {attributes : List Attribute}
    (h : attributesOf context parts = .ok attributes) :
    List.Perm ((declarationsOf parts).map .declares ++ attributes.map .ofTagAttribute) parts ∧
      ∀ a ∈ attributes, context.attribute a.name a.value = .ok a := by
  induction parts generalizing attributes with
  | nil =>
    obtain rfl := Except.ok.inj h
    simp [declarationsOf]
  | cons p parts ih =>
    cases p with
    | declares d =>
      obtain ⟨hperm, hall⟩ := ih h
      refine ⟨?_, hall⟩
      simp only [declarationsOf, List.filterMap_cons, List.map_cons, List.cons_append]
      exact hperm.cons (.declares d)
    | assigns name value =>
      simp only [attributesOf, bind_eq_ok, pure_eq_ok] at h
      obtain ⟨a, ha, more, hm, rfl⟩ := h
      obtain ⟨hperm, hall⟩ := ih hm
      obtain ⟨hpart, hself⟩ := Context.ofTagAttribute_of_attribute ha
      refine ⟨?_, List.forall_mem_cons.2 ⟨hself, hall⟩⟩
      rw [List.map_cons, hpart]
      exact List.perm_middle.trans (hperm.cons (.assigns name value))

/-- **A tag that was read is resolved.** -/
theorem Tag.resolvedIn_of_read {outer : Context} {raw : List Char} {tag : Tag}
    (h : Tag.read outer raw = .ok tag) : tag.ResolvedIn outer := by
  simp only [Tag.read, bind_eq_ok, pure_eq_ok] at h
  obtain ⟨parts, hp, ns, hn, attributes, ha, rfl⟩ := h
  obtain ⟨hperm, hall⟩ := attributesOf_spec ha
  obtain ⟨hnodup, -, hread⟩ := readTagParts_spec hp
  exact ⟨hn, hall, (hperm.map _).nodup_iff.2 hnodup, fun p hm => hread p (hperm.mem_iff.1 hm)⟩

/-! ## Trees -/

/-- Whether a piece of content is a text. -/
def Node.isText : Node → Bool
  | .text _ => true
  | _ => false

/-- No two texts stand side by side. -/
def Separated (nodes : List Node) : Prop :=
  nodes.IsChain fun m n => ¬ (m.isText = true ∧ n.isText = true)

theorem separated_nil : Separated [] := List.IsChain.nil

/-- An instruction as it is cut at its first blank. -/
structure IsInstruction (target data : String) : Prop where
  unbroken : ∀ c ∈ target.toList, Text.isBlank c = false
  trimmed : Text.trimStart data.toList = data.toList
  /-- It does not end inside. -/
  closed : splitAt? ['?', '>'] (data.toList ++ ['?', '>']) = some (data.toList, [])

/-- A tree as it is read where `outer` is visible. -/
inductive Node.ResolvedIn : Context → Node → Prop
  | element {outer : Context} {tag : Tag} {children : List Node} (htag : tag.ResolvedIn outer)
      (hchildren : ∀ n ∈ children, n.ResolvedIn (tag.declarations :: outer))
      (hseparated : Separated children) : ResolvedIn outer (.element tag children)
  | text {outer : Context} {s : String} : ResolvedIn outer (.text s)
  | instruction {outer : Context} {target data : String} (h : IsInstruction target data) :
      ResolvedIn outer (.instruction target data)

/-! ## Reading keeps trees resolved -/

/-- A token as it is cut out of a text: an instruction ends at the first place it can. -/
def Token.IsCut : Token → Prop
  | .instruction raw => splitAt? ['?', '>'] (raw ++ ['?', '>']) = some (raw, [])
  | _ => True

theorem isCut_scanMarkup (s : List Char) : (scanMarkup s).1.IsCut := by
  unfold scanMarkup
  split <;> try trivial
  · split <;> trivial
  · split <;> trivial
  · next s _ _ => rcases scanDoctype_eq s with h | h <;> rw [h] <;> trivial
  · split <;> trivial
  · split
    · next raw after h =>
      have hcut : Token.IsCut (.instruction raw) := by
        have := splitAt?_replace h []
        rwa [List.append_nil] at this
      unfold instructionToken
      split
      · split
        · trivial
        · split
          · trivial
          · exact hcut
      · exact hcut
    · trivial
  · split
    · unfold tagToken
      split <;> trivial
    · trivial

theorem isCut_of_mem_scan {s : List Char} : ∀ t ∈ Token.scan s, t.IsCut := by
  fun_induction Token.scan s with
  | case1 => simp
  | case2 rest ih =>
    intro t ht
    rcases List.mem_cons.1 ht with rfl | ht
    · exact isCut_scanMarkup rest
    · exact ih t ht
  | case3 c rest hc ih =>
    intro t ht
    rcases List.mem_cons.1 ht with rfl | ht
    · trivial
    · exact ih t ht

/-- The declarations visible inside open elements. -/
def contextOf (opened : List OpenElement) : Context := opened.map (·.tag.declarations)

/-- Open elements, each resolved in those around it. -/
def Stacked : List OpenElement → Prop
  | [] => True
  | e :: outer =>
    e.tag.ResolvedIn (contextOf outer) ∧
      (∀ n ∈ e.content, n.ResolvedIn (contextOf (e :: outer))) ∧
      Separated e.content ∧ Stacked outer

/-- **The state of the reader**: what is open and what is finished is resolved. -/
structure Builder.Resolved (b : Builder) : Prop where
  opened : Stacked b.opened
  root : ∀ e, b.root = some e → e.toNode.ResolvedIn []

namespace Builder

variable {b b' : Builder}

theorem separated_cons {n : Node} {content : List Node} (hn : n.isText = false)
    (h : Separated content) : Separated (n :: content) :=
  List.IsChain.cons h fun _ _ hb => Bool.false_ne_true (hn.symm.trans hb.1)

theorem separated_addText {s : List Char} {content : List Node} (h : Separated content) :
    Separated (addText s content) := by
  unfold addText
  split
  · next t rest =>
    -- both texts keep what follows them from being one
    obtain ⟨hhead, hrest⟩ := List.isChain_cons.1 h
    exact List.IsChain.cons hrest hhead
  · next hne =>
    refine List.IsChain.cons h fun n hn hb => ?_
    obtain ⟨rest, rfl⟩ := List.head?_eq_some_iff.1 hn
    cases n with
    | text t => exact hne t rest rfl
    | element _ _ => exact Bool.false_ne_true hb.2
    | instruction _ _ => exact Bool.false_ne_true hb.2

theorem Resolved.text {s : List Char} (hb : b.Resolved) (h : b.text s = .ok b') : b'.Resolved := by
  obtain ⟨opened, root⟩ := b
  cases opened with
  | nil =>
    simp only [Builder.text] at h
    split at h
    · obtain rfl := Except.ok.inj h
      exact hb
    · contradiction
  | cons e outer =>
    obtain rfl := Except.ok.inj h
    -- joined to a text or not, one text is on top then
    obtain ⟨htag, hcontent, hseparated, houter⟩ := hb.opened
    refine ⟨⟨htag, fun n hn => ?_, separated_addText hseparated, houter⟩, hb.root⟩
    unfold addText at hn
    split at hn
    · next t rest he =>
      rcases List.mem_cons.1 hn with rfl | hn
      · exact .text
      · exact hcontent n (he ▸ List.mem_cons_of_mem _ hn)
    · rcases List.mem_cons.1 hn with rfl | hn
      · exact .text
      · exact hcontent n hn

/-- A node that is no text may be added to the innermost open element. -/
theorem stacked_push {e : OpenElement} {outer : List OpenElement} {n : Node}
    (h : Stacked (e :: outer)) (hn : n.ResolvedIn (contextOf (e :: outer)))
    (htext : n.isText = false) : Stacked ({ e with content := n :: e.content } :: outer) := by
  obtain ⟨htag, hcontent, hseparated, houter⟩ := h
  refine ⟨htag, fun m hm => ?_, separated_cons htext hseparated, houter⟩
  rcases List.mem_cons.1 hm with rfl | hm
  · exact hn
  · exact hcontent m hm

theorem Resolved.attach {opened : List OpenElement} {root : Option Element} {e : Element}
    (hopened : Stacked opened) (hroot : ∀ e, root = some e → e.toNode.ResolvedIn [])
    (he : e.toNode.ResolvedIn (contextOf opened)) (h : attach opened root e = .ok b') :
    b'.Resolved := by
  cases opened with
  | nil =>
    cases root with
    | none =>
      obtain rfl := Except.ok.inj h
      refine ⟨trivial, fun e' h' => ?_⟩
      obtain rfl := Option.some.inj h'
      exact he
    | some _ => contradiction
  | cons parent outer =>
    obtain rfl := Except.ok.inj h
    exact ⟨stacked_push hopened he rfl, hroot⟩

theorem isInstruction_of_cut {raw : List Char}
    (h : splitAt? ['?', '>'] (raw ++ ['?', '>']) = some (raw, [])) {target data : List Char}
    (hsplit : (Text.splitOnce Text.isBlank raw).getD (raw, []) = (target, data)) :
    IsInstruction (String.ofList target) (String.ofList (Text.trimStart data)) := by
  cases hs : Text.splitOnce Text.isBlank raw with
  | none =>
    rw [hs] at hsplit
    obtain ⟨rfl, rfl⟩ : raw = target ∧ [] = data := by simpa using hsplit
    refine ⟨?_, by simp [Text.trimStart], by decide⟩
    simpa using Text.splitOnce_eq_none_iff.1 hs
  | some p =>
    rw [hs] at hsplit
    obtain rfl : p = (target, data) := by simpa using hsplit
    obtain ⟨c, -, rfl, htarget⟩ := Text.eq_append_of_splitOnce hs
    refine ⟨by simpa using htarget, ?_, ?_⟩
    · simp only [String.toList_ofList, Text.trimStart, List.dropWhile_idempotent]
    · -- the data is a suffix of what was cut, so it holds no end of its own either
      have hsuffix : target ++ c :: data =
          (target ++ c :: data.takeWhile Text.isBlank) ++ Text.trimStart data := by
        simp [Text.trimStart]
      rw [String.toList_ofList]
      rw [hsuffix, List.append_assoc] at h
      exact splitAt?_drop h

theorem Resolved.instruction {raw : List Char} (hb : b.Resolved)
    (h : splitAt? ['?', '>'] (raw ++ ['?', '>']) = some (raw, [])) :
    (b.instruction raw).Resolved := by
  obtain ⟨opened, root⟩ := b
  cases opened with
  | nil => exact hb
  | cons e outer =>
    refine ⟨stacked_push hb.opened ?_ rfl, hb.root⟩
    exact .instruction (isInstruction_of_cut h rfl)

/-- **One token keeps what was read resolved.** -/
theorem Resolved.step {t : Token} (hb : b.Resolved) (ht : t.IsCut) (h : b.step t = .ok b') :
    b'.Resolved := by
  cases t with
  | text raw =>
    simp only [Builder.step] at h
    split at h
    · exact hb.text h
    · contradiction
  | cdata raw => exact hb.text h
  | comment =>
    obtain rfl := Except.ok.inj h
    exact hb
  | header =>
    obtain rfl := Except.ok.inj h
    exact hb
  | startTag raw =>
    simp only [Builder.step, bind_eq_ok, pure_eq_ok] at h
    obtain ⟨tag, hr, rfl⟩ := h
    -- the tag was read against what is open now, which is what it is to be resolved in
    have htag : tag.ResolvedIn (contextOf b.opened) := Tag.resolvedIn_of_read hr
    exact ⟨⟨htag, by simp, separated_nil, hb.opened⟩, hb.root⟩
  | emptyTag raw =>
    simp only [Builder.step, bind_eq_ok] at h
    obtain ⟨tag, hr, h⟩ := h
    have htag : tag.ResolvedIn (contextOf b.opened) := Tag.resolvedIn_of_read hr
    exact .attach hb.opened hb.root (.element htag (by simp) separated_nil) h
  | endTag name =>
    obtain ⟨opened, root⟩ := b
    cases opened with
    | nil => contradiction
    | cons e outer =>
      simp only [Builder.step] at h
      split at h
      · obtain ⟨htag, hcontent, hseparated, houter⟩ := hb.opened
        -- content is kept in reverse, and neighbours stay neighbours
        refine .attach houter hb.root (.element htag (fun n hn => ?_) ?_) h
        · exact hcontent n (List.mem_reverse.1 hn)
        · refine List.isChain_reverse.2 (hseparated.imp fun m n hmn hb => hmn ⟨hb.2, hb.1⟩)
      · contradiction
  | instruction raw =>
    obtain rfl := Except.ok.inj h
    exact hb.instruction ht
  | doctype => contradiction
  | fault cause => contradiction

/-- And so do many. -/
theorem Resolved.run {ts : List Token} (hb : b.Resolved) (hts : ∀ t ∈ ts, t.IsCut)
    (h : ts.foldlM Builder.step b = .ok b') : b'.Resolved := by
  induction ts generalizing b with
  | nil =>
    obtain rfl := Except.ok.inj h
    exact hb
  | cons t ts ih =>
    rw [List.foldlM_cons] at h
    obtain ⟨b₁, hs, hrest⟩ := bind_eq_ok.1 h
    exact ih (hb.step (hts t (by simp)) hs) (fun t ht => hts t (List.mem_cons_of_mem _ ht)) hrest

end Builder

/-- **Every document that was read is resolved.** -/
theorem Document.resolved_of_ofChars {s : List Char} {d : Document}
    (h : Document.ofChars s = .ok d) : d.root.toNode.ResolvedIn [] := by
  rw [ofChars_eq] at h
  obtain ⟨b, hb, hfinish⟩ := bind_eq_ok.1 h
  have hres : b.Resolved :=
    Builder.Resolved.run (b := ⟨[], none⟩) ⟨trivial, by simp⟩ isCut_of_mem_scan hb
  unfold Builder.finish at hfinish
  split at hfinish
  · contradiction
  · split at hfinish
    · next root hroot =>
      obtain rfl := Except.ok.inj hfinish
      exact hres.root root hroot
    · contradiction

theorem Document.resolved_of_parse {input : Octets} {d : Document}
    (h : Document.parse input = .ok d) : d.root.toNode.ResolvedIn [] := by
  unfold Document.parse at h
  split at h
  · exact Document.resolved_of_ofChars h
  · contradiction

end FiscalGateway.Xml

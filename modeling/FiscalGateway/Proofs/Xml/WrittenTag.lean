import FiscalGateway.Proofs.Xml.CharacterData
import FiscalGateway.Proofs.Xml.Name
import FiscalGateway.Proofs.Xml.Resolved
import FiscalGateway.Xml.Canonical

/-!
# Written tags — what is written is read

A tag is written as its name and a run of parts, each a declaration or an attribute (`writeInside`).
`readTagParts_flatMap` reads such parts back in order, whatever way of writing values is read as the
values (`Escapes`). With canonical values (`Tag.print`) `resume_print` makes a resolved tag of
proper names one step of the reader, which gives that tag again.
-/

namespace FiscalGateway.Xml

/-! ## Names inside tags -/

namespace QName

variable {n : QName}

/-- A character of a proper name is a name character or a colon. -/
theorem IsProper.ne_of_mem (h : n.IsProper) {c d : Char} (hc : c ∈ n.toChars)
    (hd : isNameChar d = false) (hcolon : d ≠ ':') : c ≠ d :=
  fun e => h.not_mem_toChars hd hcolon (e ▸ hc)

theorem IsProper.isMarkupBlank_of_mem (h : n.IsProper) {c : Char} (hc : c ∈ n.toChars) :
    Text.isMarkupBlank c = false := by
  have h₁ : c ≠ ' ' := h.ne_of_mem hc (by decide) (by decide)
  have h₂ : c ≠ '\t' := h.ne_of_mem hc (by decide) (by decide)
  have h₃ : c ≠ '\n' := h.ne_of_mem hc (by decide) (by decide)
  have h₄ : c ≠ '\r' := h.ne_of_mem hc (by decide) (by decide)
  simp [Text.isMarkupBlank, h₁, h₂, h₃, h₄]

theorem IsProper.endsAttributeName_of_mem (h : n.IsProper) {c : Char} (hc : c ∈ n.toChars) :
    endsAttributeName c = false := by
  have hequals : c ≠ '=' := h.ne_of_mem hc (by decide) (by decide)
  simp [endsAttributeName, hequals, h.isMarkupBlank_of_mem hc]

/-- No tag ends inside a proper name. -/
theorem IsProper.closesQuotes_toChars (h : n.IsProper) : closesQuotes none n.toChars = true :=
  closesQuotes_of_plain fun _ hc => ⟨h.ne_of_mem hc (by decide) (by decide),
    h.ne_of_mem hc (by decide) (by decide), h.ne_of_mem hc (by decide) (by decide)⟩

end QName

/-! ## Parts -/

/-- A part of a tag, with its value as `escape` writes it. -/
def TagPart.writeWith (escape : List Char → List Char) (p : TagPart) : List Char :=
  ' ' :: p.name.toChars ++ '=' :: '"' :: escape p.value.toList ++ ['"']

/-- A part as it is written. -/
def TagPart.write (p : TagPart) : List Char :=
  ' ' :: p.name.toChars ++ '=' :: '"' :: escapeAttribute p.value.toList ++ ['"']

@[simp] theorem TagPart.writeWith_escapeAttribute (p : TagPart) :
    p.writeWith escapeAttribute = p.write := rfl

@[simp] theorem TagPart.write_declares (d : Declaration) :
    (TagPart.declares d).write = d.write := by
  obtain ⟨p, uri⟩ := d
  cases p <;> simp [write, Declaration.write, name, value, Declaration.name, QName.toChars]

@[simp] theorem TagPart.write_ofTagAttribute (a : Attribute) :
    (TagPart.ofTagAttribute a).write = a.write := rfl

/-- What is written of a value stays between its quotes and is read as that value. -/
structure Escapes (escape : List Char → List Char) (v : List Char) : Prop where
  unquoted : '"' ∉ escape v
  read : readAttributeValue (escape v) = .ok v

theorem escapes_escapeAttribute (v : List Char) : Escapes escapeAttribute v :=
  ⟨not_mem_escapeAttribute (.inl rfl) v, readAttributeValue_escapeAttribute v⟩

/-- **Parts that can be read again**, with the values as `escape` writes them. -/
structure ReadableParts (escape : List Char → List Char) (parts : List TagPart) : Prop where
  names : ∀ p ∈ parts, p.name.IsProper
  distinct : (parts.map (·.name)).Nodup
  read : ∀ p ∈ parts, p.IsRead
  escapes : ∀ p ∈ parts, Escapes escape p.value.toList

/-! ## Reading parts -/

/-- An attribute in double quotes is cut into its name, its raw value and what follows it. -/
theorem splitAttribute?_quoted {c : Char} {name v : List Char}
    (hname : ∀ d ∈ name, endsAttributeName d = false) (hv : '"' ∉ v) (s : List Char) :
    splitAttribute? c (name ++ '=' :: '"' :: (v ++ '"' :: s)) = some (c :: name, v, s) := by
  have hall : ∀ d ∈ name, (!endsAttributeName d) = true := by
    intro d hd
    rw [hname d hd]
    rfl
  have hends : endsAttributeName '=' = true := by decide
  have hequals : Text.isMarkupBlank '=' = false := by decide
  have hquote : Text.isMarkupBlank '"' = false := by decide
  have hsplit : splitAt? ['"'] (v ++ '"' :: s) = some (v, s) := by
    rw [splitAt?_of_not_mem hv, splitAt?]
    simp
  simp only [splitAttribute?, List.dropWhile_append_of_pos hall, List.takeWhile_append_of_pos hall,
    List.dropWhile_cons, List.takeWhile_cons, hends, hequals, hquote, Bool.not_true,
    Bool.false_eq_true, if_false, true_or, if_true, hsplit, Option.map_some, List.append_nil]

section Parts

variable {escape : List Char → List Char} {p : TagPart} {parts : List TagPart} {name : QName}

/-- The first written part is read in front of the others. -/
theorem readTagParts_cons (hname : p.name.IsProper) (hread : p.IsRead)
    (hescape : Escapes escape p.value.toList) {seen : List (List Char)}
    (hseen : p.name.toChars ∉ seen) (s : List Char) :
    readTagParts seen (p.writeWith escape ++ s) =
      (p :: ·) <$> readTagParts (p.name.toChars :: seen) s := by
  obtain ⟨c, name, hchars, -⟩ := hname.head
  have hends : ∀ d ∈ c :: name, endsAttributeName d = false := by
    intro d hd
    exact hname.endsAttributeName_of_mem (hchars ▸ hd)
  have hblank : Text.isMarkupBlank c = false :=
    hname.isMarkupBlank_of_mem (hchars ▸ List.mem_cons_self)
  have hwrite : p.writeWith escape ++ s =
      ' ' :: c :: (name ++ '=' :: '"' :: (escape p.value.toList ++ '"' :: s)) := by
    simp [TagPart.writeWith, hchars]
  -- the blank in front goes, and the name begins behind it
  have hdrop : (p.writeWith escape ++ s).dropWhile Text.isMarkupBlank =
      c :: (name ++ '=' :: '"' :: (escape p.value.toList ++ '"' :: s)) := by
    have hspace : Text.isMarkupBlank ' ' = true := by decide
    rw [hwrite, List.dropWhile_cons, hspace, if_pos rfl, List.dropWhile_cons, hblank]
    rfl
  have hsplit := splitAttribute?_quoted (c := c) (v := escape p.value.toList)
    (fun d hd => hends d (List.mem_cons_of_mem c hd)) hescape.unquoted s
  rw [readTagParts]
  split
  · next h => rw [hdrop] at h; contradiction
  · next first behind h =>
    rw [hdrop] at h
    obtain ⟨rfl, rfl⟩ := List.cons.inj h
    split
    · next h' => rw [hsplit] at h'; contradiction
    · next n' raw after h' =>
      rw [hsplit] at h'
      simp only [Option.some.injEq, Prod.mk.injEq] at h'
      obtain ⟨rfl, rfl, rfl⟩ := h'
      -- a new name, a value that reads as what was escaped, and a part that is itself again
      rw [← hchars, if_neg hseen, hescape.read, QName.ofChars_toChars hname]
      have hself : TagPart.ofAttribute p.name p.value = .ok p := hread
      simp only [String.ofList_toList, hself]

/-- **Written parts are read in order.** -/
theorem readTagParts_flatMap (h : ReadableParts escape parts) {seen : List (List Char)}
    (hseen : ∀ p ∈ parts, p.name.toChars ∉ seen) :
    readTagParts seen (parts.flatMap (TagPart.writeWith escape)) = .ok parts := by
  obtain ⟨hnames, hnodup, hread, hescapes⟩ := h
  induction parts generalizing seen with
  | nil =>
    rw [List.flatMap_nil, readTagParts]
    rfl
  | cons p parts ih =>
    rw [List.map_cons, List.nodup_cons] at hnodup
    rw [List.forall_mem_cons] at hnames hread hescapes hseen
    rw [List.flatMap_cons, readTagParts_cons hnames.1 hread.1 hescapes.1 hseen.1,
      ih _ hnames.2 hnodup.2 hread.2 hescapes.2]
    · rfl
    · intro q hq hmem
      rcases List.mem_cons.1 hmem with h | h
      · have : q.name = p.name := (QName.toChars_inj (hnames.2 q hq) hnames.1).1 h
        exact hnodup.1 (this ▸ List.mem_map_of_mem (f := TagPart.name) hq)
      · exact hseen.2 q hq h

/-- What stands behind the name of a written tag begins with a blank, if there is anything. -/
theorem head?_flatMap_writeWith (parts : List TagPart) :
    ∀ c, (parts.flatMap (TagPart.writeWith escape)).head? = some c → c = ' ' := by
  intro c hc
  cases parts with
  | nil => simp at hc
  | cons p parts => simpa [TagPart.writeWith, eq_comm] using hc

/-! ## The inside of a tag -/

/-- The inside of a tag: a name and parts, with the values as `escape` writes them. -/
def writeInside (escape : List Char → List Char) (name : QName) (parts : List TagPart) :
    List Char :=
  name.toChars ++ parts.flatMap (TagPart.writeWith escape)

/-- **The inside of a written tag is read** as its name and its parts, looked up in what surrounds
it. -/
theorem read_writeInside {outer : Context} {ns : Option String} {attributes : List Attribute}
    (hname : name.IsProper) (hparts : ReadableParts escape parts)
    (hns : Context.elementNamespace (declarationsOf parts :: outer) name = .ok ns)
    (hattributes : attributesOf (declarationsOf parts :: outer) parts = .ok attributes) :
    Tag.read outer (writeInside escape name parts) =
      .ok ⟨name, ns, declarationsOf parts, attributes⟩ := by
  have hblank : ∀ c ∈ name.toChars, (!Text.isMarkupBlank c) = true := by
    intro c hc
    rw [hname.isMarkupBlank_of_mem hc]
    rfl
  have hhead : ∀ c, (parts.flatMap (TagPart.writeWith escape)).head? = some c →
      (!Text.isMarkupBlank c) = false := by
    intro c hc
    rw [head?_flatMap_writeWith parts c hc]
    decide
  have htake : (writeInside escape name parts).takeWhile (!Text.isMarkupBlank ·) = name.toChars :=
    Text.takeWhile_append_of_head? hblank hhead
  have hdrop : (writeInside escape name parts).dropWhile (!Text.isMarkupBlank ·) =
      parts.flatMap (TagPart.writeWith escape) := Text.dropWhile_append_of_head? hblank hhead
  have hread : readTagParts [] (parts.flatMap (TagPart.writeWith escape)) = .ok parts :=
    readTagParts_flatMap hparts fun p _ => List.not_mem_nil
  simp only [Tag.read, htake, hdrop, hread, QName.ofChars_toChars hname, hns, hattributes, bind,
    Except.bind, pure, Except.pure]

/-- No tag ends inside a written one. -/
theorem closesQuotes_writeInside (hname : name.IsProper) (hparts : ReadableParts escape parts) :
    closesQuotes none (writeInside escape name parts) = true := by
  refine closesQuotes_append hname.closesQuotes_toChars ?_
  obtain ⟨hnames, -, -, hescapes⟩ := hparts
  induction parts with
  | nil => rfl
  | cons p parts ih =>
    rw [List.forall_mem_cons] at hnames hescapes
    rw [List.flatMap_cons]
    refine closesQuotes_append ?_ (ih hnames.2 hescapes.2)
    have hvalue := closesQuotes_quoted hescapes.1.unquoted
    have hequals : closesQuotes none ['='] = true := by decide
    have hspace : closesQuotes none [' '] = true := by decide
    have := closesQuotes_append hspace
      (closesQuotes_append hnames.1.closesQuotes_toChars (closesQuotes_append hequals hvalue))
    simpa [TagPart.writeWith] using this

/-- No slash stands at the end of a written tag, so it is no empty one. -/
theorem getLast?_writeInside (hname : name.IsProper) :
    (writeInside escape name parts).getLast? ≠ some '/' := by
  intro h
  rcases List.eq_nil_or_concat parts with rfl | ⟨parts, p, rfl⟩
  · refine hname.not_mem_toChars (c := '/') (by decide) (by decide) (List.mem_of_getLast? ?_)
    simpa [writeInside] using h
  · have hwrite : writeInside escape name (parts.concat p) =
        (name.toChars ++ parts.flatMap (TagPart.writeWith escape) ++
          (' ' :: p.name.toChars ++ '=' :: '"' :: escape p.value.toList)) ++ ['"'] := by
      simp [writeInside, TagPart.writeWith]
    rw [hwrite, List.getLast?_concat] at h
    exact absurd h (by decide)

/-- It begins with the first character of its name. -/
theorem head?_writeInside (hname : name.IsProper) :
    ∀ c, (writeInside escape name parts).head? = some c → c ≠ '!' ∧ c ≠ '/' ∧ c ≠ '?' := by
  intro c hc
  obtain ⟨d, rest, hchars, hd⟩ := hname.head
  obtain rfl : d = c := by simpa [writeInside, hchars] using hc
  refine ⟨?_, ?_, ?_⟩
  all_goals
    rintro rfl
    exact absurd hd (by decide)

theorem writeInside_ne_nil (hname : name.IsProper) : writeInside escape name parts ≠ [] := by
  obtain ⟨c, rest, hchars, -⟩ := hname.head
  simp [writeInside, hchars]

end Parts

/-! ## Tags -/

/-- The inside of a written tag. -/
def Tag.inside (tag : Tag) : List Char := tag.name.toChars ++ tag.parts.flatMap TagPart.write

/-- A tag as it is written, with its declarations and attributes in order. -/
def Tag.print (tag : Tag) : List Char := '<' :: tag.inside ++ ['>']

/-- A tag with proper names only. -/
structure Tag.NCNamed (tag : Tag) : Prop where
  name : tag.name.IsProper
  attributes : ∀ a ∈ tag.attributes, a.name.IsProper
  declarations : ∀ d ∈ tag.declarations, ∀ p, d.nsPrefix = some p → IsNCName p

instance : DecidablePred Tag.NCNamed := fun tag =>
  decidable_of_iff (tag.name.IsProper ∧ (∀ a ∈ tag.attributes, a.name.IsProper) ∧
      ∀ d ∈ tag.declarations, ∀ p ∈ d.nsPrefix, IsNCName p)
    ⟨fun h => ⟨h.1, h.2.1, h.2.2⟩, fun h => ⟨h.name, h.attributes, h.declarations⟩⟩

namespace Tag

variable {tag : Tag} {outer : Context}

theorem NCNamed.parts (h : tag.NCNamed) : ∀ p ∈ tag.parts, p.name.IsProper := by
  intro p hp
  rcases List.mem_append.1 hp with hp | hp
  · obtain ⟨d, hd, rfl⟩ := List.mem_map.1 hp
    refine ⟨fun q hq => ?_, ?_⟩
    · cases hdp : d.nsPrefix <;>
        simp only [TagPart.name, Declaration.name, hdp, Option.some.injEq, reduceCtorEq] at hq
      exact hq ▸ isNCName_xmlns
    · cases hdp : d.nsPrefix with
      | none => simpa [TagPart.name, Declaration.name, hdp] using isNCName_xmlns
      | some q => simpa [TagPart.name, Declaration.name, hdp] using h.declarations d hd q hdp
  · obtain ⟨a, ha, rfl⟩ := List.mem_map.1 hp
    exact h.attributes a ha

theorem declarationsOf_parts (tag : Tag) : declarationsOf tag.parts = tag.declarations := by
  have hd : ∀ ds : List Declaration, declarationsOf (ds.map .declares) = ds := by
    intro ds
    induction ds with
    | nil => rfl
    | cons d ds ih => simp [declarationsOf]
  have ha : ∀ as : List Attribute, declarationsOf (as.map .ofTagAttribute) = [] := by
    intro as
    induction as with
    | nil => rfl
    | cons a as ih => simp [declarationsOf, TagPart.ofTagAttribute]
  have happ : declarationsOf tag.parts = declarationsOf (tag.declarations.map .declares) ++
      declarationsOf (tag.attributes.map .ofTagAttribute) := List.filterMap_append
  rw [happ, hd, ha, List.append_nil]

theorem attributesOf_parts {context : Context}
    (h : ∀ a ∈ tag.attributes, context.attribute a.name a.value = .ok a) :
    attributesOf context tag.parts = .ok tag.attributes := by
  have hd : ∀ (ds : List Declaration) (parts : List TagPart),
      attributesOf context (ds.map .declares ++ parts) = attributesOf context parts := by
    intro ds parts
    induction ds with
    | nil => rfl
    | cons d ds ih => exact ih
  rw [parts, hd]
  generalize tag.attributes = as at h
  induction as with
  | nil => rfl
  | cons a as ih =>
    rw [List.forall_mem_cons] at h
    have hrest : attributesOf context (as.map .ofTagAttribute) = .ok as := ih h.2
    simp only [List.map_cons, TagPart.ofTagAttribute, attributesOf, h.1] at hrest ⊢
    simp only [hrest]
    rfl

/-- The parts of a resolved tag with proper names can be read again. -/
theorem ResolvedIn.readableParts (hres : tag.ResolvedIn outer) (hnamed : tag.NCNamed) :
    ReadableParts escapeAttribute tag.parts :=
  ⟨hnamed.parts, hres.distinct, hres.read, fun p _ => escapes_escapeAttribute p.value.toList⟩

/-- **A written tag is read as what it was.** -/
theorem read_inside (hres : tag.ResolvedIn outer) (hnamed : tag.NCNamed) :
    Tag.read outer tag.inside = .ok tag := by
  have hread : Tag.read outer tag.inside = .ok ⟨tag.name, tag.ns, declarationsOf tag.parts,
      tag.attributes⟩ := by
    refine read_writeInside hnamed.name (hres.readableParts hnamed) ?_ ?_
    · rw [declarationsOf_parts, hres.ns]
    · rw [declarationsOf_parts]
      exact attributesOf_parts hres.attributes
  rwa [declarationsOf_parts] at hread

/-- **A written tag is one step of the reader.** -/
theorem resume_print {b : Builder} {rest : List Char} (hres : tag.ResolvedIn b.context)
    (hnamed : tag.NCNamed) :
    b.resume (tag.print ++ rest) = Builder.resume ⟨⟨tag, []⟩ :: b.opened, b.root⟩ rest := by
  have hhead : ∀ c, tag.inside.head? = some c → c ≠ '!' ∧ c ≠ '/' ∧ c ≠ '?' :=
    head?_writeInside hnamed.name
  have hclosed : closesQuotes none tag.inside = true :=
    closesQuotes_writeInside hnamed.name (hres.readableParts hnamed)
  have hlast : tag.inside.getLast? ≠ some '/' := getLast?_writeInside hnamed.name
  have hstep : b.step (.startTag tag.inside) = .ok ⟨⟨tag, []⟩ :: b.opened, b.root⟩ := by
    simp only [Builder.step, read_inside hres hnamed]
    rfl
  have hprint : tag.print ++ rest = '<' :: (tag.inside ++ '>' :: rest) := by simp [print]
  rw [hprint, resume_startTag hclosed hhead hlast, hstep]
  rfl

/-- And so is its end tag, where it is open. -/
theorem resume_writeEnd {content : List Node} {outer : List OpenElement} {root : Option Element}
    {rest : List Char} (hname : tag.name.IsProper) :
    Builder.resume ⟨⟨tag, content⟩ :: outer, root⟩ (tag.writeEnd ++ rest) =
      Builder.attach outer root ⟨tag, content.reverse⟩ >>= fun b => b.resume rest := by
  have hwrite : tag.writeEnd ++ rest = '<' :: '/' :: (tag.name.toChars ++ '>' :: rest) := by
    simp [writeEnd]
  rw [hwrite, resume_endTag hname.closesQuotes_toChars fun c hc => hname.isMarkupBlank_of_mem hc]
  simp only [Builder.step, if_true]

end Tag

end FiscalGateway.Xml

import FiscalGateway.Proofs.Xml.Printing
import FiscalGateway.Soap.Markup
import Mathlib.Data.List.Nodup

/-!
# Markup of our own making — what is written is read

A piece of markup means a tree (`Markup.node`): its names have no prefixes, so all that it takes
from what surrounds it is the default namespace. Markup with proper names and inline values
(`Markup.Readable`) is read as the tree it means, inside any open element
(`Markup.Readable.isReadIn`).
-/

namespace FiscalGateway.Soap.Markup

open Xml

/-! ## The meaning of markup -/

/-- What an attribute says: the default namespace, or a value. -/
def part (a : MarkupAttribute) : TagPart :=
  if a.1 = "xmlns" then .declares ⟨none, String.ofList a.2⟩
  else .assigns ⟨none, a.1⟩ (String.ofList a.2)

/-- The declarations of a tag. -/
def declarations (attributes : List MarkupAttribute) : List Declaration :=
  declarationsOf (attributes.map part)

/-- Its other attributes. -/
def values (attributes : List MarkupAttribute) : List Attribute :=
  (attributes.filter (·.1 ≠ "xmlns")).map fun a => ⟨⟨none, a.1⟩, none, String.ofList a.2⟩

/-- A tag where `outer` is visible. -/
def tag (outer : Context) (name : String) (attributes : List MarkupAttribute) : Tag where
  name := ⟨none, name⟩
  ns := (Context.resolve? (declarations attributes :: outer) none).filter (· ≠ "")
  declarations := declarations attributes
  attributes := values attributes

mutual

/-- The tree that a piece of markup means where `outer` is visible. -/
def node (outer : Context) : Markup → Node
  | .element name attributes children =>
    .element (tag outer name attributes) (nodes (declarations attributes :: outer) children)
  | .empty name attributes => .element (tag outer name attributes) []
  | .text s => .text (String.ofList s)

/-- The trees of pieces of markup, one after the other. -/
def nodes (outer : Context) : List Markup → List Node
  | [] => []
  | m :: rest => m.node outer :: nodes outer rest

end

/-! ## Markup that can be read -/

/-- A tag with proper names that differ, and with inline values. -/
structure IsTag (name : String) (attributes : List MarkupAttribute) : Prop where
  name : IsNCName name
  names : ∀ a ∈ attributes, IsNCName a.1
  distinct : (attributes.map (·.1)).Nodup
  values : ∀ a ∈ attributes, Text.IsInline a.2

/-- **Markup that can be read again**: an element holds elements, or one text. -/
inductive Readable : Markup → Prop
  | element {name : String} {attributes : List MarkupAttribute} {children : List Markup}
      (htag : IsTag name attributes) (hchildren : ∀ m ∈ children, m.Readable) :
      Readable (.element name attributes children)
  | leaf {name : String} {attributes : List MarkupAttribute} {s : List Char}
      (htag : IsTag name attributes) (hne : s ≠ []) (hinline : Text.IsInline s) :
      Readable (.element name attributes [.text s])
  | empty {name : String} {attributes : List MarkupAttribute} (htag : IsTag name attributes) :
      Readable (.empty name attributes)

/-! ## Tags -/

section Tags

variable {name : String} {attributes : List MarkupAttribute} {outer : Context}

@[simp] theorem name_part (a : MarkupAttribute) : (part a).name = ⟨none, a.1⟩ := by
  unfold part
  split
  · next h => rw [h]; rfl
  · rfl

@[simp] theorem value_part (a : MarkupAttribute) : (part a).value = String.ofList a.2 := by
  unfold part
  split <;> rfl

theorem isRead_part (a : MarkupAttribute) : (part a).IsRead := by
  have hpart : TagPart.ofAttribute ⟨none, a.1⟩ (String.ofList a.2) = .ok (part a) := by
    by_cases hname : a.1 = "xmlns"
    · rw [part, if_pos hname]
      exact if_pos hname
    · rw [part, if_neg hname]
      exact if_neg hname
  rw [TagPart.IsRead, name_part, value_part, hpart]

/-- The attributes of a tag are written as its parts. -/
theorem writeAttributes_eq (attributes : List MarkupAttribute) :
    writeAttributes attributes =
      (attributes.map part).flatMap (TagPart.writeWith escapeMarkup) := by
  have hwrite : ∀ a, writeAttribute a = (part a).writeWith escapeMarkup := by
    intro a
    rw [TagPart.writeWith, name_part, value_part, String.toList_ofList]
    rfl
  rw [writeAttributes, List.flatMap_map]
  exact congrArg (List.flatMap · attributes) (funext hwrite)

theorem IsTag.readableParts (h : IsTag name attributes) :
    ReadableParts escapeMarkup (attributes.map part) where
  names := by
    intro p hp
    obtain ⟨a, ha, rfl⟩ := List.mem_map.1 hp
    rw [name_part]
    exact ⟨by simp, h.names a ha⟩
  distinct := by
    have hname : Function.Injective fun l : String => (⟨none, l⟩ : QName) :=
      fun _ _ h => congrArg QName.localPart h
    have hnodup := List.Nodup.map hname h.distinct
    simpa [Function.comp_def] using hnodup
  read := by
    intro p hp
    obtain ⟨a, -, rfl⟩ := List.mem_map.1 hp
    exact isRead_part a
  escapes := by
    intro p hp
    obtain ⟨a, ha, rfl⟩ := List.mem_map.1 hp
    rw [value_part, String.toList_ofList]
    exact ⟨not_mem_escapeMarkup (.inr rfl) _, readAttributeValue_escapeMarkup (h.values a ha)⟩

/-- Attributes without prefix need nothing of what surrounds them. -/
theorem attributesOf_part (context : Context) (attributes : List MarkupAttribute) :
    attributesOf context (attributes.map part) = .ok (values attributes) := by
  induction attributes with
  | nil => rfl
  | cons a attributes ih =>
    by_cases hname : a.1 = "xmlns"
    · have hpart : part a = .declares ⟨none, String.ofList a.2⟩ := if_pos hname
      have hvalues : values (a :: attributes) = values attributes := by simp [values, hname]
      rw [List.map_cons, hpart, hvalues]
      exact ih
    · have hpart : part a = .assigns ⟨none, a.1⟩ (String.ofList a.2) := if_neg hname
      have hvalues : values (a :: attributes) =
          ⟨⟨none, a.1⟩, none, String.ofList a.2⟩ :: values attributes := by simp [values, hname]
      rw [List.map_cons, hpart, hvalues, attributesOf, ih]
      rfl

/-- The inside of a written tag. -/
def inside (name : String) (attributes : List MarkupAttribute) : List Char :=
  name.toList ++ writeAttributes attributes

theorem inside_eq (name : String) (attributes : List MarkupAttribute) :
    inside name attributes = writeInside escapeMarkup ⟨none, name⟩ (attributes.map part) := by
  rw [inside, writeAttributes_eq]
  rfl

/-- **A written tag is read as the tag it means.** -/
theorem read_inside (h : IsTag name attributes) :
    Tag.read outer (inside name attributes) = .ok (tag outer name attributes) := by
  have hname : QName.IsProper ⟨none, name⟩ := ⟨by simp, h.name⟩
  rw [inside_eq]
  exact read_writeInside hname h.readableParts rfl (attributesOf_part _ attributes)

variable {b : Builder} {rest : List Char}

/-- A written start tag is one step of the reader. -/
theorem resume_startTag (h : IsTag name attributes) :
    b.resume ('<' :: (inside name attributes ++ '>' :: rest)) =
      Builder.resume ⟨⟨tag b.context name attributes, []⟩ :: b.opened, b.root⟩ rest := by
  have hname : QName.IsProper ⟨none, name⟩ := ⟨by simp, h.name⟩
  have hstep : b.step (.startTag (inside name attributes)) =
      .ok ⟨⟨tag b.context name attributes, []⟩ :: b.opened, b.root⟩ := by
    simp only [Builder.step, read_inside h]
    rfl
  rw [inside_eq] at hstep ⊢
  rw [Xml.resume_startTag (closesQuotes_writeInside hname h.readableParts)
    (head?_writeInside hname) (getLast?_writeInside hname), hstep]
  rfl

/-- And so is an empty one. -/
theorem resume_emptyTag (h : IsTag name attributes) :
    b.resume ('<' :: (inside name attributes ++ '/' :: '>' :: rest)) =
      Builder.attach b.opened b.root ⟨tag b.context name attributes, []⟩ >>=
        fun b' => b'.resume rest := by
  have hname : QName.IsProper ⟨none, name⟩ := ⟨by simp, h.name⟩
  have hstep : b.step (.emptyTag (inside name attributes)) =
      Builder.attach b.opened b.root ⟨tag b.context name attributes, []⟩ := by
    simp only [Builder.step, read_inside h]
    rfl
  rw [inside_eq] at hstep ⊢
  rw [Xml.resume_emptyTag (closesQuotes_writeInside hname h.readableParts)
    (head?_writeInside hname) (writeInside_ne_nil hname), hstep]

end Tags

/-! ## Trees -/

/-- Reading a piece of markup inside an open element adds the tree it means. -/
def IsReadIn (m : Markup) (t : Tag) (outer : List OpenElement) (root : Option Element) : Prop :=
  ∀ content rest, Builder.resume ⟨⟨t, content⟩ :: outer, root⟩ (m.write ++ rest) =
    Builder.resume ⟨⟨t, m.node (t.declarations :: contextOf outer) :: content⟩ :: outer, root⟩ rest

section Trees

variable {name : String} {attributes : List MarkupAttribute} {children : List Markup} {t : Tag}
  {outer : List OpenElement} {root : Option Element}

/-- Pieces that are read one by one are read together. -/
theorem resume_writeAll (h : ∀ m ∈ children, m.IsReadIn t outer root) (content : List Node)
    (rest : List Char) :
    Builder.resume ⟨⟨t, content⟩ :: outer, root⟩ (writeAll children ++ rest) =
      Builder.resume ⟨⟨t, (nodes (t.declarations :: contextOf outer) children).reverse ++
        content⟩ :: outer, root⟩ rest := by
  induction children generalizing content with
  | nil => rfl
  | cons m children ih =>
    rw [List.forall_mem_cons] at h
    rw [writeAll, List.append_assoc, h.1, ih h.2, nodes, List.reverse_cons, List.append_assoc]
    rfl

/-- An element is read if its content is. -/
theorem isReadIn_element (htag : IsTag name attributes) {inner : Tag}
    (hinner : inner = tag (t.declarations :: contextOf outer) name attributes)
    (hcontent : ∀ content r,
      Builder.resume ⟨⟨inner, []⟩ :: ⟨t, content⟩ :: outer, root⟩ (writeAll children ++ '<' :: r) =
        Builder.resume ⟨⟨inner, (nodes (declarations attributes :: t.declarations ::
          contextOf outer) children).reverse⟩ :: ⟨t, content⟩ :: outer, root⟩ ('<' :: r)) :
    IsReadIn (.element name attributes children) t outer root := by
  intro content rest
  have hname : inner.name.IsProper := by
    rw [hinner]
    exact ⟨by simp [tag], htag.name⟩
  have hend : inner.writeEnd ++ rest = '<' :: ('/' :: name.toList ++ ['>'] ++ rest) := by
    rw [hinner]
    rfl
  have hwrite : (Markup.element name attributes children).write ++ rest = '<' ::
      (inside name attributes ++ '>' :: (writeAll children ++ (inner.writeEnd ++ rest))) := by
    rw [hend]
    simp [write, inside]
  have hstart : tag (Builder.context ⟨⟨t, content⟩ :: outer, root⟩) name attributes = inner :=
    hinner.symm
  -- start tag, content up to the next `<`, end tag
  rw [hwrite, resume_startTag htag, hstart, hend, hcontent, ← hend, Tag.resume_writeEnd hname,
    List.reverse_reverse, node, ← hinner]
  rfl

end Trees

/-- **What is written is read**: readable markup adds its tree to the element in which it stands. -/
theorem Readable.isReadIn {m : Markup} (h : m.Readable) (t : Tag) (outer : List OpenElement)
    (root : Option Element) : m.IsReadIn t outer root := by
  induction h generalizing t outer root with
  | element htag hchildren ih =>
    refine isReadIn_element htag rfl fun content r => ?_
    rw [resume_writeAll fun m hm => ih m hm _ _ _, List.append_nil]
    rfl
  | leaf htag hne hinline =>
    refine isReadIn_element htag rfl fun content r => ?_
    have hmarkup := not_mem_escapeMarkup (.inl rfl)
    rw [writeAll, writeAll, List.append_nil, write,
      resume_text (escapeMarkup_ne_nil hne) (hmarkup _) (.inr ⟨r, rfl⟩), Builder.step,
      readText_escapeMarkup hinline]
    rfl
  | @empty name attributes htag =>
    intro content rest
    have hwrite : (Markup.empty name attributes).write ++ rest =
        '<' :: (inside name attributes ++ '/' :: '>' :: rest) := by
      simp [write, inside]
    rw [hwrite, resume_emptyTag htag]
    rfl

/-- **An element that stands alone** is a document. -/
theorem ofChars_write {name : String} {attributes : List MarkupAttribute} {children : List Markup}
    {e : Element} (htag : IsTag name attributes) (hchildren : ∀ m ∈ children, m.Readable)
    (he : (Markup.element name attributes children).node [] = e.toNode) :
    Document.ofChars (Markup.element name attributes children).write = .ok ⟨e⟩ := by
  let root : Tag := tag [] name attributes
  obtain rfl : ⟨root, nodes [declarations attributes] children⟩ = e := by
    obtain ⟨t, content⟩ := e
    rw [node, Element.toNode, Node.element.injEq] at he
    exact congrArg₂ Element.mk he.1 he.2
  have hname : root.name.IsProper := ⟨by simp [root, tag], htag.name⟩
  have hwrite : (Markup.element name attributes children).write = '<' ::
      (inside name attributes ++ '>' :: (writeAll children ++ (root.writeEnd ++ []))) := by
    simp [write, inside, root, Tag.writeEnd, tag, QName.toChars]
  -- it begins with `<`, so with no byte order mark
  have hmark : dropByteOrderMark (Markup.element name attributes children).write =
      (Markup.element name attributes children).write := rfl
  have hcontent (rest : List Char) :
      Builder.resume ⟨[⟨root, []⟩], none⟩ (writeAll children ++ rest) = Builder.resume
        ⟨[⟨root, (nodes [declarations attributes] children).reverse ++ []⟩], none⟩ rest :=
    resume_writeAll (fun m hm => (hchildren m hm).isReadIn root [] none) [] rest
  have hstart : tag (Builder.context ⟨[], none⟩) name attributes = root := rfl
  rw [ofChars_eq, hmark, hwrite, resume_startTag htag, hstart, hcontent, Tag.resume_writeEnd hname,
    List.append_nil, List.reverse_reverse]
  change Builder.resume ⟨[], some _⟩ [] >>= Builder.finish = _
  rw [resume_nil]
  rfl

end FiscalGateway.Soap.Markup

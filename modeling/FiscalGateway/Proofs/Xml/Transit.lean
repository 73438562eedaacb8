import FiscalGateway.Proofs.Text.Octets
import FiscalGateway.Proofs.Xml.LineEnds
import FiscalGateway.Proofs.Xml.Settled

/-!
# Transit — a document whose line ends were rewritten

Where all line ends of a document become line feeds on the way, the same is read: character data,
CDATA sections and attribute values are brought to that form in any case, and inside of tags a line
end is a blank. The data of an instruction is taken as it stands. So what is read of the rewritten
document is what was read of the original one with the line ends in its instructions rewritten, and
the two are equal exactly if no instruction holds a carriage return
(`Document.parse_normalizeLineEnds`); otherwise they differ, in canonical form too
(`Document.parse_depends_on_line_ends`).
-/

namespace FiscalGateway

/-! ## Octets -/

/-- A carriage return, alone or before a line feed, is a line feed. -/
def Octets.normalizeLineEnds : Octets → Octets
  | [] => []
  | 0x0D :: 0x0A :: rest => 0x0A :: normalizeLineEnds rest
  | 0x0D :: rest => 0x0A :: normalizeLineEnds rest
  | o :: rest => o :: normalizeLineEnds rest

namespace Octets

theorem normalizeLineEnds_plain_append {a : Octets} (h : 0x0D ∉ a) (b : Octets) :
    normalizeLineEnds (a ++ b) = a ++ normalizeLineEnds b := by
  induction a with
  | nil => rfl
  | cons o a ih =>
    have ho : o ≠ 0x0D := fun e => h (by simp [e])
    have hcons : normalizeLineEnds (o :: (a ++ b)) = o :: normalizeLineEnds (a ++ b) := by
      rw [normalizeLineEnds]
      · exact fun _ e => absurd e ho
      · exact fun e => absurd e ho
    rw [List.cons_append, hcons, ih fun ha => h (List.mem_cons_of_mem o ha), List.cons_append]

theorem normalizeLineEnds_return {b : Octets} (h : b.head? ≠ some 0x0A) :
    normalizeLineEnds (0x0D :: b) = 0x0A :: normalizeLineEnds b := by
  rw [normalizeLineEnds]
  rintro rest rfl
  exact h rfl

/-- Octets below 128 are characters of their own, so the line ends of a text are those of its
octets. -/
theorem normalizeLineEnds_flatMap (s : List Char) :
    normalizeLineEnds (s.flatMap String.utf8EncodeChar) =
      (Xml.normalizeLineEnds s).flatMap String.utf8EncodeChar := by
  have hr : String.utf8EncodeChar '\r' = [0x0D] := rfl
  have hn : String.utf8EncodeChar '\n' = [0x0A] := rfl
  fun_induction Xml.normalizeLineEnds s with
  | case1 => rfl
  | case2 rest ih => simp [hr, hn, normalizeLineEnds, ih]
  | case3 rest hrest ih =>
    -- a line feed is one octet, so what begins with that octet begins with a line feed
    have hhead : (rest.flatMap String.utf8EncodeChar).head? ≠ some 0x0A := by
      intro e
      obtain ⟨r, hr⟩ := List.head?_eq_some_iff.1 (head?_of_head?_flatMap (d := '\n') (by decide) e)
      exact hrest r hr
    rw [List.flatMap_cons, hr, List.singleton_append, normalizeLineEnds_return hhead, ih,
      List.flatMap_cons, hn]
    rfl
  | case4 c rest _ hc ih =>
    -- no octet of another character is a carriage return
    have hplain : 0x0D ∉ String.utf8EncodeChar c :=
      mt (mem_utf8EncodeChar_iff (d := '\r') (by decide)).1 hc
    rw [List.flatMap_cons, normalizeLineEnds_plain_append hplain, ih, List.flatMap_cons]

theorem normalizeLineEnds_ofText (s : String) :
    normalizeLineEnds (ofText s) = ofText (String.ofList (Xml.normalizeLineEnds s.toList)) := by
  rw [ofText_ofList, ← normalizeLineEnds_flatMap, ← ofText_ofList, String.ofList_toList]

end Octets

namespace Xml

variable {s : List Char}

/-! ## Trees -/

mutual

/-- A tree in which the data of each instruction has line feeds for line ends. -/
def Node.normalizeInstructions : Node → Node
  | .element tag children => .element tag (Node.normalizeInstructionsAll children)
  | .text s => .text s
  | .instruction target data =>
    .instruction target (String.ofList (Xml.normalizeLineEnds data.toList))

/-- The same for content as a whole. -/
def Node.normalizeInstructionsAll : List Node → List Node
  | [] => []
  | n :: nodes => n.normalizeInstructions :: Node.normalizeInstructionsAll nodes

end

mutual

/-- The data of the instructions in a tree. -/
def Node.instructionData : Node → List String
  | .element _ children => Node.instructionDataAll children
  | .text _ => []
  | .instruction _ data => [data]

/-- The same for content as a whole. -/
def Node.instructionDataAll : List Node → List String
  | [] => []
  | n :: nodes => n.instructionData ++ Node.instructionDataAll nodes

end

theorem normalizeLineEnds_eq_self_iff : normalizeLineEnds s = s ↔ '\r' ∉ s :=
  ⟨fun h => h ▸ return_not_mem_normalizeLineEnds s, normalizeLineEnds_of_not_mem⟩

mutual

/-- Rewriting changes a tree only where an instruction holds a carriage return. -/
theorem Node.normalizeInstructions_eq_self_iff : ∀ (n : Node),
    n.normalizeInstructions = n ↔ ∀ data ∈ n.instructionData, '\r' ∉ data.toList
  | .element tag children => by
    simp [Node.normalizeInstructions, Node.instructionData,
      Node.normalizeInstructionsAll_eq_self_iff children]
  | .text s => by simp [Node.normalizeInstructions, Node.instructionData]
  | .instruction target data => by
    have hdata : String.ofList (Xml.normalizeLineEnds data.toList) = data ↔
        Xml.normalizeLineEnds data.toList = data.toList := by
      rw [← String.toList_inj, String.toList_ofList]
    simp [Node.normalizeInstructions, Node.instructionData, hdata, normalizeLineEnds_eq_self_iff]

theorem Node.normalizeInstructionsAll_eq_self_iff : ∀ (nodes : List Node),
    Node.normalizeInstructionsAll nodes = nodes ↔
      ∀ data ∈ Node.instructionDataAll nodes, '\r' ∉ data.toList
  | [] => by simp [Node.normalizeInstructionsAll, Node.instructionDataAll]
  | n :: nodes => by
    simp [Node.normalizeInstructionsAll, Node.instructionDataAll,
      Node.normalizeInstructions_eq_self_iff n, Node.normalizeInstructionsAll_eq_self_iff nodes,
      or_imp, forall_and]

end

theorem Node.normalizeInstructionsAll_eq_map (nodes : List Node) :
    Node.normalizeInstructionsAll nodes = nodes.map Node.normalizeInstructions := by
  induction nodes with
  | nil => rfl
  | cons n nodes ih => rw [Node.normalizeInstructionsAll, ih, List.map_cons]

/-- The same for an element. -/
def Element.normalizeInstructions (e : Element) : Element :=
  ⟨e.tag, e.children.map Node.normalizeInstructions⟩

/-- The same for a document. -/
def Document.normalizeInstructions (d : Document) : Document := ⟨d.root.normalizeInstructions⟩

/-! ## The state of the reader -/

/-- The same for an element that is open. -/
def OpenElement.normalizeInstructions (e : OpenElement) : OpenElement :=
  ⟨e.tag, e.content.map Node.normalizeInstructions⟩

namespace Builder

/-- The same for all that has been read. -/
def normalizeInstructions (b : Builder) : Builder :=
  ⟨b.opened.map OpenElement.normalizeInstructions, b.root.map Element.normalizeInstructions⟩

/-- Whether no line end is part of the name of an open element, so that an end tag is told by its
name with line ends rewritten. -/
def HasUnbrokenNames (b : Builder) : Prop :=
  ∀ e ∈ b.opened, ∀ c ∈ e.tag.name.toChars, isLineEnd c = false

variable {b b' : Builder}

theorem context_normalizeInstructions : b.normalizeInstructions.context = b.context := by
  simp [context, normalizeInstructions, Function.comp_def, OpenElement.normalizeInstructions]

theorem addText_normalizeInstructions (s : List Char) (content : List Node) :
    addText s (content.map Node.normalizeInstructions) =
      (addText s content).map Node.normalizeInstructions := by
  rcases content with _ | ⟨_ | _ | _, rest⟩ <;> rfl

theorem text_normalizeInstructions (b : Builder) (s : List Char) :
    b.normalizeInstructions.text s = normalizeInstructions <$> b.text s := by
  obtain ⟨opened, root⟩ := b
  cases opened with
  | nil =>
    cases hs : Text.isAllBlank s <;> simp [text, normalizeInstructions, hs]
  | cons e outer =>
    simp [text, normalizeInstructions, OpenElement.normalizeInstructions,
      addText_normalizeInstructions]

theorem attach_normalizeInstructions (opened : List OpenElement) (root : Option Element)
    (e : Element) :
    attach (opened.map OpenElement.normalizeInstructions) (root.map Element.normalizeInstructions)
        e.normalizeInstructions =
      normalizeInstructions <$> attach opened root e := by
  cases opened with
  | nil => cases root <;> rfl
  | cons parent outer =>
    simp [attach, normalizeInstructions, OpenElement.normalizeInstructions,
      Element.normalizeInstructions, Element.toNode, Node.normalizeInstructions,
      Node.normalizeInstructionsAll_eq_map]

/-- The target of an instruction ends at its first blank, and its data begins behind all that
follow. -/
theorem instruction_cons (e : OpenElement) (outer : List OpenElement) (root : Option Element)
    (raw : List Char) :
    instruction ⟨e :: outer, root⟩ raw =
      ⟨⟨e.tag, .instruction (String.ofList (raw.takeWhile (!Text.isBlank ·)))
        (String.ofList (Text.trimStart (raw.dropWhile (!Text.isBlank ·)))) :: e.content⟩ :: outer,
        root⟩ := by
  unfold instruction
  cases hs : Text.splitOnce Text.isBlank raw with
  | none =>
    have hall : ∀ c ∈ raw, (!Text.isBlank c) = true := by
      simpa using Text.splitOnce_eq_none_iff.1 hs
    have htake := Text.takeWhile_append_of_head? hall (t := []) (by simp)
    rw [List.append_nil] at htake
    have hdrop := Text.dropWhile_append_of_head? hall (t := []) (by simp)
    rw [List.append_nil] at hdrop
    rw [htake, hdrop]
    rfl
  | some cut =>
    obtain ⟨target, data⟩ := cut
    obtain ⟨c, hc, rfl, htarget⟩ := Text.eq_append_of_splitOnce hs
    have hpass : ∀ d ∈ target, (!Text.isBlank d) = true := by simpa using htarget
    have hstop : ∀ d ∈ (c :: data).head?, (!Text.isBlank d) = false := by simpa using hc
    rw [Text.takeWhile_append_of_head? hpass hstop, Text.dropWhile_append_of_head? hpass hstop]
    simp [Text.trimStart, hc]

theorem instruction_normalizeInstructions (b : Builder) (raw : List Char) :
    b.normalizeInstructions.instruction (normalizeLineEnds raw) =
      (b.instruction raw).normalizeInstructions := by
  obtain ⟨opened, root⟩ := b
  cases opened with
  | nil => rfl
  | cons e outer =>
    rw [instruction_cons]
    simp only [normalizeInstructions, List.map_cons, OpenElement.normalizeInstructions,
      instruction_cons, takeWhile_not_normalizeLineEnds (p := Text.isBlank) rfl rfl,
      dropWhile_not_normalizeLineEnds (p := Text.isBlank) rfl rfl, Text.trimStart,
      dropWhile_normalizeLineEnds (p := Text.isBlank) rfl, Node.normalizeInstructions,
      String.toList_ofList]

/-- **One token adds the same**, instructions apart. -/
theorem step_normalizeLineEnds (hb : b.HasUnbrokenNames) (t : Token) :
    b.normalizeInstructions.step t.normalizeLineEnds = normalizeInstructions <$> b.step t := by
  cases t with
  | text raw =>
    simp only [Token.normalizeLineEnds, step, readText, normalizeLineEnds_idem]
    cases expand (normalizeLineEnds raw) with
    | ok s => exact text_normalizeInstructions b s
    | error fault => rfl
  | cdata raw =>
    simp only [Token.normalizeLineEnds, step, normalizeLineEnds_idem]
    exact text_normalizeInstructions b _
  | comment => rfl
  | header => rfl
  | startTag raw =>
    simp only [Token.normalizeLineEnds, step, Tag.read_normalizeLineEnds,
      context_normalizeInstructions]
    cases Tag.read b.context raw <;> rfl
  | emptyTag raw =>
    simp only [Token.normalizeLineEnds, step, Tag.read_normalizeLineEnds,
      context_normalizeInstructions]
    cases Tag.read b.context raw with
    | error e => rfl
    | ok tag => exact attach_normalizeInstructions b.opened b.root ⟨tag, []⟩
  | endTag name =>
    obtain ⟨opened, root⟩ := b
    cases opened with
    | nil => rfl
    | cons e outer =>
      -- The names agree in normal form exactly if they agreed before.
      have hclose := attach_normalizeInstructions outer root ⟨e.tag, e.content.reverse⟩
      simp only [Element.normalizeInstructions, List.map_reverse] at hclose
      simp only [Token.normalizeLineEnds, step, normalizeInstructions, List.map_cons,
        OpenElement.normalizeInstructions, normalizeLineEnds_eq_iff (hb e List.mem_cons_self)]
      split
      · exact hclose
      · rfl
  | instruction raw => exact congrArg Except.ok (instruction_normalizeInstructions b raw)
  | doctype => rfl
  | fault cause => rfl

theorem HasUnbrokenNames.attach {opened : List OpenElement} {root : Option Element} {e : Element}
    (hb : HasUnbrokenNames ⟨opened, root⟩) (h : attach opened root e = .ok b') :
    b'.HasUnbrokenNames := by
  cases opened with
  | nil =>
    cases root with
    | none =>
      obtain rfl := Except.ok.inj h
      simp [HasUnbrokenNames]
    | some _ => contradiction
  | cons parent outer =>
    obtain rfl := Except.ok.inj h
    simpa [HasUnbrokenNames] using hb

theorem HasUnbrokenNames.text {s : List Char} (hb : b.HasUnbrokenNames) (h : b.text s = .ok b') :
    b'.HasUnbrokenNames := by
  obtain ⟨opened, root⟩ := b
  cases opened with
  | nil =>
    simp only [Builder.text] at h
    split at h
    · obtain rfl := Except.ok.inj h
      exact hb
    · contradiction
  | cons e outer =>
    obtain rfl := Except.ok.inj h
    simpa [HasUnbrokenNames] using hb

/-- An open element has the name that its tag was read with. -/
theorem HasUnbrokenNames.step {t : Token} (hb : b.HasUnbrokenNames) (h : b.step t = .ok b') :
    b'.HasUnbrokenNames := by
  cases t with
  | text raw =>
    obtain ⟨s, -, h⟩ := step_text_eq_ok.1 h
    exact hb.text h
  | cdata raw => exact hb.text h
  | comment =>
    obtain rfl := Except.ok.inj h
    exact hb
  | header =>
    obtain rfl := Except.ok.inj h
    exact hb
  | startTag raw =>
    simp only [Builder.step, Outcome.bind_eq_ok, Outcome.pure_eq_ok] at h
    obtain ⟨tag, hr, rfl⟩ := h
    exact List.forall_mem_cons.2 ⟨Tag.unbroken_of_read hr, hb⟩
  | emptyTag raw =>
    simp only [Builder.step, Outcome.bind_eq_ok] at h
    obtain ⟨tag, hr, h⟩ := h
    exact hb.attach h
  | endTag name =>
    obtain ⟨opened, root⟩ := b
    cases opened with
    | nil => contradiction
    | cons e outer =>
      simp only [Builder.step] at h
      split at h
      · -- an element that ends takes its name along
        exact attach (fun e he => hb e (List.mem_cons_of_mem _ he)) h
      · contradiction
  | instruction raw =>
    obtain rfl := Except.ok.inj h
    obtain ⟨opened, root⟩ := b
    cases opened with
    | nil => exact hb
    | cons e outer =>
      rw [instruction_cons]
      simpa [HasUnbrokenNames] using hb
  | doctype => contradiction
  | fault cause => contradiction

theorem finish_normalizeInstructions (b : Builder) :
    b.normalizeInstructions.finish = Document.normalizeInstructions <$> b.finish := by
  obtain ⟨opened, root⟩ := b
  cases opened <;> cases root <;> rfl

/-- So do many. -/
theorem run_normalizeLineEnds (hb : b.HasUnbrokenNames) (ts : List Token) :
    (ts.map Token.normalizeLineEnds).foldlM step b.normalizeInstructions =
      normalizeInstructions <$> ts.foldlM step b := by
  induction ts generalizing b with
  | nil => rfl
  | cons t ts ih =>
    rw [List.map_cons, List.foldlM_cons, List.foldlM_cons, step_normalizeLineEnds hb]
    cases hs : b.step t with
    | error e => rfl
    | ok b' => exact ih (hb.step hs)

end Builder

/-! ## Documents -/

theorem dropByteOrderMark_normalizeLineEnds (s : List Char) :
    dropByteOrderMark (normalizeLineEnds s) = normalizeLineEnds (dropByteOrderMark s) := by
  by_cases hs : s.head? = some '\uFEFF'
  · obtain ⟨s, rfl⟩ := List.head?_eq_some_iff.1 hs
    rw [normalizeLineEnds_cons (by decide)]
    rfl
  · have hnormal : (normalizeLineEnds s).head? ≠ some '\uFEFF' :=
      mt (head?_normalizeLineEnds_iff rfl).1 hs
    rw [dropByteOrderMark_of_head? hs, dropByteOrderMark_of_head? hnormal]

theorem Document.ofChars_normalizeLineEnds (s : List Char) :
    Document.ofChars (normalizeLineEnds s) =
      Document.normalizeInstructions <$> Document.ofChars s := by
  rw [Document.ofChars, Document.ofChars, dropByteOrderMark_normalizeLineEnds,
    scan_normalizeLineEnds]
  have hrun := Builder.run_normalizeLineEnds (b := ⟨[], none⟩) (by simp [Builder.HasUnbrokenNames])
    (Token.scan (dropByteOrderMark s))
  have hstart : Builder.normalizeInstructions ⟨[], none⟩ = ⟨[], none⟩ := rfl
  rw [hstart] at hrun
  rw [hrun]
  cases (Token.scan (dropByteOrderMark s)).foldlM Builder.step ⟨[], none⟩ with
  | error e => rfl
  | ok b => exact Builder.finish_normalizeInstructions b

theorem Element.normalizeInstructions_eq_self_iff {e : Element} :
    e.normalizeInstructions = e ↔ ∀ data ∈ e.toNode.instructionData, '\r' ∉ data.toList := by
  rw [← Node.normalizeInstructions_eq_self_iff]
  obtain ⟨tag, children⟩ := e
  simp [Element.normalizeInstructions, Element.toNode, Node.normalizeInstructions,
    Node.normalizeInstructionsAll_eq_map]

/-- **What is read of a document whose line ends were rewritten** is what was read before, with the
line ends in its instructions rewritten. So the same is read exactly if no instruction holds a
carriage return. -/
theorem Document.parse_normalizeLineEnds {input : Octets} {text : String}
    (htext : Octets.toText? input = some text) :
    Document.parse (Octets.normalizeLineEnds input) =
        Document.normalizeInstructions <$> Document.parse input ∧
      ∀ d, Document.parse input = .ok d →
        (Document.parse (Octets.normalizeLineEnds input) = .ok d ↔
          ∀ data ∈ d.root.toNode.instructionData, '\r' ∉ data.toList) := by
  have hread : Document.parse (Octets.normalizeLineEnds input) =
      Document.normalizeInstructions <$> Document.parse input := by
    rw [← Octets.ofText_of_toText? htext, Octets.normalizeLineEnds_ofText, Document.parse,
      Document.parse, Octets.toText?_ofText, Octets.toText?_ofText]
    simp only [String.toList_ofList]
    exact Document.ofChars_normalizeLineEnds text.toList
  refine ⟨hread, fun d hd => ?_⟩
  rw [hread, hd, ← Element.normalizeInstructions_eq_self_iff]
  constructor
  · intro h
    exact congrArg Document.root (Except.ok.inj h)
  · intro h
    exact congrArg (fun e => Except.ok (Document.mk e)) h

/-- Line ends in a tag, in a value, in character data and behind the name of an end tag. -/
theorem parse_normalizeLineEnds_specimen :
    ∃ d, Document.parse
        (Octets.ofText "<a\r\nb=\"1\r2\">x\r\n<![CDATA[\r]]><?t y?></a\r>") = .ok d ∧
      d.root.children = [.text "x\n\n", .instruction "t" "y"] ∧
      Octets.normalizeLineEnds
          (Octets.ofText "<a\r\nb=\"1\r2\">x\r\n<![CDATA[\r]]><?t y?></a\r>") =
        Octets.ofText "<a\nb=\"1\n2\">x\n<![CDATA[\n]]><?t y?></a\n>" ∧
      Document.parse (Octets.ofText "<a\nb=\"1\n2\">x\n<![CDATA[\n]]><?t y?></a\n>") = .ok d := by
  let d : Document := ⟨⟨⟨⟨none, "a"⟩, none, [], [⟨⟨none, "b"⟩, none, "1 2"⟩]⟩,
    [.text "x\n\n", .instruction "t" "y"]⟩⟩
  have hread : Document.parse
      (Octets.ofText "<a\r\nb=\"1\r2\">x\r\n<![CDATA[\r]]><?t y?></a\r>") = .ok d := by
    rw [Document.parse, Octets.toText?_ofText]
    decide +kernel
  have hends : Octets.normalizeLineEnds
      (Octets.ofText "<a\r\nb=\"1\r2\">x\r\n<![CDATA[\r]]><?t y?></a\r>") =
        Octets.ofText "<a\nb=\"1\n2\">x\n<![CDATA[\n]]><?t y?></a\n>" := by
    rw [Octets.normalizeLineEnds_ofText]
    rfl
  refine ⟨d, hread, rfl, hends, ?_⟩
  rw [← hends]
  exact ((Document.parse_normalizeLineEnds (Octets.toText?_ofText _)).2 d hread).2 (by decide)

/-- **Not so where an instruction holds a carriage return**: its data is kept as it was written, so
another document is read of the rewritten text, and it has another canonical form. -/
theorem Document.parse_depends_on_line_ends :
    ∃ d d', Document.parse (Octets.ofText "<a><?t x\r\ny?></a>") = .ok d ∧
      Octets.normalizeLineEnds (Octets.ofText "<a><?t x\r\ny?></a>") =
        Octets.ofText "<a><?t x\ny?></a>" ∧
      Document.parse (Octets.ofText "<a><?t x\ny?></a>") = .ok d' ∧
      d ≠ d' ∧
      d.canonicalize [] [] = .ok "<a><?t x\r\ny?></a>".toList ∧
      d'.canonicalize [] [] = .ok "<a><?t x\ny?></a>".toList := by
  let tag : Tag := ⟨⟨none, "a"⟩, none, [], []⟩
  have hread : Document.parse (Octets.ofText "<a><?t x\r\ny?></a>") =
      .ok ⟨⟨tag, [.instruction "t" "x\r\ny"]⟩⟩ := by
    rw [Document.parse, Octets.toText?_ofText]
    decide +kernel
  have hagain : Document.parse (Octets.ofText "<a><?t x\ny?></a>") =
      .ok ⟨⟨tag, [.instruction "t" "x\ny"]⟩⟩ := by
    rw [Document.parse, Octets.toText?_ofText]
    decide +kernel
  refine ⟨_, _, hread, ?_, hagain, by decide, ?_, ?_⟩
  · rw [Octets.normalizeLineEnds_ofText]
    rfl
  · rw [Document.canonicalize_eq (Document.resolved_of_parse hread) rfl]
    simp only [Element.settle, Tag.settle, tag, List.mergeSort_nil]
    rfl
  · rw [Document.canonicalize_eq (Document.resolved_of_parse hagain) rfl]
    simp only [Element.settle, Tag.settle, tag, List.mergeSort_nil]
    rfl

end Xml
end FiscalGateway

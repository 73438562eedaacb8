import FiscalGateway.Proofs.Xml.WrittenTag

/-!
# Printing — a printed tree is read as what it was

`Node.print` writes a tree as it stands. A resolved tree with proper names and no empty text
(`Node.Printable`) is read back: piece by piece inside an open element (`resume_printAll`), and as
a document (`ofChars_print`).
-/

namespace FiscalGateway.Xml

mutual

/-- A tree as it is written, nothing added and nothing left out. -/
def Node.print : Node → List Char
  | .element tag children => tag.print ++ Node.printAll children ++ tag.writeEnd
  | .text s => escapeText s.toList
  | .instruction target data => writeInstruction target data

/-- Trees as they are written, one after the other. -/
def Node.printAll : List Node → List Char
  | [] => []
  | n :: rest => n.print ++ Node.printAll rest

end

/-- A tree that can be read again where `outer` is visible. -/
inductive Node.Printable : Context → Node → Prop
  | element {outer : Context} {tag : Tag} {children : List Node} (htag : tag.ResolvedIn outer)
      (hnamed : tag.NCNamed) (hchildren : ∀ n ∈ children, n.Printable (tag.declarations :: outer))
      (hseparated : Separated children) : Printable outer (.element tag children)
  | text {outer : Context} {s : String} (hne : s ≠ "") : Printable outer (.text s)
  | instruction {outer : Context} {target data : String} (h : IsInstruction target data)
      (hnamed : IsNCName target) (hxml : target ≠ "xml") :
      Printable outer (.instruction target data)

/-! ## Instructions -/

/-- The inside of a written instruction. -/
def instructionInside (target data : String) : List Char :=
  target.toList ++ (if data.isEmpty then [] else ' ' :: data.toList)

section Instruction

variable {target data : String}

/-- A written instruction is cut where it was joined. -/
theorem splitOnce_instructionInside (h : IsInstruction target data) :
    (Text.splitOnce Text.isBlank (instructionInside target data)).getD
      (instructionInside target data, []) = (target.toList, data.toList) := by
  unfold instructionInside
  split
  · next he =>
    have hdata : data = "" := by simpa using he
    rw [List.append_nil, Text.splitOnce_eq_none_iff.2 h.unbroken, hdata]
    rfl
  · rw [Text.splitOnce_append h.unbroken (by decide : Text.isBlank ' ' = true)]
    rfl

/-- It ends where it was ended. -/
theorem splitAt?_instructionInside (h : IsInstruction target data) (hnamed : IsNCName target) :
    splitAt? ['?', '>'] (instructionInside target data ++ ['?', '>']) =
      some (instructionInside target data, []) := by
  have hmark : '?' ∉ target.toList := hnamed.not_mem (by decide)
  unfold instructionInside
  split
  · rw [List.append_nil, splitAt?_of_not_mem hmark]
    have : splitAt? ['?', '>'] ['?', '>'] = some ([], []) := by decide
    simp [this]
  · rw [List.append_assoc, splitAt?_of_not_mem hmark, List.cons_append, splitAt?_cons (by decide),
      h.closed]
    rfl

/-- What does not begin with the word `xml` is no header of a document. -/
theorem instructionToken_eq {raw : List Char}
    (h : raw.takeWhile (!Text.isMarkupBlank ·) ≠ ['x', 'm', 'l']) :
    instructionToken raw = .instruction raw := by
  unfold instructionToken
  split
  · split
    · exact absurd (by decide) h
    · split
      · next c more hc =>
        have hx : Text.isMarkupBlank 'x' = false := by decide
        have hm : Text.isMarkupBlank 'm' = false := by decide
        have hl : Text.isMarkupBlank 'l' = false := by decide
        exact absurd (by simp [hx, hm, hl, hc]) h
      · rfl
  · rfl

theorem instructionToken_inside (hnamed : IsNCName target) (hxml : target ≠ "xml") :
    instructionToken (instructionInside target data) =
      .instruction (instructionInside target data) := by
  refine instructionToken_eq fun e => hxml (String.toList_inj.1 ?_)
  have hproper : QName.IsProper ⟨none, target⟩ := ⟨by simp, hnamed⟩
  have hall : ∀ c ∈ target.toList, (!Text.isMarkupBlank c) = true := by
    intro c hc
    rw [hproper.isMarkupBlank_of_mem hc]
    rfl
  have htake : (instructionInside target data).takeWhile (!Text.isMarkupBlank ·) =
      target.toList := by
    rw [instructionInside, List.takeWhile_append_of_pos hall]
    split
    · simp
    · have hspace : Text.isMarkupBlank ' ' = true := by decide
      simp [hspace]
  rw [← htake, e]
  rfl

/-- **A written instruction is one step of the reader.** -/
theorem resume_instructionInside {e : OpenElement} {outer : List OpenElement}
    {root : Option Element} {rest : List Char} (h : IsInstruction target data)
    (hnamed : IsNCName target) (hxml : target ≠ "xml") :
    Builder.resume ⟨e :: outer, root⟩ (writeInstruction target data ++ rest) =
      Builder.resume ⟨⟨e.tag, .instruction target data :: e.content⟩ :: outer, root⟩ rest := by
  obtain ⟨c, name, hchars, hc, -⟩ := id hnamed
  have hinside : ∃ more, instructionInside target data = c :: more := by
    rw [instructionInside, hchars]
    exact ⟨_, rfl⟩
  obtain ⟨more, hmore⟩ := hinside
  -- a name does not begin with `>`, so this is no empty instruction
  have hne : (instructionInside target data).head? ≠ some '>' := by
    rw [hmore]
    rintro ⟨⟩
    exact absurd hc (by decide)
  have hwrite : writeInstruction target data ++ rest =
      '<' :: '?' :: (instructionInside target data ++ '?' :: '>' :: rest) := by
    simp [writeInstruction, instructionInside]
  rw [hwrite, resume_instruction hne (by rw [hmore]; exact List.cons_ne_nil _ _)
    (splitAt?_instructionInside h hnamed) (instructionToken_inside hnamed hxml)]
  have hstep : Builder.step ⟨e :: outer, root⟩ (.instruction (instructionInside target data)) =
      .ok ⟨⟨e.tag, .instruction target data :: e.content⟩ :: outer, root⟩ := by
    simp only [Builder.step, Builder.instruction, splitOnce_instructionInside h, h.trimmed,
      String.ofList_toList]
  rw [hstep]
  rfl

end Instruction

/-! ## Trees -/

/-- A tree that is no text is written in angle brackets. -/
theorem exists_print_eq {n : Node} (h : n.isText = false) : ∃ s, n.print = '<' :: s := by
  cases n with
  | element tag children => exact ⟨_, rfl⟩
  | text s => contradiction
  | instruction target data => exact ⟨_, rfl⟩

/-- What stands behind a text in a separated run is markup. -/
theorem exists_printAll_eq {s : String} {nodes : List Node} (h : Separated (.text s :: nodes))
    (rest : List Char) : ∃ r, Node.printAll nodes ++ '<' :: rest = '<' :: r := by
  cases nodes with
  | nil => exact ⟨rest, rfl⟩
  | cons n nodes =>
    have hn : n.isText = false := by
      have := (List.isChain_cons_cons.1 h).1
      simpa [Node.isText] using this
    obtain ⟨r, hr⟩ := exists_print_eq hn
    exact ⟨_, by rw [Node.printAll, hr]; rfl⟩

/-- A text is added as it is where no other text precedes it. -/
theorem addText_of_separated {s : String} {content nodes : List Node}
    (h : Separated (content.reverse ++ .text s :: nodes)) :
    Builder.addText s.toList content = .text s :: content := by
  unfold Builder.addText
  split
  · next t rest =>
    exfalso
    rw [List.reverse_cons, List.append_assoc] at h
    have hpair : Separated (.text t :: .text s :: nodes) := h.right_of_append
    exact (List.isChain_cons_cons.1 hpair).1 ⟨rfl, rfl⟩
  · rw [String.ofList_toList]

/-- A printed element is read if its content is, and then attached to what surrounds it. -/
theorem resume_print_of_content {b : Builder} {tag : Tag} {children : List Node} {rest : List Char}
    (htag : tag.ResolvedIn b.context) (hnamed : tag.NCNamed)
    (hcontent : ∀ r, Builder.resume ⟨⟨tag, []⟩ :: b.opened, b.root⟩
        (Node.printAll children ++ '<' :: r) =
      Builder.resume ⟨⟨tag, children.reverse⟩ :: b.opened, b.root⟩ ('<' :: r)) :
    b.resume ((Node.element tag children).print ++ rest) =
      Builder.attach b.opened b.root ⟨tag, children⟩ >>= fun b' => b'.resume rest := by
  have hend : tag.writeEnd ++ rest = '<' :: ('/' :: tag.name.toChars ++ ['>'] ++ rest) := rfl
  rw [Node.print, List.append_assoc, List.append_assoc, Tag.resume_print htag hnamed, hend,
    hcontent, ← hend, Tag.resume_writeEnd hnamed.name, List.reverse_reverse]

mutual

/-- A printed tree is read inside an open element. -/
theorem resume_printNode {tag : Tag} {content : List Node} {outer : List OpenElement}
    {root : Option Element} {rest : List Char} : ∀ {n : Node} {nodes : List Node},
      n.Printable (tag.declarations :: contextOf outer) →
      Separated (content.reverse ++ n :: nodes) → (n.isText = true → ∃ r, rest = '<' :: r) →
      Builder.resume ⟨⟨tag, content⟩ :: outer, root⟩ (n.print ++ rest) =
        Builder.resume ⟨⟨tag, n :: content⟩ :: outer, root⟩ rest
  | .element t children, _, h, _, _ => by
    cases h with
    | element htag hnamed hchildren hseparated =>
      refine resume_print_of_content (b := ⟨⟨tag, content⟩ :: outer, root⟩) htag hnamed fun r => ?_
      have hcontent : Builder.resume ⟨⟨t, []⟩ :: ⟨tag, content⟩ :: outer, root⟩
          (Node.printAll children ++ '<' :: r) =
            Builder.resume ⟨⟨t, children.reverse ++ []⟩ :: ⟨tag, content⟩ :: outer, root⟩
              ('<' :: r) := resume_printAll hchildren hseparated
      rwa [List.append_nil] at hcontent
  | .text s, nodes, h, hseparated, hrest => by
    cases h with
    | text hne =>
      have hs : s.toList ≠ [] := fun e => hne (String.toList_eq_nil_iff.1 e)
      have hwritten : escapeText s.toList ≠ [] := fun e => hs (escapeText_eq_nil_iff.1 e)
      -- no text is in front of it, so it stays a text of its own
      have hstep : Builder.step ⟨⟨tag, content⟩ :: outer, root⟩ (.text (escapeText s.toList)) =
          .ok ⟨⟨tag, .text s :: content⟩ :: outer, root⟩ := by
        simp only [Builder.step, readText_escapeText, Builder.text,
          addText_of_separated hseparated]
      rw [Node.print, resume_text hwritten (not_mem_escapeText (.inl rfl) _) (.inr (hrest rfl)),
        hstep]
      rfl
  | .instruction target data, _, h, _, _ => by
    cases h with
    | instruction h hnamed hxml => exact resume_instructionInside h hnamed hxml

/-- **A printed run of trees** is read inside an open element. -/
theorem resume_printAll {tag : Tag} {content : List Node} {outer : List OpenElement}
    {root : Option Element} {rest : List Char} : ∀ {nodes : List Node},
      (∀ n ∈ nodes, n.Printable (tag.declarations :: contextOf outer)) →
      Separated (content.reverse ++ nodes) →
      Builder.resume ⟨⟨tag, content⟩ :: outer, root⟩ (Node.printAll nodes ++ '<' :: rest) =
        Builder.resume ⟨⟨tag, nodes.reverse ++ content⟩ :: outer, root⟩ ('<' :: rest)
  | [], _, _ => rfl
  | n :: nodes, h, hseparated => by
    rw [List.forall_mem_cons] at h
    have hmore : Separated ((n :: content).reverse ++ nodes) := by simpa using hseparated
    rw [Node.printAll, List.append_assoc, resume_printNode h.1 hseparated,
      resume_printAll h.2 hmore]
    · simp
    · intro htext
      cases n with
      | element _ _ => contradiction
      | instruction _ _ => contradiction
      | text s => exact exists_printAll_eq hseparated.right_of_append rest

end

/-- **A printed document is read as what it was.** -/
theorem ofChars_print {root : Element} (h : root.toNode.Printable []) :
    Document.ofChars root.toNode.print = .ok ⟨root⟩ := by
  obtain ⟨tag, children⟩ := root
  cases h with
  | element htag hnamed hchildren hseparated =>
    have hmark : dropByteOrderMark (Node.element tag children).print =
        (Node.element tag children).print := rfl
    have hcontent : ∀ r, Builder.resume ⟨[⟨tag, []⟩], none⟩ (Node.printAll children ++ '<' :: r) =
        Builder.resume ⟨[⟨tag, children.reverse⟩], none⟩ ('<' :: r) := by
      intro r
      have hall : Builder.resume ⟨[⟨tag, []⟩], none⟩ (Node.printAll children ++ '<' :: r) =
          Builder.resume ⟨[⟨tag, children.reverse ++ []⟩], none⟩ ('<' :: r) :=
        resume_printAll hchildren hseparated
      rwa [List.append_nil] at hall
    have hread : Builder.resume ⟨[], none⟩ ((Node.element tag children).print ++ []) =
        Builder.attach [] none ⟨tag, children⟩ >>= fun b => b.resume [] :=
      resume_print_of_content htag hnamed hcontent
    rw [List.append_nil] at hread
    rw [ofChars_eq, Element.toNode, hmark, hread]
    change Builder.resume ⟨[], some ⟨tag, children⟩⟩ [] >>= Builder.finish = _
    rw [resume_nil]
    rfl

end FiscalGateway.Xml

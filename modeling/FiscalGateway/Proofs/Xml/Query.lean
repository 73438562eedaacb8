import FiscalGateway.Proofs.Xml.Settled
import FiscalGateway.Xml.Query

/-!
# Look-ups — what settling leaves as it is

Look-ups by name see the elements among the children in order (`Element.childElements`). A settled
element has the same child elements, each of them settled (`Element.childElements_settle`), and the
same attributes and text (`Element.Reads`), so a reader that only looks up finds in it what it found
in the source.
-/

namespace FiscalGateway.Xml

/-- A piece of content as an element, if it is one. -/
def Node.element? : Node → Option Element
  | .element tag children => some ⟨tag, children⟩
  | _ => none

@[simp] theorem Node.element?_element (tag : Tag) (children : List Node) :
    (Node.element tag children).element? = some ⟨tag, children⟩ := rfl

@[simp] theorem Node.element?_text (s : String) : (Node.text s).element? = none := rfl

@[simp] theorem Node.element?_instruction (target data : String) :
    (Node.instruction target data).element? = none := rfl

theorem Node.element?_eq_some {n : Node} {e : Element} :
    n.element? = some e ↔ n = e.toNode := by
  obtain ⟨tag, children⟩ := e
  cases n <;> simp [Node.element?, Element.toNode]

/-- The order of a list does not matter to a search that only one of its entries can meet. -/
theorem find?_perm {α : Type} {p : α → Bool} {l l' : List α} (h : l.Perm l')
    (hunique : ∀ a ∈ l', ∀ b ∈ l', p a = true → p b = true → a = b) : l.find? p = l'.find? p := by
  cases hf : l.find? p with
  | none =>
    refine (List.find?_eq_none.2 fun a ha => ?_).symm
    exact List.find?_eq_none.1 hf a (h.mem_iff.2 ha)
  | some a =>
    have ha : a ∈ l' := h.mem_iff.1 (List.mem_of_find?_eq_some hf)
    have hpa : p a = true := List.find?_some hf
    cases hf' : l'.find? p with
    | none => exact absurd hpa (List.find?_eq_none.1 hf' a ha)
    | some b => rw [hunique a ha b (List.mem_of_find?_eq_some hf') hpa (List.find?_some hf')]

namespace Element

variable {e c : Element} {ns l : String}

/-- The elements among the children. -/
def childElements (e : Element) : List Element := e.children.filterMap Node.element?

theorem map_snd_elements (e : Element) : e.elements.map (·.2) = e.childElements := by
  have hzip : ∀ (nodes : List Node) (k : Nat),
      ((nodes.zipIdx k).filterMap placed?).map (·.2) = nodes.filterMap Node.element? := by
    intro nodes
    induction nodes with
    | nil => intro k; rfl
    | cons n nodes ih =>
      intro k
      cases n <;> simp [ih, List.filterMap_cons, placed?]
  exact hzip e.children 0

/-- **The first child of a name** is the first of the child elements. -/
theorem map_snd_find? (e : Element) (ns l : String) :
    (e.find? ns l).map (·.2) = e.childElements.find? (·.isNamed ns l) := by
  rw [← map_snd_elements, List.find?_map]
  rfl

theorem findAll_eq (e : Element) (ns l : String) :
    e.findAll ns l = e.childElements.filter (·.isNamed ns l) := by
  rw [findAll, map_snd_elements]

theorem mem_childElements : c ∈ e.childElements ↔ c.toNode ∈ e.children := by
  simp [childElements, List.mem_filterMap, Node.element?_eq_some]

/-- **The first child of a name**, by its place among all children: it has that name, and no element
in front of it does. -/
structure FirstAt (e : Element) (ns l : String) (i : Nat) (c : Element) : Prop where
  place : e.children[i]? = some c.toNode
  named : c.isNamed ns l = true
  first : ∀ j < i, ∀ b : Element, e.children[j]? = some b.toNode → b.isNamed ns l = false

/-- The first child of a name, with its place. -/
structure First (e : Element) (ns l : String) where
  place : Nat
  element : Element
  isFirst : e.FirstAt ns l place element

theorem FirstAt.mem {i : Nat} (h : e.FirstAt ns l i c) : c ∈ e.childElements :=
  mem_childElements.2 (List.mem_of_getElem? h.place)

theorem FirstAt.child? {i : Nat} (h : e.FirstAt ns l i c) : e.child? i = some c := by
  rw [Element.child?, h.place]
  rfl

/-- Its place is the path to it. -/
theorem First.descend? (first : e.First ns l) : e.descend? [first.place] = some first.element := by
  rw [Element.descend?, first.isFirst.child?]
  rfl

theorem isNamed_iff : c.isNamed ns l = true ↔ c.tag.name.localPart = l ∧ c.tag.ns = some ns := by
  rw [isNamed, Bool.and_eq_true, beq_iff_eq, beq_iff_eq]

/-- A child is the first of its name if no child in front of it has the same local part. -/
theorem FirstAt.of_localPart {i : Nat} (hplace : e.children[i]? = some c.toNode)
    (hnamed : c.tag.name.localPart = l ∧ c.tag.ns = some ns)
    (hfirst : ∀ n ∈ e.children.take i, ∀ b ∈ n.element?, b.tag.name.localPart ≠ l) :
    e.FirstAt ns l i c := by
  refine ⟨hplace, isNamed_iff.2 hnamed, fun j hj b hb => ?_⟩
  have hmem : b.toNode ∈ e.children.take i :=
    List.mem_iff_getElem?.2 ⟨j, by rw [List.getElem?_take_of_lt hj, hb]⟩
  have hne := hfirst _ hmem b rfl
  rw [Bool.eq_false_iff]
  exact fun hself => hne (isNamed_iff.1 hself).1

/-- Nothing is the first child of a name twice. -/
theorem FirstAt.unique {i j : Nat} {b : Element} (h : e.FirstAt ns l i c)
    (h' : e.FirstAt ns l j b) : i = j ∧ c = b := by
  have hle : ∀ {i j : Nat} {c b : Element}, e.FirstAt ns l i c → e.FirstAt ns l j b → i ≤ j := by
    intro i j c b h h'
    by_contra hlt
    have := h.first j (by omega) b h'.place
    rw [h'.named] at this
    contradiction
  obtain rfl : i = j := Nat.le_antisymm (hle h h') (hle h' h)
  have := h.child?
  rw [h'.child?] at this
  exact ⟨rfl, (Option.some.inj this).symm⟩

/-- What `FirstAt` says, for children that stand behind `k` others. -/
def FirstFrom (ns l : String) (nodes : List Node) (k i : Nat) (c : Element) : Prop :=
  ∃ j, i = k + j ∧ nodes[j]? = some c.toNode ∧ c.isNamed ns l = true ∧
    ∀ m < j, ∀ b : Element, nodes[m]? = some b.toNode → b.isNamed ns l = false

/-- A node without the name is passed over. -/
theorem firstFrom_cons {n : Node} {nodes : List Node} {k i : Nat}
    (h : ∀ b : Element, n = b.toNode → b.isNamed ns l = false) :
    FirstFrom ns l (n :: nodes) k i c ↔ FirstFrom ns l nodes (k + 1) i c := by
  constructor
  · rintro ⟨j, rfl, hplace, hnamed, hfirst⟩
    cases j with
    | zero =>
      rw [h c (by simpa using hplace)] at hnamed
      contradiction
    | succ j =>
      exact ⟨j, by omega, by simpa using hplace, hnamed,
        fun m hm b hb => hfirst (m + 1) (by omega) b (by simpa using hb)⟩
  · rintro ⟨j, rfl, hplace, hnamed, hfirst⟩
    refine ⟨j + 1, by omega, by simpa using hplace, hnamed, fun m hm b hb => ?_⟩
    cases m with
    | zero => exact h b (by simpa using hb)
    | succ m => exact hfirst m (by omega) b (by simpa using hb)

/-- One with the name is the first. -/
theorem firstFrom_cons_of_isNamed {b : Element} {nodes : List Node} {k i : Nat}
    (h : b.isNamed ns l = true) :
    FirstFrom ns l (b.toNode :: nodes) k i c ↔ k = i ∧ b = c := by
  constructor
  · rintro ⟨j, rfl, hplace, -, hfirst⟩
    cases j with
    | zero =>
      obtain ⟨t, cs⟩ := c
      obtain ⟨rfl, rfl⟩ := Node.element.inj (Option.some.inj hplace)
      exact ⟨rfl, rfl⟩
    | succ j =>
      have := hfirst 0 (by omega) b rfl
      rw [h] at this
      contradiction
  · rintro ⟨rfl, rfl⟩
    exact ⟨0, rfl, rfl, h, by simp⟩

/-- A search among placed children gives the first of the name. -/
theorem find?_placed_iff {i : Nat} (nodes : List Node) (k : Nat) :
    ((nodes.zipIdx k).filterMap placed?).find? (·.2.isNamed ns l) = some (i, c) ↔
      FirstFrom ns l nodes k i c := by
  induction nodes generalizing k with
  | nil => simp [FirstFrom]
  | cons n nodes ih =>
    -- only elements have a place, but what is no element counts for the places of the others
    cases n with
    | text s =>
      rw [firstFrom_cons (by simp [Element.toNode]), ← ih]
      rfl
    | instruction target data =>
      rw [firstFrom_cons (by simp [Element.toNode]), ← ih]
      rfl
    | element tag children =>
      have hnode : Node.element tag children = (Element.mk tag children).toNode := rfl
      cases hnamed : (Element.mk tag children).isNamed ns l with
      | false =>
        rw [firstFrom_cons (by
          rintro ⟨t, cs⟩ hb
          obtain ⟨rfl, rfl⟩ := Node.element.inj hb
          exact hnamed), ← ih]
        simp [List.zipIdx_cons, placed?, hnamed]
      | true =>
        rw [hnode, firstFrom_cons_of_isNamed hnamed]
        simp [List.zipIdx_cons, placed?, hnamed, Element.toNode]

/-- **A look-up gives the first child of a name.** -/
theorem find?_eq_some_iff {i : Nat} : e.find? ns l = some (i, c) ↔ e.FirstAt ns l i c := by
  have hstart : FirstFrom ns l e.children 0 i c ↔ e.FirstAt ns l i c := by
    constructor
    · rintro ⟨j, hj, hplace, hnamed, hfirst⟩
      obtain rfl : i = j := by omega
      exact ⟨hplace, hnamed, hfirst⟩
    · rintro ⟨hplace, hnamed, hfirst⟩
      exact ⟨i, by omega, hplace, hnamed, hfirst⟩
  rw [← hstart, ← find?_placed_iff]
  rfl

/-- And nothing where no child has the name. -/
theorem find?_eq_none_iff :
    e.find? ns l = none ↔ ∀ b ∈ e.childElements, b.isNamed ns l = false := by
  rw [← Option.map_eq_none_iff, map_snd_find?, List.find?_eq_none]
  simp

/-! ## Paths -/

/-- The way that names lead, the first match at each step. -/
inductive Leads : Element → List (String × String) → Path → Element → Prop
  | here {e : Element} : Leads e [] [] e
  | step {e c x : Element} {ns l : String} {steps : List (String × String)} {i : Nat} {path : Path}
      (first : e.FirstAt ns l i c) (rest : Leads c steps path x) :
      Leads e ((ns, l) :: steps) (i :: path) x

@[simp] theorem leads_nil_iff {path : Path} {x : Element} :
    e.Leads [] path x ↔ path = [] ∧ e = x := by
  constructor
  · rintro ⟨⟩
    exact ⟨rfl, rfl⟩
  · rintro ⟨rfl, rfl⟩
    exact .here

@[simp] theorem leads_cons_iff {steps : List (String × String)} {path : Path} {x : Element} :
    e.Leads ((ns, l) :: steps) path x ↔
      ∃ (c : e.First ns l) (rest : Path), c.element.Leads steps rest x ∧ path = c.place :: rest := by
  constructor
  · rintro ⟨⟩
    exact ⟨⟨_, _, ‹_›⟩, _, ‹_›, rfl⟩
  · rintro ⟨c, rest, hrest, rfl⟩
    exact .step c.isFirst hrest

/-- **Following names** leads along first matches. -/
theorem findPath?_descend?_iff {steps : List (String × String)} {path : Path} {x : Element} :
    e.findPath? steps = some path ∧ e.descend? path = some x ↔ e.Leads steps path x := by
  induction steps generalizing e path with
  | nil =>
    constructor
    · rintro ⟨hpath, hx⟩
      obtain rfl : [] = path := Option.some.inj hpath
      obtain rfl : e = x := Option.some.inj hx
      exact .here
    · rintro ⟨⟩
      exact ⟨rfl, rfl⟩
  | cons s steps ih =>
    obtain ⟨ns, l⟩ := s
    constructor
    · rintro ⟨hpath, hx⟩
      -- the path leads through the first child of that name, and on from there
      obtain ⟨⟨i, c⟩, hc, hrest⟩ := Option.bind_eq_some_iff.1 hpath
      obtain ⟨path, hp, hself⟩ := Option.bind_eq_some_iff.1 hrest
      obtain rfl : i :: path = _ := Option.some.inj hself
      have hfirst := find?_eq_some_iff.1 hc
      rw [descend?, hfirst.child?] at hx
      exact .step hfirst (ih.1 ⟨hp, hx⟩)
    · intro h
      cases h with
      | step first rest =>
        obtain ⟨hp, hx⟩ := ih.2 rest
        rw [findPath?, find?_eq_some_iff.2 first, descend?, first.child?]
        simp [hp, hx]

/-! ## Settled elements -/

variable (inclusive : List (Option String)) (scope rendered : Scope) {outer : Context}

/-- The scope inside an element. -/
def innerScope (e : Element) (scope : Scope) : Scope := scope.declare e.tag.declarations

/-- What the output has declared inside an element. -/
def innerRendered (inclusive : List (Option String)) (scope rendered : Scope) (e : Element) :
    Scope :=
  rendered.declare (e.tag.settle inclusive (e.innerScope scope) rendered).declarations

theorem filterMap_element?_settleAll (nodes : List Node) :
    (Node.settleAll inclusive scope rendered nodes).filterMap Node.element? =
      (nodes.filterMap Node.element?).map (·.settle inclusive scope rendered) := by
  induction nodes with
  | nil => rfl
  | cons n nodes ih =>
    rw [Node.settleAll]
    cases n with
    | element tag children =>
      simp only [Node.isEmptyText, Bool.false_eq_true, if_false, Node.settle, List.filterMap_cons,
        Node.element?_element, List.map_cons, ih]
      rfl
    | text s =>
      split <;> simp [Node.settle, ih, List.filterMap_cons]
    | instruction target data => simp [Node.isEmptyText, Node.settle, ih, List.filterMap_cons]

/-- **The child elements of a settled element** are those of the source, each settled. -/
theorem childElements_settle (e : Element) :
    (e.settle inclusive scope rendered).childElements =
      e.childElements.map
        (·.settle inclusive (e.innerScope scope) (innerRendered inclusive scope rendered e)) :=
  filterMap_element?_settleAll inclusive _ _ e.children

theorem find?_settle (e : Element) (ns l : String) :
    ((e.settle inclusive scope rendered).find? ns l).map (·.2) =
      ((e.find? ns l).map (·.2)).map
        (·.settle inclusive (e.innerScope scope) (innerRendered inclusive scope rendered e)) := by
  rw [map_snd_find?, map_snd_find?, childElements_settle, List.find?_map]
  rfl

/-- The first child of a name is, settled, the first of that name in the settled element. -/
theorem FirstAt.settle {i : Nat} (h : e.FirstAt ns l i c) :
    ∃ j, (e.settle inclusive scope rendered).FirstAt ns l j
      (c.settle inclusive (e.innerScope scope) (innerRendered inclusive scope rendered e)) := by
  have hfind := find?_settle inclusive scope rendered e ns l
  rw [find?_eq_some_iff.2 h] at hfind
  obtain ⟨⟨j, c'⟩, hc', rfl⟩ := Option.map_eq_some_iff.1 hfind
  exact ⟨j, find?_eq_some_iff.1 hc'⟩

theorem findAll_settle (e : Element) (ns l : String) :
    (e.settle inclusive scope rendered).findAll ns l = (e.findAll ns l).map
      (·.settle inclusive (e.innerScope scope) (innerRendered inclusive scope rendered e)) := by
  rw [findAll_eq, findAll_eq, childElements_settle, List.filter_map]
  rfl

/-- A child of a resolved element is resolved. -/
theorem resolvedIn_of_mem (h : e.toNode.ResolvedIn outer) (hc : c ∈ e.childElements) :
    c.toNode.ResolvedIn (e.tag.declarations :: outer) := by
  obtain ⟨tag, children⟩ := e
  cases h with
  | element htag hchildren hseparated => exact hchildren _ (mem_childElements.1 hc)

/-- An element and one that is read alike as long as no one looks at its children. -/
structure Reads (e e' : Element) : Prop where
  attribute? : ∀ l, e'.attribute? l = e.attribute? l
  text : e'.text = e.text

/-- The text of an element is what its texts hold. -/
theorem toList_text (e : Element) : e.text.toList = e.children.flatMap fun
    | .text s => s.toList
    | _ => [] := by
  have hflat : ∀ texts : List String,
      ("".intercalate texts).toList = texts.flatMap String.toList := by
    intro texts
    induction texts with
    | nil => rfl
    | cons s texts ih =>
      cases texts with
      | nil => simp
      | cons t texts =>
        rw [String.intercalate_cons_cons, List.flatMap_cons, ← ih]
        simp
  rw [text, hflat]
  induction e.children with
  | nil => rfl
  | cons n nodes ih => cases n <;> simp [ih]

theorem text_settle (e : Element) : (e.settle inclusive scope rendered).text = e.text := by
  have hnodes : ∀ nodes : List Node, ∀ scope rendered : Scope,
      ((Node.settleAll inclusive scope rendered nodes).flatMap fun
        | .text s => s.toList
        | _ => []) = nodes.flatMap fun
        | .text s => s.toList
        | _ => [] := by
    intro nodes scope rendered
    induction nodes with
    | nil => rfl
    | cons n nodes ih =>
      rw [Node.settleAll]
      split
      · -- what is left out is an empty text
        next hempty =>
        cases n with
        | element _ _ => contradiction
        | instruction _ _ => contradiction
        | text s =>
          have hs : s = "" := by simpa [Node.isEmptyText] using hempty
          simp [ih, hs]
      · cases n <;> simp [ih, Node.settle]
  refine String.toList_inj.1 ?_
  rw [toList_text, toList_text]
  exact hnodes e.children _ _

/-- In a resolved tag, an attribute without namespace is found by its name wherever it stands. -/
theorem attribute?_eq_of_perm {e' : Element} (h : e.tag.ResolvedIn outer)
    (hperm : e'.tag.attributes.Perm e.tag.attributes) (l : String) :
    e'.attribute? l = e.attribute? l := by
  have hname : ∀ a ∈ e.tag.attributes, (a.ns == none && a.name.localPart == l) = true →
      a.name = ⟨none, l⟩ := by
    rintro ⟨⟨p, k⟩, ns, v⟩ ha hal
    simp only [Bool.and_eq_true, beq_iff_eq] at hal
    obtain ⟨rfl, rfl⟩ := hal
    obtain rfl : p = none := h.nsPrefix_eq_none ha rfl
    rfl
  have hunique : ∀ a ∈ e.tag.attributes, ∀ b ∈ e.tag.attributes,
      (a.ns == none && a.name.localPart == l) = true →
      (b.ns == none && b.name.localPart == l) = true → a = b := by
    intro a ha b hb hal hbl
    refine List.inj_on_of_nodup_map h.nodup_attributes ha hb ?_
    rw [hname a ha hal, hname b hb hbl]
  exact congrArg _ (find?_perm hperm hunique)

theorem attribute?_settle (h : e.toNode.ResolvedIn outer) (l : String) :
    (e.settle inclusive scope rendered).attribute? l = e.attribute? l := by
  cases h with
  | element htag _ _ => exact attribute?_eq_of_perm htag (List.mergeSort_perm _ _) l

/-- **A settled element is read as its source is.** -/
theorem reads_settle (h : e.toNode.ResolvedIn outer) :
    Reads e (e.settle inclusive scope rendered) :=
  ⟨attribute?_settle inclusive scope rendered h, text_settle inclusive scope rendered e⟩

/-- A look-up in a settled element meets what it met in the source, or nothing where it met
nothing. -/
theorem find?_settle_reads (h : e.toNode.ResolvedIn outer) (ns l : String) :
    (e.find? ns l = none ∧ (e.settle inclusive scope rendered).find? ns l = none) ∨
      ∃ i c j c', e.find? ns l = some (i, c) ∧
        (e.settle inclusive scope rendered).find? ns l = some (j, c') ∧ c.Reads c' := by
  cases he : e.find? ns l with
  | none =>
    have hfind := find?_settle inclusive scope rendered e ns l
    rw [he] at hfind
    exact .inl ⟨rfl, Option.map_eq_none_iff.1 hfind⟩
  | some p =>
    obtain ⟨i, c⟩ := p
    have hfirst := find?_eq_some_iff.1 he
    obtain ⟨j, hsettled⟩ := hfirst.settle inclusive scope rendered
    exact .inr ⟨i, c, j, _, rfl, find?_eq_some_iff.2 hsettled,
      reads_settle _ _ _ (resolvedIn_of_mem h hfirst.mem)⟩

/-- A reader that is blind to children reads all children of a name alike in a settled element. -/
theorem mapM_findAll_settle {ε α : Type} {read : Element → Except ε α}
    (h : e.toNode.ResolvedIn outer) (hread : ∀ c c', Reads c c' → read c' = read c)
    (ns l : String) : ((e.settle inclusive scope rendered).findAll ns l).mapM read =
      (e.findAll ns l).mapM read := by
  rw [findAll_settle, List.mapM_map]
  have hmem : ∀ c ∈ e.findAll ns l, c ∈ e.childElements := by
    intro c hc
    rw [findAll_eq] at hc
    exact (List.mem_filter.1 hc).1
  generalize e.findAll ns l = found at hmem
  induction found with
  | nil => rfl
  | cons c found ih =>
    rw [List.forall_mem_cons] at hmem
    have hc := hread c _ (reads_settle inclusive (e.innerScope scope)
      (innerRendered inclusive scope rendered e) (resolvedIn_of_mem h hmem.1))
    rw [List.mapM_cons, List.mapM_cons, ih hmem.2]
    simp only [Function.comp_apply, hc]

end Element

end FiscalGateway.Xml

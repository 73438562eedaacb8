import FiscalGateway.Proofs.Xml.Idempotent

/-!
# One prefix at a time — what a word on the list of inclusive prefixes does

Where canonical form declares a prefix depends on whether that prefix is on the list, and not on the
rest of the list (`declaringOnly_settle_congr`); and a settled tree is known once its declarations
of each prefix are (`settle_eq_of_declaringOnly`). So two lists give an element one canonical form
exactly if each word that only one of them has changes nothing where it is the only one
(`Document.canonicalize_eq_iff`).
-/

namespace FiscalGateway.Xml

variable {inclusive inclusive' : List (Option String)} {scope inner rendered rendered' : Scope}
  {p : Option String}

/-! ## The declarations of one prefix -/

/-- A tag with its declarations of one prefix only. -/
def Tag.declaringOnly (p : Option String) (tag : Tag) : Tag :=
  { tag with declarations := tag.declarations.filter (·.nsPrefix = p) }

mutual

/-- A tree with the declarations of one prefix only. -/
def Node.declaringOnly (p : Option String) : Node → Node
  | .element tag children => .element (tag.declaringOnly p) (Node.declaringOnlyAll p children)
  | .text s => .text s
  | .instruction target data => .instruction target data

/-- The same for content. -/
def Node.declaringOnlyAll (p : Option String) : List Node → List Node
  | [] => []
  | n :: rest => n.declaringOnly p :: Node.declaringOnlyAll p rest

end

namespace Scope

/-- What is needed for a prefix depends on what the output binds it to. -/
theorem requires_congr (h : rendered.uri? p = rendered'.uri? p) :
    inner.requires rendered p = inner.requires rendered' p := by
  cases p with
  | none => simp only [requires, h]
  | some q => simp [requires, h]

/-- A prefix is declared once, if it is used and needed. -/
theorem filter_required {ps : List (Option String)} (hps : ps.Nodup) :
    (inner.required rendered ps).filter (·.nsPrefix = p) =
      if p ∈ ps ∧ inner.requires rendered p = true then [inner.declaration p] else [] := by
  have hcount : (ps.filter (inner.requires rendered)).count p =
      if p ∈ ps ∧ inner.requires rendered p = true then 1 else 0 := by
    rw [(hps.filter _).count]
    simp only [List.mem_filter]
  rw [required, List.filter_map]
  have hfilter : (ps.filter (inner.requires rendered)).filter
      ((fun d : Declaration => decide (d.nsPrefix = p)) ∘ inner.declaration) =
        (ps.filter (inner.requires rendered)).filter (· = p) := rfl
  rw [hfilter, List.filter_eq, hcount]
  split <;> rfl

end Scope

namespace Tag

variable {tag : Tag}

/-- A settled tag declares a prefix if the prefix is used and needed. -/
theorem filter_declarations_settle :
    (tag.settle inclusive inner rendered).declarations.filter (·.nsPrefix = p) =
      if p ∈ tag.usedPrefixes inner inclusive ∧ inner.requires rendered p = true then
        [inner.declaration p] else [] :=
  Scope.filter_required nodup_usedPrefixes

variable (hp : p ∈ inclusive ↔ p ∈ inclusive') (hr : rendered.uri? p = rendered'.uri? p)

include hp hr

/-- **A prefix is needed or not**, whatever else is on the list or declared around the tag. -/
theorem needed_congr :
    (p ∈ tag.usedPrefixes inner inclusive ∧ inner.requires rendered p = true) ↔
      p ∈ tag.usedPrefixes inner inclusive' ∧ inner.requires rendered' p = true := by
  rw [mem_usedPrefixes_iff, mem_usedPrefixes_iff, hp, Scope.requires_congr hr]

theorem declaringOnly_settle_congr : (tag.settle inclusive inner rendered).declaringOnly p =
    (tag.settle inclusive' inner rendered').declaringOnly p := by
  simp only [declaringOnly, filter_declarations_settle, needed_congr hp hr]
  rfl

/-- What the output binds the prefix to is the same inside the tag, too. -/
theorem uri?_again_congr : (tag.again inclusive inner rendered).uri? p =
    (tag.again inclusive' inner rendered').uri? p := by
  have huri : ∀ (words : List (Option String)) (rendered : Scope),
      (tag.again words inner rendered).uri? p =
        if p ∈ tag.usedPrefixes inner words ∧ inner.requires rendered p then
          some ((inner.uri? p).getD "") else rendered.uri? p :=
    fun _ _ => Scope.uri?_declare_required_eq nodup_usedPrefixes
  simp only [huri, needed_congr hp hr, hr]

omit hp hr

/-- **A settled tag is known** once its declarations of each prefix are. -/
theorem settle_eq_of_declaringOnly (h : ∀ p, (tag.settle inclusive inner rendered).declaringOnly p =
    (tag.settle inclusive' inner rendered').declaringOnly p) :
    tag.settle inclusive inner rendered = tag.settle inclusive' inner rendered' := by
  have hneeded : ∀ p, (p ∈ tag.usedPrefixes inner inclusive ∧ inner.requires rendered p = true) ↔
      p ∈ tag.usedPrefixes inner inclusive' ∧ inner.requires rendered' p = true := by
    intro p
    have hfilter := congrArg Tag.declarations (h p)
    simp only [declaringOnly, filter_declarations_settle] at hfilter
    split at hfilter
    · next hfirst =>
      split at hfilter
      · next hsecond => exact iff_of_true hfirst hsecond
      · contradiction
    · next hfirst =>
      split at hfilter
      · contradiction
      · next hsecond => exact iff_of_false hfirst hsecond
  have hdeclarations := Scope.required_congr strictlySorted_usedPrefixes strictlySorted_usedPrefixes
    hneeded fun p _ _ => Scope.agreeOn_of_eq (rfl : inner.uri? p = inner.uri? p)
  rw [settle, hdeclarations, settle]

end Tag

/-! ## Trees -/

mutual

/-- **Where a settled tree declares a prefix** depends on whether the prefix is on the list, and not
on the rest of the list. -/
theorem declaringOnly_settle_congr (hp : p ∈ inclusive ↔ p ∈ inclusive') :
    ∀ (n : Node) {scope rendered rendered' : Scope}, rendered.uri? p = rendered'.uri? p →
      (n.settle inclusive scope rendered).declaringOnly p =
        (n.settle inclusive' scope rendered').declaringOnly p
  | .element tag children, scope, rendered, rendered', hr => by
    simp only [Node.settle, Node.declaringOnly, Tag.declaringOnly_settle_congr hp hr,
      declaringOnlyAll_settleAll_congr hp children (Tag.uri?_again_congr hp hr)]
  | .text _, _, _, _, _ => rfl
  | .instruction _ _, _, _, _, _ => rfl

theorem declaringOnlyAll_settleAll_congr (hp : p ∈ inclusive ↔ p ∈ inclusive') :
    ∀ (nodes : List Node) {scope rendered rendered' : Scope}, rendered.uri? p = rendered'.uri? p →
      Node.declaringOnlyAll p (Node.settleAll inclusive scope rendered nodes) =
        Node.declaringOnlyAll p (Node.settleAll inclusive' scope rendered' nodes)
  | [], _, _, _, _ => rfl
  | n :: nodes, scope, rendered, rendered', hr => by
    have hrest : Node.declaringOnlyAll p (Node.settleAll inclusive scope rendered nodes) =
        Node.declaringOnlyAll p (Node.settleAll inclusive' scope rendered' nodes) :=
      declaringOnlyAll_settleAll_congr hp nodes hr
    rw [Node.settleAll, Node.settleAll]
    split
    · exact hrest
    · rw [Node.declaringOnlyAll, Node.declaringOnlyAll, declaringOnly_settle_congr hp n hr, hrest]

end

mutual

/-- **A settled tree is known** once its declarations of each prefix are. -/
theorem settle_eq_of_declaringOnly : ∀ (n : Node) {scope rendered rendered' : Scope},
    (∀ p, (n.settle inclusive scope rendered).declaringOnly p =
      (n.settle inclusive' scope rendered').declaringOnly p) →
      n.settle inclusive scope rendered = n.settle inclusive' scope rendered'
  | .element tag children, scope, rendered, rendered', h => by
    simp only [Node.settle, Node.declaringOnly, Node.element.injEq, forall_and] at h ⊢
    exact ⟨Tag.settle_eq_of_declaringOnly h.1, settleAll_eq_of_declaringOnlyAll children h.2⟩
  | .text _, _, _, _, _ => rfl
  | .instruction _ _, _, _, _, _ => rfl

theorem settleAll_eq_of_declaringOnlyAll : ∀ (nodes : List Node) {scope rendered rendered' : Scope},
    (∀ p, Node.declaringOnlyAll p (Node.settleAll inclusive scope rendered nodes) =
      Node.declaringOnlyAll p (Node.settleAll inclusive' scope rendered' nodes)) →
      Node.settleAll inclusive scope rendered nodes =
        Node.settleAll inclusive' scope rendered' nodes
  | [], _, _, _, _ => rfl
  | n :: nodes, scope, rendered, rendered', h => by
    rw [Node.settleAll, Node.settleAll]
    simp only [Node.settleAll] at h
    split at h
    · next he =>
      rw [if_pos he, if_pos he]
      exact settleAll_eq_of_declaringOnlyAll nodes h
    · next he =>
      simp only [Node.declaringOnlyAll, List.cons.injEq, forall_and] at h
      rw [if_neg he, if_neg he, settle_eq_of_declaringOnly n h.1,
        settleAll_eq_of_declaringOnlyAll nodes h.2]

end

/-- **Two lists settle a tree alike** exactly if each prefix that only one of them has changes
nothing where it is the only one. -/
theorem settle_eq_iff {n : Node} : n.settle inclusive scope rendered =
      n.settle inclusive' scope rendered ↔
    ∀ p, (p ∈ inclusive ↔ p ∈ inclusive') ∨
      n.settle [p] scope rendered = n.settle [] scope rendered := by
  -- a list says of a prefix what the list of that prefix alone says, or what the empty list says
  have hmem : ∀ {words : List (Option String)} {p}, p ∈ words →
      (n.settle words scope rendered).declaringOnly p =
        (n.settle [p] scope rendered).declaringOnly p := fun hp =>
    declaringOnly_settle_congr (iff_of_true hp List.mem_cons_self) n rfl
  have hnot : ∀ {words : List (Option String)} {p}, p ∉ words →
      (n.settle words scope rendered).declaringOnly p =
        (n.settle [] scope rendered).declaringOnly p := fun hp =>
    declaringOnly_settle_congr (iff_of_false hp List.not_mem_nil) n rfl
  constructor
  · intro h p
    by_cases hp : p ∈ inclusive ↔ p ∈ inclusive'
    · exact .inl hp
    refine .inr (settle_eq_of_declaringOnly n fun q => ?_)
    by_cases hq : q = p
    · subst hq
      by_cases hfirst : q ∈ inclusive
      · have hsecond : q ∉ inclusive' := fun hsecond => hp (iff_of_true hfirst hsecond)
        rw [← hmem hfirst, h, hnot hsecond]
      · have hsecond : q ∈ inclusive' := by_contra fun hsecond => hp (iff_of_false hfirst hsecond)
        rw [← hmem hsecond, ← h, hnot hfirst]
    · exact hnot fun hmem => hq (List.mem_singleton.1 hmem)
  · intro h
    refine settle_eq_of_declaringOnly n fun p => ?_
    rcases h p with hp | hidle
    · exact declaringOnly_settle_congr hp n rfl
    by_cases hfirst : p ∈ inclusive <;> by_cases hsecond : p ∈ inclusive'
    · rw [hmem hfirst, hmem hsecond]
    · rw [hmem hfirst, hidle, hnot hsecond]
    · rw [hnot hfirst, ← hidle, hmem hsecond]
    · rw [hnot hfirst, hnot hsecond]

/-! ## Documents -/

theorem prefixOfToken_inj {word word' : String} (h : prefixOfToken word = prefixOfToken word') :
    word = word' := by
  unfold prefixOfToken at h
  split at h <;> split at h <;> simp_all

theorem mem_map_prefixOfToken {word : String} {words : List String} :
    prefixOfToken word ∈ words.map prefixOfToken ↔ word ∈ words :=
  List.mem_map_of_injective fun _ _ => prefixOfToken_inj

section Reading

variable {input : Octets} {d : Document} {path : Path} {e : Element}

/-- Two lists give one canonical form exactly if they settle the element alike. -/
theorem Document.canonicalize_eq_iff_settle (hparse : Document.parse input = .ok d)
    (hnamed : d.root.toNode.NCNamed) (he : d.elementAt? path = some e) {words words' : List String} :
    d.canonicalize path words = d.canonicalize path words' ↔
      e.toNode.settle (words.map prefixOfToken) (d.root.scopeAround [] path) [] =
        e.toNode.settle (words'.map prefixOfToken) (d.root.scopeAround [] path) [] := by
  have hres := Document.resolved_of_parse hparse
  have hout := Document.canonicalize_eq hres he
  constructor
  · intro h
    -- one text is read in one way only
    have hread := Document.ofChars_canonicalize hres hnamed he (hout words)
    have hread' := Document.ofChars_canonicalize hres hnamed he (h.symm.trans (hout words))
    have hsame := Except.ok.inj (hread.symm.trans hread')
    exact congrArg (fun d : Document => d.root.toNode) hsame
  · intro h
    rw [hout, hout]
    exact congrArg (fun n : Node => Except.ok n.print) h

/-- **When two lists give one canonical form**: exactly if each word that only one of them has
changes nothing where it is the only one. -/
theorem Document.canonicalize_eq_iff (hparse : Document.parse input = .ok d)
    (hnamed : d.root.toNode.NCNamed) (he : d.elementAt? path = some e) {words words' : List String} :
    d.canonicalize path words = d.canonicalize path words' ↔
      ∀ word, (word ∈ words ↔ word ∈ words') ∨
        d.canonicalize path [word] = d.canonicalize path [] := by
  have hidle : ∀ word, d.canonicalize path [word] = d.canonicalize path [] ↔
      e.toNode.settle [prefixOfToken word] (d.root.scopeAround [] path) [] =
        e.toNode.settle [] (d.root.scopeAround [] path) [] :=
    fun word => canonicalize_eq_iff_settle hparse hnamed he
  rw [canonicalize_eq_iff_settle hparse hnamed he, settle_eq_iff]
  constructor
  · intro h word
    rw [hidle, ← mem_map_prefixOfToken, ← @mem_map_prefixOfToken word words']
    exact h (prefixOfToken word)
  · intro h p
    by_cases hword : ∃ word, prefixOfToken word = p
    · obtain ⟨word, rfl⟩ := hword
      rw [mem_map_prefixOfToken, mem_map_prefixOfToken, ← hidle]
      exact h word
    · -- no word stands for this prefix, so that neither list has it
      have hnot : ∀ words : List String, p ∉ words.map prefixOfToken := fun words hp =>
        hword ((List.mem_map.1 hp).imp fun _ h => h.2)
      exact .inl (iff_of_false (hnot words) (hnot words'))

end Reading

end FiscalGateway.Xml

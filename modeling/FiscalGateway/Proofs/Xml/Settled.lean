import FiscalGateway.Proofs.Xml.Printing
import FiscalGateway.Proofs.Xml.Scopes
import Mathlib.Data.List.Sort

/-!
# Settled trees — canonical form as a tree

Canonical form is a tree printed: `Node.settle` makes the declarations the output needs, puts the
attributes in order and drops empty texts, and the canonical form of a resolved tree is what that
tree prints (`canonical_eq_print`). The settled tree is resolved in what the output declares
(`settle_printable`), so its text is read as that tree (`Document.ofChars_canonicalize`).
-/

namespace FiscalGateway.Xml

/-- A tag in canonical form, given the scope inside it. -/
def Tag.settle (inclusive : List (Option String)) (inner rendered : Scope) (tag : Tag) : Tag :=
  ⟨tag.name, tag.ns, inner.required rendered (tag.usedPrefixes inner inclusive),
    tag.attributes.mergeSort attributeLE⟩

/-- Whether a piece of content is a text that holds nothing. -/
def Node.isEmptyText : Node → Bool
  | .text s => s.isEmpty
  | _ => false

mutual

/-- The tree that the canonical form of a tree prints. -/
def Node.settle (inclusive : List (Option String)) (scope rendered : Scope) : Node → Node
  | .element tag children =>
    let inner := scope.declare tag.declarations
    let t := tag.settle inclusive inner rendered
    .element t (Node.settleAll inclusive inner (rendered.declare t.declarations) children)
  | .text s => .text s
  | .instruction target data => .instruction target data

/-- The same for content; empty texts are dropped. -/
def Node.settleAll (inclusive : List (Option String)) (scope rendered : Scope) :
    List Node → List Node
  | [] => []
  | n :: rest =>
    if n.isEmptyText then Node.settleAll inclusive scope rendered rest
    else n.settle inclusive scope rendered :: Node.settleAll inclusive scope rendered rest

end

/-- The element that the canonical form of an element prints. -/
def Element.settle (inclusive : List (Option String)) (scope rendered : Scope) (e : Element) :
    Element :=
  let inner := scope.declare e.tag.declarations
  let t := e.tag.settle inclusive inner rendered
  ⟨t, Node.settleAll inclusive inner (rendered.declare t.declarations) e.children⟩

/-- A tree with proper names only. -/
inductive Node.NCNamed : Node → Prop
  | element {tag : Tag} {children : List Node} (htag : tag.NCNamed)
      (hchildren : ∀ n ∈ children, n.NCNamed) : NCNamed (.element tag children)
  | text {s : String} : NCNamed (.text s)
  | instruction {target data : String} (htarget : IsNCName target) (hxml : target ≠ "xml") :
      NCNamed (.instruction target data)

mutual

/-- Whether a tree has proper names only. -/
def Node.hasProperNames : Node → Bool
  | .element tag children => decide tag.NCNamed && Node.haveProperNames children
  | .text _ => true
  | .instruction target _ => decide (IsNCName target) && target != "xml"

/-- Whether content has proper names only. -/
def Node.haveProperNames : List Node → Bool
  | [] => true
  | n :: rest => n.hasProperNames && Node.haveProperNames rest

end

mutual

theorem Node.hasProperNames_iff : ∀ (n : Node), n.hasProperNames = true ↔ n.NCNamed
  | .element tag children => by
    rw [hasProperNames, Bool.and_eq_true, decide_eq_true_eq, haveProperNames_iff children]
    constructor
    · rintro ⟨htag, hchildren⟩
      exact .element htag hchildren
    · rintro (⟨htag, hchildren⟩ | _ | _)
      exact ⟨htag, hchildren⟩
  | .text _ => ⟨fun _ => .text, fun _ => rfl⟩
  | .instruction target _ => by
    rw [hasProperNames, Bool.and_eq_true, decide_eq_true_eq, bne_iff_ne]
    constructor
    · rintro ⟨htarget, hxml⟩
      exact .instruction htarget hxml
    · rintro (_ | _ | ⟨htarget, hxml⟩)
      exact ⟨htarget, hxml⟩

theorem Node.haveProperNames_iff : ∀ (nodes : List Node),
    Node.haveProperNames nodes = true ↔ ∀ n ∈ nodes, n.NCNamed
  | [] => by simp [haveProperNames]
  | n :: rest => by
    rw [haveProperNames, Bool.and_eq_true, hasProperNames_iff n, haveProperNames_iff rest,
      List.forall_mem_cons]

end

instance : DecidablePred Node.NCNamed := fun n => decidable_of_iff _ n.hasProperNames_iff

variable {inclusive : List (Option String)} {scope inner rendered : Scope} {outer context : Context}

/-- What can be written has proper names. -/
theorem Node.Printable.ncNamed {n : Node} (h : n.Printable outer) : n.NCNamed := by
  induction h with
  | element _ hnamed _ _ ih => exact .element hnamed ih
  | text _ => exact .text
  | instruction _ hnamed hxml => exact .instruction hnamed hxml

/-! ## Prefixes that are used -/

namespace Tag

variable {tag : Tag}

theorem mem_usedPrefixes {p : Option String} :
    p ∈ tag.usedPrefixes scope inclusive ↔
      p = tag.name.nsPrefix ∨ (p ≠ none ∧ ∃ a ∈ tag.attributes, a.name.nsPrefix = p) ∨
        (p ∈ inclusive ∧ (scope.uri? p).isSome) := by
  simp only [usedPrefixes, mem_sortPrefixes, List.cons_append, List.mem_cons, List.mem_append,
    List.mem_filter, List.mem_map, Option.isSome_iff_ne_none]
  constructor
  · rintro (h | ⟨⟨a, ha, rfl⟩, hp⟩ | h)
    · exact .inl h
    · exact .inr (.inl ⟨hp, a, ha, rfl⟩)
    · exact .inr (.inr h)
  · rintro (h | ⟨hp, a, ha, rfl⟩ | h)
    · exact .inl h
    · exact .inr (.inl ⟨⟨a, ha, rfl⟩, hp⟩)
    · exact .inr (.inr h)

theorem nodup_usedPrefixes : (tag.usedPrefixes scope inclusive).Nodup := nodup_sortPrefixes _

/-- A settled tag declares each prefix once. -/
theorem nodup_settle_declarations :
    ((tag.settle inclusive inner rendered).declarations.map (·.nsPrefix)).Nodup :=
  Scope.nodup_required nodup_usedPrefixes

/-- A prefix in a resolved tag is bound. -/
theorem ResolvedIn.exists_uri (h : tag.ResolvedIn outer) {q : String}
    (hq : tag.name.nsPrefix = some q ∨ ∃ a ∈ tag.attributes, a.name.nsPrefix = some q) :
    ∃ uri, Context.resolve? (tag.declarations :: outer) (some q) = some uri := by
  cases hr : Context.resolve? (tag.declarations :: outer) (some q) with
  | some uri => exact ⟨uri, rfl⟩
  | none =>
    exfalso
    rcases hq with hq | ⟨a, ha, hq⟩
    · have := h.ns
      simp [Context.elementNamespace, hq, hr] at this
    · have := h.attributes a ha
      simp [Context.attribute, hq, hr] at this

/-- **A resolved tag has no prefix that the scope does not bind.** -/
theorem ResolvedIn.binds (h : tag.ResolvedIn outer) (hs : inner.Sees (tag.declarations :: outer)) :
    inner.Binds (tag.usedPrefixes inner inclusive) := by
  intro q hq hxml
  have hne : some q ≠ some "xml" := fun e => hxml (Option.some.inj e)
  rcases mem_usedPrefixes.1 hq with hq | ⟨-, hq⟩ | ⟨-, hq⟩
  · obtain ⟨uri, hr⟩ := h.exists_uri (.inl hq.symm)
    exact ⟨uri, by rw [hs, ← Context.resolve?_of_ne hne, hr]⟩
  · obtain ⟨uri, hr⟩ := h.exists_uri (.inr hq)
    exact ⟨uri, by rw [hs, ← Context.resolve?_of_ne hne, hr]⟩
  · exact Option.isSome_iff_exists.1 hq

/-- A tag in canonical form is the settled tag printed. -/
theorem write_eq_print : tag.write (inner.required rendered (tag.usedPrefixes inner inclusive)) =
    (tag.settle inclusive inner rendered).print := by
  simp [write, print, inside, parts, settle, List.flatMap_map]

end Tag

/-! ## Canonical form is printed -/

mutual

/-- **The canonical form of a resolved tree is the settled tree printed.** -/
theorem canonical_eq_print : ∀ {n : Node} {scope rendered : Scope} {context : Context},
    n.ResolvedIn context → scope.Sees context →
      n.canonical inclusive scope rendered = .ok (n.settle inclusive scope rendered).print
  | .element tag children, scope, rendered, context, h, hs => by
    cases h with
    | element htag hchildren hseparated =>
      have hinner := hs.declare htag.nodup_declarations
      simp only [Node.canonical, neededDeclarations_eq (htag.binds hinner),
        canonicalAll_eq_print hchildren hinner, Node.settle, Node.print, ← Tag.write_eq_print]
      rfl
  | .text s, _, _, _, _, _ => rfl
  | .instruction target data, _, _, _, _, _ => rfl

theorem canonicalAll_eq_print : ∀ {nodes : List Node} {scope rendered : Scope} {context : Context},
    (∀ n ∈ nodes, n.ResolvedIn context) → scope.Sees context →
      Node.canonicalAll inclusive scope rendered nodes =
        .ok (Node.printAll (Node.settleAll inclusive scope rendered nodes))
  | [], _, _, _, _, _ => rfl
  | n :: nodes, scope, rendered, context, h, hs => by
    rw [List.forall_mem_cons] at h
    simp only [Node.canonicalAll, canonical_eq_print h.1 hs, canonicalAll_eq_print h.2 hs,
      Node.settleAll]
    -- an empty text is left out of one side and prints as nothing on the other
    split
    · next he =>
      cases n with
      | element _ _ => contradiction
      | instruction _ _ => contradiction
      | text s =>
        have hnil : (Node.text s).print = [] :=
          escapeText_eq_nil_iff.2 <| String.toList_eq_nil_iff.2 <| by
            simpa [Node.isEmptyText] using he
        rw [Node.settle, hnil]
        rfl
    · rfl

end

/-! ## Settled trees are printable -/

theorem isText_settle (n : Node) : (n.settle inclusive scope rendered).isText = n.isText := by
  cases n <;> rfl

/-- Dropping empty texts brings no two texts together. -/
theorem separated_settleAll {nodes : List Node} (h : Separated nodes) :
    Separated (Node.settleAll inclusive scope rendered nodes) ∧
      ∀ m ∈ (Node.settleAll inclusive scope rendered nodes).head?, m.isText = true →
        ∃ n ∈ nodes.head?, n.isText = true := by
  induction nodes with
  | nil => exact ⟨separated_nil, by simp [Node.settleAll]⟩
  | cons n nodes ih =>
    obtain ⟨hsettled, hhead⟩ := ih h.tail
    have hpair : ∀ m ∈ nodes.head?, ¬ (n.isText = true ∧ m.isText = true) := by
      intro m hm
      exact h.rel_head? hm
    rw [Node.settleAll]
    split
    · next he =>
      have hn : n.isText = true := by
        cases n with
        | text s => rfl
        | element _ _ => contradiction
        | instruction _ _ => contradiction
      -- an empty text is left out; whatever comes to the front then, the source begins with a text
      exact ⟨hsettled, fun _ _ _ => ⟨n, rfl, hn⟩⟩
    · refine ⟨?_, fun m hm htext => ?_⟩
      · refine hsettled.cons fun m hm hb => ?_
        rw [isText_settle] at hb
        obtain ⟨k, hk, hktext⟩ := hhead m hm hb.2
        exact hpair k hk ⟨hb.1, hktext⟩
      · obtain rfl : n.settle inclusive scope rendered = m := by simpa using hm
        rw [isText_settle] at htext
        exact ⟨n, rfl, htext⟩

/-- A prefix that is looked up with the same result in another context, the default namespace
counting as empty where there is none. -/
def Context.Keeps (c c' : Context) : Option String → Prop
  | none => (c'.resolve? none).getD "" = (c.resolve? none).getD ""
  | some q => ∀ uri, c.resolve? (some q) = some uri → c'.resolve? (some q) = some uri

theorem Context.Keeps.elementNamespace {c c' : Context} {name : QName} {ns : Option String}
    (h : c.Keeps c' name.nsPrefix) (hn : c.elementNamespace name = .ok ns) :
    c'.elementNamespace name = .ok ns := by
  obtain ⟨p, l⟩ := name
  cases p with
  | none =>
    have hfilter : ∀ u v : Option String, u.getD "" = v.getD "" →
        u.filter (· ≠ "") = v.filter (· ≠ "") := by
      intro u v huv
      cases u <;> cases v <;> simp_all [Option.filter]
    have hsame := hfilter _ _ h
    simp only [Context.elementNamespace] at hn ⊢
    rw [hsame, hn]
  | some q =>
    simp only [Context.elementNamespace] at hn ⊢
    split at hn
    · next uri hr =>
      rw [h uri hr]
      exact hn
    · contradiction

theorem Context.Keeps.attribute {c c' : Context} {name : QName} {value : String} {a : Attribute}
    (h : name.nsPrefix ≠ none → c.Keeps c' name.nsPrefix) (ha : c.attribute name value = .ok a) :
    c'.attribute name value = .ok a := by
  obtain ⟨p, l⟩ := name
  cases p with
  | none => exact ha
  | some q =>
    simp only [Context.attribute] at ha ⊢
    split at ha
    · next uri hr =>
      rw [h (by simp) uri hr]
      exact ha
    · contradiction

/-- A scope whose prefixes are names and are bound to something. -/
def Scope.IsProper (s : Scope) : Prop :=
  ∀ q uri, s.uri? (some q) = some uri → IsNCName q ∧ uri ≠ ""

theorem Scope.isProper_nil : Scope.IsProper [] := by
  intro q uri h
  contradiction

theorem Scope.IsProper.declare {tag : Tag} (hs : scope.IsProper) (hres : tag.ResolvedIn outer)
    (hnamed : tag.NCNamed) : (scope.declare tag.declarations).IsProper := by
  intro q uri h
  rw [uri?_declare hres.nodup_declarations] at h
  cases hf : tag.declarations.find? (·.nsPrefix = some q) with
  | none =>
    rw [hf] at h
    exact hs q uri h
  | some d =>
    rw [hf] at h
    obtain rfl : d.uri = uri := Option.some.inj h
    have hd : d ∈ tag.declarations := List.mem_of_find?_eq_some hf
    have hp : d.nsPrefix = some q := by
      have := List.find?_some hf
      exact of_decide_eq_true this
    refine ⟨hnamed.declarations d hd q hp, ?_⟩
    have hread : (TagPart.declares d).IsRead :=
      hres.read _ (List.mem_append_left _ (List.mem_map_of_mem hd))
    exact TagPart.isRead_declares.1 hread (by simp [hp])

/-- What the output declares has a proper prefix, and binds it to something. -/
theorem Scope.IsProper.of_mem_required {ps : List (Option String)} (hproper : inner.IsProper)
    (hbinds : inner.Binds ps) {d : Declaration} (hd : d ∈ inner.required rendered ps) {q : String}
    (hq : d.nsPrefix = some q) : IsNCName q ∧ d.uri ≠ "" := by
  obtain ⟨p, hp, rfl⟩ := List.mem_map.1 hd
  obtain rfl : p = some q := hq
  obtain ⟨hmem, hneeded⟩ := List.mem_filter.1 hp
  have hxml : q ≠ "xml" := by
    rintro rfl
    simp [Scope.requires] at hneeded
  obtain ⟨uri, hu⟩ := hbinds q hmem hxml
  have huri : (inner.declaration (some q)).uri = uri := by simp [Scope.declaration, hu]
  rw [huri]
  exact hproper q uri hu

namespace Tag

variable {tag : Tag}

/-- **A prefix of a tag means in the output what it means in the source.** -/
theorem keeps_of_mem_usedPrefixes (hs : inner.Sees (tag.declarations :: outer))
    (hr : rendered.Sees context) {p : Option String} (hp : p ∈ tag.usedPrefixes inner inclusive) :
    Context.Keeps (tag.declarations :: outer)
      ((tag.settle inclusive inner rendered).declarations :: context) p := by
  have hnodup : (tag.usedPrefixes inner inclusive).Nodup := nodup_usedPrefixes
  have hout : (rendered.declare (inner.required rendered (tag.usedPrefixes inner inclusive))).Sees
      ((tag.settle inclusive inner rendered).declarations :: context) :=
    hr.declare nodup_settle_declarations
  cases p with
  | none =>
    -- for the default namespace, none and the empty one are alike
    have hdefault : ((rendered.declare (inner.required rendered
        (tag.usedPrefixes inner inclusive))).uri? none).getD "" = (inner.uri? none).getD "" :=
      Scope.default_declare_required hnodup hp
    rw [hout, hs] at hdefault
    exact hdefault
  | some q =>
    intro uri huri
    by_cases hxml : q = "xml"
    · -- `xml` is bound without a declaration
      subst hxml
      exact huri
    · have hne : some q ≠ some "xml" := fun e => hxml (Option.some.inj e)
      rw [Context.resolve?_of_ne hne, ← hs] at huri
      rw [Context.resolve?_of_ne hne, ← Scope.uri?_declare_required hnodup hp hxml huri]
      exact (hout (some q)).symm

theorem parts_settle_perm : List.Perm (tag.settle inclusive inner rendered).parts
    ((inner.required rendered (tag.usedPrefixes inner inclusive)).map .declares ++
      tag.attributes.map .ofTagAttribute) :=
  List.Perm.append_left _ ((List.mergeSort_perm _ _).map _)

/-- **A settled tag is resolved in what the output declares.** -/
theorem ResolvedIn.settle (h : tag.ResolvedIn outer) (hs : inner.Sees (tag.declarations :: outer))
    (hr : rendered.Sees context) (hproper : inner.IsProper) :
    (tag.settle inclusive inner rendered).ResolvedIn context := by
  have hbinds : inner.Binds (tag.usedPrefixes inner inclusive) := h.binds hs
  have hkeeps := fun p =>
    (keeps_of_mem_usedPrefixes hs hr : p ∈ tag.usedPrefixes inner inclusive → _)
  have hattributes : ∀ a ∈ tag.attributes, (TagPart.ofTagAttribute a).IsRead :=
    fun a ha => h.read _ (List.mem_append_right _ (List.mem_map_of_mem ha))
  refine ⟨?_, fun a ha => ?_, ?_, fun p hp => ?_⟩
  · exact (hkeeps _ (mem_usedPrefixes.2 (.inl rfl))).elementNamespace h.ns
  · have ha : a ∈ tag.attributes := List.mem_mergeSort.1 ha
    refine Context.Keeps.attribute (fun hne => ?_) (h.attributes a ha)
    exact hkeeps _ (mem_usedPrefixes.2 (.inr (.inl ⟨hne, a, ha, rfl⟩)))
  · rw [(parts_settle_perm.map _).nodup_iff, List.map_append, List.nodup_append]
    have hsource := h.distinct
    rw [Tag.parts, List.map_append, List.nodup_append] at hsource
    refine ⟨?_, hsource.2.1, ?_⟩
    · -- declarations have distinct prefixes, and an attribute never has the name of one
      have hnodup : ((inner.required rendered (tag.usedPrefixes inner inclusive)).map
          (·.nsPrefix)).Nodup := nodup_settle_declarations
      rw [List.map_map]
      refine List.pairwise_map.2 ((List.pairwise_map.1 hnodup).imp fun hne he => hne ?_)
      exact Declaration.name_inj.1 he
    · intro n hn m hm
      obtain ⟨d, -, rfl⟩ := List.mem_map.1 (List.map_map ▸ hn)
      obtain ⟨a, ha, rfl⟩ := List.mem_map.1 (List.map_map ▸ hm)
      exact ((hattributes a ha).name_ne d).symm
  · rcases List.mem_append.1 (parts_settle_perm.mem_iff.1 hp) with hp | hp
    · obtain ⟨d, hd, rfl⟩ := List.mem_map.1 hp
      refine TagPart.isRead_declares.2 fun hne => ?_
      obtain ⟨q, hq⟩ := Option.ne_none_iff_exists'.1 hne
      exact (hproper.of_mem_required hbinds hd hq).2
    · obtain ⟨a, ha, rfl⟩ := List.mem_map.1 hp
      exact hattributes a ha

theorem NCNamed.settle (h : tag.NCNamed) (hbinds : inner.Binds (tag.usedPrefixes inner inclusive))
    (hproper : inner.IsProper) : (tag.settle inclusive inner rendered).NCNamed :=
  ⟨h.name, fun a ha => h.attributes a (List.mem_mergeSort.1 ha),
    fun _ hd _ hq => (hproper.of_mem_required hbinds hd hq).1⟩

end Tag

mutual

/-- **A settled tree is printable**, in the context that the output makes for it. -/
theorem settle_printable : ∀ {n : Node} {scope rendered : Scope} {outer context : Context},
    n.ResolvedIn outer → n.NCNamed → n.isEmptyText = false → scope.Sees outer → scope.IsProper →
      rendered.Sees context → (n.settle inclusive scope rendered).Printable context
  | .element tag children, scope, rendered, outer, context, h, hnamed, _, hs, hproper, hr => by
    cases h with
    | element htag hchildren hseparated =>
      cases hnamed with
      | element hnames hnamed =>
        have hinner := hs.declare htag.nodup_declarations
        have hproper := hproper.declare htag hnames
        have hout : (rendered.declare (tag.settle inclusive (scope.declare tag.declarations)
            rendered).declarations).Sees _ := hr.declare Tag.nodup_settle_declarations
        exact .element (htag.settle hinner hr hproper) (hnames.settle (htag.binds hinner) hproper)
          (settleAll_printable hchildren hnamed hinner hproper hout)
          (separated_settleAll hseparated).1
  | .text s, _, _, _, _, _, _, hne, _, _, _ => .text (by simpa [Node.isEmptyText] using hne)
  | .instruction target data, _, _, _, _, h, hnamed, _, _, _, _ => by
    cases h with
    | instruction h =>
      cases hnamed with
      | instruction htarget hxml => exact .instruction h htarget hxml

theorem settleAll_printable : ∀ {nodes : List Node} {scope rendered : Scope}
    {outer context : Context}, (∀ n ∈ nodes, n.ResolvedIn outer) → (∀ n ∈ nodes, n.NCNamed) →
      scope.Sees outer → scope.IsProper → rendered.Sees context →
        ∀ n ∈ Node.settleAll inclusive scope rendered nodes, n.Printable context
  | [], _, _, _, _, _, _, _, _, _ => by simp [Node.settleAll]
  | n :: nodes, scope, rendered, outer, context, h, hnamed, hs, hproper, hr => by
    rw [List.forall_mem_cons] at h hnamed
    have hmore := settleAll_printable h.2 hnamed.2 hs hproper hr
    rw [Node.settleAll]
    split
    · exact hmore
    · next hne =>
      rw [List.forall_mem_cons]
      exact ⟨settle_printable h.1 hnamed.1 (by simpa using hne) hs hproper hr, hmore⟩

end

/-! ## Reading canonical form -/

/-- The scope around the element that a path leads to. -/
def Element.scopeAround (e : Element) (outer : Scope) : Path → Scope
  | [] => outer
  | i :: path => e.scopeAt outer (i :: path).dropLast

theorem Element.scopeAround_cons {e c : Element} {i : Nat} (h : e.child? i = some c)
    (outer : Scope) (path : Path) :
    e.scopeAround outer (i :: path) = c.scopeAround (outer.declare e.tag.declarations) path := by
  cases path with
  | nil => rfl
  | cons j path =>
    rw [scopeAround, List.dropLast_cons_cons, scopeAt, h]
    rfl

theorem Element.toNode_mem_of_child? {e c : Element} {i : Nat} (h : e.child? i = some c) :
    c.toNode ∈ e.children := by
  unfold child? at h
  split at h
  · next tag children hi =>
    obtain rfl := Option.some.inj h
    exact List.mem_of_getElem? hi
  · contradiction

/-- **What a path leads to** is resolved in a context that the scope around it sees. -/
theorem Element.resolvedIn_of_descend? {e x : Element} {path : Path} (h : e.descend? path = some x)
    (hres : e.toNode.ResolvedIn outer) (hs : scope.Sees outer) :
    ∃ context, x.toNode.ResolvedIn context ∧ (e.scopeAround scope path).Sees context ∧
      (e.toNode.NCNamed → scope.IsProper → x.toNode.NCNamed ∧
        (e.scopeAround scope path).IsProper) := by
  induction path generalizing e scope outer with
  | nil =>
    obtain rfl := Option.some.inj h
    exact ⟨outer, hres, hs, fun hn hp => ⟨hn, hp⟩⟩
  | cons i path ih =>
    rw [descend?] at h
    obtain ⟨c, hc, hpath⟩ := Option.bind_eq_some_iff.1 h
    -- one step down: the child is resolved where the tag of its parent is declared too
    have hmem := toNode_mem_of_child? hc
    cases hres with
    | element htag hchildren hseparated =>
      obtain ⟨context, hx, hsees, hnames⟩ :=
        ih hpath (hchildren _ hmem) (hs.declare htag.nodup_declarations)
      rw [scopeAround_cons hc]
      refine ⟨context, hx, hsees, fun hn hp => ?_⟩
      cases hn with
      | element htags hnamed => exact hnames (hnamed _ hmem) (hp.declare htag htags)

/-- **Canonical form exists** for each element of a document that was read. -/
theorem Document.canonicalize_eq {d : Document} (hres : d.root.toNode.ResolvedIn [])
    {path : Path} {e : Element} (he : d.elementAt? path = some e) (words : List String) :
    d.canonicalize path words =
      .ok (e.settle (words.map prefixOfToken) (d.root.scopeAround [] path) []).toNode.print := by
  obtain ⟨context, hx, hsees, -⟩ := Element.resolvedIn_of_descend? he hres Scope.sees_nil
  unfold Document.canonicalize
  rw [he]
  cases path with
  | nil => exact canonical_eq_print hx hsees
  | cons i path => exact canonical_eq_print hx hsees

/-- **Canonical form is read as the settled element**, and nothing else. -/
theorem Document.ofChars_canonicalize {d : Document} (hres : d.root.toNode.ResolvedIn [])
    (hnamed : d.root.toNode.NCNamed) {path : Path} {e : Element}
    (he : d.elementAt? path = some e) {words : List String} {out : List Char}
    (h : d.canonicalize path words = .ok out) :
    Document.ofChars out =
      .ok ⟨e.settle (words.map prefixOfToken) (d.root.scopeAround [] path) []⟩ := by
  obtain ⟨context, hx, hsees, hnames⟩ := Element.resolvedIn_of_descend? he hres Scope.sees_nil
  obtain ⟨hnames, hproper⟩ := hnames hnamed Scope.isProper_nil
  rw [Document.canonicalize_eq hres he] at h
  obtain rfl := Except.ok.inj h
  exact ofChars_print (settle_printable hx hnames rfl hsees hproper Scope.sees_nil)

end FiscalGateway.Xml

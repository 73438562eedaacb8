import FiscalGateway.Proofs.Xml.Prefixwise

/-!
# Canonical forms in turn — each read again for the next

A list of transforms is a list of canonical forms, each made of what the one before has written:
`Document.canonicalizeInTurn`. A later transform finds only the declarations that the earlier ones
have kept, so all of them together are one canonical form with the words that every list has
(`Document.canonicalizeInTurn_eq`). A canonical form with the words of any of the lists is another
one, unless the words that are not on every list change nothing (`Document.inTurn_eq_flatten_iff`).
-/

namespace FiscalGateway.Xml

/-- The canonical forms of an element in turn, with a list of words for each: what one has written
is read, and its root is put in canonical form with the next list. -/
def Document.canonicalizeInTurn (d : Document) (path : Path) (words : List String) :
    List (List String) → Except Error (List Char)
  | [] => d.canonicalize path words
  | next :: rest => do
    let out ← d.canonicalize path words
    let d' ← Document.parse (Octets.ofText (String.ofList out))
    d'.canonicalizeInTurn [] next rest

/-- The words of one list that all others have. -/
def commonWords (words : List String) (rest : List (List String)) : List String :=
  words.filter fun word => rest.all (word ∈ ·)

theorem mem_commonWords {word : String} {words : List String} {rest : List (List String)} :
    word ∈ commonWords words rest ↔ ∀ list ∈ words :: rest, word ∈ list := by
  simp [commonWords]

theorem mem_commonWords_cons {word : String} {words next : List String}
    {rest : List (List String)} : word ∈ commonWords words (next :: rest) ↔
      word ∈ words ∧ word ∈ commonWords next rest := by
  rw [mem_commonWords, mem_commonWords, List.forall_mem_cons]

section Reading

variable {input : Octets} {d : Document} {path : Path} {e : Element}

/-- **One canonical form is read again**, and a canonical form of what was read is one of the
element, with the words that both lists have. -/
theorem Document.exists_canonicalize_again (hparse : Document.parse input = .ok d)
    (hnamed : d.root.toNode.NCNamed) (he : d.elementAt? path = some e) (words : List String) :
    ∃ out d', d.canonicalize path words = .ok out ∧
      Document.parse (Octets.ofText (String.ofList out)) = .ok d' ∧ d'.root.toNode.NCNamed ∧
        ∀ words' common, (∀ word, word ∈ common ↔ word ∈ words ∧ word ∈ words') →
          d'.canonicalize [] words' = d.canonicalize path common := by
  have hres := Document.resolved_of_parse hparse
  obtain ⟨context, hx, hsees, hnames⟩ := Element.resolvedIn_of_descend? he hres Scope.sees_nil
  obtain ⟨hnames, hproper⟩ := hnames hnamed Scope.isProper_nil
  have hout := Document.canonicalize_eq hres he words
  have hread := Document.ofChars_canonicalize hres hnamed he hout
  have hroot : ∀ d' : Document, d'.elementAt? [] = some d'.root := fun _ => rfl
  refine ⟨_, _, hout, (Document.parse_ofText _).trans hread,
    (settle_printable hx hnames rfl hsees hproper Scope.sees_nil).ncNamed,
    fun words' common hcommon => ?_⟩
  rw [Document.canonicalize_eq (Document.resolved_of_ofChars hread) (hroot _),
    Document.canonicalize_eq hres he]
  -- words stand for prefixes one by one, so common words are common prefixes
  have hprefixes : ∀ p, p ∈ common.map prefixOfToken ↔
      p ∈ words.map prefixOfToken ∧ p ∈ words'.map prefixOfToken := by
    intro p
    constructor
    · intro hp
      obtain ⟨word, hword, rfl⟩ := List.mem_map.1 hp
      rw [mem_map_prefixOfToken, mem_map_prefixOfToken]
      exact (hcommon word).1 hword
    · rintro ⟨hp, hp'⟩
      obtain ⟨word, hword, rfl⟩ := List.mem_map.1 hp
      rw [mem_map_prefixOfToken] at hp' ⊢
      exact (hcommon word).2 ⟨hword, hp'⟩
  exact congrArg (fun n : Node => Except.ok n.print)
    (settle_settle_of_common hprefixes hx hsees fun _ _ => .inl rfl)

/-- **Canonical forms in turn** are one canonical form, with the words that every list has. -/
theorem Document.canonicalizeInTurn_eq (hparse : Document.parse input = .ok d)
    (hnamed : d.root.toNode.NCNamed) (he : d.elementAt? path = some e) (words : List String)
    (rest : List (List String)) :
    d.canonicalizeInTurn path words rest = d.canonicalize path (commonWords words rest) := by
  induction rest generalizing input d path e words with
  | nil => simp [canonicalizeInTurn, commonWords]
  | cons next rest ih =>
    obtain ⟨out, d', hout, hread, hnamed', hagain⟩ :=
      exists_canonicalize_again hparse hnamed he words
    rw [canonicalizeInTurn, hout, ← hagain _ _ fun _ => mem_commonWords_cons,
      ← ih hread hnamed' (rfl : d'.elementAt? [] = some d'.root)]
    change (Document.parse _ >>= fun d' => d'.canonicalizeInTurn [] next rest) = _
    rw [hread]
    rfl

/-- **When all words may stand on one list**: exactly if each word that is not on every list changes
nothing where it is the only one. -/
theorem Document.inTurn_eq_flatten_iff (hparse : Document.parse input = .ok d)
    (hnamed : d.root.toNode.NCNamed) (he : d.elementAt? path = some e) (words : List String)
    (rest : List (List String)) :
    d.canonicalize path (words :: rest).flatten = d.canonicalizeInTurn path words rest ↔
      ∀ word ∈ (words :: rest).flatten, (∀ list ∈ words :: rest, word ∈ list) ∨
        d.canonicalize path [word] = d.canonicalize path [] := by
  rw [canonicalizeInTurn_eq hparse hnamed he, canonicalize_eq_iff hparse hnamed he]
  refine forall_congr' fun word => ?_
  rw [mem_commonWords]
  have hsome : (∀ list ∈ words :: rest, word ∈ list) → word ∈ (words :: rest).flatten :=
    fun hall => List.mem_flatten.2 ⟨words, List.mem_cons_self, hall _ List.mem_cons_self⟩
  tauto

end Reading

end FiscalGateway.Xml

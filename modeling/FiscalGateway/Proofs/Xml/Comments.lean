import FiscalGateway.Proofs.Outcome
import FiscalGateway.Proofs.Xml.CharacterData
import FiscalGateway.Proofs.Xml.Scan

/-!
# Comments — a comment leaves no trace

Reading a document may pause at each `Place` between its pieces: what is read up to there and what
is read from there on make up the whole (`Place.resume_append`). A place may lie within character
data. The two halves are normalised and expanded apart (`readText_append`) and come together again
as one text (`Builder.text_append`). A comment adds nothing where reading pauses, so the same
document is read with it and without (`Document.parse_comment`): it neither ends nor divides a text.

The front of a document is left out. A byte order mark is dropped there and nowhere else, so a
comment in front of it would turn it into character data.
-/

namespace FiscalGateway.Xml

variable {s t rest : List Char} {b b' : Builder}

/-! ## Character data in two halves -/

/-- Whether each ampersand has its semicolon, so that no reference is open behind a text. -/
def closesReferences : List Char → Bool
  | [] => true
  | c :: s => (c != '&' || s.contains ';') && closesReferences s

/-- A text is expanded piece by piece where no reference stands across the seam. -/
theorem expandFrom_append {pending : Option (List Char)} (hs : closesReferences s = true)
    (hpending : pending ≠ none → ';' ∈ s) :
    expandFrom pending (s ++ t) =
      expandFrom pending s >>= fun a => (a ++ ·) <$> expandFrom none t := by
  induction s generalizing pending with
  | nil =>
    have hnone : pending = none := by simpa using hpending
    subst hnone
    exact (id_map (expandFrom none t)).symm
  | cons c s ih =>
    simp only [closesReferences, Bool.and_eq_true, Bool.or_eq_true, bne_iff_ne,
      List.contains_iff_mem] at hs
    have hplain : expandFrom none (s ++ t) =
        expandFrom none s >>= fun a => (a ++ ·) <$> expandFrom none t :=
      ih hs.2 fun h => absurd rfl h
    cases pending with
    | none =>
      rw [List.cons_append, expandFrom, expandFrom]
      split
      · next hc => exact ih hs.2 fun _ => hs.1.resolve_left fun h => h hc
      · simp [hplain]
    | some name =>
      rw [List.cons_append, expandFrom, expandFrom]
      split
      · split
        · simp [hplain]
        · rfl
      · next hsemicolon =>
        split
        · rfl
        · refine ih hs.2 fun _ => ?_
          simpa [Ne.symm hsemicolon] using hpending

/-- Line ends have no part in references. -/
theorem closesReferences_normalizeLineEnds (h : closesReferences s = true) :
    closesReferences (normalizeLineEnds s) = true := by
  have hmem : ∀ r : List Char, (normalizeLineEnds r).contains ';' = r.contains ';' := by
    intro r
    simp [mem_normalizeLineEnds]
  fun_induction normalizeLineEnds s with
  | case1 => rfl
  | case2 rest ih => simp_all [closesReferences]
  | case3 rest _ ih => simp_all [closesReferences]
  | case4 c rest _ _ ih => simp_all [closesReferences]

/-- **Character data is read piece by piece** unless a reference or a line end stands across the
seam. -/
theorem readText_append (hs : closesReferences s = true)
    (hseam : s.getLast? = some '\r' → t.head? ≠ some '\n') :
    readText (s ++ t) = readText s >>= fun a => (a ++ ·) <$> readText t := by
  rw [readText, normalizeLineEnds_append hseam]
  exact expandFrom_append (closesReferences_normalizeLineEnds hs) fun h => absurd rfl h

/-! ## Markup -/

theorem splitTag?_append {opened : Option Char} {raw after : List Char}
    (h : splitTag? opened s = some (raw, after)) (t : List Char) :
    splitTag? opened (s ++ t) = some (raw, after ++ t) := by
  obtain ⟨rfl, hclosed⟩ := splitTag?_eq_some_iff.1 h
  rw [List.append_assoc]
  exact splitTag?_of_closesQuotes hclosed (after ++ t)

theorem splitAt?_append_right {stop before after : List Char}
    (h : splitAt? stop s = some (before, after)) (t : List Char) :
    splitAt? stop (s ++ t) = some (before, after ++ t) := by
  have hreplace := splitAt?_replace h (after ++ t)
  rwa [← List.append_assoc, ← (first_of_splitAt? h).1] at hreplace

/-- Whether a token is a piece of markup that can be told from its own text: it has come to its end,
and is no document type, which takes all the rest. -/
def Token.isWhole : Token → Bool
  | .doctype | .fault _ => false
  | _ => true

theorem Token.isWhole_scanDoctype (s : List Char) : (scanDoctype s).isWhole = false := by
  rcases scanDoctype_eq s with h | h
  · rw [h]
    rfl
  · rw [h]
    rfl

/-- What follows a whole piece of markup does not change it. -/
theorem scanMarkup_append {m after : List Char} {token : Token} (h : scanMarkup m = (token, after))
    (hwhole : token.isWhole = true) (r : List Char) :
    scanMarkup (m ++ r) = (token, after ++ r) := by
  have hfault : (Token.fault .markup, []) ≠ (token, after) := by
    intro e
    simp [← (Prod.mk.inj e).1, Token.isWhole] at hwhole
  unfold scanMarkup at h
  split at h
  · split at h
    · next hsplit =>
      obtain ⟨rfl, rfl⟩ := Prod.mk.inj h
      simp only [List.cons_append, scanMarkup, splitAt?_append_right hsplit]
    · exact absurd h hfault
  · split at h
    · next hsplit =>
      obtain ⟨rfl, rfl⟩ := Prod.mk.inj h
      simp only [List.cons_append, scanMarkup, splitAt?_append_right hsplit]
    · exact absurd h hfault
  · rw [← (Prod.mk.inj h).1, Token.isWhole_scanDoctype] at hwhole
    contradiction
  · split at h
    · next hsplit =>
      obtain ⟨rfl, rfl⟩ := Prod.mk.inj h
      simp only [List.cons_append, scanMarkup, splitTag?_append hsplit]
    · exact absurd h hfault
  · exact absurd h hfault
  · next s hs =>
    split at h
    · next hsplit =>
      obtain ⟨rfl, rfl⟩ := Prod.mk.inj h
      have hfront : (s ++ r).head? ≠ some '>' := by
        cases s with
        | nil => simp [splitAt?] at hsplit
        | cons c s => exact fun e => hs s (by rw [Option.some.inj e])
      rw [List.cons_append, scanMarkup_instruction hfront, splitAt?_append_right hsplit]
    · exact absurd h hfault
  · next _ _ hbang hslash _ hquestion =>
    split at h
    · next hsplit =>
      obtain ⟨rfl, rfl⟩ := Prod.mk.inj h
      have hfront : ∀ c ∈ (m ++ r).head?, c ≠ '!' ∧ c ≠ '/' ∧ c ≠ '?' := by
        cases m with
        | nil => simp [splitTag?] at hsplit
        | cons c m =>
          intro d hd
          obtain rfl : c = d := Option.some.inj hd
          exact ⟨fun e => hbang m (by rw [e]), fun e => hslash m (by rw [e]),
            fun e => hquestion m (by rw [e])⟩
      rw [scanMarkup_tag hfront, splitTag?_append hsplit]
    · exact absurd h hfault

/-- What a comment looks like. -/
def writeComment (c : List Char) : List Char := '<' :: '!' :: '-' :: '-' :: (c ++ ['-', '-', '>'])

/-- The end of a comment is the first one that is written. -/
theorem scanMarkup_comment {c : List Char} (hc : ¬ ['-', '-', '>'] <:+: c) (r : List Char) :
    scanMarkup ('!' :: '-' :: '-' :: (c ++ ['-', '-', '>'] ++ r)) = (.comment, r) := by
  have hsplit : splitAt? ['-', '-', '>'] (c ++ ['-', '-', '>'] ++ r) = some (c, r) := by
    refine splitAt?_of_first rfl fun i hi hp => ?_
    rw [List.append_assoc, List.drop_append_of_le_length (by omega)] at hp
    -- No end begins with the last two dashes of another, so one that begins in `c` stands in it.
    match hq : c.drop i, hp with
    | [], _ => exact absurd (List.drop_eq_nil_iff.1 hq) (by omega)
    | [_], hp => simp [List.cons_prefix_cons] at hp
    | [_, _], hp => simp [List.cons_prefix_cons] at hp
    | x :: y :: z :: q, hp =>
      simp only [List.cons_append, List.cons_prefix_cons] at hp
      obtain ⟨rfl, rfl, rfl, -⟩ := hp
      have hend : ['-', '-', '>'] <+: c.drop i := hq ▸ List.prefix_append _ q
      exact hc (hend.isInfix.trans (List.drop_suffix i c).isInfix)
  simp only [scanMarkup, hsplit]

/-! ## Places -/

/-- **A place between the pieces of a document**, given what stands in front of it: character data
without an open reference, and whole pieces of markup. -/
inductive Place : List Char → Prop where
  | text {s : List Char} (hmarkup : '<' ∉ s) (hclosed : closesReferences s = true) : Place s
  | markup {s m p : List Char} {token : Token} (hmarkup : '<' ∉ s)
      (hscan : scanMarkup m = (token, [])) (hwhole : token.isWhole = true) (hplace : Place p) :
      Place (s ++ '<' :: (m ++ p))

/-- Texts that are added one after the other become one. -/
theorem Builder.text_append (b : Builder) (s t : List Char) :
    b.text (s ++ t) = b.text s >>= fun b' => b'.text t := by
  obtain ⟨opened, root⟩ := b
  cases opened with
  | nil =>
    have hall : Text.isAllBlank (s ++ t) = (Text.isAllBlank s && Text.isAllBlank t) :=
      List.all_append
    cases hs : Text.isAllBlank s <;> simp [Builder.text, hall, hs, bind, Except.bind]
  | cons e outer =>
    have hcontent : addText (s ++ t) e.content = addText t (addText s e.content) := by
      rcases hc : e.content with _ | ⟨_ | _ | _, rest⟩
      all_goals simp [addText, String.ofList_append, String.append_assoc]
    simp [Builder.text, hcontent, bind, Except.bind]

/-- Character data in two halves is two steps. -/
theorem step_text_append (hs : closesReferences s = true)
    (hseam : s.getLast? = some '\r' → t.head? ≠ some '\n') :
    b.step (.text (s ++ t)) = .ok b' ↔
      (b.step (.text s) >>= fun m => m.step (.text t)) = .ok b' := by
  simp only [step_text_eq_ok, readText_append hs hseam, Outcome.bind_eq_ok,
    Outcome.map_eq_ok]
  constructor
  · rintro ⟨_, ⟨x, hx, y, hy, rfl⟩, hadd⟩
    rw [Builder.text_append, Outcome.bind_eq_ok] at hadd
    obtain ⟨m, hm, hmore⟩ := hadd
    exact ⟨m, ⟨x, hx, hm⟩, y, hy, hmore⟩
  · rintro ⟨m, ⟨x, hx, hm⟩, y, hy, hmore⟩
    refine ⟨x ++ y, ⟨x, hx, y, hy, rfl⟩, ?_⟩
    rw [Builder.text_append, hm]
    exact hmore

/-- Character data alone is one step. -/
theorem resume_eq_step (hs : s ≠ []) (hm : '<' ∉ s) : b.resume s = b.step (.text s) := by
  have halone := resume_text (b := b) hs hm (.inl rfl)
  simp only [List.append_nil, resume_nil] at halone
  exact halone.trans (bind_pure _)

/-- Character data is read up to the next markup. -/
theorem resume_characters (hs : '<' ∉ s) (hrest : rest = [] ∨ ∃ r, rest = '<' :: r) :
    b.resume (s ++ rest) = b.resume s >>= fun m => m.resume rest := by
  by_cases hnil : s = []
  · rw [hnil, resume_nil]
    rfl
  · rw [resume_text hnil hs hrest, resume_eq_step hnil hs]

/-- And it may be read in two halves. -/
theorem resume_characters_append (hs : '<' ∉ s) (ht : '<' ∉ t)
    (hclosed : closesReferences s = true)
    (hseam : s.getLast? = some '\r' → t.head? ≠ some '\n') :
    b.resume (s ++ t) = .ok b' ↔ (b.resume s >>= fun m => m.resume t) = .ok b' := by
  by_cases hsnil : s = []
  · rw [hsnil, resume_nil]
    rfl
  · by_cases htnil : t = []
    · simp [htnil]
    · have hst : '<' ∉ s ++ t := by simp [hs, ht]
      simp only [resume_eq_step (by simp [hsnil]) hst, resume_eq_step hsnil hs,
        resume_eq_step htnil ht]
      exact step_text_append hclosed hseam

/-- A text is character data up to its first markup. -/
theorem exists_characters (s : List Char) :
    ∃ t r, s = t ++ r ∧ '<' ∉ t ∧ (r = [] ∨ ∃ m, r = '<' :: m) := by
  induction s with
  | nil => exact ⟨[], [], rfl, List.not_mem_nil, .inl rfl⟩
  | cons c s ih =>
    by_cases hc : c = '<'
    · exact ⟨[], c :: s, rfl, List.not_mem_nil, .inr ⟨s, by rw [hc]⟩⟩
    · obtain ⟨t, r, rfl, ht, hr⟩ := ih
      exact ⟨c :: t, r, rfl, by simp [ht, Ne.symm hc], hr⟩

/-- **Reading may pause at a place.** -/
theorem Place.resume_append {before behind : List Char} (h : Place before)
    (hseam : before.getLast? = some '\r' → behind.head? ≠ some '\n') :
    b.resume (before ++ behind) = .ok b' ↔
      (b.resume before >>= fun m => m.resume behind) = .ok b' := by
  induction h generalizing b with
  | @text s hmarkup hclosed =>
    obtain ⟨t, r, rfl, ht, hr⟩ := exists_characters behind
    have hhalves : s.getLast? = some '\r' → t.head? ≠ some '\n' := by
      intro hlast hhead
      exact hseam hlast (by simp [List.head?_append, hhead])
    -- `behind` goes on with the same character data, up to its own first markup.
    rw [← List.append_assoc, resume_characters (by simp [hmarkup, ht]) hr]
    simp only [resume_characters ht hr, Outcome.bind_eq_ok,
      resume_characters_append hmarkup ht hclosed hhalves]
    grind
  | @markup s m p token hmarkup hscan hwhole hplace ih =>
    have hp : p.getLast? = some '\r' → behind.head? ≠ some '\n' := by
      intro hlast
      exact hseam (by simp [List.getLast?_append, List.getLast?_cons, hlast])
    have hfront (r : List Char) : b.resume (s ++ '<' :: (m ++ (p ++ r))) =
        b.resume s >>= fun x => x.step token >>= fun y => y.resume (p ++ r) := by
      rw [resume_characters hmarkup (.inr ⟨_, rfl⟩)]
      simp only [resume_markup (scanMarkup_append hscan hwhole (p ++ r)), List.nil_append]
    have hbefore := hfront []
    rw [List.append_nil] at hbefore
    rw [List.append_assoc, List.cons_append, List.append_assoc, hfront, hbefore]
    simp only [Outcome.bind_eq_ok, ih hp]
    grind

/-- Behind a place a comment is read as nothing. -/
theorem Place.resume_comment {before behind c : List Char} (h : Place before)
    (hseam : before.getLast? = some '\r' → behind.head? ≠ some '\n')
    (hc : ¬ ['-', '-', '>'] <:+: c) :
    b.resume (before ++ writeComment c ++ behind) = .ok b' ↔
      b.resume (before ++ behind) = .ok b' := by
  have hskip (m : Builder) : m.resume (writeComment c ++ behind) = m.resume behind := by
    have hscan := scanMarkup_comment hc behind
    exact resume_markup hscan
  rw [List.append_assoc, h.resume_append (by simp [writeComment]), h.resume_append hseam]
  simp only [hskip]

/-! ## Documents -/

/-- A byte order mark is character data, so what is left behind it is still a place. -/
theorem Place.dropByteOrderMark {before : List Char} (h : Place before) :
    Place (dropByteOrderMark before) := by
  unfold FiscalGateway.Xml.dropByteOrderMark
  split
  · next r =>
    generalize hb : '\uFEFF' :: r = before at h
    cases h with
    | text hmarkup hclosed =>
      subst hb
      simp only [closesReferences, Bool.and_eq_true] at hclosed
      exact .text (fun hr => hmarkup (List.mem_cons_of_mem _ hr)) hclosed.2
    | @markup s m p token hmarkup hscan hwhole hplace =>
      cases s with
      | nil => simp at hb
      | cons c s =>
        obtain ⟨-, rfl⟩ := List.cons.inj hb
        exact .markup (fun hs => hmarkup (List.mem_cons_of_mem _ hs)) hscan hwhole hplace
  · exact h

theorem dropByteOrderMark_append (hs : s ≠ []) (t : List Char) :
    dropByteOrderMark (s ++ t) = dropByteOrderMark s ++ t := by
  obtain ⟨c, s, rfl⟩ := List.exists_cons_of_ne_nil hs
  by_cases hc : c = '\uFEFF'
  · rw [hc]
    rfl
  · rw [dropByteOrderMark_of_head? (by simpa using hc),
      dropByteOrderMark_of_head? (by simpa using hc)]

/-- **A comment leaves no trace.** Wherever reading may pause behind the front of a document, the
same document is read with a comment there and without. -/
theorem Document.parse_comment {input : Octets} {before behind c : List Char} {d : Document}
    (htext : Octets.toText? input = some (String.ofList (before ++ behind)))
    (hplace : Place before) (hfront : before ≠ [])
    (hseam : before.getLast? = some '\r' → behind.head? ≠ some '\n')
    (hc : ¬ ['-', '-', '>'] <:+: c) :
    Document.parse (Octets.ofText (String.ofList (before ++ writeComment c ++ behind))) = .ok d ↔
      Document.parse input = .ok d := by
  have hseam' : (dropByteOrderMark before).getLast? = some '\r' → behind.head? ≠ some '\n' := by
    intro hlast
    refine hseam ?_
    unfold dropByteOrderMark at hlast
    split at hlast
    · simp [List.getLast?_cons, hlast]
    · exact hlast
  simp only [Document.parse, Octets.toText?_ofText, htext, String.toList_ofList, ofChars_eq,
    List.append_assoc, dropByteOrderMark_append hfront, Outcome.bind_eq_ok]
  simp only [← List.append_assoc, hplace.dropByteOrderMark.resume_comment hseam' hc]

/-- In the middle of a text, behind a reference; what is commented out looks like markup. -/
theorem parse_comment_specimen :
    ∃ d, Document.parse (Octets.ofText "<a>\r\nx&lt;\ry<b/></a>") = .ok d ∧
      d.root.children = [.text "\nx<\ny", .element ⟨⟨none, "b"⟩, none, [], []⟩ []] ∧
      Place "<a>\r\nx&lt;".toList ∧ ¬ ['-', '-', '>'] <:+: "</a>--".toList ∧
      Document.parse (Octets.ofText "<a>\r\nx&lt;<!--</a>---->\ry<b/></a>") = .ok d := by
  let d : Document := ⟨⟨⟨⟨none, "a"⟩, none, [], []⟩,
    [.text "\nx<\ny", .element ⟨⟨none, "b"⟩, none, [], []⟩ []]⟩⟩
  have hread : Document.parse (Octets.ofText "<a>\r\nx&lt;\ry<b/></a>") = .ok d := by
    rw [Document.parse, Octets.toText?_ofText]
    decide +kernel
  have htext : Octets.toText? (Octets.ofText "<a>\r\nx&lt;\ry<b/></a>") =
      some (String.ofList ("<a>\r\nx&lt;".toList ++ "\ry<b/></a>".toList)) := by
    rw [Octets.toText?_ofText]
    rfl
  have hplace : Place "<a>\r\nx&lt;".toList :=
    .markup (s := []) (m := "a>".toList) (p := "\r\nx&lt;".toList) (by decide)
      (by decide : _ = (Token.startTag ['a'], [])) rfl (.text (by decide) (by decide))
  have hc : ¬ ['-', '-', '>'] <:+: "</a>--".toList := by decide
  exact ⟨d, hread, rfl, hplace, hc,
    (Document.parse_comment htext hplace (by decide) (by decide) hc).2 hread⟩

end FiscalGateway.Xml

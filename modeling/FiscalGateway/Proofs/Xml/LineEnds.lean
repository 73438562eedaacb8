import FiscalGateway.Proofs.Outcome
import FiscalGateway.Proofs.Xml.CharacterData
import FiscalGateway.Proofs.Xml.Scan

/-!
# Line ends — rewriting them moves no token

A text whose line ends are rewritten to line feeds is cut at the same places: no piece of markup
ends with a line end, and none is told from another by one. So its tokens are those of the text as
it was, each rewritten for itself (`scan_normalizeLineEnds`), although line ends are brought to one
form only after the text has been cut. Inside a tag line ends are blanks, and in the value of an
attribute they are rewritten anyway (`Tag.read_normalizeLineEnds`).
-/

namespace FiscalGateway.Xml

variable {s t : List Char} {p : Char → Bool}

/-! ## Normal form -/

@[simp] theorem normalizeLineEnds_idem (s : List Char) :
    normalizeLineEnds (normalizeLineEnds s) = normalizeLineEnds s :=
  normalizeLineEnds_of_not_mem (return_not_mem_normalizeLineEnds s)

theorem normalizeLineEnds_eq_nil_iff : normalizeLineEnds s = [] ↔ s = [] := by
  fun_cases normalizeLineEnds s <;> simp

/-- What holds no carriage return stays in front of what does. -/
theorem normalizeLineEnds_plain_append (h : '\r' ∉ s) (t : List Char) :
    normalizeLineEnds (s ++ t) = s ++ normalizeLineEnds t := by
  induction s with
  | nil => rfl
  | cons c s ih =>
    have hc : c ≠ '\r' := fun e => h (by simp [e])
    rw [List.cons_append, normalizeLineEnds_cons hc, ih fun hs => h (List.mem_cons_of_mem c hs)]
    rfl

/-- What is cut off behind a lone carriage return still leaves it alone. -/
theorem normalizeLineEnds_return_of_front (hs : ∀ r, s = '\n' :: r → False) (ht : t <+: s) :
    normalizeLineEnds ('\r' :: t) = '\n' :: normalizeLineEnds t := by
  refine normalizeLineEnds_return fun hhead => ?_
  obtain ⟨u, rfl⟩ := List.head?_eq_some_iff.1 hhead
  obtain ⟨r, rfl⟩ := ht
  exact hs _ rfl

/-- A class that tells no line end from another is met where it was. -/
theorem all_normalizeLineEnds (hp : p '\r' = p '\n') (s : List Char) :
    (normalizeLineEnds s).all p = s.all p := by
  fun_induction normalizeLineEnds s with
  | case1 => rfl
  | case2 rest ih => simp [hp, ih]
  | case3 rest _ ih => simp [hp, ih]
  | case4 c rest _ _ ih => simp [ih]

theorem takeWhile_normalizeLineEnds (hp : p '\r' = p '\n') (s : List Char) :
    (normalizeLineEnds s).takeWhile p = normalizeLineEnds (s.takeWhile p) := by
  fun_induction normalizeLineEnds s with
  | case1 => rfl
  | case2 rest ih =>
    cases hn : p '\n' <;> simp [hp, hn, normalizeLineEnds, ih]
  | case3 rest hrest ih =>
    have hreturn := normalizeLineEnds_return_of_front hrest (List.takeWhile_prefix p)
    cases hn : p '\n' <;> simp [hp, hn, hreturn, ih, normalizeLineEnds]
  | case4 c rest _ hc ih =>
    cases hpc : p c <;> simp [hpc, normalizeLineEnds_cons hc, ih, normalizeLineEnds]

theorem dropWhile_normalizeLineEnds (hp : p '\r' = p '\n') (s : List Char) :
    (normalizeLineEnds s).dropWhile p = normalizeLineEnds (s.dropWhile p) := by
  fun_induction normalizeLineEnds s with
  | case1 => rfl
  | case2 rest ih =>
    cases hn : p '\n' <;> simp [hp, hn, normalizeLineEnds, ih]
  | case3 rest hrest ih =>
    cases hn : p '\n'
    · simp [hp, hn, normalizeLineEnds]
    · simp [hp, hn, ih]
  | case4 c rest _ hc ih =>
    cases hpc : p c <;> simp [hpc, normalizeLineEnds_cons hc, ih]

/-- Nothing in front of a character of a class that holds all line ends is one. -/
theorem takeWhile_not_normalizeLineEnds (hr : p '\r' = true) (hn : p '\n' = true)
    (s : List Char) :
    (normalizeLineEnds s).takeWhile (!p ·) = s.takeWhile (!p ·) := by
  rw [takeWhile_normalizeLineEnds (by rw [hr, hn])]
  refine normalizeLineEnds_of_not_mem fun hm => ?_
  have := List.all_eq_true.1 List.all_takeWhile _ hm
  simp [hr] at this

theorem dropWhile_not_normalizeLineEnds (hr : p '\r' = true) (hn : p '\n' = true)
    (s : List Char) :
    (normalizeLineEnds s).dropWhile (!p ·) = normalizeLineEnds (s.dropWhile (!p ·)) :=
  dropWhile_normalizeLineEnds (by rw [hr, hn]) s

theorem getLast?_normalizeLineEnds (s : List Char) :
    (normalizeLineEnds s).getLast? = s.getLast?.map fun c => if c = '\r' then '\n' else c := by
  fun_induction normalizeLineEnds s with
  | case1 => rfl
  | case2 rest ih =>
    cases h : rest.getLast? <;> simp [List.getLast?_cons, ih, h]
  | case3 rest _ ih =>
    cases h : rest.getLast? <;> simp [List.getLast?_cons, ih, h]
  | case4 c rest _ hc ih =>
    have hne : c ≠ '\r' := hc
    cases h : rest.getLast? <;> simp [List.getLast?_cons, ih, h, hne]

/-- Whether a character is part of a line end. -/
def isLineEnd (c : Char) : Bool := c == '\r' || c == '\n'

theorem isLineEnd_eq_false {c : Char} : isLineEnd c = false ↔ c ≠ '\r' ∧ c ≠ '\n' := by
  simp [isLineEnd]

section

variable {stop : List Char}

/-- A stop without line ends stands in front of a normal form where it stood before. -/
theorem prefix_normalizeLineEnds_iff (hstop : ∀ c ∈ stop, isLineEnd c = false) :
    stop <+: normalizeLineEnds s ↔ stop <+: s := by
  induction stop generalizing s with
  | nil => simp
  | cons d stop ih =>
    obtain ⟨hd, hstop⟩ := List.forall_mem_cons.1 hstop
    obtain ⟨hr, hn⟩ := isLineEnd_eq_false.1 hd
    fun_cases normalizeLineEnds s with
    | case1 => rfl
    | case2 rest => simp [List.cons_prefix_cons, hr, hn]
    | case3 rest _ => simp [List.cons_prefix_cons, hr, hn]
    | case4 c rest _ hc => rw [List.cons_prefix_cons, List.cons_prefix_cons, ih hstop]

/-- A text without line ends is the normal form of itself only. -/
theorem normalizeLineEnds_eq_iff (ht : ∀ c ∈ t, isLineEnd c = false) :
    normalizeLineEnds s = t ↔ s = t := by
  have hreturn : '\r' ∉ t := fun hm => (isLineEnd_eq_false.1 (ht _ hm)).1 rfl
  constructor
  · intro h
    have hprefix : t <+: normalizeLineEnds s := h ▸ List.prefix_refl _
    obtain ⟨r, rfl⟩ := (prefix_normalizeLineEnds_iff ht).1 hprefix
    rw [normalizeLineEnds_plain_append hreturn] at h
    have hr : normalizeLineEnds r = [] := by simpa using h
    rw [normalizeLineEnds_eq_nil_iff.1 hr, List.append_nil]
  · rintro rfl
    exact normalizeLineEnds_of_not_mem hreturn

theorem head?_normalizeLineEnds_iff {c : Char} (hc : isLineEnd c = false) :
    (normalizeLineEnds s).head? = some c ↔ s.head? = some c := by
  obtain ⟨hr, hn⟩ := isLineEnd_eq_false.1 hc
  fun_cases normalizeLineEnds s with
  | case1 => rfl
  | case2 rest => simp [Ne.symm hr, Ne.symm hn]
  | case3 rest _ => simp [Ne.symm hr, Ne.symm hn]
  | case4 d rest _ _ => rfl

/-! ## Where a text is cut -/

/-- **A stop without line ends is met at the same place.** -/
theorem splitAt?_normalizeLineEnds {d : Char} (hstop : ∀ c ∈ d :: stop, isLineEnd c = false)
    (s : List Char) :
    splitAt? (d :: stop) (normalizeLineEnds s) =
      (splitAt? (d :: stop) s).map (Prod.map normalizeLineEnds normalizeLineEnds) := by
  obtain ⟨hr, hn⟩ := isLineEnd_eq_false.1 (hstop d List.mem_cons_self)
  fun_induction normalizeLineEnds s with
  | case1 => rfl
  | case2 rest ih =>
    rw [splitAt?_cons hn.symm, splitAt?_cons hr.symm, splitAt?_cons hn.symm, ih]
    cases splitAt? (d :: stop) rest <;> simp [normalizeLineEnds]
  | case3 rest hrest ih =>
    rw [splitAt?_cons hn.symm, splitAt?_cons hr.symm, ih]
    cases hsplit : splitAt? (d :: stop) rest with
    | none => rfl
    | some cut =>
      have hcut : cut.1 <+: rest := ⟨(d :: stop) ++ cut.2, by
        rw [← List.append_assoc, ← (first_of_splitAt? hsplit).1]⟩
      simp [normalizeLineEnds_return_of_front hrest hcut]
  | case4 c rest _ hc ih =>
    -- The stop may begin with `c`; then it stands here in the normal form too.
    by_cases hp : (d :: stop) <+: c :: rest
    · obtain ⟨r, hcr⟩ := hp
      have hfree : '\r' ∉ d :: stop := fun hm => (isLineEnd_eq_false.1 (hstop _ hm)).1 rfl
      rw [← normalizeLineEnds_cons hc, ← hcr, normalizeLineEnds_plain_append hfree,
        splitAt?_append, splitAt?_append]
      rfl
    · have hp' : ¬ (d :: stop) <+: c :: normalizeLineEnds rest := by
        rwa [← normalizeLineEnds_cons hc, prefix_normalizeLineEnds_iff hstop]
      rw [splitAt?_cons_of_mismatch hp, splitAt?_cons_of_mismatch hp', ih]
      cases splitAt? (d :: stop) rest <;> simp [normalizeLineEnds_cons hc]

end

section

variable {opened : Option Char}

/-- No line end opens a quotation. -/
theorem isLineEnd_quoteAfter (hopened : ∀ q ∈ opened, isLineEnd q = false) (c : Char) :
    ∀ q ∈ quoteAfter opened c, isLineEnd q = false := by
  unfold quoteAfter
  intro q hq
  cases opened with
  | none =>
    simp only [Option.mem_def, Option.ite_none_right_eq_some, Option.some.injEq] at hq
    obtain ⟨rfl | rfl, rfl⟩ := hq <;> rfl
  | some o =>
    simp only [Option.mem_def, Option.ite_none_left_eq_some, Option.some.injEq] at hq
    exact hq.2 ▸ hopened o rfl

/-- In quotes and outside, a line end is passed over. -/
theorem splitTag?_cons_of_isLineEnd {c : Char} (hc : isLineEnd c = true)
    (hopened : ∀ q ∈ opened, isLineEnd q = false) (s : List Char) :
    splitTag? opened (c :: s) =
      (splitTag? opened s).map fun (before, after) => (c :: before, after) := by
  have hkeep : quoteAfter opened c = opened := by
    cases opened with
    | none =>
      have hplain : ¬ (c = '"' ∨ c = '\'') := by
        rintro (rfl | rfl) <;> exact absurd hc (by decide)
      exact if_neg hplain
    | some q =>
      have hne : c ≠ q := by
        rintro rfl
        exact Bool.false_ne_true ((hopened c rfl).symm.trans hc)
      exact if_neg hne
  have hc : c ≠ '>' := by
    rintro rfl
    exact absurd hc (by decide)
  rw [splitTag?, if_neg (fun h => hc h.2), hkeep]

/-- **A tag ends at the same place.** -/
theorem splitTag?_normalizeLineEnds (hopened : ∀ q ∈ opened, isLineEnd q = false)
    (s : List Char) :
    splitTag? opened (normalizeLineEnds s) =
      (splitTag? opened s).map (Prod.map normalizeLineEnds normalizeLineEnds) := by
  fun_induction normalizeLineEnds s generalizing opened with
  | case1 => rfl
  | case2 rest ih =>
    simp only [splitTag?_cons_of_isLineEnd (c := '\r') rfl hopened,
      splitTag?_cons_of_isLineEnd (c := '\n') rfl hopened, ih hopened]
    cases splitTag? opened rest <;> simp [normalizeLineEnds]
  | case3 rest hrest ih =>
    simp only [splitTag?_cons_of_isLineEnd (c := '\r') rfl hopened,
      splitTag?_cons_of_isLineEnd (c := '\n') rfl hopened, ih hopened]
    cases hsplit : splitTag? opened rest with
    | none => rfl
    | some cut =>
      have hcut : cut.1 <+: rest := ⟨'>' :: cut.2, (splitTag?_eq_some_iff.1 hsplit).1.symm⟩
      simp [normalizeLineEnds_return_of_front hrest hcut]
  | case4 c rest _ hc ih =>
    rw [splitTag?, splitTag?, ih (isLineEnd_quoteAfter hopened c)]
    split
    · rfl
    · cases splitTag? (quoteAfter opened c) rest <;> simp [normalizeLineEnds_cons hc]

end

theorem splitDoctype?_cons {depth : Nat} {c : Char} (hc : c ≠ '<' ∧ c ≠ '>') (s : List Char) :
    splitDoctype? depth (c :: s) = (splitDoctype? depth s).map (c :: ·) := by
  rw [splitDoctype?.eq_def]
  split <;> simp_all

theorem prefix_of_splitDoctype? {depth : Nat} {body : List Char}
    (h : splitDoctype? depth s = some body) : body <+: s := by
  fun_induction splitDoctype? depth s generalizing body with
  | case1 => contradiction
  | case3 rest =>
    obtain rfl := Option.some.inj h
    exact List.nil_prefix
  | case2 _ _ ih =>
    obtain ⟨b, hb, rfl⟩ := Option.map_eq_some_iff.1 h
    exact List.cons_prefix_cons.2 ⟨rfl, ih hb⟩
  | case4 _ _ ih =>
    obtain ⟨b, hb, rfl⟩ := Option.map_eq_some_iff.1 h
    exact List.cons_prefix_cons.2 ⟨rfl, ih hb⟩
  | case5 _ _ _ _ _ ih =>
    obtain ⟨b, hb, rfl⟩ := Option.map_eq_some_iff.1 h
    exact List.cons_prefix_cons.2 ⟨rfl, ih hb⟩

/-- And so does a document type. -/
theorem splitDoctype?_normalizeLineEnds (depth : Nat) (s : List Char) :
    splitDoctype? depth (normalizeLineEnds s) = (splitDoctype? depth s).map normalizeLineEnds := by
  have hr : '\r' ≠ '<' ∧ '\r' ≠ '>' := by decide
  have hn : '\n' ≠ '<' ∧ '\n' ≠ '>' := by decide
  fun_induction normalizeLineEnds s generalizing depth with
  | case1 => rfl
  | case2 rest ih =>
    simp only [splitDoctype?_cons hr, splitDoctype?_cons hn, ih]
    cases splitDoctype? depth rest <;> simp [normalizeLineEnds]
  | case3 rest hrest ih =>
    simp only [splitDoctype?_cons hr, splitDoctype?_cons hn, ih]
    cases hsplit : splitDoctype? depth rest with
    | none => rfl
    | some body =>
      simp [normalizeLineEnds_return_of_front hrest (prefix_of_splitDoctype? hsplit)]
  | case4 c rest _ hc ih =>
    by_cases hopen : c = '<'
    · subst hopen
      rw [splitDoctype?, splitDoctype?, ih]
      cases splitDoctype? (depth + 1) rest <;> simp [normalizeLineEnds_cons hc]
    · by_cases hclose : c = '>'
      · subst hclose
        cases depth with
        | zero => rfl
        | succ depth =>
          rw [splitDoctype?, splitDoctype?, ih]
          cases splitDoctype? depth rest <;> simp [normalizeLineEnds_cons hc]
      · simp only [splitDoctype?_cons ⟨hopen, hclose⟩, ih]
        cases splitDoctype? depth rest <;> simp [normalizeLineEnds_cons hc]

/-- A word is read in either case. -/
theorem startsWithWord_iff {word : List Char} :
    startsWithWord word s = true ↔
      ∃ w r, s = w ++ r ∧ w.map Char.toLower = word.map Char.toLower := by
  rw [startsWithWord, beq_iff_eq]
  constructor
  · intro h
    exact ⟨_, _, (List.take_append_drop _ _).symm, h⟩
  · rintro ⟨w, r, rfl, hw⟩
    have hlength : w.length = word.length := by simpa using congrArg List.length hw
    rw [← hlength, List.take_left, hw]

theorem scanDoctype_normalizeLineEnds (s : List Char) :
    scanDoctype (normalizeLineEnds s) = scanDoctype s := by
  have hword {w : List Char} (hw : w.map Char.toLower = "doctype".toList.map Char.toLower) :
      ∀ c ∈ w, isLineEnd c = false := by
    intro c hc
    have hmem : c.toLower ∈ "doctype".toList.map Char.toLower := hw ▸ List.mem_map_of_mem hc
    rw [isLineEnd_eq_false]
    constructor
    all_goals
      rintro rfl
      revert hmem
      decide
  unfold scanDoctype
  rw [splitDoctype?_normalizeLineEnds]
  cases splitDoctype? 0 s with
  | none => rfl
  | some body =>
    simp only [Option.map_some]
    cases hbody : startsWithWord "doctype".toList body with
    | true =>
      obtain ⟨w, r, rfl, hw⟩ := startsWithWord_iff.1 hbody
      have hfree : '\r' ∉ w := fun hm => (isLineEnd_eq_false.1 (hword hw _ hm)).1 rfl
      have hlength : w.length = 7 := by simpa using congrArg List.length hw
      rw [normalizeLineEnds_plain_append hfree, startsWithWord_iff.2 ⟨w, _, rfl, hw⟩, ← hlength,
        List.drop_left, List.drop_left, all_normalizeLineEnds rfl]
    | false =>
      have hnormal : startsWithWord "doctype".toList (normalizeLineEnds body) = false := by
        rw [← Bool.not_eq_true, startsWithWord_iff] at hbody ⊢
        rintro ⟨w, r, hr, hw⟩
        obtain ⟨u, rfl⟩ := (prefix_normalizeLineEnds_iff (hword hw)).1 ⟨r, hr.symm⟩
        exact hbody ⟨w, u, rfl, hw⟩
      rw [hnormal]
      rfl

/-! ## Tokens -/

/-- The token that stands in a text where all line ends are line feeds. -/
def Token.normalizeLineEnds : Token → Token
  | .text raw => .text (Xml.normalizeLineEnds raw)
  | .cdata raw => .cdata (Xml.normalizeLineEnds raw)
  | .startTag raw => .startTag (Xml.normalizeLineEnds raw)
  | .emptyTag raw => .emptyTag (Xml.normalizeLineEnds raw)
  | .endTag name => .endTag (Xml.normalizeLineEnds name)
  | .instruction raw => .instruction (Xml.normalizeLineEnds raw)
  | .comment => .comment
  | .header => .header
  | .doctype => .doctype
  | .fault cause => .fault cause

/-- What stands in front of the characters at the back that are in a class. -/
theorem trimmed_append {p : Char → Bool} (hs : ∀ c ∈ s.getLast?, p c = false)
    (ht : ∀ c ∈ t, p c = true) : ((s ++ t).reverse.dropWhile p).reverse = s := by
  rw [List.reverse_append, Text.dropWhile_append_of_head? (by simpa using ht) (by simpa using hs),
    List.reverse_reverse]

theorem exists_trimmed (p : Char → Bool) (s : List Char) :
    ∃ a b, s = a ++ b ∧ (∀ c ∈ a.getLast?, p c = false) ∧ ∀ c ∈ b, p c = true := by
  refine ⟨(s.reverse.dropWhile p).reverse, (s.reverse.takeWhile p).reverse, ?_, ?_, ?_⟩
  · rw [← List.reverse_append, List.takeWhile_append_dropWhile, List.reverse_reverse]
  · intro c hc
    rw [List.getLast?_reverse] at hc
    have := List.head?_dropWhile_not p s.reverse
    simp_all
  · intro c hc
    exact List.all_eq_true.1 List.all_takeWhile c (List.mem_reverse.1 hc)

theorem endTagName_normalizeLineEnds (s : List Char) :
    endTagName (normalizeLineEnds s) = normalizeLineEnds (endTagName s) := by
  unfold endTagName
  rw [all_normalizeLineEnds rfl]
  split
  · rfl
  · -- A line end is a blank, so none is divided between the name and the blanks behind it.
    obtain ⟨a, b, rfl, ha, hb⟩ := exists_trimmed Text.isMarkupBlank s
    have hseam : a.getLast? = some '\r' → b.head? ≠ some '\n' := by
      intro e
      exact absurd (ha _ e) (by decide)
    have hna : ∀ c ∈ (normalizeLineEnds a).getLast?, Text.isMarkupBlank c = false := by
      rw [getLast?_normalizeLineEnds]
      intro c hc
      obtain ⟨d, hd, rfl⟩ := Option.map_eq_some_iff.1 hc
      split
      · next hreturn => exact absurd (hreturn ▸ ha d hd) (by decide)
      · exact ha d hd
    have hnb : ∀ c ∈ normalizeLineEnds b, Text.isMarkupBlank c = true := by
      rw [← List.all_eq_true, all_normalizeLineEnds rfl]
      exact List.all_eq_true.2 hb
    rw [normalizeLineEnds_append hseam, trimmed_append ha hb, trimmed_append hna hnb]

theorem tagToken_normalizeLineEnds (s : List Char) :
    tagToken (normalizeLineEnds s) = (tagToken s).normalizeLineEnds := by
  unfold tagToken
  by_cases hs : s.getLast? = some '/'
  · obtain ⟨init, rfl⟩ := List.getLast?_eq_some_iff.1 hs
    have hinit : normalizeLineEnds (init ++ ['/']) = normalizeLineEnds init ++ ['/'] :=
      normalizeLineEnds_append fun _ => by decide
    simp [hinit, Token.normalizeLineEnds]
  · have hnormal : (normalizeLineEnds s).getLast? ≠ some '/' := by
      rw [getLast?_normalizeLineEnds]
      intro e
      obtain ⟨c, hc, hslash⟩ := Option.map_eq_some_iff.1 e
      split at hslash
      · contradiction
      · exact hs (hslash ▸ hc)
    rw [if_neg hs, if_neg hnormal]
    rfl

theorem instructionToken_of_not_header (h : ¬ ['x', 'm', 'l'] <+: s) :
    instructionToken s = .instruction s := by
  unfold instructionToken
  split
  · next rest => exact absurd (List.prefix_append ['x', 'm', 'l'] rest) h
  · rfl

theorem instructionToken_normalizeLineEnds (s : List Char) :
    instructionToken (normalizeLineEnds s) = (instructionToken s).normalizeLineEnds := by
  by_cases hs : ['x', 'm', 'l'] <+: s
  · obtain ⟨r, rfl⟩ := hs
    have hr : normalizeLineEnds (['x', 'm', 'l'] ++ r) = ['x', 'm', 'l'] ++ normalizeLineEnds r :=
      normalizeLineEnds_plain_append (by decide) r
    rw [hr]
    fun_cases normalizeLineEnds r with
    | case1 => rfl
    | case2 rest => rfl
    | case3 rest _ => rfl
    | case4 c rest _ hc =>
      -- a header only if a blank follows, and line ends are blanks
      rw [normalizeLineEnds_cons hc] at hr
      cases hblank : Text.isMarkupBlank c
      all_goals simp_all [instructionToken, Token.normalizeLineEnds]
  · have hnormal : ¬ ['x', 'm', 'l'] <+: normalizeLineEnds s := by
      rwa [prefix_normalizeLineEnds_iff (by decide)]
    rw [instructionToken_of_not_header hs, instructionToken_of_not_header hnormal]
    rfl

/-- An exclamation mark begins a document type unless it begins something else. -/
theorem scanMarkup_declaration (hcomment : ¬ ['-', '-'] <+: s)
    (hcdata : ¬ ['[', 'C', 'D', 'A', 'T', 'A', '['] <+: s) :
    scanMarkup ('!' :: s) = (scanDoctype s, []) := by
  unfold scanMarkup
  split <;> simp_all

theorem normalizeLineEnds_scanDoctype (s : List Char) :
    (scanDoctype s).normalizeLineEnds = scanDoctype s := by
  rcases scanDoctype_eq s with h | h
  · rw [h]
    rfl
  · rw [h]
    rfl

/-- Behind an exclamation mark stands a comment, character data or a document type. -/
theorem scanMarkup_exclamation_normalizeLineEnds (s : List Char) :
    scanMarkup ('!' :: normalizeLineEnds s) =
      ((scanMarkup ('!' :: s)).1.normalizeLineEnds,
        normalizeLineEnds (scanMarkup ('!' :: s)).2) := by
  have hdash : ∀ c ∈ ['-', '-', '>'], isLineEnd c = false := by decide
  have hbracket : ∀ c ∈ [']', ']', '>'], isLineEnd c = false := by decide
  by_cases hcomment : ['-', '-'] <+: s
  · obtain ⟨s, rfl⟩ := hcomment
    rw [normalizeLineEnds_plain_append (by decide)]
    cases hsplit : splitAt? ['-', '-', '>'] s <;>
      simp [scanMarkup, splitAt?_normalizeLineEnds hdash, hsplit, Token.normalizeLineEnds,
        normalizeLineEnds]
  by_cases hcdata : ['[', 'C', 'D', 'A', 'T', 'A', '['] <+: s
  · obtain ⟨s, rfl⟩ := hcdata
    rw [normalizeLineEnds_plain_append (by decide)]
    cases hsplit : splitAt? [']', ']', '>'] s <;>
      simp [scanMarkup, splitAt?_normalizeLineEnds hbracket, hsplit, Token.normalizeLineEnds,
        normalizeLineEnds]
  rw [scanMarkup_declaration hcomment hcdata,
    scanMarkup_declaration (by rwa [prefix_normalizeLineEnds_iff (by decide)])
      (by rwa [prefix_normalizeLineEnds_iff (by decide)]),
    scanDoctype_normalizeLineEnds, normalizeLineEnds_scanDoctype]
  rfl

/-- Behind a question mark stands an instruction. -/
theorem scanMarkup_question_normalizeLineEnds (s : List Char) :
    scanMarkup ('?' :: normalizeLineEnds s) =
      ((scanMarkup ('?' :: s)).1.normalizeLineEnds,
        normalizeLineEnds (scanMarkup ('?' :: s)).2) := by
  have hstop : ∀ c ∈ ['?', '>'], isLineEnd c = false := by decide
  by_cases hs : s.head? = some '>'
  · obtain ⟨s, rfl⟩ := List.head?_eq_some_iff.1 hs
    rw [normalizeLineEnds_cons (by decide)]
    rfl
  · have hnormal : (normalizeLineEnds s).head? ≠ some '>' :=
      mt (head?_normalizeLineEnds_iff rfl).1 hs
    rw [scanMarkup_instruction hs, scanMarkup_instruction hnormal, splitAt?_normalizeLineEnds hstop]
    cases splitAt? ['?', '>'] s with
    | none => rfl
    | some cut => simp [instructionToken_normalizeLineEnds]

theorem scanMarkup_normalizeLineEnds (s : List Char) :
    scanMarkup (normalizeLineEnds s) =
      ((scanMarkup s).1.normalizeLineEnds, normalizeLineEnds (scanMarkup s).2) := by
  have hquote : ∀ q ∈ (none : Option Char), isLineEnd q = false := by simp
  by_cases hbang : s.head? = some '!'
  · obtain ⟨s, rfl⟩ := List.head?_eq_some_iff.1 hbang
    rw [normalizeLineEnds_cons (by decide)]
    exact scanMarkup_exclamation_normalizeLineEnds s
  by_cases hslash : s.head? = some '/'
  · obtain ⟨s, rfl⟩ := List.head?_eq_some_iff.1 hslash
    rw [normalizeLineEnds_cons (by decide)]
    cases hsplit : splitTag? none s <;>
      simp [scanMarkup, splitTag?_normalizeLineEnds hquote, hsplit, Token.normalizeLineEnds,
        normalizeLineEnds, endTagName_normalizeLineEnds]
  by_cases hquestion : s.head? = some '?'
  · obtain ⟨s, rfl⟩ := List.head?_eq_some_iff.1 hquestion
    rw [normalizeLineEnds_cons (by decide)]
    exact scanMarkup_question_normalizeLineEnds s
  have htag : ∀ c ∈ s.head?, c ≠ '!' ∧ c ≠ '/' ∧ c ≠ '?' := by
    intro c hc
    exact ⟨fun e => hbang (e ▸ hc), fun e => hslash (e ▸ hc), fun e => hquestion (e ▸ hc)⟩
  have hnormal : ∀ c ∈ (normalizeLineEnds s).head?, c ≠ '!' ∧ c ≠ '/' ∧ c ≠ '?' := by
    intro c hc
    exact ⟨fun e => hbang ((head?_normalizeLineEnds_iff rfl).1 (e ▸ hc)),
      fun e => hslash ((head?_normalizeLineEnds_iff rfl).1 (e ▸ hc)),
      fun e => hquestion ((head?_normalizeLineEnds_iff rfl).1 (e ▸ hc))⟩
  rw [scanMarkup_tag htag, scanMarkup_tag hnormal, splitTag?_normalizeLineEnds hquote]
  cases splitTag? none s with
  | none => rfl
  | some cut => simp [tagToken_normalizeLineEnds]

/-- Character data goes up to the next markup. -/
theorem scan_eq_text (hs : s ≠ []) (hm : s.head? ≠ some '<') :
    Token.scan s = .text (s.takeWhile (· ≠ '<')) :: Token.scan (s.dropWhile (· ≠ '<')) := by
  obtain ⟨c, s, rfl⟩ := List.exists_cons_of_ne_nil hs
  have hc : c ≠ '<' := by simpa using hm
  rw [Token.scan]
  · simp [hc]
  · exact hc

/-- **Rewritten line ends move no token.** A text is cut into the tokens that it would be cut into
with line feeds. -/
theorem scan_normalizeLineEnds (s : List Char) :
    Token.scan (normalizeLineEnds s) = (Token.scan s).map Token.normalizeLineEnds := by
  fun_induction Token.scan s with
  | case1 =>
    rw [normalizeLineEnds, Token.scan]
    rfl
  | case2 rest ih =>
    rw [normalizeLineEnds_cons (by decide), Token.scan, scanMarkup_normalizeLineEnds, ih]
    rfl
  | case3 c rest hc ih =>
    have hmarkup : ((· ≠ '<') : Char → Bool) '\r' = ((· ≠ '<') : Char → Bool) '\n' := rfl
    have hpass : decide (c ≠ '<') = true := decide_eq_true hc
    have hne : normalizeLineEnds (c :: rest) ≠ [] :=
      mt normalizeLineEnds_eq_nil_iff.1 (List.cons_ne_nil c rest)
    have hhead : (normalizeLineEnds (c :: rest)).head? ≠ some '<' := by
      rw [ne_eq, head?_normalizeLineEnds_iff rfl]
      exact fun e => hc (Option.some.inj e)
    rw [scan_eq_text hne hhead, takeWhile_normalizeLineEnds hmarkup,
      dropWhile_normalizeLineEnds hmarkup,
      List.takeWhile_cons_of_pos (p := fun d => decide (d ≠ '<')) hpass,
      List.dropWhile_cons_of_pos (p := fun d => decide (d ≠ '<')) hpass, ih]
    rfl

/-! ## Tags -/

/-- An attribute ends at the same place, and only its value can hold line ends. -/
theorem splitAttribute?_normalizeLineEnds (first : Char) (s : List Char) :
    splitAttribute? first (normalizeLineEnds s) =
      (splitAttribute? first s).map fun (name, raw, after) =>
        (name, normalizeLineEnds raw, normalizeLineEnds after) := by
  have hblank : Text.isMarkupBlank '\r' = Text.isMarkupBlank '\n' := rfl
  unfold splitAttribute?
  rw [takeWhile_not_normalizeLineEnds rfl rfl, dropWhile_not_normalizeLineEnds rfl rfl,
    dropWhile_normalizeLineEnds hblank]
  generalize (s.dropWhile (!endsAttributeName ·)).dropWhile Text.isMarkupBlank = u
  by_cases hu : u.head? = some '='
  · obtain ⟨behind, rfl⟩ := List.head?_eq_some_iff.1 hu
    rw [normalizeLineEnds_cons (by decide)]
    simp only [dropWhile_normalizeLineEnds hblank]
    generalize behind.dropWhile Text.isMarkupBlank = v
    fun_cases normalizeLineEnds v with
    | case1 => rfl
    | case2 rest => rfl
    | case3 rest _ => simp
    | case4 q quoted _ _ =>
      simp only
      split
      · next hquote =>
        have hstop : ∀ c ∈ [q], isLineEnd c = false := by
          rcases hquote with rfl | rfl <;> decide
        rw [splitAt?_normalizeLineEnds hstop]
        cases splitAt? [q] quoted <;> rfl
      · rfl
  · have hnormal : (normalizeLineEnds u).head? ≠ some '=' :=
      mt (head?_normalizeLineEnds_iff rfl).1 hu
    split
    · simp_all
    · split
      · simp_all
      · rfl

/-- The attributes of a tag, one by one. -/
theorem readTagParts_eq (seen : List (List Char)) (s : List Char) :
    readTagParts seen s = match s.dropWhile Text.isMarkupBlank with
      | [] => .ok []
      | first :: behind => match splitAttribute? first behind with
        | none => .error (.malformed .attribute)
        | some (name, raw, after) =>
          if name ∈ seen then .error (.malformed .attribute)
          else match readAttributeValue raw with
            | .error fault => .error (.malformed fault)
            | .ok value => match TagPart.ofAttribute (QName.ofChars name) (String.ofList value) with
              | .error e => .error e
              | .ok part => (part :: ·) <$> readTagParts (name :: seen) after := by
  rw [readTagParts]
  split
  · next hs => rw [hs]
  · next hs =>
    rw [hs]
    simp only
    split
    · next ha => rw [ha]
    · next ha => exact ha ▸ rfl

theorem readTagParts_normalizeLineEnds (seen : List (List Char)) (s : List Char) :
    readTagParts seen (normalizeLineEnds s) = readTagParts seen s := by
  have hblank : Text.isMarkupBlank '\r' = Text.isMarkupBlank '\n' := rfl
  -- on the length of what is left, since one attribute takes many characters
  induction hlength : s.length using Nat.strongRecOn generalizing seen s with
  | _ k ih =>
    rw [readTagParts_eq, readTagParts_eq seen s, dropWhile_normalizeLineEnds hblank]
    cases hs : s.dropWhile Text.isMarkupBlank with
    | nil => rfl
    | cons first behind =>
      have hfirst : Text.isMarkupBlank first = false := by
        have := List.head?_dropWhile_not Text.isMarkupBlank s
        simpa [hs] using this
      have hne : first ≠ '\r' := by
        rintro rfl
        contradiction
      rw [normalizeLineEnds_cons hne]
      simp only [splitAttribute?_normalizeLineEnds]
      cases ha : splitAttribute? first behind with
      | none => rfl
      | some cut =>
        obtain ⟨name, raw, after⟩ := cut
        have hshort : after.length < k := by
          have h₁ := length_of_splitAttribute? ha
          have h₂ := (List.dropWhile_sublist (l := s) Text.isMarkupBlank).length_le
          rw [hs, List.length_cons] at h₂
          omega
        simp only [Option.map_some, readAttributeValue, normalizeLineEnds_idem,
          ih _ hshort _ after rfl]

/-- **A tag means what it would mean with line feeds.** -/
theorem Tag.read_normalizeLineEnds (outer : Context) (raw : List Char) :
    Tag.read outer (normalizeLineEnds raw) = Tag.read outer raw := by
  simp only [Tag.read, takeWhile_not_normalizeLineEnds (p := Text.isMarkupBlank) rfl rfl,
    dropWhile_not_normalizeLineEnds (p := Text.isMarkupBlank) rfl rfl,
    readTagParts_normalizeLineEnds]

/-- Names end at blanks, so they hold no line end. -/
theorem Tag.unbroken_of_read {outer : Context} {raw : List Char} {tag : Tag}
    (h : Tag.read outer raw = .ok tag) : ∀ c ∈ tag.name.toChars, isLineEnd c = false := by
  simp only [Tag.read, Outcome.bind_eq_ok, Outcome.pure_eq_ok] at h
  obtain ⟨parts, -, ns, -, attributes, -, rfl⟩ := h
  intro c hc
  rw [QName.toChars_ofChars] at hc
  have hblank := List.all_eq_true.1 List.all_takeWhile c hc
  rw [isLineEnd_eq_false]
  constructor
  all_goals
    rintro rfl
    contradiction

end FiscalGateway.Xml

import FiscalGateway.Proofs.Text.Split
import FiscalGateway.Xml.Document

/-!
# Scanning — a text piece by piece

`Builder.resume` reads on from any state, and each kind of piece that stands in front of a text is
one step (`resume_text`, `resume_startTag`, `resume_emptyTag`, `resume_endTag`,
`resume_instruction`): what follows the piece is read from the state it leaves. The side conditions
say that nothing inside the piece ends it early.
-/

namespace FiscalGateway.Xml

/-! ## The first occurrence of a stop -/

section Stop

variable {stop s t before after : List Char}

/-- A stop at the front is met at once. -/
theorem splitAt?_append (stop after : List Char) :
    splitAt? stop (stop ++ after) = some ([], after) := by
  unfold splitAt?
  rw [if_pos (List.isPrefixOf_iff_prefix.2 (List.prefix_append _ _)), List.drop_left]

/-- A character at which no stop begins is passed over. -/
theorem splitAt?_cons_of_mismatch {c : Char} (h : ¬ stop <+: c :: s) :
    splitAt? stop (c :: s) =
      (splitAt? stop s).map fun (before, after) => (c :: before, after) := by
  rw [splitAt?, if_neg (mt List.isPrefixOf_iff_prefix.1 h)]

/-- What is found is the first occurrence. -/
theorem first_of_splitAt? (h : splitAt? stop s = some (before, after)) :
    s = before ++ stop ++ after ∧ ∀ i < before.length, ¬ stop <+: s.drop i := by
  fun_induction splitAt? stop s generalizing before with
  | case1 s hp =>
    obtain ⟨u, rfl⟩ := List.isPrefixOf_iff_prefix.1 hp
    obtain ⟨rfl, rfl⟩ := Prod.mk.inj (Option.some.inj h)
    exact ⟨by simp, by simp⟩
  | case2 hp => contradiction
  | case3 c s hp ih =>
    obtain ⟨⟨b, a⟩, hs, he⟩ := Option.map_eq_some_iff.1 h
    obtain ⟨rfl, rfl⟩ := Prod.mk.inj he
    obtain ⟨rfl, hfirst⟩ := ih hs
    refine ⟨rfl, fun i hi => ?_⟩
    cases i with
    | zero => exact mt List.isPrefixOf_iff_prefix.2 hp
    | succ i => exact hfirst i (by simpa using hi)

/-- The first occurrence is found. -/
theorem splitAt?_of_first (hs : s = before ++ stop ++ after)
    (hfirst : ∀ i < before.length, ¬ stop <+: s.drop i) :
    splitAt? stop s = some (before, after) := by
  induction before generalizing s with
  | nil => rw [hs, List.nil_append, splitAt?_append]
  | cons c before ih =>
    obtain ⟨u, rfl⟩ : ∃ u, s = c :: u := ⟨_, hs⟩
    have hrest := ih (List.cons.inj hs).2 fun i hi => hfirst (i + 1) (by simpa using hi)
    rw [splitAt?_cons_of_mismatch (hfirst 0 (by simp)), hrest]
    rfl

/-- **The first occurrence**: the stop stands there and begins nowhere in front. -/
theorem splitAt?_eq_some_iff :
    splitAt? stop s = some (before, after) ↔
      s = before ++ stop ++ after ∧ ∀ i < before.length, ¬ stop <+: s.drop i :=
  ⟨first_of_splitAt?, fun h => splitAt?_of_first h.1 h.2⟩

/-- What is written behind the first occurrence is not looked at. -/
theorem splitAt?_replace (h : splitAt? stop s = some (before, after)) (t : List Char) :
    splitAt? stop (before ++ stop ++ t) = some (before, t) := by
  obtain ⟨rfl, hfirst⟩ := splitAt?_eq_some_iff.1 h
  refine splitAt?_eq_some_iff.2 ⟨rfl, fun i hi hp => hfirst i hi ?_⟩
  rw [List.append_assoc, List.drop_append_of_le_length (by omega), ← List.append_assoc] at hp ⊢
  have hshort : stop <+: before.drop i ++ stop :=
    List.prefix_of_prefix_length_le hp (List.prefix_append _ _) (by simp)
  exact hshort.trans (List.prefix_append _ _)

/-- A text that is passed over may be left out. -/
theorem splitAt?_drop {p : List Char} (h : splitAt? stop (p ++ s) = some (p ++ before, after)) :
    splitAt? stop s = some (before, after) := by
  obtain ⟨hs, hfirst⟩ := splitAt?_eq_some_iff.1 h
  refine splitAt?_eq_some_iff.2 ⟨by simpa [List.append_assoc] using hs, fun i hi hp => ?_⟩
  refine hfirst (p.length + i) (by simpa using hi) ?_
  rwa [List.drop_append, List.drop_eq_nil_of_le (by omega), List.nil_append,
    Nat.add_sub_cancel_left]

/-- A character other than the first one of the stop is passed over. -/
theorem splitAt?_cons {c d : Char} {stop : List Char} (h : c ≠ d) :
    splitAt? (d :: stop) (c :: s) =
      (splitAt? (d :: stop) s).map fun (before, after) => (c :: before, after) :=
  splitAt?_cons_of_mismatch fun hp => h (List.cons_prefix_cons.1 hp).1.symm

/-- And so is a text without it. -/
theorem splitAt?_of_not_mem {d : Char} {stop : List Char} (h : d ∉ s) (t : List Char) :
    splitAt? (d :: stop) (s ++ t) =
      (splitAt? (d :: stop) t).map fun (before, after) => (s ++ before, after) := by
  induction s with
  | nil => simp
  | cons c s ih =>
    have hc : c ≠ d := fun e => h (by simp [e])
    rw [List.cons_append, splitAt?_cons hc, ih fun hs => h (List.mem_cons_of_mem c hs)]
    cases splitAt? (d :: stop) t <;> rfl

end Stop

/-! ## Tags end outside of quotes -/

/-- Whether no tag ends inside a text and no quote is open behind it. -/
def closesQuotes (opened : Option Char) : List Char → Bool
  | [] => opened.isNone
  | c :: s => !(opened.isNone && c == '>') && closesQuotes (quoteAfter opened c) s

theorem closesQuotes_append {opened : Option Char} {s t : List Char}
    (hs : closesQuotes opened s = true) (ht : closesQuotes none t = true) :
    closesQuotes opened (s ++ t) = true := by
  induction s generalizing opened with
  | nil =>
    have : opened = none := by simpa [closesQuotes] using hs
    simpa [this] using ht
  | cons c s ih =>
    simp only [closesQuotes, Bool.and_eq_true] at hs
    simp only [List.cons_append, closesQuotes, hs.1, ih hs.2, Bool.and_self]

/-- A text without quotes in which no tag ends. -/
theorem closesQuotes_of_plain {s : List Char} (h : ∀ c ∈ s, c ≠ '>' ∧ c ≠ '"' ∧ c ≠ '\'') :
    closesQuotes none s = true := by
  induction s with
  | nil => rfl
  | cons c s ih =>
    obtain ⟨h₁, h₂, h₃⟩ := h c (by simp)
    have hq : quoteAfter none c = none := by simp [quoteAfter, h₂, h₃]
    simp [closesQuotes, hq, h₁, ih fun d hd => h d (List.mem_cons_of_mem c hd)]

/-- A value between double quotes. -/
theorem closesQuotes_quoted {v : List Char} (h : '"' ∉ v) :
    closesQuotes none ('"' :: v ++ ['"']) = true := by
  have inside : ∀ v : List Char, '"' ∉ v → closesQuotes (some '"') (v ++ ['"']) = true := by
    intro v hv
    induction v with
    | nil => rfl
    | cons c v ih =>
      have hc : c ≠ '"' := fun e => hv (by simp [e])
      have hq : quoteAfter (some '"') c = some '"' := by simp [quoteAfter, hc]
      simp [closesQuotes, hq, ih fun hm => hv (List.mem_cons_of_mem c hm)]
  rw [List.cons_append, closesQuotes]
  exact inside v h

/-- The tag ends behind such a text. -/
theorem splitTag?_of_closesQuotes {opened : Option Char} {s : List Char}
    (h : closesQuotes opened s = true) (rest : List Char) :
    splitTag? opened (s ++ '>' :: rest) = some (s, rest) := by
  induction s generalizing opened with
  | nil =>
    have : opened = none := by simpa [closesQuotes] using h
    simp [this, splitTag?]
  | cons c s ih =>
    simp only [closesQuotes, Bool.and_eq_true, Bool.not_eq_true', Bool.and_eq_false_iff,
      Option.isNone_eq_false_iff, beq_eq_false_iff_ne] at h
    have hc : ¬ (opened = none ∧ c = '>') := by
      rintro ⟨rfl, rfl⟩
      simp at h
    rw [List.cons_append, splitTag?, if_neg hc, ih h.2]
    rfl

/-- What is found is such a text. -/
theorem closesQuotes_of_splitTag? {opened : Option Char} {s raw after : List Char}
    (h : splitTag? opened s = some (raw, after)) :
    s = raw ++ '>' :: after ∧ closesQuotes opened raw = true := by
  induction s generalizing opened raw with
  | nil => exact absurd h (by simp [splitTag?])
  | cons c s ih =>
    rw [splitTag?] at h
    split at h
    · next hc =>
      obtain ⟨rfl, rfl⟩ := Prod.mk.inj (Option.some.inj h)
      simp [closesQuotes, hc.1, hc.2]
    · next hc =>
      obtain ⟨⟨r, a⟩, hs, he⟩ := Option.map_eq_some_iff.1 h
      obtain ⟨rfl, rfl⟩ := Prod.mk.inj he
      obtain ⟨rfl, hr⟩ := ih hs
      have hopen : (opened.isNone && c == '>') = false := by
        rw [← Bool.not_eq_true]
        simpa using hc
      exact ⟨rfl, by simp [closesQuotes, hopen, hr]⟩

/-- **The end of a tag**: it stands there, and quotes are closed in front of it. -/
theorem splitTag?_eq_some_iff {opened : Option Char} {s raw after : List Char} :
    splitTag? opened s = some (raw, after) ↔
      s = raw ++ '>' :: after ∧ closesQuotes opened raw = true := by
  refine ⟨closesQuotes_of_splitTag?, ?_⟩
  rintro ⟨rfl, hclosed⟩
  exact splitTag?_of_closesQuotes hclosed after

/-- What begins with an exclamation mark alone is a document type, or nothing. -/
theorem scanDoctype_eq (s : List Char) :
    scanDoctype s = .doctype ∨ scanDoctype s = .fault .markup := by
  unfold scanDoctype
  split
  · exact .inr rfl
  · split
    · exact .inl rfl
    · exact .inr rfl

/-! ## One piece at a time -/

/-- Reads on from a state. -/
def Builder.resume (b : Builder) (s : List Char) : Except Error Builder :=
  (Token.scan s).foldlM Builder.step b

section Resume

variable {b : Builder} {rest : List Char}

@[simp] theorem resume_nil (b : Builder) : b.resume [] = .ok b := by
  rw [Builder.resume, Token.scan]
  rfl

/-- Markup is one step. -/
theorem resume_markup {s : List Char} {t : Token} (h : scanMarkup s = (t, rest)) :
    b.resume ('<' :: s) = b.step t >>= fun b' => b'.resume rest := by
  rw [Builder.resume, Token.scan, h]
  rfl

/-- Character data is one step, up to the next markup. -/
theorem resume_text {s : List Char} (hs : s ≠ []) (hm : '<' ∉ s)
    (hrest : rest = [] ∨ ∃ r, rest = '<' :: r) :
    b.resume (s ++ rest) = b.step (.text s) >>= fun b' => b'.resume rest := by
  obtain ⟨c, s, rfl⟩ := List.exists_cons_of_ne_nil hs
  have hc : c ≠ '<' := fun e => hm (by simp [e])
  have hall : ∀ d ∈ s, (decide (d ≠ '<')) = true := by
    intro d hd
    exact decide_eq_true fun e => hm (List.mem_cons_of_mem c (e ▸ hd))
  have hhead : ∀ d ∈ rest.head?, (decide (d ≠ '<')) = false := by
    rcases hrest with rfl | ⟨r, rfl⟩ <;> simp
  have htake := Text.takeWhile_append_of_head? hall hhead
  have hdrop := Text.dropWhile_append_of_head? hall hhead
  rw [Builder.resume, List.cons_append, Token.scan, htake, hdrop]
  · rfl
  · exact hc

/-- Character data is read before it is added. -/
theorem step_text_eq_ok {s : List Char} {b' : Builder} :
    b.step (.text s) = .ok b' ↔ ∃ a, readText s = .ok a ∧ b.text a = .ok b' := by
  rw [Builder.step]
  cases readText s <;> simp

/-- A tag is what none of the other kinds of markup begins like. -/
theorem scanMarkup_tag {s : List Char} (hs : ∀ c ∈ s.head?, c ≠ '!' ∧ c ≠ '/' ∧ c ≠ '?') :
    scanMarkup s = match splitTag? none s with
      | some (raw, after) => (tagToken raw, after)
      | none => (.fault .markup, []) := by
  cases hsplit : splitTag? none s
  all_goals
    unfold scanMarkup
    split <;> simp_all

/-- A question mark begins an instruction unless it ends at once. -/
theorem scanMarkup_instruction {s : List Char} (hs : s.head? ≠ some '>') :
    scanMarkup ('?' :: s) = match splitAt? ['?', '>'] s with
      | some (raw, after) => (instructionToken raw, after)
      | none => (.fault .markup, []) := by
  cases hsplit : splitAt? ['?', '>'] s
  all_goals
    unfold scanMarkup
    split <;> simp_all

/-- A start tag is one step. -/
theorem resume_startTag {raw : List Char} (hclosed : closesQuotes none raw = true)
    (hhead : ∀ c, raw.head? = some c → c ≠ '!' ∧ c ≠ '/' ∧ c ≠ '?')
    (hlast : raw.getLast? ≠ some '/') :
    b.resume ('<' :: (raw ++ '>' :: rest)) =
      b.step (.startTag raw) >>= fun b' => b'.resume rest := by
  have htoken : tagToken raw = .startTag raw := if_neg hlast
  have hfront : ∀ c ∈ (raw ++ '>' :: rest).head?, c ≠ '!' ∧ c ≠ '/' ∧ c ≠ '?' := by
    cases raw with
    | nil => simp
    | cons d raw => exact fun c hc => hhead c hc
  refine resume_markup ?_
  rw [scanMarkup_tag hfront, splitTag?_of_closesQuotes hclosed rest, ← htoken]

/-- An empty tag is one step. -/
theorem resume_emptyTag {raw : List Char} (hclosed : closesQuotes none raw = true)
    (hhead : ∀ c, raw.head? = some c → c ≠ '!' ∧ c ≠ '/' ∧ c ≠ '?') (hne : raw ≠ []) :
    b.resume ('<' :: (raw ++ '/' :: '>' :: rest)) =
      b.step (.emptyTag raw) >>= fun b' => b'.resume rest := by
  have hslash : closesQuotes none ['/'] = true := by decide
  have hsplit := splitTag?_of_closesQuotes (closesQuotes_append hclosed hslash) rest
  rw [List.append_assoc] at hsplit
  have htoken : tagToken (raw ++ ['/']) = .emptyTag raw := by
    rw [tagToken, List.getLast?_concat, if_pos rfl, List.dropLast_concat]
  have hfront : ∀ c ∈ (raw ++ (['/'] ++ '>' :: rest)).head?, c ≠ '!' ∧ c ≠ '/' ∧ c ≠ '?' := by
    obtain ⟨d, raw, rfl⟩ := List.exists_cons_of_ne_nil hne
    exact fun c hc => hhead c hc
  refine resume_markup ?_
  rw [← htoken]
  exact (scanMarkup_tag hfront).trans (by rw [hsplit])

/-- The name in an end tag is taken as it stands unless blanks follow it. -/
theorem endTagName_of_no_blank {name : List Char} (h : ∀ c ∈ name, Text.isMarkupBlank c = false) :
    endTagName name = name := by
  unfold endTagName
  split
  · rfl
  · have hdrop : name.reverse.dropWhile Text.isMarkupBlank = name.reverse := by
      cases hr : name.reverse with
      | nil => rfl
      | cons c r =>
        have hc : c ∈ name := by
          rw [← List.mem_reverse, hr]
          exact List.mem_cons_self
        rw [List.dropWhile_cons, h c hc]
        rfl
    rw [hdrop, List.reverse_reverse]

/-- An end tag is one step. -/
theorem resume_endTag {name : List Char} (hclosed : closesQuotes none name = true)
    (hblank : ∀ c ∈ name, Text.isMarkupBlank c = false) :
    b.resume ('<' :: '/' :: (name ++ '>' :: rest)) =
      b.step (.endTag name) >>= fun b' => b'.resume rest := by
  refine resume_markup ?_
  have hsplit := splitTag?_of_closesQuotes hclosed rest
  simp only [scanMarkup, hsplit, endTagName_of_no_blank hblank]

/-- An instruction is one step. -/
theorem resume_instruction {raw : List Char} (hne : raw.head? ≠ some '>') (hnil : raw ≠ [])
    (hsplit : splitAt? ['?', '>'] (raw ++ ['?', '>']) = some (raw, []))
    (htoken : instructionToken raw = .instruction raw) :
    b.resume ('<' :: '?' :: (raw ++ '?' :: '>' :: rest)) =
      b.step (.instruction raw) >>= fun b' => b'.resume rest := by
  have hfront : (raw ++ (['?', '>'] ++ rest)).head? ≠ some '>' := by
    obtain ⟨c, raw, rfl⟩ := List.exists_cons_of_ne_nil hnil
    exact hne
  have hreplace := splitAt?_replace hsplit rest
  rw [List.append_assoc] at hreplace
  refine resume_markup ?_
  rw [← htoken]
  exact (scanMarkup_instruction hfront).trans (by rw [hreplace])

end Resume

theorem dropByteOrderMark_of_head? {s : List Char} (h : s.head? ≠ some '\uFEFF') :
    dropByteOrderMark s = s := by
  unfold dropByteOrderMark
  split
  · simp at h
  · rfl

/-- A document is what is read from the start and then complete. -/
theorem ofChars_eq (s : List Char) :
    Document.ofChars s = (Builder.resume ⟨[], none⟩ (dropByteOrderMark s)) >>= Builder.finish := rfl

end FiscalGateway.Xml

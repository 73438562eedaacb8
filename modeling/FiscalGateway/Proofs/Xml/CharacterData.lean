import FiscalGateway.Proofs.Text.Inline
import FiscalGateway.Xml.CharacterData

/-!
# Character data — what is written is read

Text and attribute values in canonical form are read as what was written (`readText_escapeText`,
`readAttributeValue_escapeAttribute`): the references that writing introduces are expanded again,
and nothing that reading would normalise is left. The written forms hold no character that ends
them (`not_mem_escapeText`, `not_mem_escapeAttribute`). Markup of our own making writes no
reference for a control character, so it is read as what was written where there is none
(`readText_escapeMarkup`, `readAttributeValue_escapeMarkup`).
-/

namespace FiscalGateway.Xml

/-! ## Normalisation leaves alone what it has nothing to do on -/

/-- Without carriage returns there are no line ends to bring to one form. -/
theorem normalizeLineEnds_of_not_mem {s : List Char} (h : '\r' ∉ s) : normalizeLineEnds s = s := by
  fun_induction normalizeLineEnds s with
  | case1 => rfl
  | case2 rest ih => simp at h
  | case3 rest hrest ih => simp at h
  | case4 c rest _ hc ih =>
    rw [ih fun hr => h (List.mem_cons_of_mem c hr)]

/-- A character other than a carriage return stays. -/
theorem normalizeLineEnds_cons {c : Char} (h : c ≠ '\r') (s : List Char) :
    normalizeLineEnds (c :: s) = c :: normalizeLineEnds s := by
  rw [normalizeLineEnds]
  · exact fun _ e => absurd e h
  · exact fun e => absurd e h

/-- A carriage return that no line feed follows is a line end of its own. -/
theorem normalizeLineEnds_return {s : List Char} (h : s.head? ≠ some '\n') :
    normalizeLineEnds ('\r' :: s) = '\n' :: normalizeLineEnds s := by
  rw [normalizeLineEnds]
  rintro rest rfl
  exact h rfl

/-- Only line ends are touched. -/
theorem mem_normalizeLineEnds {c : Char} (hr : c ≠ '\r') (hn : c ≠ '\n') {s : List Char} :
    c ∈ normalizeLineEnds s ↔ c ∈ s := by
  fun_induction normalizeLineEnds s with
  | case1 => rfl
  | case2 rest ih => simp [hr, hn, ih]
  | case3 rest _ ih => simp [hr, hn, ih]
  | case4 d rest _ _ ih => simp [ih]

theorem return_not_mem_normalizeLineEnds (s : List Char) : '\r' ∉ normalizeLineEnds s := by
  fun_induction normalizeLineEnds s with
  | case1 => exact List.not_mem_nil
  | case2 rest ih => simp [ih]
  | case3 rest _ ih => simp [ih]
  | case4 c rest _ hc ih => simp [ih, Ne.symm hc]

/-- Two texts are normalised apart unless a line end stands across the seam. -/
theorem normalizeLineEnds_append {s t : List Char}
    (h : s.getLast? = some '\r' → t.head? ≠ some '\n') :
    normalizeLineEnds (s ++ t) = normalizeLineEnds s ++ normalizeLineEnds t := by
  fun_induction normalizeLineEnds s with
  | case1 => rfl
  | case2 rest ih =>
    have hrest := ih fun hlast => h (by simp [List.getLast?_cons, hlast])
    simp only [List.cons_append, normalizeLineEnds, hrest]
  | case3 rest hhead ih =>
    have hrest := ih fun hlast => h (by simp [List.getLast?_cons, hlast])
    have hseam : (rest ++ t).head? ≠ some '\n' := by
      cases rest with
      | nil => exact h rfl
      | cons d rest => exact fun e => hhead rest (by simpa using e)
    rw [List.cons_append, normalizeLineEnds_return hseam, hrest, List.cons_append]
  | case4 c rest _ hc ih =>
    have hrest := ih fun hlast => h (by simp [List.getLast?_cons, hlast])
    rw [List.cons_append, normalizeLineEnds_cons hc, hrest, List.cons_append]

/-- Without tabs and line feeds no blank is replaced. -/
theorem map_normalizeBlank_of_not_mem {s : List Char} (ht : '\t' ∉ s) (hn : '\n' ∉ s) :
    s.map normalizeBlank = s := by
  have hid : ∀ c ∈ s, normalizeBlank c = id c := by
    intro c hc
    have h₁ : c ≠ '\t' := fun e => ht (e ▸ hc)
    have h₂ : c ≠ '\n' := fun e => hn (e ▸ hc)
    simp [normalizeBlank, h₁, h₂]
  rw [List.map_congr_left hid, List.map_id]

/-! ## Expanding what was written -/

/-- A character other than an ampersand stands for itself. -/
theorem expandFrom_cons {c : Char} (h : c ≠ '&') (rest : List Char) :
    expandFrom none (c :: rest) = (c :: ·) <$> expandFrom none rest := by
  rw [expandFrom]
  exact if_neg h

/-- A written character of text is read as itself. -/
theorem expandFrom_escapeTextChar (c : Char) (rest : List Char) :
    expandFrom none (escapeTextChar c ++ rest) = (c :: ·) <$> expandFrom none rest := by
  unfold escapeTextChar
  split
  · next h => subst h; rfl
  · next h =>
    split
    · next h => subst h; rfl
    · split
      · next h => subst h; rfl
      · split
        · next h => subst h; rfl
        · exact expandFrom_cons h rest

/-- A written character of an attribute value is read as itself. -/
theorem expandFrom_escapeAttributeChar (c : Char) (rest : List Char) :
    expandFrom none (escapeAttributeChar c ++ rest) = (c :: ·) <$> expandFrom none rest := by
  unfold escapeAttributeChar
  split
  · next h => subst h; rfl
  · next h =>
    split
    · next h => subst h; rfl
    · split
      · next h => subst h; rfl
      · split
        · next h => subst h; rfl
        · split
          · next h => subst h; rfl
          · split
            · next h => subst h; rfl
            · exact expandFrom_cons h rest

/-- A writer whose characters are read as themselves writes texts that are. -/
theorem expand_flatMap {write : Char → List Char}
    (h : ∀ c rest, expandFrom none (write c ++ rest) = (c :: ·) <$> expandFrom none rest)
    (s : List Char) : expand (s.flatMap write) = .ok s := by
  unfold expand
  induction s with
  | nil => rfl
  | cons c s ih =>
    rw [List.flatMap_cons, h, ih]
    rfl

/-! ## The characters of the written forms -/

/-- A character that no written character holds is in no written text. -/
theorem not_mem_flatMap {write : Char → List Char} {d : Char} (h : ∀ c, d ∉ write c)
    (s : List Char) : d ∉ s.flatMap write := by
  intro hd
  obtain ⟨c, -, hc⟩ := List.mem_flatMap.1 hd
  exact h c hc

theorem not_mem_escapeTextChar {d : Char} (hd : d = '<' ∨ d = '\r') (c : Char) :
    d ∉ escapeTextChar c := by
  unfold escapeTextChar
  rcases hd with rfl | rfl
  all_goals
    repeat' split
    all_goals simp_all [eq_comm]

theorem not_mem_escapeAttributeChar {d : Char} (hd : d = '"' ∨ d = '\t' ∨ d = '\n' ∨ d = '\r')
    (c : Char) : d ∉ escapeAttributeChar c := by
  unfold escapeAttributeChar
  rcases hd with rfl | rfl | rfl | rfl
  all_goals
    repeat' split
    all_goals simp_all [eq_comm]

/-- Written text holds no markup and no carriage return. -/
theorem not_mem_escapeText {d : Char} (hd : d = '<' ∨ d = '\r') (s : List Char) :
    d ∉ escapeText s :=
  not_mem_flatMap (not_mem_escapeTextChar hd) s

/-- A written attribute value holds no quote and no blank that reading would replace. -/
theorem not_mem_escapeAttribute {d : Char} (hd : d = '"' ∨ d = '\t' ∨ d = '\n' ∨ d = '\r')
    (s : List Char) : d ∉ escapeAttribute s :=
  not_mem_flatMap (not_mem_escapeAttributeChar hd) s

/-! ## The round trips -/

/-- **Written text is read as what it was.** -/
theorem readText_escapeText (s : List Char) : readText (escapeText s) = .ok s := by
  rw [readText, normalizeLineEnds_of_not_mem (not_mem_escapeText (.inr rfl) s)]
  exact expand_flatMap expandFrom_escapeTextChar s

/-- **A written attribute value is read as what it was.** -/
theorem readAttributeValue_escapeAttribute (s : List Char) :
    readAttributeValue (escapeAttribute s) = .ok s := by
  have hr : '\r' ∉ escapeAttribute s := not_mem_escapeAttribute (by simp) s
  have ht : '\t' ∉ escapeAttribute s := not_mem_escapeAttribute (by simp) s
  have hn : '\n' ∉ escapeAttribute s := not_mem_escapeAttribute (by simp) s
  rw [readAttributeValue, normalizeLineEnds_of_not_mem hr, map_normalizeBlank_of_not_mem ht hn]
  exact expand_flatMap expandFrom_escapeAttributeChar s

/-- Nothing is written for the empty text only. -/
theorem escapeText_eq_nil_iff {s : List Char} : escapeText s = [] ↔ s = [] := by
  constructor
  · intro h
    have := readText_escapeText s
    rw [h] at this
    exact (Except.ok.inj this).symm
  · rintro rfl
    rfl

/-- An attribute value without characters that need a reference is written as it stands. -/
theorem escapeAttribute_of_plain {s : List Char}
    (h : ∀ c ∈ s, c ∉ ['&', '<', '"', '\t', '\n', '\r']) : escapeAttribute s = s := by
  induction s with
  | nil => rfl
  | cons c s ih =>
    rw [List.forall_mem_cons] at h
    have hc : escapeAttributeChar c = [c] := by
      have hne := h.1
      simp only [List.mem_cons, not_or] at hne
      simp [escapeAttributeChar, hne]
    rw [escapeAttribute, List.flatMap_cons, hc]
    exact congrArg (c :: ·) (ih h.2)

theorem escapeAttribute_append (s t : List Char) :
    escapeAttribute (s ++ t) = escapeAttribute s ++ escapeAttribute t := List.flatMap_append

/-- And so is text. -/
theorem escapeText_of_plain {s : List Char} (h : ∀ c ∈ s, c ∉ ['&', '<', '>', '\r']) :
    escapeText s = s := by
  induction s with
  | nil => rfl
  | cons c s ih =>
    rw [List.forall_mem_cons] at h
    have hc : escapeTextChar c = [c] := by
      have hne := h.1
      simp only [List.mem_cons, not_or] at hne
      simp [escapeTextChar, hne]
    rw [escapeText, List.flatMap_cons, hc]
    exact congrArg (c :: ·) (ih h.2)

/-! ## Markup of our own making -/

/-- A written character of markup is read as itself. -/
theorem expandFrom_escapeMarkupChar (c : Char) (rest : List Char) :
    expandFrom none (escapeMarkupChar c ++ rest) = (c :: ·) <$> expandFrom none rest := by
  unfold escapeMarkupChar
  split
  · next h => subst h; rfl
  · next h =>
    split
    · next h => subst h; rfl
    · split
      · next h => subst h; rfl
      · split
        · next h => subst h; rfl
        · split
          · next h => subst h; rfl
          · exact expandFrom_cons h rest

theorem not_mem_escapeMarkupChar {d : Char} (hd : d = '<' ∨ d = '"') (c : Char) :
    d ∉ escapeMarkupChar c := by
  unfold escapeMarkupChar
  rcases hd with rfl | rfl
  all_goals
    repeat' split
    all_goals simp_all [eq_comm]

/-- It holds no markup and no quote. -/
theorem not_mem_escapeMarkup {d : Char} (hd : d = '<' ∨ d = '"') (s : List Char) :
    d ∉ escapeMarkup s :=
  not_mem_flatMap (not_mem_escapeMarkupChar hd) s

/-- The references that it introduces are inline. -/
theorem isInline_escapeMarkup {s : List Char} (h : Text.IsInline s) :
    Text.IsInline (escapeMarkup s) := by
  intro d hd
  obtain ⟨c, hc, hmem⟩ := List.mem_flatMap.1 hd
  have hchar : Text.IsInline (escapeMarkupChar c) := by
    unfold escapeMarkupChar
    repeat' split
    all_goals first | decide | simpa using h c hc
  exact hchar d hmem

/-- Without carriage returns no line end is changed, so an inline text is read as what it was. -/
theorem readText_escapeMarkup {s : List Char} (h : Text.IsInline s) :
    readText (escapeMarkup s) = .ok s := by
  have hinline := isInline_escapeMarkup h
  rw [readText, normalizeLineEnds_of_not_mem (hinline.not_mem (by decide))]
  exact expand_flatMap expandFrom_escapeMarkupChar s

/-- **So is an inline attribute value.** -/
theorem readAttributeValue_escapeMarkup {s : List Char} (h : Text.IsInline s) :
    readAttributeValue (escapeMarkup s) = .ok s := by
  have hinline := isInline_escapeMarkup h
  rw [readAttributeValue, normalizeLineEnds_of_not_mem (hinline.not_mem (by decide)),
    map_normalizeBlank_of_not_mem (hinline.not_mem (by decide)) (hinline.not_mem (by decide))]
  exact expand_flatMap expandFrom_escapeMarkupChar s

/-- Each character is written as at least one. -/
theorem escapeMarkup_ne_nil {s : List Char} (h : s ≠ []) : escapeMarkup s ≠ [] := by
  obtain ⟨c, s, rfl⟩ := List.exists_cons_of_ne_nil h
  have hchar : escapeMarkupChar c ≠ [] := by
    unfold escapeMarkupChar
    repeat' split
    all_goals simp
  rw [escapeMarkup, List.flatMap_cons]
  exact fun hnil => hchar (List.append_eq_nil_iff.1 hnil).1

end FiscalGateway.Xml

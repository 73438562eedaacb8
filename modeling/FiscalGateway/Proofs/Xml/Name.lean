import FiscalGateway.Proofs.Text.Split
import FiscalGateway.Xml.Tree

/-!
# Names — the names that XML gives the parts of a document

`IsNCName` is the class of names without colon. Such a name holds none of the characters that the
readers of tags look for (`IsNCName.not_mem`), and a written name of two such parts is split where
it was joined (`QName.ofChars_toChars`).
-/

namespace FiscalGateway.Xml

/-- The characters that begin a name; the colon is left to prefixes. -/
def isNameStart (c : Char) : Bool :=
  let n := c.toNat
  (0x41 ≤ n && n ≤ 0x5A) || n == 0x5F || (0x61 ≤ n && n ≤ 0x7A) || (0xC0 ≤ n && n ≤ 0xD6) ||
    (0xD8 ≤ n && n ≤ 0xF6) || (0xF8 ≤ n && n ≤ 0x2FF) || (0x370 ≤ n && n ≤ 0x37D) ||
    (0x37F ≤ n && n ≤ 0x1FFF) || (0x200C ≤ n && n ≤ 0x200D) || (0x2070 ≤ n && n ≤ 0x218F) ||
    (0x2C00 ≤ n && n ≤ 0x2FEF) || (0x3001 ≤ n && n ≤ 0xD7FF) || (0xF900 ≤ n && n ≤ 0xFDCF) ||
    (0xFDF0 ≤ n && n ≤ 0xFFFD) || (0x10000 ≤ n && n ≤ 0xEFFFF)

/-- The characters of a name. -/
def isNameChar (c : Char) : Bool :=
  let n := c.toNat
  isNameStart c || n == 0x2D || n == 0x2E || (0x30 ≤ n && n ≤ 0x39) || n == 0xB7 ||
    (0x300 ≤ n && n ≤ 0x36F) || (0x203F ≤ n && n ≤ 0x2040)

/-- A name without colon. -/
def IsNCName (s : String) : Prop :=
  ∃ c rest, s.toList = c :: rest ∧ isNameStart c = true ∧ ∀ d ∈ rest, isNameChar d = true

instance : DecidablePred IsNCName := fun s =>
  match h : s.toList with
  | [] => isFalse (by
      rintro ⟨c, rest, hs, -⟩
      rw [h] at hs
      contradiction)
  | c :: rest => decidable_of_iff (isNameStart c = true ∧ ∀ d ∈ rest, isNameChar d = true) (by
      constructor
      · rintro ⟨hc, hrest⟩
        exact ⟨c, rest, h, hc, hrest⟩
      · rintro ⟨d, more, hs, hd, hmore⟩
        obtain ⟨rfl, rfl⟩ := List.cons.inj (h.symm.trans hs)
        exact ⟨hd, hmore⟩)

/-- A name whose prefix and local part are names without colon. -/
structure QName.IsProper (n : QName) : Prop where
  nsPrefix : ∀ p, n.nsPrefix = some p → IsNCName p
  localPart : IsNCName n.localPart

instance : DecidablePred QName.IsProper := fun n =>
  decidable_of_iff ((∀ p ∈ n.nsPrefix, IsNCName p) ∧ IsNCName n.localPart)
    ⟨fun h => ⟨h.1, h.2⟩, fun h => ⟨h.nsPrefix, h.localPart⟩⟩

namespace IsNCName

variable {s : String}

/-- The characters of a name are name characters. -/
theorem isNameChar_of_mem (h : IsNCName s) {c : Char} (hc : c ∈ s.toList) :
    isNameChar c = true := by
  obtain ⟨d, rest, hs, hd, hrest⟩ := h
  rw [hs, List.mem_cons] at hc
  rcases hc with rfl | hc
  · simp [isNameChar, hd]
  · exact hrest c hc

/-- **What is no name character stands in no name.** -/
theorem not_mem (h : IsNCName s) {c : Char} (hc : isNameChar c = false) : c ∉ s.toList := by
  intro hm
  rw [h.isNameChar_of_mem hm] at hc
  contradiction

end IsNCName

/-- The prefix that marks declarations is a name. -/
theorem isNCName_xmlns : IsNCName "xmlns" :=
  ⟨'x', ['m', 'l', 'n', 's'], by decide, by decide, by decide⟩

namespace QName

variable {n m : QName}

/-- A proper name holds no character that is no name character, but for one colon. -/
theorem IsProper.not_mem_toChars (h : n.IsProper) {c : Char} (hc : isNameChar c = false)
    (hcolon : c ≠ ':') : c ∉ n.toChars := by
  intro hm
  unfold toChars at hm
  split at hm
  · next p hp =>
    rw [List.mem_append, List.mem_cons] at hm
    rcases hm with hm | hm | hm
    · exact (h.nsPrefix p hp).not_mem hc hm
    · exact hcolon hm
    · exact h.localPart.not_mem hc hm
  · exact h.localPart.not_mem hc hm

/-- The first character of a proper name begins a name. -/
theorem IsProper.head (h : n.IsProper) :
    ∃ c rest, n.toChars = c :: rest ∧ isNameStart c = true := by
  unfold toChars
  split
  · next p hp =>
    obtain ⟨c, rest, hs, hc, -⟩ := h.nsPrefix p hp
    exact ⟨c, rest ++ ':' :: n.localPart.toList, by rw [hs, List.cons_append], hc⟩
  · obtain ⟨c, rest, hs, hc, -⟩ := h.localPart
    exact ⟨c, rest, hs, hc⟩

/-- **A proper name is split where it was joined.** -/
theorem ofChars_toChars (h : n.IsProper) : ofChars n.toChars = n := by
  obtain ⟨p, l⟩ := n
  cases p with
  | none =>
    have hl : ∀ c ∈ l.toList, (c == ':') = false := by
      intro c hc
      exact beq_false_of_ne fun e => h.localPart.not_mem (c := ':') (by decide) (e ▸ hc)
    simp only [toChars, ofChars, Text.splitOnce_eq_none_iff.2 hl, String.ofList_toList]
  | some p =>
    have hp : ∀ c ∈ p.toList, (c == ':') = false := by
      intro c hc
      exact beq_false_of_ne fun e => (h.nsPrefix p rfl).not_mem (c := ':') (by decide) (e ▸ hc)
    simp only [toChars, ofChars, Text.splitOnce_append hp (beq_self_eq_true ':'),
      String.ofList_toList]

/-- Proper names that are written alike are the same. -/
theorem toChars_inj (hn : n.IsProper) (hm : m.IsProper) : n.toChars = m.toChars ↔ n = m := by
  constructor
  · intro h
    rw [← ofChars_toChars hn, h, ofChars_toChars hm]
  · rintro rfl
    rfl

end QName
end FiscalGateway.Xml

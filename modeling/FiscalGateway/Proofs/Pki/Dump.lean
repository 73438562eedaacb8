import FiscalGateway.Pki.Dump
import FiscalGateway.Proofs.Text.Split

/-!
# Dumps — when the words of a certificate tell who is an authority

As long as no value has a line end of its own, the lines of a dump are the titles and the values of
the extensions in turn (`Extension.splitEach_dump`), and the first title of constraints is that of
the first constraints. So the dump of a plain certificate reads as that of an authority exactly if
the certificate is marked as one (`readsAsAuthority_dump`). A value that holds lines can hold a
title and a mark as well, and then the dump says what the certificate does not.
-/

namespace FiscalGateway.Pki

open Text (splitEach trimStart)

/-- A line may be indented. -/
theorem trimStart_indented (n : Nat) (line : List Char) :
    trimStart (List.replicate n ' ' ++ line) = trimStart line :=
  List.dropWhile_append_of_pos fun _ hc => by rw [List.eq_of_mem_replicate hc]; rfl

theorem isConstraintsTitle_indented (n : Nat) (line : List Char) :
    isConstraintsTitle (List.replicate n ' ' ++ line) = isConstraintsTitle line := by
  rw [isConstraintsTitle, trimStart_indented, isConstraintsTitle]

theorem isAuthorityMark_indented (n : Nat) (line : List Char) :
    isAuthorityMark (List.replicate n ' ' ++ line) = isAuthorityMark line := by
  rw [isAuthorityMark, trimStart_indented, isAuthorityMark]

namespace Extension

variable {e : Extension}

/-- **An extension that shows nothing else**: its value is a single line, which is no title of
constraints, and which looks like the mark of an authority only if it says so in words. -/
structure IsPlain (e : Extension) : Prop where
  oneLine : '\n' ∉ e.shown
  noTitle : isConstraintsTitle e.shown = false
  noMark : e.words? = none → isAuthorityMark e.shown = false

theorem lineFeed_notMem_title (e : Extension) : '\n' ∉ e.title := by
  unfold title
  cases e.critical <;> split <;> decide

/-- The title of constraints is one, and no other is. -/
theorem isConstraintsTitle_title (e : Extension) :
    isConstraintsTitle e.title = decide (e.kind = Certificate.basicConstraintsKind) := by
  unfold title
  split
  · next hkind =>
    rw [decide_eq_true hkind]
    cases e.critical <;> decide
  · next hkind =>
    rw [decide_eq_false hkind]
    cases e.critical <;> decide

/-- Constraints look like the mark of an authority exactly if they are one. -/
theorem IsPlain.isAuthorityMark_shown (h : e.IsPlain)
    (hkind : e.kind = Certificate.basicConstraintsKind) :
    isAuthorityMark e.shown = (Certificate.constraintsMark? e.value).getD false := by
  have hwords : e.words? = (Certificate.constraintsMark? e.value).map fun mark =>
      if mark then authorityMark else "CA:FALSE".toList := if_pos hkind
  cases hmark : Certificate.constraintsMark? e.value with
  | none =>
    rw [hmark] at hwords
    exact h.noMark hwords
  | some mark =>
    rw [shown, hwords, hmark]
    cases mark <;> rfl

/-- **A plain extension is two lines.** -/
theorem IsPlain.splitEach_dump (h : e.IsPlain) (rest : List Char) :
    splitEach (· == '\n') (e.dump ++ rest) =
      (List.replicate 12 ' ' ++ e.title) :: (List.replicate 16 ' ' ++ e.shown) ::
        splitEach (· == '\n') rest := by
  have hline {n : Nat} {s : List Char} (hs : '\n' ∉ s) :
      ∀ c ∈ List.replicate n ' ' ++ s, (c == '\n') = false := by
    intro c hc
    rw [beq_eq_false_iff_ne]
    rintro rfl
    rcases List.mem_append.1 hc with hc | hc
    · exact absurd (List.eq_of_mem_replicate hc) (by decide)
    · exact hs hc
  have htitle := hline (n := 12) e.lineFeed_notMem_title
  have hshown := hline (n := 16) h.oneLine
  simp only [Text.splitEach_eq_splitOnP, dump, List.append_assoc, List.cons_append] at *
  rw [← List.append_assoc, List.splitOnP_append_cons_of_forall_mem htitle _ rfl,
    ← List.append_assoc, List.nil_append, List.splitOnP_append_cons_of_forall_mem hshown _ rfl]

/-- **The first constraints decide**, as long as all extensions are plain. -/
theorem readsAsAuthority_dump {extensions : List Extension} (h : ∀ e ∈ extensions, e.IsPlain) :
    readsAsAuthority (extensions.flatMap dump) =
      (((extensions.find? (·.kind = Certificate.basicConstraintsKind)).map (·.value)).map
        fun value => (Certificate.constraintsMark? value).getD false).getD false := by
  induction extensions with
  | nil => rfl
  | cons e extensions ih =>
    obtain ⟨he, hextensions⟩ := List.forall_mem_cons.1 h
    rw [List.flatMap_cons, readsAsAuthority, he.splitEach_dump]
    by_cases hkind : e.kind = Certificate.basicConstraintsKind
    · have htitle : isConstraintsTitle (List.replicate 12 ' ' ++ e.title) = true := by
        rw [isConstraintsTitle_indented, isConstraintsTitle_title, decide_eq_true hkind]
      rw [List.dropWhile_cons_of_neg (by rw [htitle]; decide)]
      simp only [List.find?_cons, decide_eq_true hkind, Option.map_some, Option.getD_some]
      rw [isAuthorityMark_indented, he.isAuthorityMark_shown hkind]
    · have htitle : isConstraintsTitle (List.replicate 12 ' ' ++ e.title) = false := by
        rw [isConstraintsTitle_indented, isConstraintsTitle_title, decide_eq_false hkind]
      have hshown : isConstraintsTitle (List.replicate 16 ' ' ++ e.shown) = false := by
        rw [isConstraintsTitle_indented, he.noTitle]
      rw [List.dropWhile_cons_of_pos (by rw [htitle]; rfl),
        List.dropWhile_cons_of_pos (by rw [hshown]; rfl)]
      simp only [List.find?_cons, decide_eq_false hkind]
      exact ih hextensions

end Extension

/-- A certificate whose extensions are plain. -/
def Certificate.IsPlain (c : Certificate) : Prop := ∀ e ∈ c.parts.extensions, e.IsPlain

/-- **The dump of a plain certificate shows an authority exactly if the certificate is marked as
one.** -/
theorem readsAsAuthority_dump {c : Certificate} (h : c.IsPlain) :
    readsAsAuthority c.dump = c.isAuthority := by
  rw [Certificate.dump, Extension.readsAsAuthority_dump h, Certificate.isAuthority,
    Certificate.authorityMark?, Certificate.extension?]
  cases c.parts.extensions.find? (·.kind = Certificate.basicConstraintsKind) with
  | none => rfl
  | some e =>
    simp only [Option.map_some, Option.getD_some]
    cases (Certificate.constraintsMark? e.value).getD false <;> rfl

end FiscalGateway.Pki

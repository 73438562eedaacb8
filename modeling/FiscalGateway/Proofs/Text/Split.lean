import FiscalGateway.Text.Split
import Mathlib.Tactic.Common

/-!
# Splitting — where a text is cut

A text is cut at the first character of a class (`splitOnce_append`, `splitOnce_eq_none_iff`), and a
text is replaced where it first occurs: what holds no beginning of it is skipped (`Skips`), and the
occurrence behind is the one that is replaced (`replaceFirst?_here`).
-/

namespace FiscalGateway.Text

/-- A property of all characters of a text is decided along the text, not along the alphabet. -/
instance (priority := high) decidableForallMem (p : Char → Prop) [DecidablePred p] (s : List Char) :
    Decidable (∀ c ∈ s, p c) :=
  s.decidableBAll p

/-- A text is cut at the first character of a class. -/
theorem splitOnce_append {stop : Char → Bool} {before : List Char} {c : Char}
    (hb : ∀ d ∈ before, stop d = false) (hc : stop c = true) (after : List Char) :
    splitOnce stop (before ++ c :: after) = some (before, after) := by
  induction before with
  | nil => simp [splitOnce, hc]
  | cons d before ih =>
    have hd : stop d = false := hb d (by simp)
    rw [List.cons_append, splitOnce, hd, ih fun e he => hb e (List.mem_cons_of_mem d he)]
    rfl

/-- A text is not cut if it holds no character of the class. -/
theorem splitOnce_eq_none_iff {stop : Char → Bool} {s : List Char} :
    splitOnce stop s = none ↔ ∀ c ∈ s, stop c = false := by
  induction s with
  | nil => simp [splitOnce]
  | cons c s ih =>
    rw [splitOnce, List.forall_mem_cons, ← ih]
    cases stop c <;> simp

/-- The characters of a class at the front end where another one begins. -/
theorem takeWhile_append_of_head? {p : Char → Bool} {s t : List Char} (hs : ∀ c ∈ s, p c = true)
    (ht : ∀ c ∈ t.head?, p c = false) : (s ++ t).takeWhile p = s := by
  rw [List.takeWhile_append_of_pos hs]
  cases t with
  | nil => simp
  | cons c t => simp [ht c rfl]

/-- What is taken is what all pass, up to the first that does not. -/
theorem takeWhile_eq_iff {p : Char → Bool} {s t : List Char} :
    s.takeWhile p = t ↔ (∀ c ∈ t, p c = true) ∧
      ∃ rest, s = t ++ rest ∧ ∀ c ∈ rest.head?, p c = false := by
  constructor
  · rintro rfl
    refine ⟨List.all_eq_true.1 List.all_takeWhile, s.dropWhile p,
      List.takeWhile_append_dropWhile.symm, fun c hc => ?_⟩
    have hstop := List.head?_dropWhile_not p s
    rwa [Option.mem_def.1 hc] at hstop
  · rintro ⟨ht, rest, rfl, hrest⟩
    exact takeWhile_append_of_head? ht hrest

/-- And behind them stands what followed. -/
theorem dropWhile_append_of_head? {p : Char → Bool} {s t : List Char} (hs : ∀ c ∈ s, p c = true)
    (ht : ∀ c ∈ t.head?, p c = false) : (s ++ t).dropWhile p = t := by
  rw [List.dropWhile_append_of_pos hs]
  cases t with
  | nil => rfl
  | cons c t => simp [ht c rfl]

/-- The pieces are those of the library's own split. -/
theorem splitEach_eq_splitOnP (stop : Char → Bool) (s : List Char) :
    splitEach stop s = s.splitOnP stop := by
  induction s with
  | nil => rfl
  | cons c s ih =>
    obtain ⟨piece, pieces, hs⟩ := List.exists_cons_of_ne_nil (List.splitOnP_ne_nil stop s)
    rw [List.splitOnP_cons_eq_if_modifyHead, hs]
    rw [splitEach, hs] at ih
    rw [splitEach, List.foldr_cons, ih]
    rfl

/-! ## Replacing the first occurrence -/

/-- Whether a text stays as it is when the first occurrence of `part` is replaced, whatever stands
behind it. -/
def Skips (part s : List Char) : Prop :=
  ∀ new rest, replaceFirst? part new (s ++ rest) = (replaceFirst? part new rest).map (s ++ ·)

/-- What stands at the front is stripped. -/
@[simp] theorem stripFront?_append (front rest : List Char) :
    stripFront? front (front ++ rest) = some rest := by
  induction front with
  | nil => rfl
  | cons c front ih => simp [stripFront?, ih]

/-- An occurrence at the front is the one that is replaced. -/
theorem replaceFirst?_here (part new rest : List Char) :
    replaceFirst? part new (part ++ rest) = some (new ++ rest) := by
  unfold replaceFirst?
  rw [stripFront?_append]

theorem skips_nil (part : List Char) : Skips part [] := by
  intro new rest
  simp

/-- What is skipped piece by piece is skipped. -/
theorem Skips.append {part s t : List Char} (hs : Skips part s) (ht : Skips part t) :
    Skips part (s ++ t) := by
  intro new rest
  rw [List.append_assoc, hs, ht, Option.map_map]
  congr 1
  funext u
  simp

/-- A character that does not begin the part is skipped. -/
theorem skips_of_ne {part : List Char} {c d : Char} (h : c ≠ d) : Skips (d :: part) [c] := by
  intro new rest
  have : stripFront? (d :: part) (c :: rest) = none := if_neg (Ne.symm h)
  rw [List.singleton_append, replaceFirst?, this]
  rfl

/-- A text without the first character of the part is skipped. -/
theorem skips_of_not_mem {part s : List Char} {d : Char} (h : d ∉ s) : Skips (d :: part) s := by
  induction s with
  | nil => exact skips_nil _
  | cons c s ih =>
    have hc : c ≠ d := fun e => h (by simp [e])
    exact (skips_of_ne hc).append (ih fun hs => h (List.mem_cons_of_mem c hs))

/-- Whether two texts differ at a place that both have. -/
def clashes : List Char → List Char → Bool
  | c :: s, d :: t => c != d || clashes s t
  | _, _ => false

theorem stripFront?_of_clashes {part s : List Char} (h : clashes part s = true)
    (rest : List Char) : stripFront? part (s ++ rest) = none := by
  induction part generalizing s with
  | nil => cases s <;> simp [clashes] at h
  | cons c part ih =>
    cases s with
    | nil => simp [clashes] at h
    | cons d s =>
      simp only [clashes, Bool.or_eq_true, bne_iff_ne] at h
      rw [List.cons_append, stripFront?]
      split
      · next hcd => exact ih (h.resolve_left fun hne => hne hcd)
      · rfl

/-- Whether no occurrence of a part begins in a text, judged by the text alone. -/
def clashesThroughout (part : List Char) : List Char → Bool
  | [] => true
  | c :: s => clashes part (c :: s) && clashesThroughout part s

/-- A text in which no occurrence can begin is skipped. -/
theorem skips_of_clashesThroughout {part s : List Char} (h : clashesThroughout part s = true) :
    Skips part s := by
  induction s with
  | nil => exact skips_nil part
  | cons c s ih =>
    simp only [clashesThroughout, Bool.and_eq_true] at h
    intro new rest
    rw [List.cons_append, replaceFirst?, ← List.cons_append, stripFront?_of_clashes h.1, ih h.2]
    simp only [Option.map_map]
    rfl

end FiscalGateway.Text

/-!
# Splitting a text

Cutting a text at characters of a class, or at a given text.
-/

namespace FiscalGateway.Text

/-- The text before and after the first character of a class. -/
def splitOnce (stop : Char → Bool) : List Char → Option (List Char × List Char)
  | [] => none
  | c :: rest =>
    if stop c then some ([], rest)
    else (splitOnce stop rest).map fun (before, after) => (c :: before, after)

/-- What is split comes together again around a character of the class. -/
theorem eq_append_of_splitOnce {stop : Char → Bool} {s before after : List Char}
    (h : splitOnce stop s = some (before, after)) :
    ∃ c, stop c = true ∧ s = before ++ c :: after ∧ ∀ d ∈ before, stop d = false := by
  induction s generalizing before after with
  | nil => simp [splitOnce] at h
  | cons c rest ih =>
    unfold splitOnce at h
    split at h
    · next hc =>
      simp only [Option.some.injEq, Prod.mk.injEq] at h
      obtain ⟨rfl, rfl⟩ := h
      exact ⟨c, hc, rfl, by simp⟩
    · next hc =>
      simp only [Option.map_eq_some_iff, Prod.exists, Prod.mk.injEq] at h
      obtain ⟨b, a, hs, rfl, rfl⟩ := h
      obtain ⟨d, hd, rfl, hb⟩ := ih hs
      exact ⟨d, hd, rfl, by simpa using ⟨by simpa using hc, hb⟩⟩

/-- The pieces between the characters of a class, one more than there are such characters. -/
def splitEach (stop : Char → Bool) (s : List Char) : List (List Char) :=
  s.foldr
    (fun c pieces => if stop c then [] :: pieces else match pieces with
      | piece :: rest => (c :: piece) :: rest
      | [] => [[c]])
    [[]]

/-- What follows a text that stands at the front. -/
def stripFront? : (front s : List Char) → Option (List Char)
  | [], s => some s
  | _ :: _, [] => none
  | a :: front, c :: s => if a = c then stripFront? front s else none

/-- Puts a text in the place of the first occurrence of another, if there is one. -/
def replaceFirst? (part new s : List Char) : Option (List Char) :=
  match stripFront? part s with
  | some rest => some (new ++ rest)
  | none =>
    match s with
    | [] => none
    | c :: rest => (replaceFirst? part new rest).map (c :: ·)

/-- Whether a text occurs inside another. -/
def contains (s part : List Char) : Bool :=
  match s with
  | [] => part.isEmpty
  | _ :: rest => part.isPrefixOf s || contains rest part

end FiscalGateway.Text

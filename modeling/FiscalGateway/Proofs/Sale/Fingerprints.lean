import FiscalGateway.Proofs.Sale.SecurityCodes
import FiscalGateway.Proofs.Text.Hex
import Mathlib.Data.List.Basic

/-!
# Fingerprints — groups of eight

A text without hyphens is cut into groups (`inGroups`), and hyphens are put between them and nowhere
else (`groupEight_eq_intercalate`). So the groups are found again at the hyphens
(`splitOn_groupEight`), and nothing is lost when these are deleted (`IsGrouped`). A fingerprint is
five groups of digits (`isFingerprint_fingerprint`), from which the digest can be read.
-/

namespace FiscalGateway

open Text

variable {s t : List Char}

/-! ## Groups -/

/-- A text cut into groups, of which only the last one may be short. -/
def inGroups (s : List Char) : List (List Char) :=
  if s = [] then [] else s.take groupLength :: inGroups (s.drop groupLength)
termination_by s.length
decreasing_by
  have : 0 < s.length := List.length_pos_iff.2 ‹_›
  simp only [List.length_drop, groupLength]
  omega

@[simp] theorem inGroups_nil : inGroups [] = [] := by
  rw [inGroups, if_pos rfl]

theorem inGroups_of_ne_nil (h : s ≠ []) :
    inGroups s = s.take groupLength :: inGroups (s.drop groupLength) := by
  rw [inGroups, if_neg h]

@[simp] theorem inGroups_eq_nil : inGroups s = [] ↔ s = [] := by
  rw [inGroups]
  split <;> simp_all

/-- The groups together are the text. -/
theorem flatten_inGroups (s : List Char) : (inGroups s).flatten = s := by
  fun_induction inGroups s with
  | case1 => rfl
  | case2 s hs ih => rw [List.flatten_cons, ih, List.take_append_drop]

theorem subset_of_mem_inGroups {group : List Char} (h : group ∈ inGroups s) : group ⊆ s := by
  rw [← flatten_inGroups s]
  exact (List.sublist_flatten_of_mem h).subset

/-- As many groups as there are eighths of the text, begun ones included. -/
theorem length_inGroups (s : List Char) :
    (inGroups s).length = (s.length + (groupLength - 1)) / groupLength := by
  fun_induction inGroups s with
  | case1 => rfl
  | case2 s hs ih =>
    have hpos : 0 < s.length := List.length_pos_iff.2 hs
    rw [List.length_cons, ih, List.length_drop]
    unfold groupLength
    omega

/-- All groups but the last are full. -/
theorem length_of_mem_dropLast_inGroups :
    ∀ group ∈ (inGroups s).dropLast, group.length = groupLength := by
  fun_induction inGroups s with
  | case1 => simp
  | case2 s hs ih =>
    by_cases hrest : s.drop groupLength = []
    · simp [hrest]
    · have hlong : groupLength < s.length := by simpa using hrest
      rw [List.dropLast_cons_of_ne_nil (by simpa using hrest)]
      refine List.forall_mem_cons.2 ⟨?_, ih⟩
      rw [List.length_take]
      omega

/-- And the last one is not empty. -/
theorem length_of_mem_getLast?_inGroups :
    ∀ group ∈ (inGroups s).getLast?, 1 ≤ group.length ∧ group.length ≤ groupLength := by
  fun_induction inGroups s with
  | case1 => simp
  | case2 s hs ih =>
    have hpos : 0 < s.length := List.length_pos_iff.2 hs
    by_cases hrest : s.drop groupLength = []
    · rw [hrest, inGroups_nil]
      simp [groupLength]
      omega
    · rw [List.getLast?_cons_of_ne_nil (by simpa using hrest)]
      exact ih

/-- Where the length is a multiple of eight the last one is full as well. -/
theorem length_of_mem_inGroups (h : groupLength ∣ s.length) :
    ∀ group ∈ inGroups s, group.length = groupLength := by
  fun_induction inGroups s with
  | case1 => simp
  | case2 s hs ih =>
    have hpos : 0 < s.length := List.length_pos_iff.2 hs
    have hle : groupLength ≤ s.length := Nat.le_of_dvd hpos h
    refine List.forall_mem_cons.2 ⟨by simpa using hle, ih ?_⟩
    rw [List.length_drop]
    exact Nat.dvd_sub h (Nat.dvd_refl _)

/-! ## Hyphens -/

/-- **Hyphens stand between the groups.** -/
theorem groupEight_eq_intercalate (s : List Char) :
    groupEight s = ['-'].intercalate (inGroups s) := by
  fun_induction groupEight s with
  | case1 s hshort =>
    by_cases hs : s = []
    · rw [hs, inGroups_nil]
      rfl
    · rw [inGroups_of_ne_nil hs, List.drop_of_length_le hshort, List.take_of_length_le hshort,
        inGroups_nil, List.intercalate_singleton]
  | case2 s hlong ih =>
    have hrest : s.drop groupLength ≠ [] := by simpa using hlong
    have hs : s ≠ [] := by
      rintro rfl
      simp at hrest
    rw [ih, inGroups_of_ne_nil hs, inGroups_of_ne_nil hrest, List.intercalate_cons_cons]
    simp

/-- **The groups are found again at the hyphens.** -/
theorem splitOn_groupEight (h : '-' ∉ s) (hs : s ≠ []) :
    (groupEight s).splitOn '-' = inGroups s := by
  rw [groupEight_eq_intercalate]
  refine List.splitOn_intercalate '-' (fun group hgroup hmem => ?_) (by simpa using hs)
  exact h (subset_of_mem_inGroups hgroup hmem)

/-- Deleting the hyphens gives the text back. -/
theorem filter_groupEight (h : '-' ∉ s) : (groupEight s).filter (· ≠ '-') = s := by
  fun_induction groupEight s with
  | case1 s hshort => exact List.filter_eq_self.2 fun c hc => by simpa using ne_of_mem_of_not_mem hc h
  | case2 s hlong ih =>
    have hfirst : '-' ∉ s.take groupLength := fun hmem => h (List.mem_of_mem_take hmem)
    have hrest : '-' ∉ s.drop groupLength := fun hmem => h (List.mem_of_mem_drop hmem)
    rw [List.filter_append, List.filter_cons_of_neg (by simp), ih hrest,
      List.filter_eq_self.2 fun c hc => by simpa using ne_of_mem_of_not_mem hc hfirst,
      List.take_append_drop]

/-! ### Where they stand -/

/-- A character with its index, and a hyphen in front of it where a group begins. -/
def hyphenAt (p : Char × Nat) : List Char :=
  if 0 < p.2 ∧ p.2 % groupLength = 0 then ['-', p.1] else [p.1]

/-- No hyphen stands inside a group. -/
theorem flatMap_hyphenAt_inside {k : Nat} (hk : 0 < k % groupLength)
    (hlength : k % groupLength + s.length ≤ groupLength) :
    (s.zipIdx k).flatMap hyphenAt = s := by
  induction s generalizing k with
  | nil => rfl
  | cons c s ih =>
    have hinside : ¬ (0 < k ∧ k % groupLength = 0) := by omega
    rw [List.zipIdx_cons, List.flatMap_cons, hyphenAt, if_neg hinside, List.singleton_append]
    cases s with
    | nil => rfl
    | cons d s =>
      simp only [List.length_cons] at hlength
      unfold groupLength at *
      rw [ih (by omega) (by simp only [List.length_cons]; omega)]

/-- One stands in front of a group, if it is not the first. -/
theorem flatMap_hyphenAt_group {k : Nat} (hk : k % groupLength = 0) (hs : s ≠ [])
    (hlength : s.length ≤ groupLength) :
    (s.zipIdx k).flatMap hyphenAt = (if 0 < k then ['-'] else []) ++ s := by
  obtain ⟨c, s, rfl⟩ := List.exists_cons_of_ne_nil hs
  have hrest : (s.zipIdx (k + 1)).flatMap hyphenAt = s := by
    simp only [List.length_cons] at hlength
    unfold groupLength at *
    exact flatMap_hyphenAt_inside (by unfold groupLength; omega) (by unfold groupLength; omega)
  rw [List.zipIdx_cons, List.flatMap_cons, hrest, hyphenAt]
  by_cases hpos : 0 < k
  · simp [hpos, hk]
  · simp [hpos]

/-- **The index of a character decides** whether a hyphen stands in front of it. -/
theorem flatMap_hyphenAt {k : Nat} (hk : k % groupLength = 0) (hs : s ≠ []) :
    (s.zipIdx k).flatMap hyphenAt = (if 0 < k then ['-'] else []) ++ groupEight s := by
  -- a group at a time, with the index at which it begins a multiple of eight
  fun_induction groupEight s generalizing k with
  | case1 s hshort => exact flatMap_hyphenAt_group hk hs hshort
  | case2 s hlong ih =>
    have hrest : s.drop groupLength ≠ [] := by simpa using hlong
    have hfirst : s.take groupLength ≠ [] := by simpa [groupLength] using hs
    have hlength : (s.take groupLength).length = groupLength := by
      rw [List.length_take]
      omega
    have hnext : (k + groupLength) % groupLength = 0 := by rw [Nat.add_mod_right, hk]
    have hpos : 0 < k + groupLength := by unfold groupLength; omega
    conv => lhs; rw [← List.take_append_drop groupLength s]
    rw [List.zipIdx_append, List.flatMap_append, hlength,
      flatMap_hyphenAt_group hk hfirst hlength.le, ih hnext hrest, if_pos hpos]
    simp

/-! ### Where none stand -/

theorem groupEight_eq_nil : groupEight s = [] ↔ s = [] := by
  constructor
  · intro h
    have hlength := length_groupEight s
    rw [h, List.length_nil] at hlength
    exact List.eq_nil_of_length_eq_zero (Nat.add_eq_zero_iff.1 hlength.symm).1
  · rintro rfl
    rw [groupEight]
    rfl

theorem head?_groupEight (s : List Char) : (groupEight s).head? = s.head? := by
  fun_cases groupEight s with
  | case1 hshort => rfl
  | case2 hlong =>
    obtain ⟨c, s, rfl⟩ := List.exists_cons_of_length_pos (Nat.zero_lt_of_lt (Nat.not_le.1 hlong))
    rfl

theorem getLast?_groupEight (s : List Char) : (groupEight s).getLast? = s.getLast? := by
  fun_induction groupEight s with
  | case1 s hshort => rfl
  | case2 s hlong ih =>
    have hrest : groupEight (s.drop groupLength) ≠ [] := by
      rw [ne_eq, groupEight_eq_nil]
      simpa using hlong
    rw [List.getLast?_append_of_ne_nil _ (List.cons_ne_nil _ _), List.getLast?_cons_of_ne_nil hrest,
      ih, List.getLast?_drop, if_neg hlong]

/-- Hyphens do not follow each other. -/
theorem isChain_groupEight (h : '-' ∉ s) :
    (groupEight s).IsChain fun a b => a ≠ '-' ∨ b ≠ '-' := by
  have hplain {t : List Char} (ht : '-' ∉ t) : t.IsChain fun a b => a ≠ '-' ∨ b ≠ '-' :=
    (List.pairwise_of_forall_mem_list fun a ha _ _ => .inl (ne_of_mem_of_not_mem ha ht)).isChain
  fun_induction groupEight s with
  | case1 s hshort => exact hplain h
  | case2 s hlong ih =>
    have hfirst : '-' ∉ s.take groupLength := fun hmem => h (List.mem_of_mem_take hmem)
    have hrest : '-' ∉ s.drop groupLength := fun hmem => h (List.mem_of_mem_drop hmem)
    -- where two parts meet, what stands beside the hyphen is of the text
    refine List.isChain_append.2 ⟨hplain hfirst, List.isChain_cons.2 ⟨fun c hc => ?_, ih hrest⟩,
      fun c hc _ _ => .inl ?_⟩
    · rw [head?_groupEight] at hc
      exact .inr (ne_of_mem_of_not_mem (List.mem_of_mem_head? hc) hrest)
    · exact ne_of_mem_of_not_mem (List.mem_of_mem_getLast? hc) hfirst

/-! ## Texts in groups -/

/-- The pieces of a text between its hyphens; the empty text has none. -/
def hyphenPieces (t : List Char) : List (List Char) := if t = [] then [] else t.splitOn '-'

theorem hyphenPieces_groupEight (h : '-' ∉ s) : hyphenPieces (groupEight s) = inGroups s := by
  simp only [hyphenPieces, groupEight_eq_nil]
  split
  · next hs => rw [hs, inGroups_nil]
  · next hs => exact splitOn_groupEight h hs

/-- **The text `t` is `s` in groups of eight**: it is `s` but for the hyphens, which stand where the
index says and neither at the ends nor side by side; all pieces but the last have eight characters,
and that has some. -/
structure IsGrouped (s t : List Char) : Prop where
  eq_flatMap : t = s.zipIdx.flatMap hyphenAt
  filter_ne : t.filter (· ≠ '-') = s
  head? : t.head? ≠ some '-'
  getLast? : t.getLast? ≠ some '-'
  not_doubled : ¬ ['-', '-'] <:+: t
  initial : ∀ piece ∈ (hyphenPieces t).dropLast, piece.length = groupLength
  last : ∀ piece ∈ (hyphenPieces t).getLast?, 1 ≤ piece.length ∧ piece.length ≤ groupLength
  pieces_eq_nil : hyphenPieces t = [] ↔ s = []

/-- **Grouping groups**, and loses nothing. -/
theorem isGrouped_groupEight (h : '-' ∉ s) : IsGrouped s (groupEight s) where
  eq_flatMap := by
    by_cases hs : s = []
    · rw [hs, groupEight_eq_nil.2 rfl]
      rfl
    · exact (flatMap_hyphenAt (k := 0) rfl hs).symm
  filter_ne := filter_groupEight h
  head? := by
    rw [head?_groupEight]
    exact fun hhead => h (List.mem_of_mem_head? hhead)
  getLast? := by
    rw [getLast?_groupEight]
    exact fun hlast => h (List.mem_of_mem_getLast? hlast)
  not_doubled hdoubled := by
    -- of two neighbours one is no hyphen
    obtain ⟨front, rest, hdoubled⟩ := hdoubled
    have hchain := isChain_groupEight h
    rw [← hdoubled] at hchain
    have hpair := hchain.left_of_append.right_of_append
    simp at hpair
  initial := by
    rw [hyphenPieces_groupEight h]
    exact length_of_mem_dropLast_inGroups
  last := by
    rw [hyphenPieces_groupEight h]
    exact length_of_mem_getLast?_inGroups
  pieces_eq_nil := by rw [hyphenPieces_groupEight h, inGroups_eq_nil]

/-- Texts are determined by their groups. -/
theorem groupEight_inj (hs : '-' ∉ s) (ht : '-' ∉ t) : groupEight s = groupEight t ↔ s = t := by
  refine ⟨fun h => ?_, congrArg _⟩
  rw [← filter_groupEight hs, h, filter_groupEight ht]

/-! ## Fingerprints -/

/-- The digits of a fingerprint. -/
def IsUpperHexDigit (c : Char) : Prop := '0' ≤ c ∧ c ≤ '9' ∨ 'A' ≤ c ∧ c ≤ 'F'

/-- **The form of a fingerprint**: five groups of eight digits. -/
structure IsFingerprint (t : String) : Prop where
  length : t.length = 44
  five : (t.toList.splitOn '-').length = 5
  group : ∀ piece ∈ t.toList.splitOn '-', piece.length = groupLength ∧
    ∀ c ∈ piece, IsUpperHexDigit c

/-- The digits of a digest. -/
def digestDigits (signature : Octets) : List Char :=
  Hex.encodeWith Hex.upperDigit (Crypto.sha1 signature)

section Digest

variable (signature : Octets)

theorem fingerprint_eq : fingerprint signature = String.ofList (groupEight (digestDigits signature)) :=
  rfl

theorem length_digestDigits : (digestDigits signature).length = 40 := by
  rw [digestDigits, Hex.length_encodeWith, Crypto.length_sha1]

theorem isUpperHexDigit_of_mem_digestDigits :
    ∀ c ∈ digestDigits signature, IsUpperHexDigit c := by
  refine Hex.forall_mem_encodeWith (fun n hn => ?_) _
  revert n
  unfold IsUpperHexDigit
  decide

theorem hyphen_notMem_digestDigits : '-' ∉ digestDigits signature :=
  Hex.notMem_encodeWith (by decide) _

theorem isFingerprint_fingerprint : IsFingerprint (fingerprint signature) := by
  have hne : digestDigits signature ≠ [] := by
    rw [ne_eq, ← List.length_eq_zero_iff, length_digestDigits]
    decide
  have hpieces : (fingerprint signature).toList.splitOn '-' = inGroups (digestDigits signature) := by
    rw [fingerprint_eq, String.toList_ofList]
    exact splitOn_groupEight (hyphen_notMem_digestDigits signature) hne
  constructor
  · rw [fingerprint_eq, String.length_ofList, length_groupEight, length_digestDigits]
    rfl
  · rw [hpieces, length_inGroups, length_digestDigits]
    rfl
  · intro piece hpiece
    rw [hpieces] at hpiece
    refine ⟨length_of_mem_inGroups ?_ piece hpiece, fun c hc => ?_⟩
    · rw [length_digestDigits]
      decide
    · exact isUpperHexDigit_of_mem_digestDigits signature c (subset_of_mem_inGroups hpiece hc)

end Digest

theorem fingerprint_inj {a b : Octets} :
    fingerprint a = fingerprint b ↔ Crypto.sha1 a = Crypto.sha1 b := by
  rw [fingerprint_eq, fingerprint_eq, String.ofList_inj,
    groupEight_inj (hyphen_notMem_digestDigits a) (hyphen_notMem_digestDigits b)]
  exact Hex.encodeWith_inj fun _ => Hex.digit?_upperDigit

/-- **Fingerprints are well shaped and lossless.** Every text without hyphens is grouped, and can be
had back; so fingerprints are five groups of eight digits, and two of them are the same if and only
if the digests are. -/
theorem grouping_lossless :
    (∀ s : List Char, '-' ∉ s → IsGrouped s (groupEight s)) ∧
    (∀ signature, (Crypto.sha1 signature).length = 20 ∧ IsFingerprint (fingerprint signature)) ∧
    ∀ a b, fingerprint a = fingerprint b ↔ Crypto.sha1 a = Crypto.sha1 b :=
  ⟨fun _ => isGrouped_groupEight,
    fun signature => ⟨Crypto.length_sha1 signature, isFingerprint_fingerprint signature⟩,
    fun _ _ => fingerprint_inj⟩

/-- Nine characters that take more octets. -/
theorem grouping_lossless_wide :
    let s := ['Ž', 'l', 'u', 'ť', 'o', 'u', 'č', 'k', 'ý']
    '-' ∉ s ∧ groupEight s = ['Ž', 'l', 'u', 'ť', 'o', 'u', 'č', 'k', '-', 'ý'] ∧
      IsGrouped s (groupEight s) := by
  intro s
  have hs : '-' ∉ s := by decide
  have hgrouped := grouping_lossless.1 s hs
  refine ⟨hs, ?_, hgrouped⟩
  rw [hgrouped.eq_flatMap]
  decide

end FiscalGateway

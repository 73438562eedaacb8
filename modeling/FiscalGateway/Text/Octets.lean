/-!
# Octets

Raw data as a list of octets, and its reading as text. `toText?_ofText` says that a text survives
the passage through octets.
-/

namespace FiscalGateway

/-- Raw data, one entry for each octet. -/
abbrev Octets := List UInt8

namespace Octets

/-- The octets that encode a text. -/
def ofText (s : String) : Octets := s.toByteArray.data.toList

/-- The text that the octets encode, if they are well formed. -/
def toText? (b : Octets) : Option String := String.fromUTF8? ⟨b.toArray⟩

theorem toText?_ofText (s : String) : toText? (ofText s) = some s := by
  have h : (⟨(ofText s).toArray⟩ : ByteArray) = s.toByteArray := by simp [ofText]
  have v : s.toByteArray.IsValidUTF8 := s.isValidUTF8
  simp only [toText?, h, String.fromUTF8?, v, dite_true]
  rfl

theorem ofText_of_toText? {b : Octets} {s : String} (h : toText? b = some s) : ofText s = b := by
  unfold toText? String.fromUTF8? at h
  split at h
  · injection h with h
    subst h
    simp [ofText, String.fromUTF8]
  · contradiction

/-- The number whose digits to the base 256 are the octets, the first one the most significant. -/
def toNat (b : Octets) : Nat := b.foldl (fun n o => n * 256 + o.toNat) 0

/-- The lowest `width` digits of a number to the base 256, the most significant first. -/
def ofNat : (width : Nat) → Nat → Octets
  | 0, _ => []
  | width + 1, n => ofNat width (n / 256) ++ [UInt8.ofNat (n % 256)]

@[simp] theorem length_ofNat (width n : Nat) : (ofNat width n).length = width := by
  induction width generalizing n with
  | zero => rfl
  | succ width ih => simp [ofNat, ih]

/-- The shortest run of octets for a number; none at all for zero. -/
def ofNatMinimal (n : Nat) : Octets := ofNat ((Nat.log2 n + 8) / 8 - (if n = 0 then 1 else 0)) n

/-- One character for each octet. -/
def toChars (b : Octets) : List Char := b.map fun o => Char.ofNat o.toNat

/-- One octet for each character; characters above 255 lose their upper bits. -/
def ofChars (s : List Char) : Octets := s.map fun c => UInt8.ofNat c.toNat

theorem toChars_ofChars {s : List Char} (h : ∀ c ∈ s, c.toNat < 256) : toChars (ofChars s) = s := by
  induction s with
  | nil => rfl
  | cons c s ih =>
    have hc : c.toNat % 256 = c.toNat := Nat.mod_eq_of_lt (h c (by simp))
    have hs := ih fun d hd => h d (by simp [hd])
    simp only [toChars, ofChars, List.map_map, List.map_cons] at hs ⊢
    rw [hs]
    simp [hc]

/-- Octet by octet exclusive or, as long as the shorter of the two. -/
def xor (a b : Octets) : Octets := List.zipWith (· ^^^ ·) a b

end Octets
end FiscalGateway

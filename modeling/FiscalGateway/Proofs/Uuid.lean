import FiscalGateway.Proofs.Text.Hex
import FiscalGateway.Proofs.Text.Split
import FiscalGateway.Uuid

/-!
# Identifiers — what is written is read

The hyphens cut the written text into the groups that it was made of (`Uuid.splitEach_write`), and
the digits of these are read as the octets; so an identifier survives its text (`Uuid.read?_write`).
-/

namespace FiscalGateway

namespace Uuid

variable (u : Uuid)

/-- The digits of the hyphenated form, group by group. -/
def groups : List (List Char) :=
  let digits := Text.Hex.encodeWith Text.Hex.lowerDigit u.octets
  [digits.take 8, (digits.drop 8).take 4, (digits.drop 12).take 4, (digits.drop 16).take 4,
    digits.drop 20]

theorem write_eq_intercalate : u.write = ['-'].intercalate u.groups := by
  simp [write, groups, List.intercalate, List.intersperse]

/-- The hyphens cut the text into its groups. -/
theorem splitEach_write : Text.splitEach (· == '-') u.write = u.groups := by
  rw [Text.splitEach_eq_splitOnP, write_eq_intercalate]
  have hhyphen : '-' ∉ Text.Hex.encodeWith Text.Hex.lowerDigit u.octets :=
    Text.Hex.notMem_encodeWith (by decide) _
  refine List.splitOn_intercalate '-' (fun group hgroup hmem => hhyphen ?_) (by simp [groups])
  simp only [groups, List.mem_cons, List.not_mem_nil, or_false] at hgroup
  rcases hgroup with rfl | rfl | rfl | rfl | rfl
  · exact List.mem_of_mem_take hmem
  · exact List.mem_of_mem_drop (List.mem_of_mem_take hmem)
  · exact List.mem_of_mem_drop (List.mem_of_mem_take hmem)
  · exact List.mem_of_mem_drop (List.mem_of_mem_take hmem)
  · exact List.mem_of_mem_drop hmem

/-- The groups together are all the digits. -/
theorem flatten_groups :
    u.groups.flatten = Text.Hex.encodeWith Text.Hex.lowerDigit u.octets := by
  generalize hd : Text.Hex.encodeWith Text.Hex.lowerDigit u.octets = digits
  have h₁ := List.take_append_drop 8 digits
  have h₂ := List.take_append_drop 4 (digits.drop 8)
  have h₃ := List.take_append_drop 4 (digits.drop 12)
  have h₄ := List.take_append_drop 4 (digits.drop 16)
  simp only [List.drop_drop] at h₂ h₃ h₄
  simp only [groups, hd, List.flatten_cons, List.flatten_nil, List.append_nil]
  rw [h₄, h₃, h₂, h₁]

theorem ofDigits?_encodeWith :
    ofDigits? (Text.Hex.encodeWith Text.Hex.lowerDigit u.octets) = some u := by
  have hread := Text.Hex.decode_encodeWith (fun _ => Text.Hex.digit?_lowerDigit) u.octets
  simp [ofDigits?, hread, u.length_octets]

/-- **What is written is read.** -/
@[simp] theorem read?_write : read? u.write = some u := by
  have hlen : (Text.Hex.encodeWith Text.Hex.lowerDigit u.octets).length = 32 := by
    simp [u.length_octets]
  have hwrite : u.write.length = 36 := by simp [write, hlen]
  have hflat := u.flatten_groups
  simp only [groups, List.flatten_cons, List.flatten_nil, List.append_nil, ← List.append_assoc]
    at hflat
  have hsplit := u.splitEach_write
  simp only [groups] at hsplit
  rw [read?, if_neg (by omega), if_neg (by omega), if_neg (by omega), ofHyphenated?, hsplit]
  simp only
  rw [if_pos (by simp [hlen]), hflat]
  exact u.ofDigits?_encodeWith

end Uuid
end FiscalGateway

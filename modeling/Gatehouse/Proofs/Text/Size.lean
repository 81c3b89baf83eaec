import Gatehouse.Proofs.Text.Blank
import Mathlib.Data.String.Basic

/-! How many octets a text has against how many characters.  A character takes one to four octets,
and it takes one exactly if it is an ASCII character, so the two numbers agree for ASCII texts and
for no others.  Trimming makes no text larger. -/

namespace Gatehouse.Text

theorem utf8Size_eq_one_iff {c : Char} : c.utf8Size = 1 ↔ c.toNat < 128 := by
  rw [Char.utf8Size_eq_one_iff, UInt32.le_iff_toNat_le]
  exact Nat.lt_succ_iff.symm

theorem length_le_utf8Len (cs : List Char) : cs.length ≤ String.utf8Len cs := by
  induction cs with
  | nil => exact Nat.le_refl 0
  | cons c cs ih =>
    have hSize := c.utf8Size_pos
    rw [List.length_cons, String.utf8Len_cons]
    omega

theorem length_le_utf8ByteSize (s : String) : s.length ≤ s.utf8ByteSize := by
  rw [← String.length_toList, ← String.utf8Len_toList]
  exact length_le_utf8Len s.toList

theorem utf8ByteSize_le (s : String) : s.utf8ByteSize ≤ 4 * s.length := by
  rw [← String.length_toList, ← String.utf8Len_toList]
  induction s.toList with
  | nil => exact Nat.le_refl 0
  | cons c cs ih =>
    have hSize := c.utf8Size_le_four
    rw [List.length_cons, String.utf8Len_cons]
    omega

theorem utf8ByteSize_eq_length_iff {s : String} :
    s.utf8ByteSize = s.length ↔ ∀ c ∈ s.toList, c.toNat < 128 := by
  rw [← String.length_toList, ← String.utf8Len_toList]
  induction s.toList with
  | nil => simp
  | cons c cs ih =>
    have hSize := c.utf8Size_pos
    have hRest := length_le_utf8Len cs
    rw [List.length_cons, String.utf8Len_cons, List.forall_mem_cons, ← ih, ← utf8Size_eq_one_iff]
    omega

theorem utf8ByteSize_replicate (n : Nat) (c : Char) :
    (String.ofList (List.replicate n c)).utf8ByteSize = n * c.utf8Size := by
  rw [String.utf8ByteSize_ofList]
  induction n with
  | zero => rw [Nat.zero_mul]; rfl
  | succ n ih => rw [List.replicate_succ, String.utf8Len_cons, ih, Nat.succ_mul]

theorem utf8ByteSize_trim_le (s : String) : (trim s).utf8ByteSize ≤ s.utf8ByteSize := by
  rw [trim, String.utf8ByteSize_ofList, ← String.utf8Len_toList]
  exact String.utf8Len_le_of_infix (trimChars_isInfix s.toList)

end Gatehouse.Text

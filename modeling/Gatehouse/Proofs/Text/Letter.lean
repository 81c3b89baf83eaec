import Gatehouse.Text.Ascii
import Gatehouse.Text.Blank
import Gatehouse.Text.Word
import Mathlib

/-! ASCII letters and their case.  All letters are part of words and none is blank, and characters
with the same lower case are equal unless both are letters. -/

namespace Gatehouse.Text

variable {c d : Char}

theorem bounds_of_isAlpha (h : c.isAlpha = true) :
    65 ≤ c.toNat ∧ c.toNat ≤ 90 ∨ 97 ≤ c.toNat ∧ c.toNat ≤ 122 := by
  simpa [Char.isAlpha, Char.isUpper, Char.isLower, UInt32.le_iff_toNat_le] using h

theorem isWord_of_isAlpha (h : c.isAlpha = true) : isWord c = true := by
  have hBounds := bounds_of_isAlpha h
  have hAscii : c.toNat < 128 := by omega
  rw [isWord, if_pos hAscii, isAsciiWord, Char.isAlphanum, h]
  rfl

theorem isBlank_of_isAlpha (h : c.isAlpha = true) : isBlank c = false := by
  have hBounds := bounds_of_isAlpha h
  rw [← Bool.not_eq_true, isBlank]
  simp only [Bool.or_eq_true, Bool.and_eq_true, decide_eq_true_eq, beq_iff_eq]
  omega

theorem toLower_of_not_isAlpha (h : c.isAlpha = false) : c.toLower = c :=
  Char.toLower_eq_of_not_isUpper (Bool.eq_false_iff.mp (Bool.or_eq_false_iff.mp h).1)

theorem eq_or_isAlpha_of_toLower_eq (h : c.toLower = d.toLower) :
    c = d ∨ c.isAlpha = true ∧ d.isAlpha = true := by
  have hSame : d.isAlpha = c.isAlpha := by
    rw [← d.isAlpha_toLower_eq_isAlpha, ← h, c.isAlpha_toLower_eq_isAlpha]
  cases hAlpha : c.isAlpha with
  | true => exact .inr ⟨rfl, hSame.trans hAlpha⟩
  | false =>
    rw [toLower_of_not_isAlpha hAlpha, toLower_of_not_isAlpha (hSame.trans hAlpha)] at h
    exact .inl h

theorem forall₂_toLower_iff {s t : List Char} :
    List.Forall₂ (fun c d => c.toLower = d.toLower) s t ↔
      s.map Char.toLower = t.map Char.toLower := by
  rw [← List.forall₂_eq_eq_eq, List.forall₂_map_left_iff, List.forall₂_map_right_iff]

/-- The texts differ at most in the case of ASCII letters: they have equally many characters, and
where two of these are not the same they are one letter in its two cases. -/
def SameLetters (s t : String) : Prop :=
  List.Forall₂ (fun c d => c = d ∨ c.isAlpha = true ∧ d.isAlpha = true ∧ c.toLower = d.toLower)
    s.toList t.toList

theorem sameUpToCase_iff_sameLetters {s t : String} :
    sameUpToCase s t = true ↔ SameLetters s t := by
  have hLetter : ∀ c d : Char, c.toLower = d.toLower ↔
      c = d ∨ c.isAlpha = true ∧ d.isAlpha = true ∧ c.toLower = d.toLower := by
    intro c d
    constructor
    · exact fun h => (eq_or_isAlpha_of_toLower_eq h).imp_right fun ⟨hc, hd⟩ => ⟨hc, hd, h⟩
    · rintro (rfl | ⟨-, -, h⟩)
      · rfl
      · exact h
  rw [sameUpToCase_iff, asciiLower, asciiLower, String.ofList_inj, ← forall₂_toLower_iff,
    SameLetters]
  simp only [← hLetter]

theorem sameLetters_iff {s t : String} : SameLetters s t ↔ asciiLower s = asciiLower t := by
  rw [← sameUpToCase_iff_sameLetters, sameUpToCase_iff]

theorem SameLetters.refl (s : String) : SameLetters s s := sameLetters_iff.mpr rfl

theorem SameLetters.symm {s t : String} (h : SameLetters s t) : SameLetters t s :=
  sameLetters_iff.mpr (sameLetters_iff.mp h).symm

theorem asciiLower_eq_empty_iff {s : String} : asciiLower s = "" ↔ s = "" := by
  rw [asciiLower, String.ofList_eq_empty_iff, List.map_eq_nil_iff, String.toList_eq_nil_iff]

end Gatehouse.Text

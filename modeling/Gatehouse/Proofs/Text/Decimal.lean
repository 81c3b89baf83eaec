import Gatehouse.Text.Decimal

/-! Natural numbers in decimal digits.  The digits of a number are read as the number, so different
numbers have different digits; with zeros in front a number has other spellings as well. -/

namespace Gatehouse.Text.Decimal

theorem isDigit_bounds {c : Char} (h : isDigit c = true) : 48 ≤ c.toNat ∧ c.toNat ≤ 57 := by
  simpa [isDigit, Char.le_def, UInt32.le_iff_toNat_le] using h

/-- The text spells the number in decimal digits, with any number of zeros in front. -/
structure Spells (text : String) (n : Nat) : Prop where
  nonempty : text ≠ ""
  digits : ∀ c ∈ text.toList, isDigit c = true
  value : valueOf text.toList = n

theorem digits?_of_spells {text : String} {n : Nat} (h : Spells text n) :
    digits? text.toList = some n := by
  have hNonempty : text.toList.isEmpty = false := by simpa using h.nonempty
  have hAll : text.toList.all isDigit = true := List.all_eq_true.mpr h.digits
  rw [digits?, hNonempty, hAll, h.value]
  rfl

theorem digits?_eq_some_iff {cs : List Char} {n : Nat} :
    digits? cs = some n ↔ Spells (String.ofList cs) n := by
  constructor
  · intro h
    rw [digits?] at h
    split at h
    · cases h
    · rename_i hNonempty
      split at h
      · rename_i hAll
        refine ⟨fun hEmpty => hNonempty ?_, ?_, ?_⟩
        · rw [String.ofList_eq_empty_iff.mp hEmpty]
          rfl
        · rw [String.toList_ofList]
          exact List.all_eq_true.mp hAll
        · rw [String.toList_ofList]
          exact Option.some.inj h
      · cases h
  · intro h
    have hDigits := digits?_of_spells h
    rwa [String.toList_ofList] at hDigits

/-- The text writes the number in decimal digits, with a plus sign in front or without one. -/
def Writes (text : String) (n : Nat) : Prop :=
  ∃ digits, Spells digits n ∧ (text = digits ∨ text = "+" ++ digits)

theorem natural?_eq_some_iff {text : String} {n : Nat} :
    natural? text.toList = some n ↔ Writes text n := by
  constructor
  · intro h
    rw [natural?.eq_def] at h
    split at h
    · rename_i cs hText
      refine ⟨String.ofList cs, digits?_eq_some_iff.mp h, .inr ?_⟩
      rw [← String.toList_inj]
      simp [hText]
    · refine ⟨text, ?_, .inl rfl⟩
      have hSpells := digits?_eq_some_iff.mp h
      rwa [String.ofList_toList] at hSpells
  · rintro ⟨digits, hSpells, rfl | rfl⟩
    · -- Digits do not begin with a plus sign.
      have hDigits := digits?_of_spells hSpells
      rw [natural?.eq_def]
      split
      · rename_i cs hText
        have hPlus : isDigit '+' = true := hSpells.digits _ (hText ▸ List.mem_cons_self)
        cases hPlus
      · exact hDigits
    · rw [String.toList_append]
      exact digits?_of_spells hSpells

theorem naturalBelow?_eq_some_iff {bound n : Nat} {text : String} :
    naturalBelow? bound text = some n ↔ Writes text n ∧ n < bound := by
  rw [naturalBelow?, Option.filter_eq_some_iff, natural?_eq_some_iff, decide_eq_true_eq]

theorem isDigit_of_mem_toDigits {n : Nat} {c : Char} (h : c ∈ Nat.toDigits 10 n) :
    isDigit c = true := by
  have hDigit : c.isDigit = true := Nat.isDigit_of_mem_toDigits (by decide) (by decide) h
  simpa [isDigit, Char.isDigit, Char.le_def, UInt32.le_iff_toNat_le] using hDigit

theorem digits?_toDigits (n : Nat) : digits? (Nat.toDigits 10 n) = some n := by
  have hNonempty : (Nat.toDigits 10 n).isEmpty = false := by
    simp [Nat.toDigits_ne_nil]
  have hAll : (Nat.toDigits 10 n).all isDigit = true :=
    List.all_eq_true.mpr fun c hc => isDigit_of_mem_toDigits hc
  have hValue : valueOf (Nat.toDigits 10 n) = n := Nat.ofDigitChars_ten_toDigits
  rw [digits?, hNonempty, hAll, hValue]
  rfl

theorem digits?_toString (n : Nat) : digits? (toString n).toList = some n := by
  rw [Nat.toString_eq_ofList_toDigits, String.toList_ofList]
  exact digits?_toDigits n

theorem spells_toString (n : Nat) : Spells (toString n) n := by
  have hSpells := digits?_eq_some_iff.mp (digits?_toString n)
  rwa [String.ofList_toList] at hSpells

theorem toString_injective {m n : Nat} (h : toString m = toString n) : m = n := by
  have hBoth : some m = some n := by rw [← digits?_toString, h, digits?_toString]
  exact Option.some.inj hBoth

end Gatehouse.Text.Decimal

import Gatehouse.Json.Basic
import Gatehouse.Proofs.Json.Spelling

/-! What is written between quotes is a spelling of the text, so it is one token and reads back. -/

namespace Gatehouse.Json

open Text Token

/-- The octets of a character between quotes. -/
def escapedChar (c : Char) : List UInt8 := (escape c).flatMap String.utf8EncodeChar

/-- The octets of a text between quotes. -/
def escaped (s : String) : List UInt8 := s.toList.flatMap escapedChar

theorem encode_quote (s : String) : Utf8.encode (quote s) = 0x22 :: (escaped s ++ [0x22]) := by
  simp only [Utf8.encode, quote, escaped, String.toList_ofList, List.flatMap_append,
    List.flatMap_cons, List.flatMap_assoc]
  rfl

theorem escape_of_plain {c : Char} (hControl : ¬c.toNat < 32) (hQuote : c ≠ '"')
    (hBackslash : c ≠ '\\') : escape c = [c] := by
  unfold escape
  split
  · exact absurd rfl hQuote
  · exact absurd rfl hBackslash
  · exact absurd (by decide) hControl
  · exact absurd (by decide) hControl
  · exact absurd (by decide) hControl
  · exact absurd (by decide) hControl
  · exact absurd (by decide) hControl
  · rw [if_neg hControl]

theorem isPlain_of_mem {c : Char} {b : UInt8} (hControl : ¬c.toNat < 32) (hQuote : c ≠ '"')
    (hBackslash : c ≠ '\\') (hb : b ∈ String.utf8EncodeChar c) : IsPlain b := by
  have hBounds : b.toNat ≠ 0x22 ∧ b.toNat ≠ 0x5C ∧ 0x20 ≤ b.toNat := by
    by_cases hAscii : c.toNat < 0x80
    · rw [Utf8.encodeChar_of_lt hAscii, List.mem_singleton] at hb
      have hByte : b.toNat = c.toNat := by
        rw [hb]
        exact UInt8.toNat_ofNat_of_lt' (hAscii.trans (by decide))
      have hNotQuote : c.toNat ≠ 0x22 := fun h => hQuote (Char.toNat_inj.mp h)
      have hNotBackslash : c.toNat ≠ 0x5C := fun h => hBackslash (Char.toNat_inj.mp h)
      omega
    · have hHigh := Utf8.le_of_mem_encodeChar (Nat.le_of_not_lt hAscii) hb
      omega
  obtain ⟨hNotQuote, hNotBackslash, hHigh⟩ := hBounds
  refine ⟨fun h => hNotQuote ?_, fun h => hNotBackslash ?_, fun h => ?_⟩
  · rw [h]
    rfl
  · rw [h]
    rfl
  · exact absurd (UInt8.lt_iff_toNat_lt.mp h) (Nat.not_lt_of_le hHigh)

variable {raw value : List UInt8}

theorem Spelling.plain_append {bytes : List UInt8} (h : ∀ b ∈ bytes, IsPlain b)
    (rest : Spelling raw value) : Spelling (bytes ++ raw) (bytes ++ value) := by
  induction bytes with
  | nil => exact rest
  | cons b bytes ih =>
    obtain ⟨hFirst, hOthers⟩ := List.forall_mem_cons.mp h
    exact .plain hFirst (ih hOthers)

theorem spelling_control {n : Nat} (h : n < 32) (rest : Spelling raw value) :
    Spelling (escapedChar (Char.ofNat n) ++ raw)
      (String.utf8EncodeChar (Char.ofNat n) ++ value) := by
  interval_cases n <;>
    first
    | exact .short (by decide) rest
    | exact .unicode rfl (by decide) rest

/-- A character between quotes is a spelling of itself. -/
theorem spelling_escapedChar (c : Char) (rest : Spelling raw value) :
    Spelling (escapedChar c ++ raw) (String.utf8EncodeChar c ++ value) := by
  by_cases hControl : c.toNat < 32
  · rw [← Char.ofNat_toNat c]
    exact spelling_control hControl rest
  by_cases hQuote : c = '"'
  · subst hQuote
    exact .short (by decide) rest
  by_cases hBackslash : c = '\\'
  · subst hBackslash
    exact .short (by decide) rest
  have hPlain : ∀ b ∈ String.utf8EncodeChar c, IsPlain b :=
    fun b => isPlain_of_mem hControl hQuote hBackslash
  have hEscaped : escapedChar c = String.utf8EncodeChar c := by
    rw [escapedChar, escape_of_plain hControl hQuote hBackslash, List.flatMap_singleton]
  rw [hEscaped]
  exact rest.plain_append hPlain

theorem spelling_escaped (cs : List Char) :
    Spelling (cs.flatMap escapedChar) (cs.flatMap String.utf8EncodeChar) := by
  induction cs with
  | nil => exact .nil
  | cons c cs ih => exact spelling_escapedChar c ih

theorem quoted_quote (s : String) : Quoted s (Utf8.encode (quote s)) :=
  ⟨escaped s, spelling_escaped s.toList, encode_quote s⟩

end Gatehouse.Json

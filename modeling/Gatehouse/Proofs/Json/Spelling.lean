import Gatehouse.Json.Token
import Gatehouse.Proofs.Text.Utf8

/-! The ways to spell a text between quotes.  An octet may stand for itself, a backslash and a
letter for an octet, and four hexadecimal digits for a character; a character beyond them takes two
halves of four digits each.  The reader takes exactly these spellings. -/

namespace Gatehouse.Json

open Text Token

/-- An octet that stands for itself between quotes. -/
structure IsPlain (b : UInt8) : Prop where
  ne_quote : b ≠ 0x22
  ne_backslash : b ≠ 0x5C
  not_control : ¬b < 0x20

/-- The letters after a backslash, each with what it stands for. -/
def shortEscapes : List (UInt8 × UInt8) :=
  [(0x22, 0x22), (0x5C, 0x5C), (0x2F, 0x2F), (0x62, 0x08), (0x66, 0x0C), (0x6E, 0x0A), (0x72, 0x0D),
    (0x74, 0x09)]

/-- Octets between quotes, with the octets that they stand for. -/
inductive Spelling : List UInt8 → List UInt8 → Prop
  | nil : Spelling [] []
  | plain {b : UInt8} {raw value : List UInt8} (hPlain : IsPlain b) (rest : Spelling raw value) :
      Spelling (b :: raw) (b :: value)
  | short {e b : UInt8} {raw value : List UInt8} (hEscape : (e, b) ∈ shortEscapes)
      (rest : Spelling raw value) : Spelling (0x5C :: e :: raw) (b :: value)
  | unicode {a b c d : UInt8} {n : Nat} {raw value : List UInt8} (hDigits : hex4? a b c d = some n)
      (hScalar : n < 0xD800 ∨ 0xE000 ≤ n) (rest : Spelling raw value) :
      Spelling (0x5C :: 0x75 :: a :: b :: c :: d :: raw)
        (String.utf8EncodeChar (Char.ofNat n) ++ value)
  | pair {a b c d a' b' c' d' : UInt8} {high low : Nat} {raw value : List UInt8}
      (hHigh : hex4? a b c d = some high) (hIsHigh : 0xD800 ≤ high ∧ high < 0xDC00)
      (hLow : hex4? a' b' c' d' = some low) (hIsLow : 0xDC00 ≤ low ∧ low < 0xE000)
      (rest : Spelling raw value) :
      Spelling (0x5C :: 0x75 :: a :: b :: c :: d :: 0x5C :: 0x75 :: a' :: b' :: c' :: d' :: raw)
        (String.utf8EncodeChar (Char.ofNat (pairValue high low)) ++ value)

/-- Octets between quotes up to the values of their escapes. -/
inductive Scanned : List UInt8 → Prop
  | nil : Scanned []
  | plain {b : UInt8} {raw : List UInt8} (hPlain : IsPlain b) (rest : Scanned raw) :
      Scanned (b :: raw)
  | short {e : UInt8} {raw : List UInt8} (hEscape : (simpleEscape? e).isSome) (rest : Scanned raw) :
      Scanned (0x5C :: e :: raw)
  | unicode {a b c d : UInt8} {raw : List UInt8} (hDigits : (hex4? a b c d).isSome)
      (rest : Scanned raw) : Scanned (0x5C :: 0x75 :: a :: b :: c :: d :: raw)

theorem simpleEscape?_eq_some_iff {e b : UInt8} :
    simpleEscape? e = some b ↔ (e, b) ∈ shortEscapes := by
  constructor
  · intro h
    unfold simpleEscape? at h
    split at h
    · rename_i hSelf
      cases h
      simp only [Bool.or_eq_true, beq_iff_eq] at hSelf
      rcases hSelf with (rfl | rfl) | rfl <;> decide
    iterate 5
      split at h
      · rename_i hLetter
        cases h
        rw [beq_iff_eq.mp hLetter]
        decide
    cases h
  · intro h
    simp only [shortEscapes, List.mem_cons, Prod.mk.injEq, List.not_mem_nil, or_false] at h
    rcases h with ⟨rfl, rfl⟩ | ⟨rfl, rfl⟩ | ⟨rfl, rfl⟩ | ⟨rfl, rfl⟩ | ⟨rfl, rfl⟩ | ⟨rfl, rfl⟩ |
      ⟨rfl, rfl⟩ | ⟨rfl, rfl⟩ <;> rfl

/-! ### Every spelling is read -/

theorem scanText_of_isPlain {acc : List UInt8} {b : UInt8} (h : IsPlain b) (rest : List UInt8) :
    scanText acc (b :: rest) = scanText (b :: acc) rest := by
  have hBackslash : (b == 0x5C) = false := by simpa using h.ne_backslash
  have hControl : decide (b < 0x20) = false := by simpa using h.not_control
  rw [scanText]
  · rw [hBackslash, hControl]
    rfl
  · exact h.ne_quote
  · exact fun _ _ _ _ _ hb => absurd hb h.ne_backslash
  · exact fun _ _ hb => absurd hb h.ne_backslash

theorem unescapeFrom_of_isPlain {acc : List UInt8} {b : UInt8} (h : IsPlain b)
    (rest : List UInt8) : unescapeFrom acc (b :: rest) = unescapeFrom (b :: acc) rest := by
  rw [unescapeFrom]
  · exact fun _ _ _ _ _ hb => absurd hb h.ne_backslash
  · exact fun _ _ hb => absurd hb h.ne_backslash

theorem unescapeFrom_simple {acc : List UInt8} {e b : UInt8} (h : simpleEscape? e = some b)
    (rest : List UInt8) : unescapeFrom acc (0x5C :: e :: rest) = unescapeFrom (b :: acc) rest := by
  have hUnicode : e ≠ 0x75 := by
    rintro rfl
    cases h
  rw [unescapeFrom]
  · rw [h]
  · exact fun _ _ _ _ _ he => absurd he hUnicode

theorem unescapeFrom_unicode {acc : List UInt8} {a b c d : UInt8} {n : Nat}
    (h : hex4? a b c d = some n) (hScalar : n < 0xD800 ∨ 0xE000 ≤ n) (rest : List UInt8) :
    unescapeFrom acc (0x5C :: 0x75 :: a :: b :: c :: d :: rest) =
      unescapeFrom ((String.utf8EncodeChar (Char.ofNat n)).reverse ++ acc) rest := by
  rw [unescapeFrom, h]
  simp [hScalar]

theorem scanText_short {acc : List UInt8} {e b : UInt8} (h : simpleEscape? e = some b)
    (rest : List UInt8) : scanText acc (0x5C :: e :: rest) = scanText (e :: 0x5C :: acc) rest := by
  have hUnicode : e ≠ 0x75 := by
    rintro rfl
    cases h
  rw [scanText]
  · rw [h]
    rfl
  · exact fun _ _ _ _ _ he => absurd he hUnicode

theorem scanText_unicode {acc : List UInt8} {a b c d : UInt8} {n : Nat}
    (h : hex4? a b c d = some n) (rest : List UInt8) :
    scanText acc (0x5C :: 0x75 :: a :: b :: c :: d :: rest) =
      scanText (d :: c :: b :: a :: 0x75 :: 0x5C :: acc) rest := by
  rw [scanText, h]
  rfl

theorem unescapeFrom_pair {acc : List UInt8} {a b c d a' b' c' d' : UInt8} {high low : Nat}
    (hHigh : hex4? a b c d = some high) (hIsHigh : 0xD800 ≤ high ∧ high < 0xDC00)
    (hLow : hex4? a' b' c' d' = some low) (hIsLow : 0xDC00 ≤ low ∧ low < 0xE000)
    (rest : List UInt8) :
    unescapeFrom acc
        (0x5C :: 0x75 :: a :: b :: c :: d :: 0x5C :: 0x75 :: a' :: b' :: c' :: d' :: rest) =
      unescapeFrom ((String.utf8EncodeChar (Char.ofNat (pairValue high low))).reverse ++ acc)
        rest := by
  have hSurrogate : ¬(high < 0xD800 ∨ 0xE000 ≤ high) := by omega
  have hPair : high < 0xDC00 ∧ 0xDC00 ≤ low ∧ low < 0xE000 := by omega
  rw [unescapeFrom, hHigh]
  simp [hSurrogate, hLow, hPair]

theorem Scanned.scanText {raw : List UInt8} (h : Scanned raw) (acc rest : List UInt8) :
    scanText acc (raw ++ 0x22 :: rest) = some (acc.reverse ++ raw, rest) := by
  induction h generalizing acc with
  | nil => simp
  | plain hPlain _ ih =>
    rw [List.cons_append, scanText_of_isPlain hPlain, ih]
    simp
  | short hEscape _ ih =>
    obtain ⟨b, hb⟩ := Option.isSome_iff_exists.mp hEscape
    rw [List.cons_append, List.cons_append, scanText_short hb, ih]
    simp
  | unicode hDigits _ ih =>
    obtain ⟨n, hn⟩ := Option.isSome_iff_exists.mp hDigits
    simp only [List.cons_append]
    rw [scanText_unicode hn, ih]
    simp

theorem Spelling.scanned {raw value : List UInt8} (h : Spelling raw value) : Scanned raw := by
  induction h with
  | nil => exact .nil
  | plain hPlain _ ih => exact .plain hPlain ih
  | short hEscape _ ih =>
    have hKnown := simpleEscape?_eq_some_iff.mpr hEscape
    exact .short (by rw [hKnown]; rfl) ih
  | unicode hDigits _ _ ih => exact .unicode (by rw [hDigits]; rfl) ih
  | pair hHigh _ hLow _ _ ih =>
    exact .unicode (by rw [hHigh]; rfl) (.unicode (by rw [hLow]; rfl) ih)

theorem Spelling.unescapeFrom {raw value : List UInt8} (h : Spelling raw value) (acc : List UInt8) :
    unescapeFrom acc raw = some (acc.reverse ++ value) := by
  induction h generalizing acc with
  | nil => simp
  | plain hPlain _ ih =>
    rw [unescapeFrom_of_isPlain hPlain, ih]
    simp
  | short hEscape _ ih =>
    rw [unescapeFrom_simple (simpleEscape?_eq_some_iff.mpr hEscape), ih]
    simp
  | unicode hDigits hScalar _ ih =>
    rw [unescapeFrom_unicode hDigits hScalar, ih]
    simp
  | pair hHigh hIsHigh hLow hIsLow _ ih =>
    rw [unescapeFrom_pair hHigh hIsHigh hLow hIsLow, ih]
    simp

/-! ### Only spellings are read -/

theorem scanned_of_scanText {acc bytes text rest : List UInt8}
    (h : scanText acc bytes = some (text, rest)) :
    ∃ raw, Scanned raw ∧ bytes = raw ++ 0x22 :: rest ∧ text = acc.reverse ++ raw := by
  fun_induction scanText acc bytes with
  | case1 => cases h
  | case2 acc rest =>
    cases h
    exact ⟨[], .nil, rfl, (List.append_nil _).symm⟩
  | case3 acc a b c d bytes hHex ih =>
    obtain ⟨raw, hRaw, rfl, rfl⟩ := ih h
    exact ⟨_, .unicode hHex hRaw, rfl, by simp⟩
  | case5 acc e bytes hNotUnicode hKnown ih =>
    obtain ⟨raw, hRaw, rfl, rfl⟩ := ih h
    exact ⟨_, .short hKnown hRaw, rfl, by simp⟩
  | case8 acc b bytes hQuote hLong hShort hPlain ih =>
    obtain ⟨raw, hRaw, rfl, rfl⟩ := ih h
    simp only [Bool.or_eq_true, decide_eq_true_eq, beq_iff_eq, not_or] at hPlain
    exact ⟨_, .plain ⟨hQuote, hPlain.2, hPlain.1⟩ hRaw, rfl, by simp⟩
  | _ => cases h

theorem Scanned.of_unicode {a b c d : UInt8} {raw : List UInt8}
    (h : Scanned (0x5C :: 0x75 :: a :: b :: c :: d :: raw)) : Scanned raw := by
  cases h with
  | plain hPlain => exact absurd rfl hPlain.ne_backslash
  | short hEscape => cases hEscape
  | unicode _ rest => exact rest

theorem Scanned.of_short {e b : UInt8} {raw : List UInt8} (h : Scanned (0x5C :: e :: raw))
    (hEscape : simpleEscape? e = some b) : Scanned raw := by
  cases h with
  | plain hPlain => exact absurd rfl hPlain.ne_backslash
  | short _ rest => exact rest
  | unicode => cases hEscape

theorem Scanned.spelling {acc raw value : List UInt8} (hScanned : Scanned raw)
    (h : Token.unescapeFrom acc raw = some value) :
    ∃ own, Spelling raw own ∧ value = acc.reverse ++ own := by
  -- The cases are those of the reader; what is left to read has been scanned as well.
  fun_induction Token.unescapeFrom acc raw with
  | case1 acc =>
    cases h
    exact ⟨[], .nil, (List.append_nil _).symm⟩
  | case3 acc a b c d rest n hDigits hScalar ih =>
    obtain ⟨own, hOwn, rfl⟩ := ih hScanned.of_unicode h
    simp only [Bool.or_eq_true, decide_eq_true_eq] at hScalar
    exact ⟨_, .unicode hDigits hScalar hOwn, by simp⟩
  | case5 acc a b c d high hHigh hSurrogate a' b' c' d' rest low hLow hPair char ih =>
    obtain ⟨own, hOwn, hValue⟩ := ih hScanned.of_unicode.of_unicode h
    simp only [Bool.or_eq_true, Bool.and_eq_true, decide_eq_true_eq] at hSurrogate hPair
    have hIsHigh : 0xD800 ≤ high ∧ high < 0xDC00 := by omega
    have hIsLow : 0xDC00 ≤ low ∧ low < 0xE000 := by omega
    have hSpelling := Spelling.pair hHigh hIsHigh hLow hIsLow hOwn
    refine ⟨_, hSpelling, ?_⟩
    rw [hValue, List.reverse_append, List.reverse_reverse, List.append_assoc]
  | case8 acc e rest hNotUnicode b hEscape ih =>
    obtain ⟨own, hOwn, rfl⟩ := ih (hScanned.of_short hEscape) h
    exact ⟨_, .short (simpleEscape?_eq_some_iff.mp hEscape) hOwn, by simp⟩
  | case10 acc b rest hNotUnicode hNotShort ih =>
    cases hScanned with
    | plain hPlain hRest =>
      obtain ⟨own, hOwn, rfl⟩ := ih hRest h
      exact ⟨_, .plain hPlain hOwn, by simp⟩
    | short => exact absurd rfl (hNotShort _ _ rfl)
    | unicode => exact absurd rfl (hNotUnicode _ _ _ _ _ rfl)
  | _ => cases h

/-- A text between quotes. -/
def Quoted (s : String) (bytes : List UInt8) : Prop :=
  ∃ raw, Spelling raw (Utf8.encode s) ∧ bytes = 0x22 :: (raw ++ [0x22])

theorem unescape?_of_spelling {raw : List UInt8} {s : String} (h : Spelling raw (Utf8.encode s)) :
    unescape? raw = some s := by
  rw [unescape?, h.unescapeFrom, List.reverse_nil, List.nil_append, Option.bind_some]
  exact Utf8.decode?_encode s

/-- What is read as a text is a spelling of it. -/
theorem Scanned.spelling_of_unescape? {raw : List UInt8} {s : String} (h : Scanned raw)
    (hText : unescape? raw = some s) : Spelling raw (Utf8.encode s) := by
  obtain ⟨value, hValue, hDecode⟩ := Option.bind_eq_some_iff.mp hText
  obtain ⟨own, hOwn, hOwnValue⟩ := h.spelling hValue
  rw [List.reverse_nil, List.nil_append] at hOwnValue
  rw [← Utf8.decode?_eq_some_iff.mp hDecode, hOwnValue]
  exact hOwn

end Gatehouse.Json

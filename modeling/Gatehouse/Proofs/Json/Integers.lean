import Gatehouse.Json.Parser
import Gatehouse.Proofs.Json.Numbers
import Gatehouse.Proofs.Text.Utf8
import Mathlib.Data.List.Induction
import Mathlib.Tactic.IntervalCases

/-! Integers in plain digits.  A whole part without fraction and exponent is the decimal notation of
its value, so an integer that is read has one text, and what is written for it is that text. -/

namespace Gatehouse.Json

open Text Token Numeral

/-- The digits of a natural number. -/
def decimal (n : Nat) : List UInt8 := Utf8.encode (toString n)

/-- The value of a run of digits. -/
def decimalValue (digits : List UInt8) : Nat :=
  digits.foldl (fun value b => 10 * value + digitValue b) 0

theorem decimal_eq (n : Nat) : decimal n = (Nat.toDigits 10 n).flatMap String.utf8EncodeChar := by
  rw [decimal, Utf8.encode, Nat.toString_eq_ofList_toDigits, String.toList_ofList]

theorem decimal_of_lt {d : Nat} (h : d < 10) : decimal d = [UInt8.ofNat (0x30 + d)] := by
  interval_cases d <;> rfl

theorem decimal_append {n d : Nat} (hn : 0 < n) (hd : d < 10) :
    decimal n ++ decimal d = decimal (10 * n + d) := by
  rw [decimal_eq, decimal_eq, decimal_eq, ← Nat.toDigits_append_toDigits (by decide) hn hd,
    List.flatMap_append]

@[simp] theorem decimalValue_append (digits : List UInt8) (b : UInt8) :
    decimalValue (digits ++ [b]) = 10 * decimalValue digits + digitValue b := by
  rw [decimalValue, List.foldl_append]
  rfl

theorem digitValue_lt {b : UInt8} (h : isDigit b = true) : digitValue b < 10 := by
  simp only [isDigit, Bool.and_eq_true, decide_eq_true_eq, UInt8.le_iff_toNat_le] at h
  have hBounds : 0x30 ≤ b.toNat ∧ b.toNat ≤ 0x39 := h
  unfold digitValue
  omega

theorem decimal_digitValue {b : UInt8} (h : isDigit b = true) : decimal (digitValue b) = [b] := by
  rw [decimal_of_lt (digitValue_lt h)]
  simp only [isDigit, Bool.and_eq_true, decide_eq_true_eq, UInt8.le_iff_toNat_le] at h
  have hLow : 0x30 ≤ b.toNat := h.1
  rw [digitValue, Nat.add_sub_cancel' hLow, UInt8.ofNat_toNat]

theorem IsWhole.init {digits : List UInt8} {b : UInt8} (h : IsWhole (digits ++ [b]))
    (hNil : digits ≠ []) : IsWhole digits ∧ digits.head? ≠ some 0x30 := by
  have hHead : digits.head? ≠ some 0x30 := by
    intro hZero
    have hSingle := h.eq_zero (by rw [List.head?_append, hZero]; rfl)
    have hLength := congrArg List.length hSingle
    have hPos := List.length_pos_iff.mpr hNil
    rw [List.length_append, List.length_singleton, List.length_singleton] at hLength
    omega
  have hDigits : ∀ d ∈ digits, isDigit d = true :=
    fun d hd => h.isDigit d (List.mem_append_left _ hd)
  exact ⟨⟨⟨hNil, hDigits⟩, fun hZero => absurd hZero hHead⟩, hHead⟩

/-- Digits without a leading zero are the notation of their value. -/
theorem IsWhole.eq_decimal {digits : List UInt8} (h : IsWhole digits) :
    digits = decimal (decimalValue digits) := by
  induction digits using List.reverseRecOn with
  | nil => exact absurd rfl h.ne_nil
  | append_singleton digits b ih =>
    have hDigit : isDigit b = true :=
      h.isDigit b (List.mem_append_right _ (List.mem_singleton_self b))
    by_cases hNil : digits = []
    · subst hNil
      have hValue : decimalValue ([] ++ [b]) = digitValue b := by simp [decimalValue]
      rw [hValue, decimal_digitValue hDigit, List.nil_append]
    · obtain ⟨hInit, hHead⟩ := h.init hNil
      have hDecimal := ih hInit
      have hPos : 0 < decimalValue digits := by
        refine Nat.pos_of_ne_zero fun hZero => hHead ?_
        rw [hDecimal, hZero]
        rfl
      rw [decimalValue_append, ← decimal_append hPos (digitValue_lt hDigit), ← hDecimal,
        decimal_digitValue hDigit]

theorem digit_of_lt {d : Nat} (h : d < 10) :
    isDigit (UInt8.ofNat (0x30 + d)) = true ∧ digitValue (UInt8.ofNat (0x30 + d)) = d := by
  interval_cases d <;> decide

theorem isWhole_digit {b : UInt8} (h : isDigit b = true) : IsWhole [b] where
  ne_nil := List.cons_ne_nil b []
  isDigit := List.forall_mem_singleton.mpr h
  eq_zero := by simp

theorem isWhole_decimal (n : Nat) : IsWhole (decimal n) ∧ decimalValue (decimal n) = n := by
  induction n using Nat.strongRecOn with
  | ind n ih =>
    by_cases hSmall : n < 10
    · obtain ⟨hDigit, hValue⟩ := digit_of_lt hSmall
      rw [decimal_of_lt hSmall]
      exact ⟨isWhole_digit hDigit, by simpa [decimalValue] using hValue⟩
    · have hDigit : n % 10 < 10 := Nat.mod_lt n (by decide)
      obtain ⟨hFront, hValue⟩ := ih (n / 10) (by omega)
      obtain ⟨hIsDigit, hDigitValue⟩ := digit_of_lt hDigit
      have hSplit : decimal n = decimal (n / 10) ++ [UInt8.ofNat (0x30 + n % 10)] := by
        rw [← decimal_of_lt hDigit, decimal_append (by omega) hDigit, Nat.div_add_mod]
      have hHead : (decimal (n / 10)).head? ≠ some 0x30 := by
        intro hZero
        rw [hFront.eq_zero hZero] at hValue
        have hNone : n / 10 = 0 := hValue.symm
        omega
      rw [hSplit, decimalValue_append, hValue, hDigitValue]
      refine ⟨⟨⟨by simp, ?_⟩, ?_⟩, Nat.div_add_mod n 10⟩
      · intro b hb
        rcases List.mem_append.mp hb with hb | hb
        · exact hFront.isDigit b hb
        · rwa [List.mem_singleton.mp hb]
      · intro hZero
        rw [List.head?_append, Option.or_eq_some_iff] at hZero
        rcases hZero with hZero | ⟨hNone, -⟩
        · exact absurd hZero hHead
        · exact absurd (List.head?_eq_none_iff.mp hNone) hFront.ne_nil

/-! ### Unsigned numbers -/

theorem le_foldl (start : Nat) (digits : List UInt8) :
    start ≤ digits.foldl (fun value b => 10 * value + digitValue b) start := by
  induction digits generalizing start with
  | nil => exact Nat.le_refl start
  | cons b digits ih =>
    have hNext := ih (10 * start + digitValue b)
    rw [List.foldl_cons]
    omega

theorem significand_eq_iff {start value : Nat} {digits : List UInt8}
    (hStart : start < UInt64.size) :
    significand start digits = (value, 0) ↔
      digits.foldl (fun value b => 10 * value + digitValue b) start = value ∧
        value < UInt64.size := by
  induction digits generalizing start with
  | nil =>
    rw [significand, List.foldl_nil, Prod.mk.injEq]
    constructor
    · rintro ⟨rfl, -⟩
      exact ⟨rfl, hStart⟩
    · rintro ⟨rfl, -⟩
      exact ⟨rfl, rfl⟩
  | cons b digits ih =>
    rw [significand, List.foldl_cons]
    split
    · rename_i hNext
      exact ih hNext
    · rename_i hNext
      have hGrows := le_foldl (10 * start + digitValue b) digits
      constructor
      · intro h
        cases h
      · rintro ⟨rfl, hValue⟩
        omega

/-- The parts of an integer in plain digits. -/
def plain (negative : Bool) (size : Nat) : Numeral := ⟨negative, decimal size, [], none⟩

theorem numberText_plain (negative : Bool) (size : Nat) :
    NumberText (plain negative size) (signText negative ++ decimal size) := by
  have h : NumberText (plain negative size) (signText negative ++ (decimal size ++ ([] ++ []))) :=
    .parts (isWhole_decimal size).1 .none .none
  rwa [List.append_nil, List.append_nil] at h

theorem NumberText.unique {n m : Numeral} {text : List UInt8} (hn : NumberText n text)
    (hm : NumberText m text) : n = m := by
  have hEnd : EndsNumber [] := nofun
  have hFirst := scanNumber_append hn hEnd
  rw [scanNumber_append hm hEnd, Option.some.injEq, Prod.mk.injEq] at hFirst
  exact hFirst.1.symm

theorem word64?_of_whole (whole : List UInt8) (value : Nat) :
    (⟨false, whole, [], none⟩ : Numeral).word64? = some value ↔
      decimalValue whole = value ∧ value < UInt64.size := by
  have hStart : 0 < UInt64.size := by decide
  rw [decimalValue, ← significand_eq_iff hStart, word64?, if_neg (by simp)]
  split
  · rename_i found hFound
    rw [hFound]
    simp
  · rename_i hFound
    constructor
    · exact nofun
    · intro h
      exact absurd h (hFound value)

/-- A number is an unsigned one of 64 bits if its text is the digits of one. -/
theorem word64?_eq_some_iff {n : Numeral} {text : List UInt8} {value : Nat}
    (h : NumberText n text) :
    n.word64? = some value ↔ text = decimal value ∧ value < UInt64.size := by
  constructor
  · obtain @⟨negative, whole, fraction, point, mark, exponent, hWhole, hFraction, hExponent⟩ := h
    intro hValue
    have hPlain : negative = false ∧ fraction = [] ∧ exponent = none := by
      unfold word64? at hValue
      split at hValue
      · cases hValue
      · rename_i hPlain
        simpa [and_assoc] using hPlain
    obtain ⟨rfl, rfl, rfl⟩ := hPlain
    obtain ⟨rfl, hBound⟩ := (word64?_of_whole whole value).mp hValue
    cases hExponent
    cases hFraction with
    | point hRun => exact absurd rfl hRun.ne_nil
    | none =>
      rw [← hWhole.eq_decimal]
      exact ⟨by simp [signText], hBound⟩
  · rintro ⟨rfl, hBound⟩
    rw [h.unique (numberText_plain false value)]
    exact (word64?_of_whole _ value).mpr ⟨(isWhole_decimal value).2, hBound⟩

/-! ### Integers -/

theorem integer?_plain (negative : Bool) (size : Nat) :
    (plain negative size).integer? = some (if negative then -(size : Int) else size) := by
  have hValue : decimalValue (decimal size) = size := (isWhole_decimal size).2
  rw [decimalValue] at hValue
  simp only [plain, integer?, hValue]
  rfl

theorem encode_toString_int (i : Int) :
    Utf8.encode (toString i) = signText (decide (i < 0)) ++ decimal i.natAbs := by
  rw [Int.toString_eq_repr, Int.repr_eq_if]
  split
  · rename_i hNonneg
    have hSize : i.toNat = i.natAbs := by omega
    have hSign : decide (i < 0) = false := decide_eq_false (by omega)
    rw [hSign, hSize]
    rfl
  · rename_i hNegative
    have hSize : (-i).toNat = i.natAbs := by omega
    have hSign : decide (i < 0) = true := decide_eq_true (by omega)
    rw [hSign, hSize, Utf8.encode_append]
    rfl

/-- The parts of an integer as it is written. -/
def numeral (i : Int) : Numeral := plain (decide (i < 0)) i.natAbs

theorem numberText_numeral (i : Int) : NumberText (numeral i) (Utf8.encode (toString i)) := by
  rw [encode_toString_int]
  exact numberText_plain _ _

theorem integer?_numeral (i : Int) : (numeral i).integer? = some i := by
  rw [numeral, integer?_plain, Option.some.injEq]
  by_cases hNegative : i < 0
  · rw [if_pos (decide_eq_true hNegative)]
    omega
  · rw [if_neg (by simpa using hNegative)]
    omega

end Gatehouse.Json

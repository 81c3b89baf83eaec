import Gatehouse.Json.Token
import Mathlib.Data.List.TakeDrop
import Mathlib.Data.List.TakeWhile

/-! The texts of numbers: an optional minus, digits without a leading zero, and optionally a
fraction and an exponent.  A number is read up to where no more of it can come. -/

namespace Gatehouse.Json

open Token Numeral

/-- A non-empty run of digits. -/
structure IsRun (digits : List UInt8) : Prop where
  ne_nil : digits ≠ []
  isDigit : ∀ b ∈ digits, isDigit b = true

/-- A run of digits without a leading zero. -/
structure IsWhole (digits : List UInt8) : Prop extends IsRun digits where
  eq_zero : digits.head? = some 0x30 → digits = [0x30]

/-- The digits after the point, with the point, if there are any. -/
inductive FractionText : List UInt8 → List UInt8 → Prop
  | none : FractionText [] []
  | point {digits : List UInt8} (h : IsRun digits) : FractionText digits (0x2E :: digits)

/-- The sign and the digits of an exponent, with its mark, if there is one. -/
inductive ExponentText : Option (Bool × List UInt8) → List UInt8 → Prop
  | none : ExponentText none []
  | unsigned {mark : UInt8} {digits : List UInt8} (hMark : mark = 0x65 ∨ mark = 0x45)
      (h : IsRun digits) : ExponentText (some (false, digits)) (mark :: digits)
  | plus {mark : UInt8} {digits : List UInt8} (hMark : mark = 0x65 ∨ mark = 0x45)
      (h : IsRun digits) : ExponentText (some (false, digits)) (mark :: 0x2B :: digits)
  | minus {mark : UInt8} {digits : List UInt8} (hMark : mark = 0x65 ∨ mark = 0x45)
      (h : IsRun digits) : ExponentText (some (true, digits)) (mark :: 0x2D :: digits)

/-- The sign of a number as it is written. -/
def signText (negative : Bool) : List UInt8 := if negative then [0x2D] else []

/-- A number as it may be written. -/
inductive NumberText : Numeral → List UInt8 → Prop
  | parts {negative : Bool} {whole fraction point mark : List UInt8}
      {exponent : Option (Bool × List UInt8)} (hWhole : IsWhole whole)
      (hFraction : FractionText fraction point) (hExponent : ExponentText exponent mark) :
      NumberText ⟨negative, whole, fraction, exponent⟩
        (signText negative ++ (whole ++ (point ++ mark)))

/-- The octets cannot go on with a number that ends before them. -/
def EndsNumber (rest : List UInt8) : Prop :=
  ∀ b ∈ rest.head?, isDigit b = false ∧ b ≠ 0x2E ∧ b ≠ 0x65 ∧ b ≠ 0x45

def startsNumber (b : UInt8) : Bool := b == 0x2D || Numeral.isDigit b

theorem NumberText.exists_first {n : Numeral} {text : List UInt8} (h : NumberText n text) :
    ∃ b rest, text = b :: rest ∧ startsNumber b = true := by
  obtain @⟨negative, whole, fraction, point, mark, exponent, hWhole, hFraction, hExponent⟩ := h
  cases negative with
  | true => exact ⟨0x2D, _, rfl, rfl⟩
  | false =>
    cases whole with
    | nil => exact absurd rfl hWhole.ne_nil
    | cons b digits =>
      have hDigit : Numeral.isDigit b = true := hWhole.isDigit b List.mem_cons_self
      exact ⟨b, _, rfl, by simp [startsNumber, hDigit]⟩

/-! ### The parts of the reader -/

/-- Reads a point and the digits after it, if there is a point. -/
def fraction? (bytes : List UInt8) : Option (List UInt8 × List UInt8) :=
  match accept? (· == 0x2E) bytes with
  | some rest => digits? rest
  | none => some ([], bytes)

/-- Reads the mark of an exponent, its sign and its digits, if there is a mark. -/
def exponent? (bytes : List UInt8) : Option (Option (Bool × List UInt8) × List UInt8) :=
  match accept? (fun b => b == 0x65 || b == 0x45) bytes with
  | some rest => (signed? rest).map fun (exponent, rest) => (some exponent, rest)
  | none => some (none, bytes)

/-- Reads what may come after the whole part of a number. -/
def tail? (negative : Bool) (whole bytes : List UInt8) : Option (Numeral × List UInt8) :=
  if whole.head? == some 0x30 && whole.length != 1 then none
  else
    (fraction? bytes).bind fun (fraction, rest) =>
      (exponent? rest).map fun (exponent, rest) => (⟨negative, whole, fraction, exponent⟩, rest)

theorem exponent?_map (number : Option (Bool × List UInt8) → Numeral) (bytes : List UInt8) :
    (match accept? (fun b => b == 0x65 || b == 0x45) bytes with
      | some rest => (signed? rest).bind fun found => some (number (some found.1), found.2)
      | none => some (number none, bytes)) =
    (exponent? bytes).map fun (exponent, rest) => (number exponent, rest) := by
  unfold exponent?
  split
  · rename_i rest _
    cases signed? rest <;> rfl
  · rfl

theorem scanNumber_eq (bytes : List UInt8) :
    scanNumber bytes =
      (digits? ((accept? (· == 0x2D) bytes).getD bytes)).bind fun (whole, rest) =>
        tail? (accept? (· == 0x2D) bytes).isSome whole rest := by
  simp only [scanNumber, tail?, fraction?, Option.bind_eq_bind]
  refine Option.bind_congr fun found _ => ?_
  obtain ⟨whole, rest⟩ := found
  split
  · rfl
  · dsimp only
    cases accept? (· == 0x2E) rest with
    | none => exact exponent?_map (⟨_, whole, [], ·⟩) rest
    | some left =>
      exact Option.bind_congr fun found _ => exponent?_map (⟨_, whole, found.1, ·⟩) found.2

/-! ### Every number is read -/

theorem digits?_append {digits rest : List UInt8} (h : IsRun digits)
    (hRest : ∀ b ∈ rest.head?, isDigit b = false) :
    digits? (digits ++ rest) = some (digits, rest) := by
  have hSpan : (digits ++ rest).span isDigit = (digits, rest) := by
    rw [List.span_eq_takeWhile_dropWhile, List.takeWhile_append_of_pos h.isDigit,
      List.dropWhile_append_of_pos h.isDigit]
    cases rest with
    | nil => simp
    | cons b rest => simp [hRest b rfl]
  rw [digits?, hSpan]
  cases digits with
  | nil => exact absurd rfl h.ne_nil
  | cons b digits => rfl

theorem IsRun.head {digits : List UInt8} (h : IsRun digits) (rest : List UInt8) :
    ∀ b ∈ (digits ++ rest).head?, Numeral.isDigit b = true := by
  intro b hb
  cases digits with
  | nil => exact absurd rfl h.ne_nil
  | cons d digits =>
    cases hb
    exact h.isDigit b List.mem_cons_self

theorem accept?_eq_none {isWanted : UInt8 → Bool} {bytes : List UInt8}
    (h : ∀ b ∈ bytes.head?, isWanted b = false) : accept? isWanted bytes = none := by
  cases bytes with
  | nil => rfl
  | cons b bytes => simp [accept?, h b rfl]

theorem ne_of_isDigit {b c : UInt8} (h : isDigit b = true) (hc : isDigit c = false) : b ≠ c := by
  rintro rfl
  rw [h] at hc
  cases hc

theorem signed?_append {exponent : Bool × List UInt8} {mark : UInt8} {text rest : List UInt8}
    (h : ExponentText (some exponent) (mark :: text))
    (hRest : ∀ b ∈ rest.head?, isDigit b = false) :
    signed? (text ++ rest) = some (exponent, rest) := by
  cases h with
  | unsigned hMark h =>
    have hHead := h.head rest
    rw [signed?, digits?_append h hRest]
    · rfl
    · intro left hText
      rw [hText] at hHead
      cases hHead _ rfl
    · intro left hText
      rw [hText] at hHead
      cases hHead _ rfl
  | plus hMark h | minus hMark h =>
    rw [List.cons_append, signed?, digits?_append h hRest]
    rfl

theorem exponent?_append {exponent : Option (Bool × List UInt8)} {mark rest : List UInt8}
    (h : ExponentText exponent mark) (hRest : EndsNumber rest) :
    exponent? (mark ++ rest) = some (exponent, rest) := by
  cases mark with
  | nil =>
    cases h
    have hNone : accept? (fun b => b == 0x65 || b == 0x45) rest = none :=
      accept?_eq_none fun b hb => by simp [hRest b hb]
    rw [exponent?, List.nil_append, hNone]
  | cons b text =>
    cases exponent with
    | none => cases h
    | some found =>
      have hMark : b = 0x65 ∨ b = 0x45 := by cases h <;> assumption
      have hAccept : accept? (fun b => b == 0x65 || b == 0x45) (b :: (text ++ rest)) =
          some (text ++ rest) := by
        rcases hMark with rfl | rfl <;> rfl
      have hSigned := signed?_append h fun b hb => (hRest b hb).1
      simp only [exponent?, List.cons_append, hAccept, hSigned, Option.map_some]

theorem fraction?_append {fraction point rest : List UInt8} (h : FractionText fraction point)
    (hRest : ∀ b ∈ rest.head?, isDigit b = false ∧ b ≠ 0x2E) :
    fraction? (point ++ rest) = some (fraction, rest) := by
  cases h with
  | none =>
    have hNone : accept? (· == 0x2E) rest = none :=
      accept?_eq_none fun b hb => beq_eq_false_iff_ne.mpr (hRest b hb).2
    rw [fraction?, List.nil_append, hNone]
  | point h => exact digits?_append h fun b hb => (hRest b hb).1

theorem head_exponent {exponent : Option (Bool × List UInt8)} {mark rest : List UInt8}
    (h : ExponentText exponent mark) (hRest : EndsNumber rest) :
    ∀ b ∈ (mark ++ rest).head?, isDigit b = false ∧ b ≠ 0x2E := by
  intro b hb
  cases h with
  | none => exact ⟨(hRest b hb).1, (hRest b hb).2.1⟩
  | unsigned hMark | plus hMark | minus hMark =>
    cases hb
    rcases hMark with rfl | rfl <;> decide

theorem head_fraction {fraction point rest : List UInt8} (h : FractionText fraction point)
    (hRest : ∀ b ∈ rest.head?, isDigit b = false) :
    ∀ b ∈ (point ++ rest).head?, isDigit b = false := by
  intro b hb
  cases h with
  | none => exact hRest b hb
  | point =>
    cases hb
    decide

theorem IsWhole.not_leading {whole : List UInt8} (h : IsWhole whole) :
    (whole.head? == some 0x30 && whole.length != 1) = false := by
  by_cases hZero : whole.head? = some 0x30
  · simp [h.eq_zero hZero]
  · simp [hZero]

theorem accept?_sign {negative : Bool} {digits : List UInt8} (h : IsRun digits)
    (rest : List UInt8) :
    accept? (· == 0x2D) (signText negative ++ (digits ++ rest)) =
      if negative then some (digits ++ rest) else none := by
  cases negative with
  | true => rfl
  | false =>
    exact accept?_eq_none fun b hb =>
      beq_eq_false_iff_ne.mpr (ne_of_isDigit (h.head rest b hb) (by decide))

theorem scanNumber_append {n : Numeral} {text rest : List UInt8} (h : NumberText n text)
    (hRest : EndsNumber rest) : scanNumber (text ++ rest) = some (n, rest) := by
  obtain @⟨negative, whole, fraction, point, mark, exponent, hWhole, hFraction, hExponent⟩ := h
  have hMark := head_exponent hExponent hRest
  have hPoint := head_fraction hFraction fun b hb => (hMark b hb).1
  have hDigits := digits?_append hWhole.toIsRun hPoint
  have hTail : tail? negative whole (point ++ (mark ++ rest)) =
      some (⟨negative, whole, fraction, exponent⟩, rest) := by
    rw [tail?, hWhole.not_leading, fraction?_append hFraction hMark]
    simp [exponent?_append hExponent hRest]
  rw [List.append_assoc, List.append_assoc, List.append_assoc, scanNumber_eq,
    accept?_sign hWhole.toIsRun]
  cases negative with
  | true =>
    rw [if_pos rfl, Option.getD_some, hDigits]
    exact hTail
  | false =>
    rw [if_neg (by decide), Option.getD_none, signText, if_neg (by decide), List.nil_append,
      hDigits]
    exact hTail

/-! ### Only numbers are read -/

theorem digits?_eq_some {bytes digits rest : List UInt8} (h : digits? bytes = some (digits, rest)) :
    IsRun digits ∧ bytes = digits ++ rest := by
  rw [digits?, List.span_eq_takeWhile_dropWhile] at h
  split at h
  · cases h
  · rename_i found hFound
    cases h
    have hAll : ∀ b ∈ bytes.takeWhile isDigit, isDigit b = true :=
      fun b hb => List.mem_takeWhile_imp hb
    refine ⟨⟨fun hNil => hFound _ (by rw [hNil]), hAll⟩, ?_⟩
    exact (List.takeWhile_append_dropWhile).symm

theorem accept?_eq_some {isWanted : UInt8 → Bool} {bytes rest : List UInt8}
    (h : accept? isWanted bytes = some rest) : ∃ b, isWanted b = true ∧ bytes = b :: rest := by
  cases bytes with
  | nil => cases h
  | cons b bytes =>
    rw [accept?] at h
    split at h
    · rename_i hWanted
      cases h
      exact ⟨b, hWanted, rfl⟩
    · cases h

theorem fraction?_eq_some {bytes fraction rest : List UInt8}
    (h : fraction? bytes = some (fraction, rest)) :
    ∃ point, FractionText fraction point ∧ bytes = point ++ rest := by
  unfold fraction? at h
  split at h
  · rename_i left hPoint
    obtain ⟨b, hWanted, rfl⟩ := accept?_eq_some hPoint
    obtain ⟨hDigits, rfl⟩ := digits?_eq_some h
    rw [beq_iff_eq.mp hWanted]
    exact ⟨_, .point hDigits, rfl⟩
  · cases h
    exact ⟨[], .none, rfl⟩

theorem signed?_eq_some {bytes rest : List UInt8} {found : Bool × List UInt8} {mark : UInt8}
    (hMark : mark = 0x65 ∨ mark = 0x45) (h : signed? bytes = some (found, rest)) :
    ∃ text, ExponentText (some found) (mark :: text) ∧ bytes = text ++ rest := by
  unfold signed? at h
  split at h
  all_goals
    obtain ⟨⟨digits, left⟩, hDigits, hFound⟩ := Option.map_eq_some_iff.mp h
    cases hFound
    obtain ⟨hRun, rfl⟩ := digits?_eq_some hDigits
  · exact ⟨_, .minus hMark hRun, rfl⟩
  · exact ⟨_, .plus hMark hRun, rfl⟩
  · exact ⟨_, .unsigned hMark hRun, rfl⟩

theorem exponent?_eq_some {bytes rest : List UInt8} {exponent : Option (Bool × List UInt8)}
    (h : exponent? bytes = some (exponent, rest)) :
    ∃ mark, ExponentText exponent mark ∧ bytes = mark ++ rest := by
  unfold exponent? at h
  split at h
  · rename_i left hAccept
    obtain ⟨b, hWanted, rfl⟩ := accept?_eq_some hAccept
    obtain ⟨⟨found, left⟩, hSigned, hFound⟩ := Option.map_eq_some_iff.mp h
    cases hFound
    have hMark : b = 0x65 ∨ b = 0x45 := by simpa using hWanted
    obtain ⟨text, hText, rfl⟩ := signed?_eq_some hMark hSigned
    exact ⟨b :: text, hText, rfl⟩
  · cases h
    exact ⟨[], .none, rfl⟩

theorem isWhole_of_not_leading {whole : List UInt8} (h : IsRun whole)
    (hLeading : ¬(whole.head? == some 0x30 && whole.length != 1) = true) : IsWhole whole := by
  refine ⟨h, fun hZero => ?_⟩
  cases whole with
  | nil => cases hZero
  | cons b digits =>
    cases hZero
    have hLength : digits.length = 0 := by simpa using hLeading
    rw [List.eq_nil_of_length_eq_zero hLength]

theorem tail?_eq_some {negative : Bool} {whole bytes rest : List UInt8} {n : Numeral}
    (hRun : IsRun whole) (h : tail? negative whole bytes = some (n, rest)) :
    ∃ text, NumberText n (signText negative ++ (whole ++ text)) ∧ bytes = text ++ rest := by
  unfold tail? at h
  split at h
  · cases h
  · rename_i hLeading
    obtain ⟨⟨fraction, afterFraction⟩, hFraction, h⟩ := Option.bind_eq_some_iff.mp h
    obtain ⟨⟨exponent, left⟩, hExponent, hFound⟩ := Option.map_eq_some_iff.mp h
    cases hFound
    obtain ⟨point, hPoint, rfl⟩ := fraction?_eq_some hFraction
    obtain ⟨mark, hMark, rfl⟩ := exponent?_eq_some hExponent
    exact ⟨_, .parts (isWhole_of_not_leading hRun hLeading) hPoint hMark,
      (List.append_assoc _ _ _).symm⟩

theorem numberText_of_scanNumber {bytes rest : List UInt8} {n : Numeral}
    (h : scanNumber bytes = some (n, rest)) : ∃ text, NumberText n text ∧ bytes = text ++ rest := by
  rw [scanNumber_eq] at h
  obtain ⟨⟨whole, afterWhole⟩, hWhole, hTail⟩ := Option.bind_eq_some_iff.mp h
  obtain ⟨hRun, hStart⟩ := digits?_eq_some hWhole
  obtain ⟨text, hText, rfl⟩ := tail?_eq_some hRun hTail
  refine ⟨_, hText, ?_⟩
  rw [List.append_assoc, List.append_assoc, ← hStart]
  cases hSign : accept? (· == 0x2D) bytes with
  | none => rfl
  | some left =>
    obtain ⟨b, hMinus, rfl⟩ := accept?_eq_some hSign
    rw [beq_iff_eq.mp hMinus]
    rfl

end Gatehouse.Json

import Gatehouse.Proofs.Text.Decimal
import Gatehouse.Proofs.Time.Calendar
import Mathlib.Data.Nat.Digits.Defs

/-! Timestamps.  `Instant.ofText?` reads a date, a time of day and the letter Z as an instant, and
counts the days by the calendar.  The text of every instant is read as this instant, to the
nanosecond, in the years before 0 and after 9999 as well. -/

namespace Gatehouse.Time

open Text

/-! ### Readers of parts -/

/-- Reads so many digits. -/
def natural? (width : Nat) (cs : List Char) : Option (Nat × List Char) :=
  if width ≤ cs.length then (Decimal.digits? (cs.take width)).map (·, cs.drop width) else none

/-- Reads as many digits as there are, with how many they are. -/
def run? (cs : List Char) : Option (Nat × Nat × List Char) :=
  let digits := cs.takeWhile Decimal.isDigit
  (Decimal.digits? digits).map (·, digits.length, cs.dropWhile Decimal.isDigit)

/-- Reads so many digits after a mark. -/
def part? (mark : Char) (width : Nat) : List Char → Option (Nat × List Char)
  | c :: cs => if c = mark then natural? width cs else none
  | [] => none

/-- Reads a year: four digits, or a sign and at least four. -/
def year? : List Char → Option (Int × List Char)
  | '+' :: cs => (run? cs).bind fun (n, width, cs) => if 4 ≤ width then some (n, cs) else none
  | '-' :: cs => (run? cs).bind fun (n, width, cs) => if 4 ≤ width then some (-n, cs) else none
  | cs => (natural? 4 cs).map fun (n, cs) => (n, cs)

/-- Reads the fraction of a second in nanoseconds: nothing, or a point and up to nine digits. -/
def fraction? : List Char → Option (Nat × List Char)
  | '.' :: cs =>
    (run? cs).bind fun (n, width, cs) => if width ≤ 9 then some (n * 10 ^ (9 - width), cs) else none
  | cs => some (0, cs)

/-- The instant in a text: a day of the calendar and a time of day in universal time. -/
def Instant.ofText? (s : String) : Option Instant := do
  let (year, cs) ← year? s.toList
  let (month, cs) ← part? '-' 2 cs
  let (day, cs) ← part? '-' 2 cs
  let (hour, cs) ← part? 'T' 2 cs
  let (minute, cs) ← part? ':' 2 cs
  let (second, cs) ← part? ':' 2 cs
  let (nanos, cs) ← fraction? cs
  let date : Date := ⟨year, month, day⟩
  if date.IsValid ∧ hour < 24 ∧ minute < 60 ∧ second < 60 ∧ cs = ['Z'] then
    some ⟨(((date.number * 24 + hour) * 60 + minute) * 60 + second) * 1000000000 + nanos⟩
  else none

example : Instant.ofText? "1969-12-31T23:59:59.999Z" = some ⟨-1000000⟩ ∧
    Instant.ofText? "+10000-02-29T00:00:00Z" = some ⟨253407398400000000000⟩ ∧
    Instant.ofText? "1900-02-29T00:00:00Z" = none := by decide +kernel

/-! ### Digits with zeros in front -/

section Padded

variable {width n : Nat}

theorem isDigit_of_mem_padded {c : Char} (h : c ∈ Duration.padded width n) :
    Decimal.isDigit c = true := by
  rcases List.mem_append.mp h with hZero | hDigit
  · rw [List.eq_of_mem_replicate hZero]
    rfl
  · exact Decimal.isDigit_of_mem_toDigits hDigit

theorem length_padded (hWidth : 0 < width) (h : n < 10 ^ width) :
    (Duration.padded width n).length = width := by
  have hLength := Nat.toDigits_length 10 n width hWidth h
  rw [Duration.padded, List.length_append, List.length_replicate]
  omega

theorem le_length_padded (width n : Nat) : width ≤ (Duration.padded width n).length := by
  rw [Duration.padded, List.length_append, List.length_replicate]
  omega

theorem valueOf_replicate_zero (k : Nat) (cs : List Char) :
    Decimal.valueOf (List.replicate k '0' ++ cs) = Decimal.valueOf cs := by
  induction k with
  | zero => rfl
  | succ k ih => exact ih

theorem digits?_padded (width n : Nat) : Decimal.digits? (Duration.padded width n) = some n := by
  have hNonempty : (Duration.padded width n).isEmpty = false := by
    simp [Duration.padded, Nat.toDigits_ne_nil]
  have hAll : (Duration.padded width n).all Decimal.isDigit = true :=
    List.all_eq_true.mpr fun _ hc => isDigit_of_mem_padded hc
  have hValue : Decimal.valueOf (Duration.padded width n) = n :=
    (valueOf_replicate_zero _ _).trans Nat.ofDigitChars_ten_toDigits
  rw [Decimal.digits?, hNonempty, hAll, hValue]
  rfl

theorem natural?_padded (hWidth : 0 < width) (h : n < 10 ^ width) (rest : List Char) :
    natural? width (Duration.padded width n ++ rest) = some (n, rest) := by
  have hLength := length_padded hWidth h
  rw [natural?, if_pos (by rw [List.length_append, hLength]; omega), List.take_left' hLength,
    List.drop_left' hLength, digits?_padded]
  rfl

theorem part?_padded (mark : Char) (hWidth : 0 < width) (h : n < 10 ^ width) (rest : List Char) :
    part? mark width (mark :: (Duration.padded width n ++ rest)) = some (n, rest) := by
  rw [part?, if_pos rfl, natural?_padded hWidth h]

theorem run?_padded {c : Char} (hc : Decimal.isDigit c = false) (width n : Nat) (rest : List Char) :
    run? (Duration.padded width n ++ c :: rest) =
      some (n, (Duration.padded width n).length, c :: rest) := by
  have hTake : (Duration.padded width n ++ c :: rest).takeWhile Decimal.isDigit =
      Duration.padded width n := by
    rw [List.takeWhile_append_of_pos fun _ => isDigit_of_mem_padded,
      List.takeWhile_cons_of_neg (by simp [hc]), List.append_nil]
  have hDrop : (Duration.padded width n ++ c :: rest).dropWhile Decimal.isDigit = c :: rest := by
    rw [List.dropWhile_append_of_pos fun _ => isDigit_of_mem_padded,
      List.dropWhile_cons_of_neg (by simp [hc])]
  rw [run?, hTake, hDrop, digits?_padded]
  rfl

end Padded

/-! ### The text of an instant -/

/-- Digits with something behind them begin with a digit. -/
theorem isDigit_of_padded_append {width n : Nat} {c d : Char} {rest cs : List Char}
    (h : Duration.padded width n ++ c :: rest = d :: cs) : Decimal.isDigit d = true := by
  cases hDigits : Duration.padded width n with
  | nil =>
    have hSome := digits?_padded width n
    rw [hDigits] at hSome
    cases hSome
  | cons digit digits =>
    rw [hDigits] at h
    cases h
    exact isDigit_of_mem_padded (hDigits ▸ List.mem_cons_self)

theorem year?_yearText (year : Int) {c : Char} (hc : Decimal.isDigit c = false)
    (rest : List Char) :
    year? ((Date.yearText year).toList ++ c :: rest) = some (year, c :: rest) := by
  have hRun := run?_padded hc 4 year.natAbs rest
  have hWidth := le_length_padded 4 year.natAbs
  rw [Date.yearText]
  generalize hSize : year.natAbs = n at hRun hWidth ⊢
  split
  · have hYear : -(n : Int) = year := by omega
    simp [year?, hRun, hWidth, hYear]
  · have hYear : (n : Int) = year := by omega
    split
    · simp [year?, hRun, hWidth, hYear]
    · rw [String.toList_ofList, year?.eq_def]
      -- A digit is no sign.
      split
      · rename_i hSign
        cases isDigit_of_padded_append hSign
      · rename_i hSign
        cases isDigit_of_padded_append hSign
      · rw [natural?_padded (by decide) (by omega), ← hYear]
        rfl

theorem fraction?_point (width : Nat) {n : Nat} (hWidth : 0 < width) (hLe : width ≤ 9)
    (h : n < 10 ^ width) {c : Char} (hc : Decimal.isDigit c = false) (rest : List Char) :
    fraction? ('.' :: (Duration.padded width n ++ c :: rest)) =
      some (n * 10 ^ (9 - width), c :: rest) := by
  rw [fraction?, run?_padded hc, length_padded hWidth h, Option.bind_some]
  exact if_pos hLe

theorem fraction?_fractionText {nanos : Nat} (h : nanos < 1000000000) {c : Char}
    (hc : Decimal.isDigit c = false) (hPoint : c ≠ '.') (rest : List Char) :
    fraction? ((Instant.fractionText nanos).toList ++ c :: rest) = some (nanos, c :: rest) := by
  simp only [Instant.fractionText, beq_iff_eq]
  split
  · rename_i hZero
    rw [hZero, String.toList_empty, List.nil_append, fraction?]
    exact fun _ hc => hPoint (List.cons.inj hc).1
  · split
    · rename_i hMillis
      rw [String.toList_ofList, List.cons_append,
        fraction?_point 3 (by decide) (by decide) (by omega) hc]
      have := Nat.div_mul_cancel (Nat.dvd_of_mod_eq_zero hMillis)
      simpa using this
    · split
      · rename_i hMicros
        rw [String.toList_ofList, List.cons_append,
          fraction?_point 6 (by decide) (by decide) (by omega) hc]
        have := Nat.div_mul_cancel (Nat.dvd_of_mod_eq_zero hMicros)
        simpa using this
      · rw [String.toList_ofList, List.cons_append,
          fraction?_point 9 (by decide) (by decide) (by omega) hc]
        simp

theorem daysInMonth_le (year : Int) (month : Nat) : daysInMonth year month ≤ 31 := by
  have hLeap := leapDays_le year
  unfold daysInMonth
  split <;> omega

namespace Instant

/-- A day of the calendar and a time of day are read as the instant that they stand for. -/
theorem ofText?_of_parts {date : Date} {hour minute second nanos : Nat} (hDate : date.IsValid)
    (hHour : hour < 24) (hMinute : minute < 60) (hSecond : second < 60)
    (hNanos : nanos < 1000000000) :
    ofText? (date.text ++ "T" ++ Date.two hour ++ ":" ++ Date.two minute ++ ":" ++
        Date.two second ++ fractionText nanos ++ "Z") =
      some ⟨(((date.number * 24 + hour) * 60 + minute) * 60 + second) * 1000000000 + nanos⟩ := by
  have hMonth : date.month < 10 ^ 2 := by
    have := hDate.month_le
    omega
  have hDay : date.day < 10 ^ 2 := by
    have := hDate.day_le.trans (daysInMonth_le date.year date.month)
    omega
  have hText : (date.text ++ "T" ++ Date.two hour ++ ":" ++ Date.two minute ++ ":" ++
        Date.two second ++ fractionText nanos ++ "Z").toList =
      (Date.yearText date.year).toList ++ '-' :: (Duration.padded 2 date.month ++
        '-' :: (Duration.padded 2 date.day ++ 'T' :: (Duration.padded 2 hour ++
          ':' :: (Duration.padded 2 minute ++ ':' :: (Duration.padded 2 second ++
            ((fractionText nanos).toList ++ ['Z'])))))) := by
    simp [Date.text, Date.two]
  simp only [ofText?, hText, year?_yearText _ (c := '-') rfl, Option.bind_eq_bind, Option.bind_some,
    part?_padded _ Nat.two_pos hMonth, part?_padded _ Nat.two_pos hDay,
    part?_padded _ Nat.two_pos (show hour < 10 ^ 2 by omega),
    part?_padded _ Nat.two_pos (show minute < 10 ^ 2 by omega),
    part?_padded _ Nat.two_pos (show second < 10 ^ 2 by omega),
    fraction?_fractionText hNanos (c := 'Z') rfl (by decide)]
  exact if_pos ⟨hDate, hHour, hMinute, hSecond, trivial⟩

/-- The text of an instant is read as this instant. -/
theorem ofText?_text (t : Instant) : ofText? t.text = some t := by
  obtain ⟨n⟩ := t
  have hFraction : n.fmod 1000000000 = n % 1000000000 := Int.fmod_eq_emod_of_nonneg _ (by decide)
  have hSeconds : n.fdiv 1000000000 = n / 1000000000 := Int.fdiv_eq_ediv_of_nonneg _ (by decide)
  generalize hWhole : n / 1000000000 = seconds at hSeconds
  have hTime : seconds.fmod 86400 = seconds % 86400 := Int.fmod_eq_emod_of_nonneg _ (by decide)
  have hDays : seconds.fdiv 86400 = seconds / 86400 := Int.fdiv_eq_ediv_of_nonneg _ (by decide)
  obtain ⟨hValid, hNumber⟩ := Date.ofDays_isValid_number (seconds / 86400)
  rw [text, hSeconds, hFraction, hDays, hTime]
  refine (ofText?_of_parts hValid (by omega) (by omega) (by omega) (by omega)).trans ?_
  rw [hNumber]
  congr
  omega

theorem text_inj {t t' : Instant} : t.text = t'.text ↔ t = t' := by
  refine ⟨fun h => ?_, congrArg text⟩
  have hBoth : some t = some t' := by rw [← ofText?_text t, h, ofText?_text]
  exact Option.some.inj hBoth

end Instant

end Gatehouse.Time

import Gatehouse.Time.Instant
import Mathlib.Tactic.IntervalCases

/-! The calendar counted out.  The number of a date adds up the years and months before it, and the
date that is found for a number is a day of the calendar with this number.  A day of the calendar
is thus found for every number, and no two numbers have the same one. -/

namespace Gatehouse.Time

/-! ### Years and months -/

/-- Every fourth year has a day more, but not the last one of a century unless it is the last one
of four centuries. -/
def leapDays (year : Int) : Nat :=
  if year % 4 = 0 ∧ (year % 100 ≠ 0 ∨ year % 400 = 0) then 1 else 0

def daysInMonth (year : Int) : Nat → Nat
  | 2 => 28 + leapDays year
  | 4 | 6 | 9 | 11 => 30
  | _ => 31

/-- The days of a year before a month. -/
def daysBeforeMonth (year : Int) (month : Nat) : Nat :=
  ((List.range' 1 (month - 1)).map (daysInMonth year)).sum

/-- The leap days from the year 1 to the end of a year; before the year 1 they are taken off. -/
def leapDaysTo (year : Int) : Int := year / 4 - year / 100 + year / 400

/-- The days from the start of 1970 to the start of a year. -/
def daysBeforeYear (year : Int) : Int :=
  365 * (year - 1970) + (leapDaysTo (year - 1) - leapDaysTo 1969)

theorem leapDays_le (year : Int) : leapDays year ≤ 1 := by
  rw [leapDays]
  split <;> omega

theorem leapDaysTo_eq (year : Int) : leapDaysTo year = leapDaysTo (year - 1) + leapDays year := by
  rw [leapDaysTo, leapDaysTo, leapDays]
  split <;> omega

theorem leapDaysTo_era (year era : Int) :
    leapDaysTo (year + era * 400) = leapDaysTo year + era * 97 := by
  rw [leapDaysTo, leapDaysTo]
  omega

theorem daysBeforeYear_succ (year : Int) :
    daysBeforeYear (year + 1) = daysBeforeYear year + (365 + leapDays year) := by
  have hLeap := leapDaysTo_eq year
  rw [daysBeforeYear, daysBeforeYear, Int.add_sub_cancel]
  omega

theorem daysBeforeMonth_succ (year : Int) {month : Nat} (h : 1 ≤ month) :
    daysBeforeMonth year (month + 1) = daysBeforeMonth year month + daysInMonth year month := by
  obtain ⟨m, rfl⟩ := Nat.exists_eq_add_of_le' h
  simp [daysBeforeMonth, List.range'_concat, Nat.add_comm]

/-- From March to December the months follow a rule, and no leap day comes between them. -/
theorem daysInMonth_march (year : Int) {m : Nat} (h : m < 10) :
    (153 * m + 2) / 5 + daysInMonth year (m + 3) = (153 * (m + 1) + 2) / 5 := by
  interval_cases m <;> rfl

theorem daysBeforeMonth_march (year : Int) {m : Nat} (h : m < 10) :
    daysBeforeMonth year (m + 3) = 59 + leapDays year + (153 * m + 2) / 5 := by
  induction m with
  | zero =>
    simp only [daysBeforeMonth, List.range', List.map_cons, List.map_nil, List.sum_cons,
      List.sum_nil, daysInMonth]
    omega
  | succ m ih =>
    rw [Nat.add_right_comm, daysBeforeMonth_succ year (by omega), ih (by omega), Nat.add_assoc,
      daysInMonth_march year (by omega)]

namespace Date

/-- A day of the calendar. -/
structure IsValid (d : Date) : Prop where
  month_pos : 1 ≤ d.month
  month_le : d.month ≤ 12
  day_pos : 1 ≤ d.day
  day_le : d.day ≤ daysInMonth d.year d.month

theorem isValid_iff {d : Date} :
    d.IsValid ↔
      (1 ≤ d.month ∧ d.month ≤ 12) ∧ 1 ≤ d.day ∧ d.day ≤ daysInMonth d.year d.month :=
  ⟨fun h => ⟨⟨h.month_pos, h.month_le⟩, h.day_pos, h.day_le⟩,
    fun ⟨hMonth, hDay⟩ => ⟨hMonth.1, hMonth.2, hDay.1, hDay.2⟩⟩

instance (d : Date) : Decidable d.IsValid := decidable_of_iff' _ isValid_iff

/-- The days from the first of January 1970 to a date. -/
def number (d : Date) : Int :=
  daysBeforeYear d.year + daysBeforeMonth d.year d.month + d.day - 1

example : (Date.mk 1970 1 1).number = 0 ∧ (Date.mk 2000 2 29).number = 11016 := by decide

/-! ### Years from March on -/

/-- The date so many days after the first of March. -/
def afterMarch (year : Int) (day : Nat) : Date :=
  let month := (5 * day + 2) / 153
  let dayOfMonth := day - (153 * month + 2) / 5 + 1
  if month < 10 then ⟨year, month + 3, dayOfMonth⟩ else ⟨year + 1, month - 9, dayOfMonth⟩

/-- Up to the end of February the date is a day of the calendar, and its number is that of the first
of March and the days after it. -/
theorem afterMarch_isValid_number {year : Int} {day : Nat} (h : day < 365 + leapDays (year + 1)) :
    (afterMarch year day).IsValid ∧
      (afterMarch year day).number = 365 * year + leapDaysTo year - 719468 + day := by
  have hLeap := leapDays_le (year + 1)
  have hYear := leapDaysTo_eq year
  have hStart : leapDaysTo 1969 = 477 := by decide
  rw [afterMarch]
  split
  · rename_i hMonth
    have hLength := daysInMonth_march year hMonth
    have hBefore := daysBeforeMonth_march year hMonth
    refine ⟨?_, ?_⟩
    · constructor <;> dsimp only <;> omega
    · simp only [number, daysBeforeYear]
      omega
  · rename_i hMonth
    have hNext := daysBeforeYear_succ year
    obtain hJanuary | hFebruary : (5 * day + 2) / 153 = 10 ∨ (5 * day + 2) / 153 = 11 := by omega
    · have hLength : daysInMonth (year + 1) (10 - 9) = 31 := rfl
      have hBefore : daysBeforeMonth (year + 1) (10 - 9) = 0 := rfl
      rw [hJanuary]
      refine ⟨?_, ?_⟩
      · constructor <;> dsimp only <;> omega
      · simp only [number]
        rw [hNext, hBefore, daysBeforeYear]
        omega
    · have hLength : daysInMonth (year + 1) (11 - 9) = 28 + leapDays (year + 1) := rfl
      have hBefore : daysBeforeMonth (year + 1) (11 - 9) = 31 := rfl
      rw [hFebruary]
      refine ⟨?_, ?_⟩
      · constructor <;> dsimp only <;> omega
      · simp only [number]
        rw [hNext, hBefore, daysBeforeYear]
        omega

/-! ### Eras of 400 years -/

/-- The year of a day in an era. -/
def yearOfEra (n : Nat) : Nat := (n - n / 1460 + n / 36524 - n / 146096) / 365

/-- The day in its year of a day in an era. -/
def dayOfYear (n : Nat) : Nat := n - (365 * yearOfEra n + yearOfEra n / 4 - yearOfEra n / 100)

theorem ofDays_eq (n : Int) :
    ofDays n =
      let dayOfEra := ((n + 719468) % 146097).toNat
      afterMarch (yearOfEra dayOfEra + (n + 719468) / 146097 * 400) (dayOfYear dayOfEra) := by
  have hEra : (n + 719468).fdiv 146097 = (n + 719468) / 146097 :=
    Int.fdiv_eq_ediv_of_nonneg _ (by decide)
  have hDay : (n + 719468).fmod 146097 = (n + 719468) % 146097 :=
    Int.fmod_eq_emod_of_nonneg _ (by decide)
  rw [ofDays, hEra, hDay]
  rfl

/-- The place of a day in an era: the century, the four years in the century, the year among these,
and the day in the year.  A day more comes at the end of four years, but at the end of a century
only if it is the last one. -/
structure Place (n century cycle year day : Nat) : Prop where
  century_le : century ≤ 3
  cycle_le : cycle ≤ 24
  year_le : year ≤ 3
  day_lt : day < 365 ∨ day = 365 ∧ year = 3 ∧ (cycle < 24 ∨ century = 3)
  sum : n = 36524 * century + 1461 * cycle + 365 * year + day

theorem exists_place {n : Nat} (h : n < 146097) :
    ∃ century cycle year day, Place n century cycle year day := by
  obtain ⟨century, m, hSum, hCentury, hDay⟩ : ∃ century m, n = 36524 * century + m ∧
      century ≤ 3 ∧ (m < 36524 ∨ m = 36524 ∧ century = 3) := by
    by_cases hLast : n = 146096
    · exact ⟨3, 36524, by omega⟩
    · exact ⟨n / 36524, n % 36524, by omega⟩
  obtain ⟨year, day, hSum', hYear, hDay'⟩ : ∃ year day, m % 1461 = 365 * year + day ∧
      year ≤ 3 ∧ (day < 365 ∨ day = 365 ∧ year = 3) := by
    by_cases hLast : m % 1461 = 1460
    · exact ⟨3, 365, by omega⟩
    · exact ⟨m % 1461 / 365, m % 1461 % 365, by omega⟩
  exact ⟨century, m / 1461, year, day, hCentury, by omega, hYear, by omega, by omega⟩

namespace Place

variable {n century cycle year day : Nat}

theorem yearOfEra_eq (h : Place n century cycle year day) :
    yearOfEra n = 100 * century + 4 * cycle + year := by
  obtain ⟨hCentury, hCycle, hYear, hDay, hSum⟩ := h
  -- The days of a cycle beyond 1460 move the end of a year by one day at most.
  generalize hLate : (24 * century + cycle + 365 * year + day) / 1460 = late
  have hCycles : n / 1460 = 25 * century + cycle + late := by omega
  have hCenturies : n / 36524 = century + n / 146096 := by
    obtain hLast | hBefore : n = 146096 ∨ n < 36524 * (century + 1) := by omega
    · omega
    · omega
  have hDays : n - n / 1460 + n / 36524 - n / 146096 =
      365 * (100 * century + 4 * cycle + year) + (day - late) := by omega
  rw [yearOfEra, hDays]
  omega

theorem dayOfYear_eq (h : Place n century cycle year day) : dayOfYear n = day := by
  rw [dayOfYear, h.yearOfEra_eq]
  obtain ⟨hCentury, hCycle, hYear, hDay, hSum⟩ := h
  omega

/-- A year that is counted from March ends with the leap day, if it has one. -/
theorem day_lt_leap (h : Place n century cycle year day) (era : Int) :
    day < 365 + leapDays ((100 * century + 4 * cycle + year : Nat) + era * 400 + 1) := by
  obtain ⟨hCentury, hCycle, hYear, hDay, hSum⟩ := h
  rw [leapDays]
  split <;> omega

end Place

/-- The date with a number is a day of the calendar, and it has this number. -/
theorem ofDays_isValid_number (n : Int) : (ofDays n).IsValid ∧ (ofDays n).number = n := by
  rw [ofDays_eq]
  generalize hDay : ((n + 719468) % 146097).toNat = dayOfEra
  generalize hEra : (n + 719468) / 146097 = era
  obtain ⟨century, cycle, year, day, hPlace⟩ := exists_place (n := dayOfEra) (by omega)
  have hLt := hPlace.day_lt_leap era
  simp only [hPlace.yearOfEra_eq, hPlace.dayOfYear_eq]
  obtain ⟨hValid, hNumber⟩ := afterMarch_isValid_number hLt
  refine ⟨hValid, ?_⟩
  rw [hNumber, leapDaysTo_era, leapDaysTo]
  obtain ⟨hCentury, hCycle, hYear, -, hSum⟩ := hPlace
  omega

end Date

end Gatehouse.Time

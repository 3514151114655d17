import ShowUp.Shared.IsoDate

/-!
# The civil calendar

Days are counted from 1970-01-01 in both directions; every day is one date of the
proleptic Gregorian calendar. The day and year arithmetic is that of the language's
specification.
-/

namespace ShowUp.Civil

set_option autoImplicit false

open Moment (monthAndDate)

def inLeapYear (year : Int) : Bool := year % 4 = 0 && (year % 100 ≠ 0 || year % 400 = 0)

def daysInYear (year : Int) : Nat := if inLeapYear year then 366 else 365

/-- `DayFromYear` -/
def dayFromYear (year : Int) : Int :=
  365 * (year - 1970) + (year - 1969) / 4 - (year - 1901) / 100 + (year - 1601) / 400

/-- `YearFromTime`: by the mean length of a year, which is at most one year off -/
def yearFromDay (day : Int) : Int :=
  let year := 1970 + day * 400 / 146097
  if day < dayFromYear year then year - 1
  else if dayFromYear (year + 1) ≤ day then year + 1
  else year

def monthLengths (year : Int) : List Nat :=
  [31, if inLeapYear year then 29 else 28, 31, 30, 31, 30, 31, 31, 30, 31, 30, 31]

/-- The days of a month, which is counted from one. -/
def daysInMonth (year : Int) (month : Nat) : Nat := (monthLengths year)[month - 1]?.getD 0

structure Date where
  year : Int
  month : Nat
  date : Nat
  month_pos : 1 ≤ month
  date_pos : 1 ≤ date
  date_le : date ≤ daysInMonth year month

theorem dayFromYear_succ (year : Int) :
    dayFromYear (year + 1) = dayFromYear year + daysInYear year := by
  unfold dayFromYear daysInYear inLeapYear
  split
  · rename_i leap
    simp only [Bool.and_eq_true, Bool.or_eq_true, decide_eq_true_eq] at leap
    omega
  · rename_i common
    simp only [Bool.and_eq_true, Bool.or_eq_true, decide_eq_true_eq] at common
    omega

theorem dayFromYear_yearFromDay (day : Int) :
    dayFromYear (yearFromDay day) ≤ day ∧ day < dayFromYear (yearFromDay day + 1) := by
  unfold yearFromDay
  dsimp only
  split
  · rename_i early
    refine ⟨?_, by rwa [Int.sub_add_cancel]⟩
    unfold dayFromYear
    omega
  · split
    · rename_i late
      refine ⟨late, ?_⟩
      unfold dayFromYear
      omega
    · rename_i notEarly notLate
      exact ⟨Int.not_lt.mp notEarly, Int.not_le.mp notLate⟩

theorem dayFromYear_mono {a b : Int} (h : a ≤ b) : dayFromYear a ≤ dayFromYear b := by
  unfold dayFromYear
  omega

/-- The year of a day is the last one that has begun. -/
theorem le_yearFromDay_iff {year day : Int} : year ≤ yearFromDay day ↔ dayFromYear year ≤ day := by
  obtain ⟨begun, ends⟩ := dayFromYear_yearFromDay day
  constructor
  · exact fun h => (dayFromYear_mono h).trans begun
  · intro h
    by_contra later
    have after : yearFromDay day + 1 ≤ year := by omega
    exact absurd ((dayFromYear_mono after).trans h) (Int.not_le.mpr ends)

theorem sum_monthLengths (year : Int) : (monthLengths year).sum = daysInYear year := by
  unfold monthLengths daysInYear
  split <;> rfl

/-- The day within the year, from its month and date. -/
theorem monthAndDate_spec {lengths : List Nat} {day : Nat} (h : day < lengths.sum) :
    1 ≤ (monthAndDate lengths day).1 ∧ 1 ≤ (monthAndDate lengths day).2 ∧
      (monthAndDate lengths day).2 ≤ lengths[(monthAndDate lengths day).1 - 1]?.getD 0 ∧
      (lengths.take ((monthAndDate lengths day).1 - 1)).sum + ((monthAndDate lengths day).2 - 1) =
        day := by
  induction lengths generalizing day with
  | nil => exact absurd h (Nat.not_lt_zero day)
  | cons length rest ih =>
    unfold monthAndDate
    split
    · rename_i first
      refine ⟨Nat.le_refl 1, Nat.succ_pos day, first, ?_⟩
      simp
    · rename_i past
      have inRest : day - length < rest.sum := by
        rw [List.sum_cons] at h
        omega
      obtain ⟨month, date, bound, whole⟩ := ih inRest
      dsimp only
      obtain ⟨month', next⟩ := Nat.exists_eq_succ_of_ne_zero (Nat.pos_iff_ne_zero.mp month)
      rw [next] at bound whole ⊢
      refine ⟨Nat.succ_pos _, date, bound, ?_⟩
      simp only [Nat.add_sub_cancel, Nat.succ_eq_add_one, List.take_succ_cons, List.sum_cons]
        at whole ⊢
      omega

theorem dayInYear_lt (day : Int) :
    (day - dayFromYear (yearFromDay day)).toNat < (monthLengths (yearFromDay day)).sum := by
  obtain ⟨begun, ends⟩ := dayFromYear_yearFromDay day
  rw [dayFromYear_succ] at ends
  rw [sum_monthLengths]
  omega

/-- `MonthFromTime` and `DateFromTime`, with the year -/
def Date.ofDay (day : Int) : Date :=
  let inYear := (day - dayFromYear (yearFromDay day)).toNat
  { year := yearFromDay day
    month := (monthAndDate (monthLengths (yearFromDay day)) inYear).1
    date := (monthAndDate (monthLengths (yearFromDay day)) inYear).2
    month_pos := (monthAndDate_spec (dayInYear_lt day)).1
    date_pos := (monthAndDate_spec (dayInYear_lt day)).2.1
    date_le := (monthAndDate_spec (dayInYear_lt day)).2.2.1 }

/-- `MakeDay` of a date -/
def Date.toDay (d : Date) : Int :=
  dayFromYear d.year + ((monthLengths d.year).take (d.month - 1)).sum + (d.date - 1 : Nat)

theorem Date.toDay_ofDay (day : Int) : (ofDay day).toDay = day := by
  have whole := (monthAndDate_spec (dayInYear_lt day)).2.2.2
  have begun := (dayFromYear_yearFromDay day).1
  unfold toDay ofDay
  dsimp only
  omega

theorem Date.month_le (d : Date) : d.month ≤ 12 := by
  have positive := Nat.le_trans d.date_pos d.date_le
  by_contra late
  rw [daysInMonth, List.getElem?_eq_none] at positive
  · exact absurd positive (by decide)
  · change 12 ≤ d.month - 1
    omega

theorem daysInMonth_le (year : Int) (month : Nat) : daysInMonth year month ≤ 31 := by
  have lengths : ∀ n ∈ monthLengths year, n ≤ 31 := by
    unfold monthLengths
    split <;> decide
  unfold daysInMonth
  cases known : (monthLengths year)[month - 1]? with
  | none => exact Nat.zero_le 31
  | some n => exact lengths n (List.mem_of_getElem? known)

end ShowUp.Civil

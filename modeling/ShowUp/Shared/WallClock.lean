import ShowUp.Shared.Civil

/-!
# Local time

A local time is counted in milliseconds, like a time value, as a clock on the wall
shows it. `Date.parse` takes the form `YYYY-MM-DDTHH:mm` for local time.
-/

namespace ShowUp.WallClock

set_option autoImplicit false

open Utf16 Moment Civil

def date (localMs : Int) : Civil.Date := .ofDay (localMs / msPerDay)

/-- `HourFromTime` -/
def hours (localMs : Int) : Nat := (localMs / 3600000 % 24).toNat

/-- `MinFromTime` -/
def minutes (localMs : Int) : Nat := (localMs / 60000 % 60).toNat

/-- The local time of a date and a time of the day -/
def make (date : Civil.Date) (hours minutes : Nat) : Int :=
  date.toDay * msPerDay + hours * 3600000 + minutes * 60000

/-- A number of as many digits -/
def readNumber (length : Nat) (text : Text) : Option (Nat × Text) :=
  if length ≤ text.length ∧ (text.take length).all isDigit then
    some (value (text.take length), text.drop length)
  else none

def readUnit (unit : UInt16) : Text → Option Text
  | [] => none
  | u :: rest => if u = unit then some rest else none

def makeDate (year month date : Nat) : Option Civil.Date :=
  if h : 1 ≤ month ∧ 1 ≤ date ∧ date ≤ daysInMonth year month then
    some ⟨year, month, date, h.1, h.2.1, h.2.2⟩
  else none

/-- `YYYY-MM-DDTHH:mm`, where midnight at the end of a day is 24:00 -/
def parse (text : Text) : Option Int := do
  let (year, rest) ← readNumber 4 text
  let rest ← readUnit hyphen rest
  let (month, rest) ← readNumber 2 rest
  let rest ← readUnit hyphen rest
  let (date, rest) ← readNumber 2 rest
  let rest ← readUnit upperT rest
  let (hours, rest) ← readNumber 2 rest
  let rest ← readUnit colon rest
  let (minutes, rest) ← readNumber 2 rest
  let date ← makeDate year month date
  if rest = [] ∧ (hours < 24 ∧ minutes < 60 ∨ hours = 24 ∧ minutes = 0) then
    some (make date hours minutes)
  else none

theorem readNumber_padded {length n : Nat} (pos : 0 < length) (small : n < 10 ^ length)
    (rest : Text) : readNumber length (padded length n ++ rest) = some (n, rest) := by
  obtain ⟨digits, size, read⟩ := padStart_ofNat pos small
  unfold readNumber padded
  rw [List.take_left' size, List.drop_left' size, read, if_pos]
  refine ⟨?_, List.all_eq_true.mpr digits⟩
  rw [List.length_append, size]
  exact Nat.le_add_right _ _

theorem readUnit_cons (unit : UInt16) (rest : Text) : readUnit unit (unit :: rest) = some rest :=
  if_pos rfl

theorem makeDate_of {d : Civil.Date} {year : Nat} (same : d.year = year) :
    makeDate year d.month d.date = some d := by
  obtain ⟨year', month, date, month_pos, date_pos, date_le⟩ := d
  cases same
  exact dif_pos ⟨month_pos, date_pos, date_le⟩

theorem hours_lt (localMs : Int) : hours localMs < 24 := by
  unfold hours
  omega

theorem minutes_lt (localMs : Int) : minutes localMs < 60 := by
  unfold minutes
  omega

/-- What the clock shows is the time to the minute. -/
theorem make_date (localMs : Int) :
    make (date localMs) (hours localMs) (minutes localMs) = localMs / 60000 * 60000 := by
  unfold make date hours minutes msPerDay
  rw [Date.toDay_ofDay]
  omega

/-- Printed in four and two digits, a local time is read back. -/
theorem parse_printed {localMs : Int} {year : Nat} (same : (date localMs).year = year)
    (fits : year < 10000) :
    parse (padded 4 year ++ hyphen :: (padded 2 (date localMs).month ++ hyphen ::
      (padded 2 (date localMs).date ++ upperT :: (padded 2 (hours localMs) ++ colon ::
        padded 2 (minutes localMs))))) = some (localMs / 60000 * 60000) := by
  have month := (date localMs).month_le
  have day := (date localMs).date_le.trans (daysInMonth_le _ _)
  have hour := hours_lt localMs
  have minute := minutes_lt localMs
  have readYear := readNumber_padded (by decide : 0 < 4) (by omega : year < 10 ^ 4)
  have readMonth := readNumber_padded (by decide : 0 < 2) (by omega : (date localMs).month < 10 ^ 2)
  have readDate := readNumber_padded (by decide : 0 < 2) (by omega : (date localMs).date < 10 ^ 2)
  have readHours := readNumber_padded (by decide : 0 < 2) (by omega : hours localMs < 10 ^ 2)
  have readMinutes := readNumber_padded (by decide : 0 < 2) (by omega : minutes localMs < 10 ^ 2) []
  rw [List.append_nil] at readMinutes
  simp only [parse, readYear, readMonth, readDate, readHours, readMinutes, readUnit_cons,
    makeDate_of same, Option.bind_eq_bind, Option.bind_some]
  rw [if_pos ⟨trivial, Or.inl ⟨hour, minute⟩⟩, make_date]

end ShowUp.WallClock

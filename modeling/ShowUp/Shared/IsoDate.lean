import Mathlib.Data.Nat.Find
import ShowUp.Shared.Decimal

/-!
# Dates as text

`new Date(milliseconds).toISOString()` for a moment of the years 1970 to 9999,
by the day and year arithmetic of the language's specification.
-/

namespace ShowUp

set_option autoImplicit false

open Utf16

def msPerDay : Nat := 86400000

/-- A time value of the years 1970 to 9999. -/
structure Moment where
  ms : Nat
  upper : ms < 253402300800000

namespace Moment

/-- `TimeClip`, for a time value inside these years: fractions are cut off towards zero. -/
def ofMs? (time : ℚ) : Option Moment :=
  let ms := time.num.tdiv time.den
  if h : 0 ≤ ms ∧ ms < 253402300800000 then some ⟨ms.toNat, by omega⟩ else none

theorem ofMs?_isSome {time : ℚ} (n : Nat) (same : time = n) (early : n < 253402300800000) :
    (ofMs? time).isSome := by
  have whole : (0 : Int) ≤ (n : ℚ).num.tdiv (n : ℚ).den ∧
      (n : ℚ).num.tdiv (n : ℚ).den < 253402300800000 := by
    rw [Rat.num_natCast, Rat.den_natCast, Nat.cast_one, Int.tdiv_one]
    omega
  rw [same, ofMs?, dif_pos whole]
  rfl

/-- `DayFromYear`, from 1970 on -/
def dayFromYear (year : Nat) : Nat :=
  365 * (year - 1970) + (year - 1969) / 4 + (year - 1601) / 400 - (year - 1901) / 100

/-- `YearFromTime`: the last year that has begun on the day -/
def yearFromDay (day : Nat) : Nat :=
  1970 + Nat.findGreatest (fun years => dayFromYear (1970 + years) ≤ day) (day / 365)

def inLeapYear (year : Nat) : Bool := year % 4 = 0 && (year % 100 ≠ 0 || year % 400 = 0)

def monthLengths (year : Nat) : List Nat :=
  [31, if inLeapYear year then 29 else 28, 31, 30, 31, 30, 31, 31, 30, 31, 30, 31]

/-- `MonthFromTime`, counted from one, and `DateFromTime`, from the day within the year -/
def monthAndDate : List Nat → Nat → Nat × Nat
  | [], dayInYear => (1, dayInYear + 1)
  | length :: rest, dayInYear =>
    if dayInYear < length then (1, dayInYear + 1)
    else
      let later := monthAndDate rest (dayInYear - length)
      (later.1 + 1, later.2)

def padded (length n : Nat) : Text := padStart length zero (ofNat n)

def hyphen : UInt16 := 0x2D

def colon : UInt16 := 0x3A

def upperT : UInt16 := 0x54

def upperZ : UInt16 := 0x5A

/-- `YYYY-MM-DDTHH:mm:ss.sssZ` -/
def toISOString (moment : Moment) : Text :=
  let day := moment.ms / msPerDay
  let year := yearFromDay day
  let (month, date) := monthAndDate (monthLengths year) (day - dayFromYear year)
  let inDay := moment.ms % msPerDay
  padded 4 year ++ hyphen :: padded 2 month ++ hyphen :: padded 2 date ++ upperT ::
    padded 2 (inDay / 3600000) ++ colon :: padded 2 (inDay / 60000 % 60) ++ colon ::
    padded 2 (inDay / 1000 % 60) ++ point :: padded 3 (inDay % 1000) ++ [upperZ]

example : toISOString ⟨1709210096789, by decide⟩ = ofString "2024-02-29T12:34:56.789Z" := by decide

def DateUnit (u : UInt16) : Prop :=
  isDigit u = true ∨ u = hyphen ∨ u = colon ∨ u = point ∨ u = upperT ∨ u = upperZ

theorem dateUnit_padded {length n : Nat} {u : UInt16} (h : u ∈ padded length n) : DateUnit u := by
  rcases List.mem_append.mp h with h | h
  · rw [List.eq_of_mem_replicate h]
    exact Or.inl (by decide)
  · exact Or.inl (Decimal.all_digits _ u h)

/-- A date is written with digits, its separators and the two letters. -/
theorem dateUnit_toISOString (moment : Moment) : ∀ u ∈ moment.toISOString, DateUnit u := by
  intro u h
  have cons : ∀ {v : UInt16} {rest : Text}, DateUnit v → (u ∈ rest → DateUnit u) →
      u ∈ v :: rest → DateUnit u := by
    intro v rest hv later h
    rcases List.mem_cons.mp h with rfl | h
    · exact hv
    · exact later h
  have append : ∀ {left right : Text}, (u ∈ left → DateUnit u) → (u ∈ right → DateUnit u) →
      u ∈ left ++ right → DateUnit u := fun hl hr h => (List.mem_append.mp h).elim hl hr
  have hHyphen : DateUnit hyphen := Or.inr (Or.inl rfl)
  have hColon : DateUnit colon := Or.inr (Or.inr (Or.inl rfl))
  have hPoint : DateUnit point := Or.inr (Or.inr (Or.inr (Or.inl rfl)))
  have hT : DateUnit upperT := Or.inr (Or.inr (Or.inr (Or.inr (Or.inl rfl))))
  have hZ : DateUnit upperZ := Or.inr (Or.inr (Or.inr (Or.inr (Or.inr rfl))))
  revert h
  unfold toISOString
  dsimp only
  refine append (append (append (append (append (append (append dateUnit_padded ?_) ?_) ?_) ?_) ?_)
    ?_) ?_
  · exact cons hHyphen dateUnit_padded
  · exact cons hHyphen dateUnit_padded
  · exact cons hT dateUnit_padded
  · exact cons hColon dateUnit_padded
  · exact cons hColon dateUnit_padded
  · exact cons hPoint dateUnit_padded
  · exact cons hZ fun h => absurd h List.not_mem_nil

end Moment

end ShowUp

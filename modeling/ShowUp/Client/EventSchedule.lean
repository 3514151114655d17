import ShowUp.Client.EventForm
import ShowUp.Contract.Rules
import ShowUp.Shared.Double
import ShowUp.Shared.WallClock

/-!
# Schedules of new events

`lib/domain/event-schedule.ts`, under a time zone of a fixed offset. The presets
pass through text: a start is printed as local time, parsed, and printed again with
the three times around it, which the form parses once more.
-/

namespace ShowUp.Client

set_option autoImplicit false

open Utf16

/-- An offset from UTC as `±HH:mm` writes it: less than a day, as the language has it. -/
structure ZoneOffset where
  minutes : Int
  lower : -1440 < minutes
  upper : minutes < 1440

/-- `TimeClip`, with nothing for NaN -/
def TimeValue.ofInt? (ms : Int) : Option TimeValue :=
  if h : -8640000000000000 ≤ ms ∧ ms ≤ 8640000000000000 then some ⟨ms, h.1, h.2⟩ else none

/-- `new Date(value)`, with nothing for an invalid date: fractions are cut off towards zero. -/
def newDate : Double → Option TimeValue
  | .finite time => TimeValue.ofInt? (time.num.tdiv time.den)
  | _ => none

/-- `LocalTime` -/
def localTime (offset : ZoneOffset) (time : TimeValue) : Int := time.ms + offset.minutes * 60000

/-- `Date.parse(text)`: for texts other than `YYYY-MM-DDTHH:mm` it is what `otherwise` says. -/
def dateParse (offset : ZoneOffset) (otherwise : Text → Option TimeValue) (text : Text) :
    Option TimeValue :=
  match WallClock.parse text with
  | some localMs => TimeValue.ofInt? (localMs - offset.minutes * 60000)
  | none => otherwise text

structure EventSchedule where
  startTime : Text
  checkinStart : Text
  checkinDeadline : Text
  cancellationDeadline : Text

def minuteMs : Int := 60000

def hourMs : Int := 60 * minuteMs

def eventScheduleStepSeconds : Int := 5 * 60

/-- `String(n)` of an integer -/
def integerText (n : Int) : Text :=
  if n < 0 then minus :: ofNat n.natAbs else ofNat n.natAbs

/-- `padStart(2, "0")` of a number that is not negative -/
abbrev twoDigits (n : Nat) : Text := Moment.padded 2 n

def toLocalDateTimeValue (offset : ZoneOffset) : Option TimeValue → Text
  -- every field of an invalid date is NaN
  | none => ofString "NaN-NaN-NaNTNaN:NaN"
  | some time =>
    let t := localTime offset time
    integerText (WallClock.date t).year ++ Moment.hyphen ::
      (twoDigits (WallClock.date t).month ++ Moment.hyphen ::
        (twoDigits (WallClock.date t).date ++ Moment.upperT ::
          (twoDigits (WallClock.hours t) ++ Moment.colon :: twoDigits (WallClock.minutes t))))

section Presets
variable (offset : ZoneOffset) (otherwise : Text → Option TimeValue)

def scheduleAroundStart (startTime : Text) : Option EventSchedule :=
  (dateParse offset otherwise startTime).map fun start =>
    let startMs : Double := .finite start.ms
    { startTime := toLocalDateTimeValue offset (newDate startMs)
      cancellationDeadline :=
        toLocalDateTimeValue offset (newDate (startMs.sub (.finite (2 * hourMs : Int))))
      checkinStart :=
        toLocalDateTimeValue offset (newDate (startMs.sub (.finite (30 * minuteMs : Int))))
      checkinDeadline := toLocalDateTimeValue offset (newDate (startMs.add (.finite hourMs))) }

def startingSoon (nowMs : Double) : Text :=
  let stepMs := eventScheduleStepSeconds * 1000
  let target := nowMs.add (.finite (20 * minuteMs : Int))
  toLocalDateTimeValue offset (newDate ((target.divBy stepMs).ceil.mulBy stepMs))

end Presets

/-- What the form makes of a schedule: unix seconds. -/
structure SubmittedTimes where
  startTime : SafeInt
  checkinStart : SafeInt
  checkinDeadline : SafeInt
  cancellationDeadline : SafeInt

def EventSchedule.submitted (dateParse : Text → Option TimeValue) (schedule : EventSchedule) :
    Option SubmittedTimes := do
  let startTime ← toUnixSeconds dateParse schedule.startTime
  let checkinStart ← toUnixSeconds dateParse schedule.checkinStart
  let checkinDeadline ← toUnixSeconds dateParse schedule.checkinDeadline
  let cancellationDeadline ← toUnixSeconds dateParse schedule.cancellationDeadline
  return { startTime, checkinStart, checkinDeadline, cancellationDeadline }

/-- The contract's arguments have these times. -/
structure SubmittedTimes.Carried (times : SubmittedTimes) (args : CreateEventArgs) : Prop where
  startTime : (args.startTime.toNat : Int) = times.startTime.val
  checkinStart : (args.checkinStart.toNat : Int) = times.checkinStart.val
  checkinDeadline : (args.checkinDeadline.toNat : Int) = times.checkinDeadline.val
  cancellationDeadline :
    (args.cancellationDeadline.toNat : Int) = times.cancellationDeadline.val

/-- The times are in order, and check-in is open at a moment given in milliseconds. -/
structure SubmittedTimes.OpenAt (times : SubmittedTimes) (now : Int) : Prop where
  cancellation_nonneg : 0 ≤ times.cancellationDeadline.val
  cancellation_le : times.cancellationDeadline.val ≤ times.checkinStart.val
  start_ge : times.checkinStart.val ≤ times.startTime.val
  start_le : times.startTime.val ≤ times.checkinDeadline.val
  opened : (times.checkinStart.val : ℚ) ≤ now / 1000
  closes : (now : ℚ) / 1000 < times.checkinDeadline.val

theorem newDate_int (ms : Int) : newDate (.finite ms) = TimeValue.ofInt? ms := by
  rw [newDate, Rat.num_intCast, Rat.den_intCast, Nat.cast_one, Int.tdiv_one]

theorem TimeValue.ofInt?_ms (time : TimeValue) : ofInt? time.ms = some time :=
  dif_pos ⟨time.lower, time.upper⟩

/-- The division by 1000 in double precision does not disturb the whole seconds. -/
theorem toSeconds_eq (parsed : TimeValue) :
    ((Double.finite parsed.ms).divBy 1000).floor = .finite parsed.toSeconds.val := by
  have lower := parsed.lower
  have upper := parsed.upper
  have small : |parsed.ms| < 2 ^ 53 := abs_lt.mpr ⟨by omega, by omega⟩
  have quotient := Double.floor_ofRat_div small (by decide : (0 : Int) < 1000) (by decide)
  have same : ⌊(parsed.ms : ℚ) / (1000 : Int)⌋ = parsed.ms / 1000 :=
    Rat.floor_intCast_div_natCast parsed.ms 1000
  rw [same] at quotient
  exact quotient

theorem integerText_fourDigits {year : Nat} (large : 1000 ≤ year) :
    integerText year = Moment.padded 4 year := by
  have long := Digits.lt_length_ofNat (by omega : 10 ^ 3 ≤ year)
  have filled : 4 - (ofNat year).length = 0 := by
    unfold ofNat
    rw [List.length_map]
    omega
  rw [integerText, if_neg (Int.not_lt.mpr (Int.natCast_nonneg year)), Int.natAbs_natCast,
    Moment.padded, padStart, filled, List.replicate_zero, List.nil_append]

section Printed
variable {offset : ZoneOffset} {otherwise : Text → Option TimeValue}

/-- Wherever the clock hangs, it shows a year of four digits. -/
theorem exists_year (offset : ZoneOffset) {time : TimeValue} (nonneg : 0 ≤ time.ms)
    (bound : time.ms < 253402214400000) :
    ∃ year : Nat, (WallClock.date (localTime offset time)).year = year ∧ 1000 ≤ year ∧
      year < 10000 := by
  have zone := offset.lower
  have zone' := offset.upper
  have early : (1000 : Int) ≤ Civil.yearFromDay (localTime offset time / msPerDay) := by
    rw [Civil.le_yearFromDay_iff]
    unfold localTime msPerDay Civil.dayFromYear
    omega
  have late : ¬ (10000 : Int) ≤ Civil.yearFromDay (localTime offset time / msPerDay) := by
    rw [Civil.le_yearFromDay_iff]
    unfold localTime msPerDay Civil.dayFromYear
    omega
  change ∃ year : Nat, Civil.yearFromDay (localTime offset time / msPerDay) = year ∧ _
  exact ⟨(Civil.yearFromDay (localTime offset time / msPerDay)).toNat,
    by omega, by omega, by omega⟩

/-- A printed time is parsed as the same time, to the minute. -/
theorem dateParse_printed {time : TimeValue} (nonneg : 0 ≤ time.ms)
    (bound : time.ms < 253402214400000) :
    dateParse offset otherwise (toLocalDateTimeValue offset (some time)) =
      TimeValue.ofInt? (time.ms / 60000 * 60000) := by
  obtain ⟨year, same, four, fits⟩ := exists_year offset nonneg bound
  have parsed := WallClock.parse_printed same fits
  have minutes : localTime offset time / 60000 * 60000 - offset.minutes * 60000 =
      time.ms / 60000 * 60000 := by
    unfold localTime
    omega
  unfold toLocalDateTimeValue
  dsimp only
  rw [same, integerText_fourDigits four]
  unfold dateParse
  rw [parsed]
  dsimp only
  rw [minutes]

theorem printed_ne_nil (date : Option TimeValue) : toLocalDateTimeValue offset date ≠ [] := by
  cases date with
  | none =>
    change ofString "NaN-NaN-NaNTNaN:NaN" ≠ []
    decide
  | some time => exact List.append_ne_nil_of_right_ne_nil _ (List.cons_ne_nil _ _)

/-- A time of whole minutes passes through the form's text unchanged. -/
theorem reads_back (offset : ZoneOffset) (otherwise : Text → Option TimeValue) {ms : Int}
    (whole : 60000 ∣ ms) (nonneg : 0 ≤ ms) (bound : ms < 253402214400000) :
    ∃ time : TimeValue, time.ms = ms ∧
      dateParse offset otherwise (toLocalDateTimeValue offset (newDate (.finite ms))) =
        some time := by
  have date : newDate (.finite ms) = some ⟨ms, by omega, by omega⟩ := by
    rw [newDate_int]
    exact dif_pos ⟨by omega, by omega⟩
  refine ⟨⟨ms, by omega, by omega⟩, rfl, ?_⟩
  rw [date, dateParse_printed nonneg bound, Int.ediv_mul_cancel whole]
  exact TimeValue.ofInt?_ms ⟨ms, _, _⟩

theorem seconds_back (offset : ZoneOffset) (otherwise : Text → Option TimeValue) {ms : Int}
    (whole : 60000 ∣ ms) (nonneg : 0 ≤ ms) (bound : ms < 253402214400000) :
    ∃ seconds : SafeInt, seconds.val = ms / 1000 ∧
      toUnixSeconds (dateParse offset otherwise)
        (toLocalDateTimeValue offset (newDate (.finite ms))) = some seconds := by
  obtain ⟨time, rfl, parsed⟩ := reads_back offset otherwise whole nonneg bound
  refine ⟨time.toSeconds, rfl, ?_⟩
  rw [toUnixSeconds, if_neg (printed_ne_nil _), parsed, Option.map_some]

end Printed

theorem safe_of_bounds {n : Int} (nonneg : 0 ≤ n) (bound : n < 253402214400000) :
    |n| < 2 ^ 53 := by
  rw [abs_of_nonneg nonneg]
  omega

/-- The start is the first step that is twenty minutes away. -/
theorem startingSoon_eq (offset : ZoneOffset) {now : Int} (nonneg : 0 ≤ now)
    (bound : now < 253370764800000) :
    ∃ start : Int, startingSoon offset (.finite now) =
        toLocalDateTimeValue offset (newDate (.finite start)) ∧
      300000 ∣ start ∧ now + 1200000 ≤ start ∧ start < now + 1500000 := by
  have small : |now + 1200000| < 2 ^ 53 := safe_of_bounds (by omega) (by omega)
  have target : (Double.finite now).add (.finite (20 * minuteMs : Int)) =
      .finite (now + 1200000 : Int) := Double.add_int small
  have positive : (0 : ℚ) < (300000 : Int) := by norm_num
  have above := Int.le_ceil (((now + 1200000 : Int) : ℚ) / (300000 : Int))
  have below := Int.ceil_lt_add_one (((now + 1200000 : Int) : ℚ) / (300000 : Int))
  have raised := Double.ceil_ofRat_div small (by decide : (0 : Int) < 300000) (by decide)
  generalize ⌈((now + 1200000 : Int) : ℚ) / (300000 : Int)⌉ = steps at above below raised
  have least : now + 1200000 ≤ steps * 300000 := by
    rw [div_le_iff₀ positive] at above
    exact_mod_cast above
  have most : steps * 300000 < now + 1500000 := by
    rw [← sub_lt_iff_lt_add, lt_div_iff₀ positive] at below
    have below' : ((((steps - 1) * 300000 : Int)) : ℚ) < ((now + 1200000 : Int) : ℚ) := by
      push_cast at below ⊢
      exact below
    have := Int.cast_lt.mp below'
    omega
  refine ⟨steps * 300000, ?_, Dvd.intro_left steps rfl, least, most⟩
  have start := Double.mulBy_int (safe_of_bounds (by omega) (by omega) : |steps * 300000| < 2 ^ 53)
  unfold startingSoon
  dsimp only
  rw [target]
  change toLocalDateTimeValue offset
    (newDate (((Double.ofRat ((now + 1200000 : Int) / (300000 : Int))).ceil).mulBy (300000 : Int))) = _
  rw [raised, start]

/-- The four times that come of a start of whole minutes -/
theorem scheduleAroundStart_submitted (offset : ZoneOffset) (otherwise : Text → Option TimeValue)
    {start : Int} (whole : 60000 ∣ start) (early : 7200000 ≤ start)
    (late : start < 253402210800000) :
    ∃ schedule times, scheduleAroundStart offset otherwise
        (toLocalDateTimeValue offset (newDate (.finite start))) = some schedule ∧
      schedule.submitted (dateParse offset otherwise) = some times ∧
      times.startTime.val = start / 1000 ∧
      times.checkinStart.val = (start - 1800000) / 1000 ∧
      times.checkinDeadline.val = (start + 3600000) / 1000 ∧
      times.cancellationDeadline.val = (start - 7200000) / 1000 := by
  have before : ∀ {ms : Int}, 0 ≤ ms → ms ≤ 7200000 →
      (Double.finite start).sub (.finite ms) = .finite (start - ms : Int) :=
    fun nonneg bound => Double.sub_int (safe_of_bounds (by omega) (by omega))
  have after : (Double.finite start).add (.finite hourMs) = .finite (start + 3600000 : Int) :=
    Double.add_int (safe_of_bounds (by omega) (by omega) : |start + 3600000| < 2 ^ 53)
  have scheduled : scheduleAroundStart offset otherwise
      (toLocalDateTimeValue offset (newDate (.finite start))) = some
        { startTime := toLocalDateTimeValue offset (newDate (.finite start))
          checkinStart := toLocalDateTimeValue offset (newDate (.finite (start - 1800000 : Int)))
          checkinDeadline :=
            toLocalDateTimeValue offset (newDate (.finite (start + 3600000 : Int)))
          cancellationDeadline :=
            toLocalDateTimeValue offset (newDate (.finite (start - 7200000 : Int))) } := by
    obtain ⟨time, rfl, parsed⟩ := reads_back offset otherwise whole (by omega) (by omega)
    rw [scheduleAroundStart, parsed, Option.map_some]
    dsimp only
    rw [after, before (by decide) (by decide), before (by decide) (by decide)]
    rfl
  obtain ⟨s, hs, startTime⟩ := seconds_back offset otherwise whole (by omega) (by omega)
  obtain ⟨o, ho, checkinStart⟩ := seconds_back offset otherwise
    (by omega : 60000 ∣ start - 1800000) (by omega) (by omega)
  obtain ⟨d, hd, checkinDeadline⟩ := seconds_back offset otherwise
    (by omega : 60000 ∣ start + 3600000) (by omega) (by omega)
  obtain ⟨x, hx, cancellationDeadline⟩ := seconds_back offset otherwise
    (by omega : 60000 ∣ start - 7200000) (by omega) (by omega)
  refine ⟨_, ⟨s, o, d, x⟩, scheduled, ?_, hs, ho, hd, hx⟩
  simp only [EventSchedule.submitted, startTime, checkinStart, checkinDeadline,
    cancellationDeadline, Option.bind_eq_bind, Option.bind_some, Option.pure_def]

/-- The preset that starts now gives a schedule `create_event` takes, with check-in open: both
`reserve` and `check_in` find the clock within their bounds. -/
theorem start_now_open (offset : ZoneOffset) (otherwise : Text → Option TimeValue) {now : Int}
    (after : 86400000 ≤ now) (before : now < 253370764800000) :
    ∃ schedule times,
      scheduleAroundStart offset otherwise (startingSoon offset (.finite now)) = some schedule ∧
      schedule.submitted (dateParse offset otherwise) = some times ∧ times.OpenAt now ∧
      ∀ args : CreateEventArgs, times.Carried args →
        args.cancellationDeadline ≤ args.checkinStart ∧ args.checkinStart ≤ args.startTime ∧
        args.startTime ≤ args.checkinDeadline ∧
        ∀ {contract : Address} (env : Env contract) (id : UInt64) (participant : Address),
          (env.timestamp.toNat : Int) = now / 1000 → env.authorizes args.organizer →
          env.timestamp < (args.toEvent id).checkinDeadline ∧
          Exit.checkIn.Open env (args.toEvent id) participant := by
  obtain ⟨start, printed, step, least, most⟩ := startingSoon_eq offset (by omega) before
  obtain ⟨schedule, times, scheduled, submitted, hs, ho, hd, hx⟩ :=
    scheduleAroundStart_submitted offset otherwise (by omega : 60000 ∣ start) (by omega) (by omega)
  rw [← printed] at scheduled
  refine ⟨schedule, times, scheduled, submitted, ?_, ?_⟩
  · refine ⟨by omega, by omega, by omega, by omega, ?_, ?_⟩
    · have opened : times.checkinStart.val * 1000 ≤ now := by omega
      rw [le_div_iff₀ (by norm_num)]
      exact_mod_cast opened
    · have closes : now < times.checkinDeadline.val * 1000 := by omega
      rw [div_lt_iff₀ (by norm_num)]
      exact_mod_cast closes
  · intro args carried
    have cs := carried.startTime
    have co := carried.checkinStart
    have cd := carried.checkinDeadline
    have cx := carried.cancellationDeadline
    simp only [UInt64.le_iff_toNat_le, UInt64.lt_iff_toNat_lt]
    refine ⟨by omega, by omega, by omega, ?_⟩
    intro contract env id participant clock signed
    have opened : args.checkinStart.toNat ≤ env.timestamp.toNat := by omega
    have closes : env.timestamp.toNat < args.checkinDeadline.toNat := by omega
    exact ⟨closes, signed, rfl, UInt64.le_iff_toNat_le.mpr opened,
      UInt64.le_iff_toNat_le.mpr closes.le⟩

/-- The moment of the source's own test, in Istanbul. -/
theorem start_now_open_istanbul : ∃ schedule times,
    scheduleAroundStart ⟨180, by decide, by decide⟩ (fun _ => none)
      (startingSoon ⟨180, by decide, by decide⟩ (.finite (1789890720000 : Int))) = some schedule ∧
    schedule.submitted (dateParse ⟨180, by decide, by decide⟩ fun _ => none) = some times ∧
    times.OpenAt 1789890720000 := by
  obtain ⟨schedule, times, scheduled, submitted, isOpen, _⟩ :=
    start_now_open ⟨180, by decide, by decide⟩ (fun _ => none)
      (by decide : 86400000 ≤ (1789890720000 : Int)) (by decide)
  exact ⟨schedule, times, scheduled, submitted, isOpen⟩

end ShowUp.Client

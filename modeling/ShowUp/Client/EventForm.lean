import ShowUp.Client.AmountCodec

/-!
# The create-event form

`validate` and `onSubmit` of the page for new events. The form checks its texts
by rules of its own; what it submits is then parsed by the schema. `Number` and
`Date.parse` are parameters.
-/

namespace ShowUp.Client

set_option autoImplicit false

open Utf16

structure FormValues where
  title : Text
  venue : Text
  bond : Text
  capacity : Text
  organizerShare : Text
  startTime : Text
  checkinStart : Text
  checkinDeadline : Text
  cancellationDeadline : Text

/-- The message of each field that has one. -/
structure FieldErrors where
  title : Option String
  venue : Option String
  bond : Option String
  capacity : Option String
  organizerShare : Option String
  startTime : Option String
  checkinStart : Option String
  checkinDeadline : Option String
  cancellationDeadline : Option String
  deriving DecidableEq

/-- `{}` -/
def FieldErrors.none : FieldErrors :=
  ⟨.none, .none, .none, .none, .none, .none, .none, .none, .none⟩

/-- A time value, in milliseconds. -/
structure TimeValue where
  ms : Int
  lower : -8640000000000000 ≤ ms
  upper : ms ≤ 8640000000000000

def SafeInt.ofInt? (n : Int) : Option SafeInt :=
  if h : -(2 ^ 53 - 1) ≤ n ∧ n ≤ 2 ^ 53 - 1 then some ⟨n, h.1, h.2⟩ else none

/-- `Math.floor(parsed / 1000)` -/
def TimeValue.toSeconds (parsed : TimeValue) : SafeInt :=
  ⟨parsed.ms / 1000, by have := parsed.lower; omega, by have := parsed.upper; omega⟩

/-- `n <= 0` for an integer -/
def notPositive : JsNumber → Bool
  | .safe value .. => value ≤ 0
  | .other text _ => text.startsWith "-"
  | .nonFinite => false

/-- `n < 0 || n > 100` for an integer -/
def outsidePercent : JsNumber → Bool
  | .safe value .. => value < 0 ∨ value > 100
  | _ => true

/-- What `onSubmit` passes on. -/
structure FormInput where
  organizer : Text
  title : Text
  venue : Text
  bondAmount : Int
  capacity : JsNumber
  startTime : SafeInt
  checkinStart : SafeInt
  checkinDeadline : SafeInt
  cancellationDeadline : SafeInt
  organizerBps : SafeInt
  communityBps : SafeInt

def FormInput.toObject (input : FormInput) : SchemaInput :=
  .object fun
    | "organizer" => .text input.organizer
    | "title" => .text input.title
    | "venue" => .text input.venue
    | "bondAmount" => .bigint input.bondAmount
    | "capacity" => .number input.capacity
    | "startTime" => input.startTime.toField
    | "checkinStart" => input.checkinStart.toField
    | "checkinDeadline" => input.checkinDeadline.toField
    | "cancellationDeadline" => input.cancellationDeadline.toField
    | "organizerBps" => input.organizerBps.toField
    | "communityBps" => input.communityBps.toField
    | _ => .other

section Page
variable (number : Text → JsNumber) (dateParse : Text → Option TimeValue)

def toUnixSeconds (text : Text) : Option SafeInt :=
  if text = [] then none else (dateParse text).map TimeValue.toSeconds

/-- The message a deadline gets when it is missing, or else in conflict with another time. -/
def timeError (time : Option SafeInt) (missing : String) (conflict : Bool) (message : String) :
    Option String :=
  if time = none then some missing else if conflict then some message else none

/-- `a !== null && b !== null && a > b` -/
def later (a b : Option SafeInt) : Bool :=
  match a, b with
  | some a, some b => a.val > b.val
  | _, _ => false

def validate (values : FormValues) : FieldErrors :=
  let bond := (toStroops (.text values.bond)).toOption
  let capacity := number values.capacity
  let share := number values.organizerShare
  let start := toUnixSeconds dateParse values.startTime
  let checkinStart := toUnixSeconds dateParse values.checkinStart
  let checkinDeadline := toUnixSeconds dateParse values.checkinDeadline
  let cancellationDeadline := toUnixSeconds dateParse values.cancellationDeadline
  { title := if trim values.title = [] then some "Give the event a name." else none
    venue := if trim values.venue = [] then some "Where is it happening?" else none
    bond :=
      if bond.all (· ≤ 0) then some "Enter a bond above zero, for example 5.00." else none
    capacity :=
      if !isInteger capacity || notPositive capacity then
        some "Capacity must be a whole number above zero."
      else none
    organizerShare :=
      if !isInteger share || outsidePercent share then
        some "Enter a whole percentage between 0 and 100."
      else none
    startTime := timeError start "Pick a start time."
      (checkinStart.isSome && checkinDeadline.isSome &&
        (later checkinStart start || later start checkinDeadline))
      "The start time must fall inside the check-in window."
    checkinStart := timeError checkinStart "Pick a check-in opening time." false ""
    checkinDeadline := timeError checkinDeadline "Pick a check-in closing time."
      (later checkinStart checkinDeadline) "Check-in must close after it opens."
    cancellationDeadline := timeError cancellationDeadline "Pick a free-cancellation deadline."
      (later cancellationDeadline checkinStart)
      "Free cancellation must close before check-in opens." }

/-- `Number(values.organizerShare) * 100`, for a share that is a percentage -/
def bpsOf : JsNumber → Option SafeInt
  | .safe share .. => SafeInt.ofInt? (share * 100)
  | _ => none

/-- The input `onSubmit` passes to `createEvent`, where it gets that far. -/
def onSubmit (values : FormValues) (address : Option Text) (insufficientXlm : Bool) :
    Option FormInput := do
  let address ← address
  guard (address ≠ [] ∧ insufficientXlm = false)
  guard (validate number dateParse values = .none)
  -- from here on nothing is missing: `validate` has looked at each of these
  let bondAmount ← (toStroops (.text values.bond)).toOption
  let startTime ← toUnixSeconds dateParse values.startTime
  let checkinStart ← toUnixSeconds dateParse values.checkinStart
  let checkinDeadline ← toUnixSeconds dateParse values.checkinDeadline
  let cancellationDeadline ← toUnixSeconds dateParse values.cancellationDeadline
  let organizerBps ← bpsOf (number values.organizerShare)
  let communityBps ← SafeInt.ofInt? (10000 - organizerBps.val)
  return {
    organizer := address
    title := trim values.title
    venue := trim values.venue
    bondAmount
    capacity := number values.capacity
    startTime, checkinStart, checkinDeadline, cancellationDeadline, organizerBps, communityBps }

end Page

/-! What the schema accepts of a submitted form. -/

theorem trimmed_ok {text value : Text} :
    FieldSchema.trimmed (.text text) = .ok value ↔ trim text = value := by
  rw [FieldSchema.trimmed, Except.ok.injEq]

theorem int_toField {message : String} {n value : SafeInt} :
    FieldSchema.int message n.toField = .ok value ↔ n = value := by
  cases n
  cases value
  simp [FieldSchema.int, SafeInt.toField]

theorem refined_ok {value : CreateEventInput} :
    (∃ parsed, (match superRefine value with
      | [] => pure value
      | issue :: _ => .error issue : Except Issue CreateEventInput) = .ok parsed) ↔
      superRefine value = [] := by
  cases superRefine value with
  | nil => exact iff_of_true ⟨value, rfl⟩ rfl
  | cons issue rest =>
    refine iff_of_false (fun h => ?_) (List.cons_ne_nil _ _)
    obtain ⟨_, h⟩ := h
    cases h

theorem safe_capacity {message : String} {n : JsNumber} {value : SafeInt} :
    FieldSchema.int message (.number n) = .ok value ↔
      n = .safe value.val value.lower value.upper := by
  rw [int_ok, FieldValue.number.injEq]

theorem schema_accepts_iff (input : FormInput) :
    (∃ value, createEventInputSchema input.toObject = .ok value) ↔
      stellarAccountPattern (trim input.organizer) = true ∧
      1 ≤ (trim input.title).length ∧ utf8ByteLength (trim input.title) ≤ maxTitleLength ∧
      1 ≤ (trim input.venue).length ∧ utf8ByteLength (trim input.venue) ≤ maxVenueLength ∧
      0 < input.bondAmount ∧
      (∃ value lower upper, input.capacity = .safe value lower upper ∧ 0 < value) ∧
      0 ≤ input.startTime.val ∧ 0 ≤ input.checkinStart.val ∧ 0 ≤ input.checkinDeadline.val ∧
      0 ≤ input.cancellationDeadline.val ∧
      0 ≤ input.organizerBps.val ∧ input.organizerBps.val ≤ totalBps ∧
      0 ≤ input.communityBps.val ∧ input.communityBps.val ≤ totalBps ∧
      input.organizerBps.val + input.communityBps.val = totalBps ∧
      input.cancellationDeadline.val ≤ input.checkinStart.val ∧
      input.checkinStart.val ≤ input.checkinDeadline.val ∧
      input.checkinStart.val ≤ input.startTime.val ∧
      input.startTime.val ≤ input.checkinDeadline.val := by
  rw [FormInput.toObject]
  simp only [createEventInputSchema, field_ok, boundedText, organizerAddress,
    unixSeconds, basisPoints, refine_ok, trimmed_ok, int_toField, safe_capacity,
    FieldSchema.bigint, Except.ok.injEq, and_assoc, exists_and_left, exists_eq_left',
    @exists_comm CreateEventInput]
  constructor
  · rintro ⟨organizer, title, titleShort, venue, venueShort, capacity, read, start, checkin,
      deadline, cancellation, organizerLow, organizerHigh, communityLow, communityHigh, accepted⟩
    have refined := refined_ok.mp accepted
    simp only [superRefine, List.append_eq_nil_iff, issueIf_eq_nil] at refined
    obtain ⟨⟨⟨⟨⟨bond, positive⟩, bps⟩, cancels⟩, window⟩, starts⟩ := refined
    have positive : 0 < capacity.val := by omega
    exact ⟨organizer, title, titleShort, venue, venueShort, by omega,
      ⟨capacity.val, capacity.lower, capacity.upper, read, positive⟩, start, checkin, deadline,
      cancellation, organizerLow, organizerHigh, communityLow, communityHigh,
      Decidable.not_not.mp bps, by omega, by omega, by omega, by omega⟩
  · rintro ⟨organizer, title, titleShort, venue, venueShort, bond,
      ⟨capacity, lower, upper, read, positive⟩, start, checkin, deadline, cancellation,
      organizerLow, organizerHigh, communityLow, communityHigh, bps, cancels, window, from_, to_⟩
    refine ⟨organizer, title, titleShort, venue, venueShort, ⟨capacity, lower, upper⟩, read, start,
      checkin, deadline, cancellation, organizerLow, organizerHigh, communityLow, communityHigh, ?_⟩
    apply refined_ok.mpr
    simp only [superRefine, List.append_eq_nil_iff, issueIf_eq_nil]
    refine ⟨⟨⟨⟨⟨by omega, by omega⟩, Decidable.not_not.mpr bps⟩, by omega⟩, by omega⟩, by omega⟩

theorem isSpace_base32 {u : UInt16} (h : isBase32 u = true) : isSpace u = false := by
  have range := isBase32_iff.mp h
  simp only [isSpace, Bool.or_eq_false_iff, Bool.and_eq_false_imp, decide_eq_true_eq,
    decide_eq_false_iff_not, UInt16.le_iff_toNat_le, ← UInt16.toNat_inj, UInt16.reduceToNat]
  omega

/-- An account address has no blanks around it. -/
theorem trim_account {address : Text} (account : stellarAccountPattern address = true) :
    trim address = address :=
  trim_eq_self fun u h => isSpace_base32 ((account_units account).2 u h)

theorem timeError_eq_none {time : Option SafeInt} {missing message : String} {conflict : Bool} :
    timeError time missing conflict message = none ↔ (∃ s, time = some s) ∧ conflict = false := by
  unfold timeError
  cases time <;> cases conflict <;> simp

section Form
variable {number : Text → JsNumber} {dateParse : Text → Option TimeValue} {values : FormValues}

/-- What a form without errors holds. -/
structure FormValues.Clean (number : Text → JsNumber) (dateParse : Text → Option TimeValue)
    (values : FormValues) (bond : Int) (share : Int)
    (start checkin deadline cancellation : SafeInt) : Prop where
  title : trim values.title ≠ []
  venue : trim values.venue ≠ []
  bond_read : toStroops (.text values.bond) = .ok bond
  bond_pos : 0 < bond
  capacity_pos : notPositive (number values.capacity) = false
  share_read : ∃ lower upper, number values.organizerShare = .safe share lower upper
  share_range : 0 ≤ share ∧ share ≤ 100
  start_read : toUnixSeconds dateParse values.startTime = some start
  checkin_read : toUnixSeconds dateParse values.checkinStart = some checkin
  deadline_read : toUnixSeconds dateParse values.checkinDeadline = some deadline
  cancellation_read : toUnixSeconds dateParse values.cancellationDeadline = some cancellation
  cancels : cancellation.val ≤ checkin.val
  window : checkin.val ≤ deadline.val
  starts : checkin.val ≤ start.val ∧ start.val ≤ deadline.val

theorem clean_of_validate (clean : validate number dateParse values = .none) :
    ∃ bond share start checkin deadline cancellation,
      values.Clean number dateParse bond share start checkin deadline cancellation := by
  simp only [validate, FieldErrors.none, FieldErrors.mk.injEq, timeError_eq_none,
    ite_eq_right_iff, reduceCtorEq, imp_false, Bool.not_eq_true, Bool.or_eq_false_iff] at clean
  obtain ⟨title, venue, bond, ⟨integer, capacity⟩, ⟨_, share⟩, ⟨⟨start, hStart⟩, starts⟩,
    ⟨⟨checkin, hCheckin⟩, _⟩, ⟨⟨deadline, hDeadline⟩, window⟩,
    ⟨⟨cancellation, hCancellation⟩, cancels⟩⟩ := clean
  rw [hStart, hCheckin, hDeadline] at starts
  rw [hCheckin, hDeadline] at window
  rw [hCancellation, hCheckin] at cancels
  simp only [Option.isSome_some, Bool.and_self, Bool.true_and, Bool.or_eq_false_iff, later,
    decide_eq_false_iff_not] at starts window cancels
  obtain ⟨amount, read, positive⟩ : ∃ amount, toStroops (.text values.bond) = .ok amount ∧
      0 < amount := by
    cases read : toStroops (.text values.bond) with
    | error => simp [read, Except.toOption] at bond
    | ok amount =>
      refine ⟨amount, rfl, ?_⟩
      simpa [read, Except.toOption] using bond
  obtain ⟨percent, lower, upper, hShare, range⟩ : ∃ percent lower upper,
      number values.organizerShare = .safe percent lower upper ∧ 0 ≤ percent ∧ percent ≤ 100 := by
    cases hShare : number values.organizerShare with
    | safe percent lower upper =>
      rw [hShare] at share
      simp only [outsidePercent, decide_eq_false_iff_not] at share
      exact ⟨percent, lower, upper, rfl, by omega⟩
    | _ =>
      rw [hShare] at share
      cases share
  refine ⟨amount, percent, start, checkin, deadline, cancellation, ?_⟩
  exact
    { title := title
      venue := venue
      bond_read := read
      bond_pos := positive
      capacity_pos := capacity
      share_read := ⟨lower, upper, hShare⟩
      share_range := range
      start_read := hStart
      checkin_read := hCheckin
      deadline_read := hDeadline
      cancellation_read := hCancellation
      cancels := by omega
      window := by omega
      starts := by omega }

theorem SafeInt.ofInt?_eq {n : Int} (lower : -(2 ^ 53 - 1) ≤ n) (upper : n ≤ 2 ^ 53 - 1) :
    SafeInt.ofInt? n = some ⟨n, lower, upper⟩ := dif_pos ⟨lower, upper⟩

/-- A form without errors is submitted. -/
theorem onSubmit_clean {address : Text} {bond share : Int}
    {start checkin deadline cancellation : SafeInt} (account : stellarAccountPattern address = true)
    (clean : validate number dateParse values = .none)
    (c : values.Clean number dateParse bond share start checkin deadline cancellation) :
    ∃ organizerBps communityBps : SafeInt, organizerBps.val = share * 100 ∧
      communityBps.val = 10000 - share * 100 ∧
      onSubmit number dateParse values (some address) false = some {
        organizer := address
        title := trim values.title
        venue := trim values.venue
        bondAmount := bond
        capacity := number values.capacity
        startTime := start
        checkinStart := checkin
        checkinDeadline := deadline
        cancellationDeadline := cancellation
        organizerBps, communityBps } := by
  obtain ⟨lower, upper, hShare⟩ := c.share_read
  have range := c.share_range
  have nonempty : address ≠ [] := by
    rintro rfl
    cases account
  have organizer := @SafeInt.ofInt?_eq (share * 100) (by omega) (by omega)
  have community := @SafeInt.ofInt?_eq (10000 - share * 100) (by omega) (by omega)
  refine ⟨⟨share * 100, by omega, by omega⟩, ⟨10000 - share * 100, by omega, by omega⟩, rfl, rfl, ?_⟩
  simp only [onSubmit, Option.bind_eq_bind, Option.bind_some, guard, nonempty, clean, ne_eq,
    not_false_eq_true, and_self, if_true, Option.pure_def, c.bond_read, Except.toOption,
    c.start_read, c.checkin_read, c.deadline_read, c.cancellation_read, hShare, bpsOf, organizer,
    community]

/-- What the schema asks for beyond the form: lengths in bytes, a capacity that is a safe
integer, and a free-cancellation deadline that is not before 1970. -/
structure FormValues.Fits (number : Text → JsNumber) (dateParse : Text → Option TimeValue)
    (values : FormValues) : Prop where
  title : utf8ByteLength (trim values.title) ≤ maxTitleLength
  venue : utf8ByteLength (trim values.venue) ≤ maxVenueLength
  capacity : ∃ n lower upper, number values.capacity = .safe n lower upper
  cancellation : ∀ seconds, toUnixSeconds dateParse values.cancellationDeadline = some seconds →
    0 ≤ seconds.val

/-- What a form without errors submits is accepted by the schema exactly when it fits. -/
theorem form_agrees_iff {address : Text} (account : stellarAccountPattern address = true)
    (clean : validate number dateParse values = .none) :
    (∃ input value, onSubmit number dateParse values (some address) false = some input ∧
      createEventInputSchema input.toObject = .ok value) ↔ values.Fits number dateParse := by
  obtain ⟨bond, share, start, checkin, deadline, cancellation, c⟩ := clean_of_validate clean
  obtain ⟨organizerBps, communityBps, organizer, community, submitted⟩ :=
    onSubmit_clean account clean c
  have range := c.share_range
  have starts := c.starts
  have cancels := c.cancels
  have window := c.window
  have some : ∀ {text : Text}, trim text ≠ [] → 1 ≤ (trim (trim text)).length := by
    intro text h
    rw [trim_trim]
    exact List.length_pos_iff.mpr h
  rw [submitted]
  simp only [Option.some.injEq, exists_and_left, exists_eq_left', schema_accepts_iff, trim_trim]
  constructor
  · rintro ⟨_, _, title, _, venue, _, ⟨n, lower, upper, capacity, _⟩, _, _, _, nonneg, _⟩
    refine ⟨title, venue, ⟨n, lower, upper, capacity⟩, ?_⟩
    intro seconds read
    rw [c.cancellation_read] at read
    cases read
    exact nonneg
  · intro fits
    obtain ⟨n, lower, upper, capacity⟩ := fits.capacity
    have nonneg := fits.cancellation cancellation c.cancellation_read
    have positive : 0 < n := by
      have h := c.capacity_pos
      rw [capacity] at h
      simpa [notPositive] using h
    have title := some c.title
    have venue := some c.venue
    rw [trim_trim] at title venue
    rw [trim_account account]
    unfold totalBps
    refine ⟨account, title, fits.title, venue, fits.venue, c.bond_pos,
      ⟨n, lower, upper, capacity, positive⟩, ?_⟩
    omega

end Form

namespace Scenario

def numberOf (text : Text) : JsNumber :=
  if text = ofString "20" then .safe 20 (by decide) (by decide)
  else if text = ofString "80" then .safe 80 (by decide) (by decide)
  else .nonFinite

/-- `Date.parse` of two local times, read as UTC. -/
def dateOf (text : Text) : Option TimeValue :=
  if text = ofString "2027-01-15T18:00" then some ⟨1800036000000, by decide, by decide⟩
  else if text = ofString "2027-01-15T20:00" then some ⟨1800043200000, by decide, by decide⟩
  else none

def formValues : FormValues where
  title := ofString "Meetup"
  venue := ofString "Istanbul"
  bond := ofString "5.00"
  capacity := ofString "20"
  organizerShare := ofString "80"
  startTime := ofString "2027-01-15T18:00"
  checkinStart := ofString "2027-01-15T18:00"
  checkinDeadline := ofString "2027-01-15T20:00"
  cancellationDeadline := ofString "2027-01-15T18:00"

/-- The longest title the input admits, in a letter of two bytes. -/
def longTitle : FormValues := { formValues with title := List.replicate 96 0xFC }

def account : Text := 0x47 :: List.replicate 55 0x41

end Scenario

theorem form_agrees_iff_meetup :
    ∃ input value, onSubmit Scenario.numberOf Scenario.dateOf Scenario.formValues
        (some Scenario.account) false = some input ∧
      createEventInputSchema input.toObject = .ok value := by
  apply (form_agrees_iff (by decide) (by decide)).mpr
  exact ⟨by decide, by decide, ⟨20, by decide, by decide, rfl⟩, fun seconds read => by
    cases Option.some.inj read
    decide⟩

/-- Ninety-six units, a hundred and ninety-two bytes. -/
theorem form_refused_later :
    Scenario.longTitle.title.length ≤ 96 ∧ Scenario.longTitle.venue.length ≤ 160 ∧
      validate Scenario.numberOf Scenario.dateOf Scenario.longTitle = .none ∧
      ∃ input, onSubmit Scenario.numberOf Scenario.dateOf Scenario.longTitle
          (some Scenario.account) false = some input ∧
        ∀ value, createEventInputSchema input.toObject ≠ .ok value := by
  have clean : validate Scenario.numberOf Scenario.dateOf Scenario.longTitle = .none := by decide
  refine ⟨by decide, by decide, clean, ?_⟩
  obtain ⟨_, _, _, _, _, _, c⟩ := clean_of_validate clean
  have account : stellarAccountPattern Scenario.account = true := by decide
  obtain ⟨_, _, _, _, submitted⟩ := onSubmit_clean account clean c
  refine ⟨_, submitted, fun value accepted => ?_⟩
  have long : ¬ utf8ByteLength (trim (trim Scenario.longTitle.title)) ≤ maxTitleLength := by
    decide +kernel
  exact long ((schema_accepts_iff _).mp ⟨value, accepted⟩).2.2.1

end ShowUp.Client

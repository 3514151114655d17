import ShowUp.Shared.Utf16
import ShowUp.Client.Amounts

/-!
# The create-event schema

`createEventInputSchema` of `lib/domain/schemas.ts`, over values of unknown type.
A parse ends in the parsed input or in the first issue reported. Where Zod words
a message itself (a value of the wrong type), the issue has none.
-/

namespace ShowUp.Client

set_option autoImplicit false

/-- `MAX_TITLE_LENGTH` as the schema has it. -/
def maxTitleLength : Nat := 96

/-- `MAX_VENUE_LENGTH` as the schema has it. -/
def maxVenueLength : Nat := 160

/-- A value of unknown type, as far as the schema tells values apart. -/
inductive FieldValue where
  | text (value : Text)
  | number (value : JsNumber)
  | bigint (value : Int)
  | other

/-- What is parsed: an object, read field by field, or something else. -/
inductive SchemaInput where
  | object (get : String → FieldValue)
  | other

structure Issue where
  path : List String
  message : Option String
  deriving DecidableEq

/-- A whole number that a JavaScript number holds exactly. -/
structure SafeInt where
  val : Int
  lower : -(2 ^ 53 - 1) ≤ val
  upper : val ≤ 2 ^ 53 - 1

theorem SafeInt.val_inj {a b : SafeInt} : a.val = b.val ↔ a = b := by
  constructor
  · intro same
    cases a
    cases same
    rfl
  · exact congrArg val

instance : DecidableEq SafeInt := fun _ _ => decidable_of_iff _ SafeInt.val_inj

structure CreateEventInput where
  organizer : Text
  title : Text
  venue : Text
  bondAmount : Int
  capacity : SafeInt
  startTime : SafeInt
  checkinStart : SafeInt
  checkinDeadline : SafeInt
  cancellationDeadline : SafeInt
  organizerBps : SafeInt
  communityBps : SafeInt
  deriving DecidableEq

def SafeInt.toField (n : SafeInt) : FieldValue := .number (.safe n.val n.lower n.upper)

/-- The input as the schema is given it. -/
def CreateEventInput.toObject (input : CreateEventInput) : SchemaInput :=
  .object fun
    | "organizer" => .text input.organizer
    | "title" => .text input.title
    | "venue" => .text input.venue
    | "bondAmount" => .bigint input.bondAmount
    | "capacity" => input.capacity.toField
    | "startTime" => input.startTime.toField
    | "checkinStart" => input.checkinStart.toField
    | "checkinDeadline" => input.checkinDeadline.toField
    | "cancellationDeadline" => input.cancellationDeadline.toField
    | "organizerBps" => input.organizerBps.toField
    | "communityBps" => input.communityBps.toField
    | _ => .other

def utf8ByteLength (value : Text) : Nat := (Utf16.encode value).length

/-- The schema of one field: the parsed value, or the message of its first issue. -/
abbrev FieldSchema (α : Type) := FieldValue → Except (Option String) α

namespace FieldSchema

/-- One more check, as `refine`, `min`, `max` and `regex` add them. -/
def refine {α : Type} (schema : FieldSchema α) (ok : α → Prop) [DecidablePred ok]
    (message : String) : FieldSchema α :=
  fun raw => do
    let value ← schema raw
    if ok value then return value else .error (some message)

/-- `z.string().trim()` -/
def trimmed : FieldSchema Text
  | .text value => .ok (Utf16.trim value)
  | _ => .error none

/-- `z.bigint()` -/
def bigint : FieldSchema Int
  | .bigint value => .ok value
  | _ => .error none

/-- `z.number().int(message)`: exactly the safe integers. -/
def int (message : String) : FieldSchema SafeInt
  | .number (.safe val lower upper) => .ok ⟨val, lower, upper⟩
  | .number (.other ..) => .error (some message)
  -- `NaN` and the infinities are no numbers to Zod
  | _ => .error none

end FieldSchema

open FieldSchema

def boundedText (label : String) (maxBytes : Nat) : FieldSchema Text :=
  (trimmed.refine (fun value => 1 ≤ value.length) (label ++ " is required.")).refine
    (fun value => utf8ByteLength value ≤ maxBytes)
    (label ++ " must be at most " ++ toString maxBytes ++ " bytes long.")

/-- `[A-Z2-7]` -/
def isBase32 (u : UInt16) : Bool := (0x41 ≤ u && u ≤ 0x5A) || (0x32 ≤ u && u ≤ 0x37)

/-- `/^G[A-Z2-7]{55}$/` -/
def stellarAccountPattern : Text → Bool
  | [] => false
  | u :: rest => u = 0x47 && rest.length = 55 && rest.all isBase32

theorem isBase32_iff {u : UInt16} : isBase32 u = true ↔
    (65 ≤ u.toNat ∧ u.toNat ≤ 90) ∨ (50 ≤ u.toNat ∧ u.toNat ≤ 55) := by
  simp only [isBase32, Bool.or_eq_true, Bool.and_eq_true, decide_eq_true_eq,
    UInt16.le_iff_toNat_le, UInt16.reduceToNat]

/-- An account is 56 base-32 units. -/
theorem account_units {account : Text} (h : stellarAccountPattern account = true) :
    account.length = 56 ∧ ∀ u ∈ account, isBase32 u = true := by
  cases account with
  | nil => cases h
  | cons g rest =>
    simp only [stellarAccountPattern, Bool.and_eq_true, decide_eq_true_eq, List.all_eq_true] at h
    obtain ⟨⟨rfl, length⟩, base32⟩ := h
    exact ⟨by rw [List.length_cons, length], List.forall_mem_cons.mpr ⟨rfl, base32⟩⟩

def organizerAddress : FieldSchema Text :=
  trimmed.refine (fun value => stellarAccountPattern value)
    "Organizer must be a Stellar account (G...)."

def unixSeconds : FieldSchema SafeInt :=
  (int "Timestamps must be whole seconds.").refine (fun value => 0 ≤ value.val)
    "Timestamps must not be negative."

def basisPoints : FieldSchema SafeInt :=
  ((int "Basis points must be a whole number.").refine (fun value => 0 ≤ value.val)
    "Basis points must be between 0 and 10000.").refine (fun value => value.val ≤ totalBps)
    "Basis points must be between 0 and 10000."

def field {α : Type} (get : String → FieldValue) (key : String) (schema : FieldSchema α) :
    Except Issue α :=
  match schema (get key) with
  | .ok value => .ok value
  | .error message => .error ⟨[key], message⟩

def issueIf (condition : Prop) [Decidable condition] (key message : String) : List Issue :=
  if condition then [⟨[key], some message⟩] else []

/-- The checks across fields, all of which report. -/
def superRefine (value : CreateEventInput) : List Issue :=
  issueIf (value.bondAmount ≤ 0) "bondAmount" "Bond must be greater than zero." ++
  issueIf (value.capacity.val ≤ 0) "capacity" "Capacity must be greater than zero." ++
  issueIf (value.organizerBps.val + value.communityBps.val ≠ totalBps) "communityBps"
    "Organizer and community shares must add up to exactly 10000 bps." ++
  issueIf (value.cancellationDeadline.val > value.checkinStart.val) "cancellationDeadline"
    "Cancellation deadline must not be after check-in opens." ++
  issueIf (value.checkinStart.val > value.checkinDeadline.val) "checkinDeadline"
    "Check-in must open before it closes." ++
  issueIf (value.startTime.val < value.checkinStart.val ∨
      value.startTime.val > value.checkinDeadline.val) "startTime"
    "Start time must fall inside the check-in window."

def createEventInputSchema : SchemaInput → Except Issue CreateEventInput
  | .object get => do
    let organizer ← field get "organizer" organizerAddress
    let title ← field get "title" (boundedText "Title" maxTitleLength)
    let venue ← field get "venue" (boundedText "Venue" maxVenueLength)
    let bondAmount ← field get "bondAmount" bigint
    let capacity ← field get "capacity" (int "Capacity must be a whole number.")
    let startTime ← field get "startTime" unixSeconds
    let checkinStart ← field get "checkinStart" unixSeconds
    let checkinDeadline ← field get "checkinDeadline" unixSeconds
    let cancellationDeadline ← field get "cancellationDeadline" unixSeconds
    let organizerBps ← field get "organizerBps" basisPoints
    let communityBps ← field get "communityBps" basisPoints
    let value : CreateEventInput :=
      { organizer, title, venue, bondAmount, capacity, startTime, checkinStart, checkinDeadline,
        cancellationDeadline, organizerBps, communityBps }
    match superRefine value with
    | [] => return value
    | issue :: _ => .error issue
  | .other => .error ⟨[], none⟩

/-! What an accepted field is. -/

theorem refine_ok {α : Type} {schema : FieldSchema α} {ok : α → Prop} [DecidablePred ok]
    {message : String} {raw : FieldValue} {value : α} :
    schema.refine ok message raw = .ok value ↔ schema raw = .ok value ∧ ok value := by
  unfold refine
  cases schema raw with
  | error => simp [bind, Except.bind]
  | ok read =>
    by_cases good : ok read
    · simp only [bind, Except.bind, good, if_true, pure, Except.pure, Except.ok.injEq]
      constructor
      · rintro rfl
        exact ⟨rfl, good⟩
      · exact And.left
    · simp only [bind, Except.bind, good, if_false, reduceCtorEq, Except.ok.injEq, false_iff]
      rintro ⟨rfl, h⟩
      exact good h

theorem int_ok {message : String} {raw : FieldValue} {value : SafeInt} :
    int message raw = .ok value ↔ raw = .number (.safe value.val value.lower value.upper) := by
  constructor
  · intro h
    cases raw with
    | number n =>
      cases n with
      | safe =>
        cases h
        rfl
      | _ => cases h
    | _ => cases h
  · rintro rfl
    rfl

theorem bigint_ok {raw : FieldValue} {value : Int} :
    bigint raw = .ok value ↔ raw = .bigint value := by
  cases raw <;> simp [bigint]

def fieldNames : List String :=
  ["organizer", "title", "venue", "bondAmount", "capacity", "startTime", "checkinStart",
    "checkinDeadline", "cancellationDeadline", "organizerBps", "communityBps"]

/-- The issue is about one field of the object. -/
def Issue.NamesField (issue : Issue) : Prop := ∃ key ∈ fieldNames, issue.path = [key]

section Object
variable {get : String → FieldValue} {key : String} {α β : Type} {schema : FieldSchema α}

theorem field_ok {rest : α → Except Issue β} {result : β} :
    (field get key schema >>= rest) = .ok result ↔
      ∃ value, schema (get key) = .ok value ∧ rest value = .ok result := by
  unfold field
  cases schema (get key) <;> simp [bind, Except.bind]

theorem field_error (known : key ∈ fieldNames) {rest : α → Except Issue β} {issue : Issue}
    (later : ∀ value, rest value = .error issue → issue.NamesField)
    (refused : (field get key schema >>= rest) = .error issue) : issue.NamesField := by
  unfold field at refused
  cases read : schema (get key) with
  | error message =>
    rw [read] at refused
    cases refused
    exact ⟨key, known, rfl⟩
  | ok value =>
    rw [read] at refused
    exact later value refused

end Object

theorem issueIf_names {condition : Prop} [Decidable condition] {key message : String}
    (known : key ∈ fieldNames) {issue : Issue} (h : issue ∈ issueIf condition key message) :
    issue.NamesField := by
  unfold issueIf at h
  split at h
  · rw [List.mem_singleton.mp h]
    exact ⟨key, known, rfl⟩
  · cases h

theorem superRefine_names {value : CreateEventInput} {issue : Issue}
    (h : issue ∈ superRefine value) : issue.NamesField := by
  simp only [superRefine, List.mem_append] at h
  rcases h with ((((h | h) | h) | h) | h) | h <;> exact issueIf_names (by decide) h

/-- A refused object is refused over one of its fields. -/
theorem createEventInputSchema_error {get : String → FieldValue} {issue : Issue}
    (refused : createEventInputSchema (.object get) = .error issue) : issue.NamesField := by
  unfold createEventInputSchema at refused
  revert refused
  iterate 11 refine field_error (by decide) fun _ => ?_
  intro refused
  dsimp only at refused
  split at refused
  · cases refused
  · rename_i found
    cases refused
    exact superRefine_names (found ▸ List.mem_cons_self ..)

theorem issueIf_eq_nil {condition : Prop} [Decidable condition] {key message : String} :
    issueIf condition key message = [] ↔ ¬ condition := by
  simp [issueIf]

/-- The preconditions of `create_event` that the schema mirrors, and that no number is
negative. -/
structure CreateEventInput.Mirrors (value : CreateEventInput) : Prop where
  title_le : utf8ByteLength value.title ≤ maxTitleLength
  venue_le : utf8ByteLength value.venue ≤ maxVenueLength
  bond_pos : 0 < value.bondAmount
  capacity_pos : 0 < value.capacity.val
  startTime_nonneg : 0 ≤ value.startTime.val
  checkinStart_nonneg : 0 ≤ value.checkinStart.val
  checkinDeadline_nonneg : 0 ≤ value.checkinDeadline.val
  cancellationDeadline_nonneg : 0 ≤ value.cancellationDeadline.val
  organizerBps_nonneg : 0 ≤ value.organizerBps.val
  communityBps_nonneg : 0 ≤ value.communityBps.val
  bps : value.organizerBps.val + value.communityBps.val = totalBps
  cancellation_le : value.cancellationDeadline.val ≤ value.checkinStart.val
  window : value.checkinStart.val ≤ value.checkinDeadline.val
  start_ge : value.checkinStart.val ≤ value.startTime.val
  start_le : value.startTime.val ≤ value.checkinDeadline.val

/-- What is accepted meets the mirrored preconditions, and bond and capacity are taken
from the input as they are. -/
theorem createEventInputSchema_ok {raw : SchemaInput} {value : CreateEventInput}
    (accepted : createEventInputSchema raw = .ok value) :
    value.Mirrors ∧ ∃ get, raw = .object get ∧
      get "bondAmount" = .bigint value.bondAmount ∧
      get "capacity" =
        .number (.safe value.capacity.val value.capacity.lower value.capacity.upper) := by
  cases raw with
  | other => cases accepted
  | object get =>
    simp only [createEventInputSchema, field_ok, boundedText, organizerAddress, unixSeconds,
      basisPoints, refine_ok, bigint_ok, int_ok] at accepted
    obtain ⟨organizer, _, title, ⟨_, titleShort⟩, venue, ⟨_, venueShort⟩,
      bond, bondRead, capacity, capacityRead, startTime, ⟨_, startPos⟩,
      checkinStart, ⟨_, checkinPos⟩, checkinDeadline, ⟨_, deadlinePos⟩,
      cancellation, ⟨_, cancellationPos⟩, organizerBps, ⟨⟨_, organizerPos⟩, _⟩,
      communityBps, ⟨⟨_, communityPos⟩, _⟩, accepted⟩ := accepted
    split at accepted
    · rename_i refined
      cases accepted
      simp only [superRefine, List.append_eq_nil_iff, issueIf_eq_nil] at refined
      obtain ⟨⟨⟨⟨⟨bondPos, capacityPos⟩, bps⟩, cancels⟩, window⟩, starts⟩ := refined
      refine ⟨?_, get, rfl, bondRead, capacityRead⟩
      exact
        { title_le := titleShort
          venue_le := venueShort
          bond_pos := by dsimp only at *; omega
          capacity_pos := by dsimp only at *; omega
          startTime_nonneg := startPos
          checkinStart_nonneg := checkinPos
          checkinDeadline_nonneg := deadlinePos
          cancellationDeadline_nonneg := cancellationPos
          organizerBps_nonneg := organizerPos
          communityBps_nonneg := communityPos
          bps := Decidable.not_not.mp bps
          cancellation_le := by dsimp only at *; omega
          window := by dsimp only at *; omega
          start_ge := by dsimp only at *; omega
          start_le := by dsimp only at *; omega }
    · cases accepted

end ShowUp.Client

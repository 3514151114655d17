import ShowUp.Client.Schemas
import ShowUp.Contract.Chain

/-!
# From an accepted form to a stored event

What `createEventInputSchema` accepts is handed to `create_event`. The schema
repeats the contract's own checks, but an argument must also be a value of its
type, and for the bond and the capacity the schema sets no upper bound.
-/

namespace ShowUp.Client

set_option autoImplicit false

/-- The arguments of the generated `create_event` binding, in its own shape. -/
structure GeneratedCreateEventArgs where
  organizer : Text
  title : Text
  venue : Text
  bondAmount : Int
  capacity : SafeInt
  startTime : Int
  checkinStart : Int
  checkinDeadline : Int
  cancellationDeadline : Int
  organizerBps : SafeInt
  communityBps : SafeInt
  deriving DecidableEq

def toCreateEventArgs (input : CreateEventInput) : GeneratedCreateEventArgs where
  organizer := input.organizer
  title := input.title
  venue := input.venue
  bondAmount := input.bondAmount
  capacity := input.capacity
  startTime := input.startTime.val
  checkinStart := input.checkinStart.val
  checkinDeadline := input.checkinDeadline.val
  cancellationDeadline := input.cancellationDeadline.val
  organizerBps := input.organizerBps
  communityBps := input.communityBps

/-- The arguments in the contract's ABI types, where each of them fits. `strkey` is the
SDK's reading of an address. -/
def GeneratedCreateEventArgs.encode (strkey : Text → Option Address)
    (args : GeneratedCreateEventArgs) : Option CreateEventArgs := do
  let organizer ← strkey args.organizer
  let bondAmount ← I128.ofInt? args.bondAmount
  let capacity ← U32.ofInt? args.capacity.val
  let startTime ← U64.ofInt? args.startTime
  let checkinStart ← U64.ofInt? args.checkinStart
  let checkinDeadline ← U64.ofInt? args.checkinDeadline
  let cancellationDeadline ← U64.ofInt? args.cancellationDeadline
  let organizerBps ← U32.ofInt? args.organizerBps.val
  let communityBps ← U32.ofInt? args.communityBps.val
  return {
    organizer, bondAmount, capacity, startTime, checkinStart, checkinDeadline,
    cancellationDeadline, organizerBps, communityBps
    title := Utf16.encode args.title
    venue := Utf16.encode args.venue }

/-- The contract's arguments are the input's values. -/
structure CreateEventInput.Carried (input : CreateEventInput) (organizer : Address)
    (args : CreateEventArgs) : Prop where
  organizer : args.organizer = organizer
  title : args.title = Utf16.encode input.title
  venue : args.venue = Utf16.encode input.venue
  bondAmount : args.bondAmount.val = input.bondAmount
  capacity : (args.capacity.toNat : Int) = input.capacity.val
  startTime : (args.startTime.toNat : Int) = input.startTime.val
  checkinStart : (args.checkinStart.toNat : Int) = input.checkinStart.val
  checkinDeadline : (args.checkinDeadline.toNat : Int) = input.checkinDeadline.val
  cancellationDeadline : (args.cancellationDeadline.toNat : Int) = input.cancellationDeadline.val
  organizerBps : (args.organizerBps.toNat : Int) = input.organizerBps.val
  communityBps : (args.communityBps.toNat : Int) = input.communityBps.val

variable {strkey : Text → Option Address} {input : CreateEventInput} {organizer : Address}

theorem encode_eq_some (valid : strkey input.organizer = some organizer)
    {args : CreateEventArgs} :
    (toCreateEventArgs input).encode strkey = some args ↔ input.Carried organizer args := by
  simp only [GeneratedCreateEventArgs.encode, toCreateEventArgs, Option.bind_eq_bind,
    Option.bind_eq_some_iff, Option.pure_def, Option.some.injEq, valid, exists_eq_left',
    I128.ofInt?_eq_some, U32.ofInt?_eq_some, U64.ofInt?_eq_some]
  constructor
  · rintro ⟨b, hb, c, hc, s, hs, o, ho, d, hd, x, hx, p, hp, q, hq, rfl⟩
    exact ⟨rfl, rfl, rfl, hb, hc, hs, ho, hd, hx, hp, hq⟩
  · intro h
    refine ⟨_, h.bondAmount, _, h.capacity, _, h.startTime, _, h.checkinStart, _,
      h.checkinDeadline, _, h.cancellationDeadline, _, h.organizerBps, _, h.communityBps, ?_⟩
    rw [← h.organizer, ← h.title, ← h.venue]

theorem SafeInt.exists_u64 (n : SafeInt) (nonneg : 0 ≤ n.val) :
    ∃ a : UInt64, (a.toNat : Int) = n.val := by
  apply U64.exists_toNat nonneg
  have upper := n.upper
  omega

/-- An accepted input has arguments of the contract's types exactly when bond and capacity
are within theirs. -/
theorem carried_iff (mirrors : input.Mirrors) :
    (∃ args, input.Carried organizer args) ↔
      input.capacity.val ≤ 2 ^ 32 - 1 ∧ input.bondAmount ≤ 2 ^ 127 - 1 := by
  constructor
  · rintro ⟨args, h⟩
    have capacity := args.capacity.toNat_lt
    have bond := args.bondAmount.upper
    have hc := h.capacity
    have hb := h.bondAmount
    omega
  · rintro ⟨capacity, bond⟩
    have bps := mirrors.bps
    have organizerBps := mirrors.organizerBps_nonneg
    have communityBps := mirrors.communityBps_nonneg
    have bondPos := mirrors.bond_pos
    have capacityPos := mirrors.capacity_pos
    unfold totalBps at bps
    obtain ⟨c, hc⟩ := U32.exists_toNat (x := input.capacity.val) (by omega) (by omega)
    obtain ⟨p, hp⟩ := U32.exists_toNat organizerBps (by omega)
    obtain ⟨q, hq⟩ := U32.exists_toNat communityBps (by omega)
    obtain ⟨s, hs⟩ := input.startTime.exists_u64 mirrors.startTime_nonneg
    obtain ⟨o, ho⟩ := input.checkinStart.exists_u64 mirrors.checkinStart_nonneg
    obtain ⟨d, hd⟩ := input.checkinDeadline.exists_u64 mirrors.checkinDeadline_nonneg
    obtain ⟨x, hx⟩ := input.cancellationDeadline.exists_u64 mirrors.cancellationDeadline_nonneg
    let amount : I128 := ⟨input.bondAmount, by omega, by omega⟩
    exact ⟨⟨organizer, _, _, amount, c, s, o, d, x, p, q⟩,
      ⟨rfl, rfl, rfl, rfl, hc, hs, ho, hd, hx, hp, hq⟩⟩

/-- The carried arguments pass every check of the contract. -/
theorem CreateEventInput.Carried.valid {args : CreateEventArgs}
    (carried : input.Carried organizer args) (mirrors : input.Mirrors) : args.Valid where
  bond_pos := by
    rw [carried.bondAmount]
    exact mirrors.bond_pos
  capacity_ne := by
    intro zero
    have capacity := carried.capacity
    have positive := mirrors.capacity_pos
    rw [zero] at capacity
    simp at capacity
    omega
  title_le := by
    rw [carried.title]
    exact mirrors.title_le
  venue_le := by
    rw [carried.venue]
    exact mirrors.venue_le
  bps := by
    have organizerBps := carried.organizerBps
    have communityBps := carried.communityBps
    have bps := mirrors.bps
    unfold totalBps at bps
    apply U32.checkedAdd_eq_some.mpr
    change 10000 = _
    omega
  cancellation_le := by
    have deadline := carried.cancellationDeadline
    have opens := carried.checkinStart
    have le := mirrors.cancellation_le
    apply UInt64.le_iff_toNat_le.mpr
    omega
  window := by
    have opens := carried.checkinStart
    have closes := carried.checkinDeadline
    have le := mirrors.window
    apply UInt64.le_iff_toNat_le.mpr
    omega
  start_ge := by
    have opens := carried.checkinStart
    have starts := carried.startTime
    have le := mirrors.start_ge
    apply UInt64.le_iff_toNat_le.mpr
    omega
  start_le := by
    have starts := carried.startTime
    have closes := carried.checkinDeadline
    have le := mirrors.start_le
    apply UInt64.le_iff_toNat_le.mpr
    omega

/-- What a stored event was created with. -/
def terms (event : Event) : CreateEventArgs where
  organizer := event.organizer
  title := event.title
  venue := event.venue
  bondAmount := event.bondAmount
  capacity := event.capacity
  startTime := event.startTime
  checkinStart := event.checkinStart
  checkinDeadline := event.checkinDeadline
  cancellationDeadline := event.cancellationDeadline
  organizerBps := event.organizerBps
  communityBps := event.communityBps

/-- No number or amount of the field exceeds the bound. -/
def FieldValue.AtMost (bound : Int) : FieldValue → Prop
  | .number (.safe val _ _) => val ≤ bound
  | .bigint val => val ≤ bound
  | _ => True

/-- The capacity is within `u32` and the bond within `i128`. -/
def SchemaInput.FitsAbi : SchemaInput → Prop
  | .object get =>
    (get "capacity").AtMost (2 ^ 32 - 1) ∧ (get "bondAmount").AtMost (2 ^ 127 - 1)
  | .other => True

theorem fitsAbi_iff {raw : SchemaInput} (accepted : createEventInputSchema raw = .ok input) :
    raw.FitsAbi ↔ input.capacity.val ≤ 2 ^ 32 - 1 ∧ input.bondAmount ≤ 2 ^ 127 - 1 := by
  obtain ⟨_, get, rfl, bond, capacity⟩ := createEventInputSchema_ok accepted
  simp only [SchemaInput.FitsAbi, bond, capacity, FieldValue.AtMost]

section Call
variable {tok : Token} {contract : Address} {env : Env contract} {l : Ledger tok.State}

/-- Valid arguments are stored as they are, under the next id. -/
theorem createEvent_stores {args : CreateEventArgs} (valid : args.Valid)
    (signed : env.authorizes args.organizer) (room : l.eventCount.toNat < 2 ^ 64 - 1) :
    ∃ f event, invoke tok env (.createEvent args) l = .ok () f ∧
      f.ledger.eventCount.toNat = l.eventCount.toNat + 1 ∧
      f.ledger.events.lookup f.ledger.eventCount = some event ∧ terms event = args := by
  obtain ⟨id, counted⟩ : ∃ id : UInt64, (id.toNat : Int) = l.eventCount.toNat + 1 :=
    U64.exists_toNat (by omega) (by omega)
  have counted : id.toNat = l.eventCount.toNat + 1 := by omega
  have next : U64.checkedAdd l.eventCount 1 = some id := U64.checkedAdd_eq_some.mpr counted
  refine ⟨_, args.toEvent id, createEvent_ok_iff.mpr (.createEvent signed valid next), counted,
    ?_, rfl⟩
  exact Finmap.lookup_insert l.events

/-- For an accepted input the contract's call is there to be made, succeeds and stores the
input's values exactly when bond and capacity are within the contract's types. -/
theorem validation_sound_iff {raw : SchemaInput}
    (accepted : createEventInputSchema raw = .ok input)
    (valid : strkey input.organizer = some organizer) (signed : env.authorizes organizer)
    (room : l.eventCount.toNat < 2 ^ 64 - 1) :
    (∃ args f event, (toCreateEventArgs input).encode strkey = some args ∧
      invoke tok env (.createEvent args) l = .ok () f ∧
      f.ledger.eventCount.toNat = l.eventCount.toNat + 1 ∧
      f.ledger.events.lookup f.ledger.eventCount = some event ∧
      input.Carried organizer (terms event)) ↔ raw.FitsAbi := by
  have mirrors := (createEventInputSchema_ok accepted).1
  rw [fitsAbi_iff accepted, ← @carried_iff input organizer mirrors]
  constructor
  · rintro ⟨args, _, _, encoded, _⟩
    exact ⟨args, (encode_eq_some valid).mp encoded⟩
  · rintro ⟨args, carried⟩
    have signed : env.authorizes args.organizer := by
      rw [carried.organizer]
      exact signed
    obtain ⟨f, event, done, counted, stored, same⟩ :=
      createEvent_stores (carried.valid mirrors) signed room
    refine ⟨args, f, event, (encode_eq_some valid).mpr carried, done, counted, stored, ?_⟩
    rw [same]
    exact carried

end Call

/-! A form to evaluate the schema on. -/

/-- The account of the all-zero public key. -/
def sampleAccount : Text :=
  Utf16.ofChars ('G' :: (List.replicate 52 'A' ++ ['W', 'H', 'F']))

def sampleOrganizer : Address :=
  ⟨"GAAAAAAAAAAAAAAAAAAAAAAAAAAAAAAAAAAAAAAAAAAAAAAAAAAAAWHF", by decide⟩

def sampleStrkey (value : Text) : Option Address :=
  if value = sampleAccount then some sampleOrganizer else none

def whole (n : Nat) (h : n ≤ 2 ^ 53 - 1 := by decide) : SafeInt := ⟨n, by omega, by omega⟩

def sampleInput (capacity : SafeInt) : CreateEventInput where
  organizer := sampleAccount
  title := Utf16.ofChars ['M', 'e', 'e', 't', 'u', 'p']
  venue := Utf16.ofChars ['H', 'a', 'l', 'l']
  bondAmount := 50
  capacity := capacity
  startTime := whole 20
  checkinStart := whole 10
  checkinDeadline := whole 30
  cancellationDeadline := whole 10
  organizerBps := whole 2500
  communityBps := whole 7500

theorem validation_sound_sample :
    ∃ args f event, (toCreateEventArgs (sampleInput (whole 40))).encode sampleStrkey = some args ∧
      invoke plainToken (Scenario.env 1) (.createEvent args)
        (ShowUp.constructor plainToken Scenario.usdc Scenario.pool fun _ => 0) = .ok () f ∧
      f.ledger.eventCount.toNat = 0 + 1 ∧
      f.ledger.events.lookup f.ledger.eventCount = some event ∧
      (sampleInput (whole 40)).Carried sampleOrganizer (terms event) := by
  have accepted : createEventInputSchema (sampleInput (whole 40)).toObject =
    .ok (sampleInput (whole 40)) := rfl
  apply (validation_sound_iff accepted (if_pos rfl) (by decide) (by decide)).mpr
  exact (fitsAbi_iff accepted).mpr (by decide)

theorem unbounded_capacity :
    createEventInputSchema (sampleInput (whole (2 ^ 32))).toObject =
        .ok (sampleInput (whole (2 ^ 32))) ∧
      (toCreateEventArgs (sampleInput (whole (2 ^ 32)))).encode sampleStrkey = none ∧
      ¬ ∀ (strkey : Text → Option Address) raw input organizer,
        createEventInputSchema raw = .ok input → strkey input.organizer = some organizer →
        ∃ args, (toCreateEventArgs input).encode strkey = some args := by
  have accepted : createEventInputSchema (sampleInput (whole (2 ^ 32))).toObject =
    .ok (sampleInput (whole (2 ^ 32))) := rfl
  have refused : (toCreateEventArgs (sampleInput (whole (2 ^ 32)))).encode sampleStrkey = none := by
    decide
  refine ⟨accepted, refused, fun fits => ?_⟩
  obtain ⟨args, encoded⟩ := fits sampleStrkey _ _ sampleOrganizer accepted (if_pos rfl)
  rw [refused] at encoded
  cases encoded

end ShowUp.Client

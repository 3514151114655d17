import ShowUp.Contract.Host

/-!
# The entry points of `ShowUpBondContract`

One definition for each function of `lib.rs`, in its order of checks and effects.
-/

namespace ShowUp

set_option autoImplicit false

open Host

variable (tok : Token) {contract : Address} (env : Env contract)

/-- `__constructor`: what the instance holds before the first call. -/
def constructor (token communityPool : Address) (t : tok.State) : Ledger tok.State :=
  { config := { token, communityPool }
    eventCount := 0
    events := ∅
    reservations := ∅
    token := t }

/-- The event `create_event` stores under a fresh id. -/
def CreateEventArgs.toEvent (args : CreateEventArgs) (eventId : UInt64) : Event where
  id := eventId
  organizer := args.organizer
  verifier := args.organizer
  title := args.title
  venue := args.venue
  bondAmount := args.bondAmount
  capacity := args.capacity
  reservedCount := 0
  startTime := args.startTime
  checkinStart := args.checkinStart
  checkinDeadline := args.checkinDeadline
  cancellationDeadline := args.cancellationDeadline
  organizerBps := args.organizerBps
  communityBps := args.communityBps
  status := .active

def createEvent (args : CreateEventArgs) : Host tok.State UInt64 := do
  requireAuth env args.organizer
  returnErrIf (args.bondAmount.val ≤ 0 ∨ args.capacity = 0 ∨
    args.title.length > maxTitleLength ∨ args.venue.length > maxVenueLength) .invalidAmount
  let totalBps ← okOr (U32.checkedAdd args.organizerBps args.communityBps) .overflow
  returnErrIf (totalBps ≠ 10000) .invalidBasisPoints
  returnErrIf (args.cancellationDeadline > args.checkinStart ∨
    args.checkinStart > args.checkinDeadline ∨ args.startTime < args.checkinStart ∨
    args.startTime > args.checkinDeadline) .invalidSchedule
  let eventId ← okOr (U64.checkedAdd (← getEventCount) 1) .overflow
  setEventCount eventId
  setEvent (args.toEvent eventId)
  publish (.eventCreated eventId args.organizer args.bondAmount args.capacity)
  return eventId

def reserve (eventId : UInt64) (participant : Address) : Host tok.State Unit := do
  requireAuth env participant
  let event ← okOr (← getEvent eventId) .notFound
  returnErrIf (event.status ≠ .active) .notActive
  let now := env.timestamp
  returnErrIf (now ≥ event.checkinDeadline) .checkInWindowClosed
  returnErrIf (event.reservedCount ≥ event.capacity) .eventFull
  returnErrIf (← getReservation eventId participant).isSome .alreadyReserved
  let reservedCount ← okOr (U32.checkedAdd event.reservedCount 1) .overflow
  let reservation : Reservation :=
    { eventId, participant, amount := event.bondAmount, reservedAt := now, status := .locked }
  setEvent { event with reservedCount }
  setReservation reservation
  let config ← getConfig
  tokenTransfer tok env config.token participant contract reservation.amount
  publish (.bondLocked eventId participant reservation.amount)

def cancelReservation (eventId : UInt64) (participant : Address) : Host tok.State Unit := do
  requireAuth env participant
  let reservation ← okOr (← getReservation eventId participant) .notFound
  returnErrIf (reservation.status ≠ .locked) .notLocked
  let event ← okOr (← getEvent eventId) .notFound
  returnErrIf (event.status ≠ .active) .notActive
  returnErrIf (env.timestamp > event.cancellationDeadline) .cancellationDeadlinePassed
  let reservedCount ← okOr (U32.checkedSub event.reservedCount 1) .overflow
  setEvent { event with reservedCount }
  setReservation { reservation with status := .cancelled }
  let config ← getConfig
  tokenTransfer tok env config.token contract participant reservation.amount
  publish (.reservationCancelled eventId participant reservation.amount)

def checkIn (eventId : UInt64) (participant : Address) : Host tok.State Unit := do
  let reservation ← okOr (← getReservation eventId participant) .notFound
  returnErrIf (reservation.status ≠ .locked) .notLocked
  let event ← okOr (← getEvent eventId) .notFound
  requireAuth env event.verifier
  returnErrIf (event.status ≠ .active) .notActive
  let now := env.timestamp
  returnErrIf (now < event.checkinStart) .checkInNotOpen
  returnErrIf (now > event.checkinDeadline) .checkInWindowClosed
  setReservation { reservation with status := .attended }
  let config ← getConfig
  tokenTransfer tok env config.token contract reservation.participant reservation.amount
  publish (.checkedIn eventId reservation.participant reservation.amount)

def cancelEvent (eventId : UInt64) : Host tok.State Unit := do
  let event ← okOr (← getEvent eventId) .notFound
  requireAuth env event.organizer
  returnErrIf (event.status ≠ .active) .notActive
  setEvent { event with status := .cancelled }
  publish (.eventCancelled eventId event.organizer)

def claimCancelledEventRefund (eventId : UInt64) (participant : Address) :
    Host tok.State Unit := do
  let reservation ← okOr (← getReservation eventId participant) .notFound
  returnErrIf (reservation.status ≠ .locked) .notLocked
  let event ← okOr (← getEvent eventId) .notFound
  returnErrIf (event.status ≠ .cancelled) .eventNotCancelled
  setReservation { reservation with status := .refunded }
  let config ← getConfig
  tokenTransfer tok env config.token contract reservation.participant reservation.amount
  publish (.refundClaimed eventId reservation.participant reservation.amount)

/-- `10_000` as an `i128`. -/
def tenThousand : I128 := .lit 10000

def settleNoShow (eventId : UInt64) (participant : Address) : Host tok.State Unit := do
  let reservation ← okOr (← getReservation eventId participant) .notFound
  returnErrIf (reservation.status ≠ .locked) .notLocked
  let event ← okOr (← getEvent eventId) .notFound
  returnErrIf (event.status ≠ .active) .notActive
  returnErrIf (env.timestamp ≤ event.checkinDeadline) .settlementTooEarly
  let product ← okOr (reservation.amount.checkedMul (.ofU32 event.organizerBps)) .overflow
  let organizerAmount ← okOr (product.checkedDiv tenThousand) .overflow
  let communityAmount ← okOr (reservation.amount.checkedSub organizerAmount) .overflow
  setReservation { reservation with status := .noShowSettled }
  let config ← getConfig
  tokenTransfer tok env config.token contract event.organizer organizerAmount
  tokenTransfer tok env config.token contract config.communityPool communityAmount
  publish (.noShowSettled eventId reservation.participant organizerAmount communityAmount)

def Call.perform : Call → Host tok.State Unit
  | .createEvent args => do let _ ← ShowUp.createEvent tok env args
  | .reserve id p => ShowUp.reserve tok env id p
  | .cancelReservation id p => ShowUp.cancelReservation tok env id p
  | .checkIn id p => ShowUp.checkIn tok env id p
  | .cancelEvent id => ShowUp.cancelEvent tok env id
  | .claimCancelledEventRefund id p => ShowUp.claimCancelledEventRefund tok env id p
  | .settleNoShow id p => ShowUp.settleNoShow tok env id p

/-- A call on a ledger, before any rollback. -/
def invoke (call : Call) (l : Ledger tok.State) :
    EStateM.Result Failure (Frame tok.State) Unit :=
  (call.perform tok env).run ⟨l, []⟩

end ShowUp

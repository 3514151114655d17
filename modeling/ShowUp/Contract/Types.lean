import ShowUp.Shared.CheckedInt
import ShowUp.Shared.StoreTotal

/-!
# Data of the attendance bond contract

The stored records, the typed errors and the published events, field by field
as `types.rs`, `events.rs` and `storage.rs` declare them.
-/

namespace ShowUp

set_option autoImplicit false

/-- An account or contract address, by its strkey text. -/
structure Address where
  strkey : String
  nonempty : strkey ≠ ""

theorem Address.strkey_inj {a b : Address} : a.strkey = b.strkey ↔ a = b := by
  constructor
  · intro same
    cases a
    cases same
    rfl
  · exact congrArg strkey

instance : DecidableEq Address := fun _ _ => decidable_of_iff _ Address.strkey_inj

/-- Maximum UTF-8 byte length stored for an event title. -/
def maxTitleLength : Nat := 96

/-- Maximum UTF-8 byte length stored for an event venue. -/
def maxVenueLength : Nat := 160

structure Config where
  token : Address
  communityPool : Address
  deriving DecidableEq

inductive EventStatus where
  | active
  | cancelled
  deriving DecidableEq

inductive ReservationStatus where
  | locked
  | attended
  | cancelled
  | refunded
  | noShowSettled
  deriving DecidableEq

structure Event where
  id : UInt64
  organizer : Address
  verifier : Address
  title : List UInt8
  venue : List UInt8
  bondAmount : I128
  capacity : UInt32
  reservedCount : UInt32
  startTime : UInt64
  checkinStart : UInt64
  checkinDeadline : UInt64
  cancellationDeadline : UInt64
  organizerBps : UInt32
  communityBps : UInt32
  status : EventStatus
  deriving DecidableEq

structure Reservation where
  eventId : UInt64
  participant : Address
  amount : I128
  reservedAt : UInt64
  status : ReservationStatus
  deriving DecidableEq

/-- `DataKey::Reservation(event_id, participant)`. -/
abbrev ReservationKey := UInt64 × Address

/-- The contract's error codes, 1 to 14 in this order. -/
inductive Error where
  | notFound
  | notActive
  | alreadyReserved
  | eventFull
  | notLocked
  | checkInNotOpen
  | checkInWindowClosed
  | cancellationDeadlinePassed
  | settlementTooEarly
  | invalidBasisPoints
  | invalidSchedule
  | invalidAmount
  | overflow
  | eventNotCancelled
  deriving DecidableEq

/-- What the contract publishes. -/
inductive ContractEvent where
  | eventCreated (eventId : UInt64) (organizer : Address) (bondAmount : I128) (capacity : UInt32)
  | bondLocked (eventId : UInt64) (participant : Address) (amount : I128)
  | reservationCancelled (eventId : UInt64) (participant : Address) (amount : I128)
  | checkedIn (eventId : UInt64) (participant : Address) (amount : I128)
  | eventCancelled (eventId : UInt64) (organizer : Address)
  | refundClaimed (eventId : UInt64) (participant : Address) (amount : I128)
  | noShowSettled (eventId : UInt64) (participant : Address)
      (organizerAmount communityAmount : I128)
  deriving DecidableEq

/-- The `event_id` topic every published event carries. -/
def ContractEvent.eventId : ContractEvent → UInt64
  | eventCreated id .. | bondLocked id .. | reservationCancelled id .. | checkedIn id ..
  | eventCancelled id .. | refundClaimed id .. | noShowSettled id .. => id

/-- The arguments of `create_event`. -/
structure CreateEventArgs where
  organizer : Address
  title : List UInt8
  venue : List UInt8
  bondAmount : I128
  capacity : UInt32
  startTime : UInt64
  checkinStart : UInt64
  checkinDeadline : UInt64
  cancellationDeadline : UInt64
  organizerBps : UInt32
  communityBps : UInt32
  deriving DecidableEq

/-- The state-changing entry points with their arguments. -/
inductive Call where
  | createEvent (args : CreateEventArgs)
  | reserve (eventId : UInt64) (participant : Address)
  | cancelReservation (eventId : UInt64) (participant : Address)
  | checkIn (eventId : UInt64) (participant : Address)
  | cancelEvent (eventId : UInt64)
  | claimCancelledEventRefund (eventId : UInt64) (participant : Address)
  | settleNoShow (eventId : UInt64) (participant : Address)
  deriving DecidableEq

/-- The reservation a call names, if it names one. -/
def Call.key : Call → Option ReservationKey
  | createEvent _ | cancelEvent _ => none
  | reserve id p | cancelReservation id p | checkIn id p
  | claimCancelledEventRefund id p | settleNoShow id p => some (id, p)

end ShowUp

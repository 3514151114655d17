import ShowUp.Client.EventLog

/-!
# Reading reservations back

`readCurrentReservation` and `listEventReservations` of `lib/contract/event-log.ts`
and the part of `mappers.ts` they use.
-/

namespace ShowUp.Client

set_option autoImplicit false

variable {spec : EventSpec}

/-- `Number(value)`: the exact value of the nearest double, ties to even. -/
def secondsToNumber (value : UInt64) : Nat :=
  let n := value.toNat
  if n < 2 ^ 53 then n
  else
    let ulp := 2 ^ (n.log2 - 52)
    let below := n / ulp
    if 2 * (n % ulp) < ulp ∨ 2 * (n % ulp) = ulp ∧ below % 2 = 0 then below * ulp
    else (below + 1) * ulp

inductive ReservationViewStatus where
  | locked
  | attended
  | cancelled
  | refunded
  | noShowSettled
  deriving DecidableEq

structure ReservationView where
  eventId : Int
  participant : String
  amount : Int
  reservedAt : Nat
  status : ReservationViewStatus
  deriving DecidableEq

/-- From the tag of the generated union, which is the contract's. -/
def toReservationStatus : ReservationStatus → ReservationViewStatus
  | .locked => .locked
  | .attended => .attended
  | .cancelled => .cancelled
  | .refunded => .refunded
  | .noShowSettled => .noShowSettled

def toReservationView (reservation : Reservation) : ReservationView where
  eventId := reservation.eventId.toNat
  participant := reservation.participant.strkey
  amount := reservation.amount.val
  reservedAt := secondsToNumber reservation.reservedAt
  status := toReservationStatus reservation.status

/-- What the generated client's `get_reservation` comes back with: it rejects, or its
transaction carries no simulation, a failed one, one that asks for a restore, or a result. -/
inductive ReservationRead where
  | rejected (error : String)
  | unsimulated
  | simulationError (error : String)
  | restore
  | success (result : Option Reservation)

abbrev ReadClient := UInt64 → String → ReservationRead

/-- `translateContractError` only rewrites the rejection, which `allSettled` drops. -/
def readCurrentReservation (getReservation : ReadClient) (eventId : UInt64)
    (participant : String) : Except String (Option ReservationView) :=
  match getReservation eventId participant with
  | .rejected error => .error error
  | .unsimulated => .error "The reservation read was not simulated."
  | .simulationError error => .error ("Contract simulation failed: " ++ error)
  | .restore => .error
      "This reservation has expired on-chain and must be restored before it can be used."
  | .success result => .ok (result.map toReservationView)

structure EventReservationList where
  reservations : List ReservationView
  historyComplete : Bool
  unreadable : Nat
  retention : EventLogRetention
  deriving DecidableEq

/-- `Set.prototype.add`, on the elements in order of insertion. -/
def addToSet (set : List String) (value : String) : List String :=
  if value ∈ set then set else set ++ [value]

def addParticipant (participants : List String) (entry : ShowUpContractEvent) : List String :=
  match entry.body with
  | .bondLocked _ participant _ => addToSet participants participant
  | _ => participants

def countOutcome (seen : List ReservationView × Nat)
    (outcome : Except String (Option ReservationView)) : List ReservationView × Nat :=
  match outcome with
  | .ok (some value) => (seen.1 ++ [value], seen.2)
  | _ => (seen.1, seen.2 + 1)

def listEventReservations (contractId : String) (rpc : Rpc spec) (getReservation : ReadClient)
    (fuel : Nat) (eventId : UInt64) : Option (Except String EventReservationList) :=
  (readEventLog contractId rpc fuel eventId).map fun log => do
    let log ← log
    let participants := log.entries.foldl addParticipant []
    let settled := participants.map (readCurrentReservation getReservation eventId)
    let (reservations, unreadable) := settled.foldl countOutcome ([], 0)
    return {
      reservations
      historyComplete := log.historyComplete && unreadable == 0
      unreadable
      retention := log.retention }

end ShowUp.Client

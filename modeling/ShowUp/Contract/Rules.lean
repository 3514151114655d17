import ShowUp.Contract.HostRules

/-!
# The contract's transition rules

A bond has one life: it is locked by `reserve` and ended by one of four exits.
The exits differ in who may take them and when (`Exit.Open`), in the status they
leave, and in their terms: who is paid what and what is published. `Rule` lists
everything a successful call can do; `perform_ok_iff` says that the entry points
do exactly that, on a ledger whose records sit under their own keys.
-/

namespace ShowUp

set_option autoImplicit false

open Host StoreTotal

/-- The four ways a locked reservation ends. -/
inductive Exit where
  | cancelReservation
  | checkIn
  | claimCancelledEventRefund
  | settleNoShow
  deriving DecidableEq

/-- Who is paid what, in order, and what is published. -/
structure Terms where
  legs : List (Address × I128)
  entry : ContractEvent

def splitByBps (event : Event) (amount : I128) : Option (I128 × I128) := do
  let product ← amount.checkedMul (.ofU32 event.organizerBps)
  let organizerAmount ← product.checkedDiv tenThousand
  let communityAmount ← amount.checkedSub organizerAmount
  return (organizerAmount, communityAmount)

namespace Exit

def call : Exit → UInt64 → Address → Call
  | cancelReservation => .cancelReservation
  | checkIn => .checkIn
  | claimCancelledEventRefund => .claimCancelledEventRefund
  | settleNoShow => .settleNoShow

def status : Exit → ReservationStatus
  | cancelReservation => .cancelled
  | checkIn => .attended
  | claimCancelledEventRefund => .refunded
  | settleNoShow => .noShowSettled

/-- When the exit's checks on the caller, the event and the clock all pass. -/
def Open {contract : Address} (env : Env contract) (event : Event) (participant : Address) :
    Exit → Prop
  | cancelReservation => env.authorizes participant ∧ event.status = .active ∧
      env.timestamp ≤ event.cancellationDeadline
  | checkIn => env.authorizes event.verifier ∧ event.status = .active ∧
      event.checkinStart ≤ env.timestamp ∧ env.timestamp ≤ event.checkinDeadline
  | claimCancelledEventRefund => event.status = .cancelled
  | settleNoShow => event.status = .active ∧ event.checkinDeadline < env.timestamp

/-- The event after the exit: only a cancellation gives its seat back. -/
def eventAfter (event : Event) : Exit → Option Event
  | cancelReservation => do
      let reservedCount ← U32.checkedSub event.reservedCount 1
      return { event with reservedCount }
  | _ => some event

def terms (pool : Address) (event : Event) (key : ReservationKey) (amount : I128) :
    Exit → Option Terms
  | cancelReservation =>
      some ⟨[(key.2, amount)], .reservationCancelled key.1 key.2 amount⟩
  | checkIn => some ⟨[(key.2, amount)], .checkedIn key.1 key.2 amount⟩
  | claimCancelledEventRefund => some ⟨[(key.2, amount)], .refundClaimed key.1 key.2 amount⟩
  | settleNoShow => do
      let (organizerAmount, communityAmount) ← splitByBps event amount
      return ⟨[(event.organizer, organizerAmount), (pool, communityAmount)],
        .noShowSettled key.1 key.2 organizerAmount communityAmount⟩

def writes (event : Event) (reservation : Reservation) : Exit → List Effect
  | cancelReservation => [.setEvent event, .setReservation reservation]
  | _ => [.setReservation reservation]

end Exit

variable (tok : Token) {contract : Address}

def payAll (contract : Address) (t : tok.State) (legs : List (Address × I128)) :
    Option tok.State :=
  legs.foldlM (fun t leg => tok.transfer t contract leg.1 leg.2) t

/-- Every check `create_event` makes on its arguments. -/
structure CreateEventArgs.Valid (args : CreateEventArgs) : Prop where
  bond_pos : 0 < args.bondAmount.val
  capacity_ne : args.capacity ≠ 0
  title_le : args.title.length ≤ maxTitleLength
  venue_le : args.venue.length ≤ maxVenueLength
  bps : U32.checkedAdd args.organizerBps args.communityBps = some 10000
  cancellation_le : args.cancellationDeadline ≤ args.checkinStart
  window : args.checkinStart ≤ args.checkinDeadline
  start_ge : args.checkinStart ≤ args.startTime
  start_le : args.startTime ≤ args.checkinDeadline

/-- What a successful call does: its guards, the ledger it leaves and the effects
it had, in order. -/
inductive Rule (env : Env contract) (l : Ledger tok.State) : Call → Frame tok.State → Prop
  | createEvent {args : CreateEventArgs} {id : UInt64}
      (signed : env.authorizes args.organizer) (valid : args.Valid)
      (next : U64.checkedAdd l.eventCount 1 = some id) :
      Rule env l (.createEvent args)
        ⟨{ l with eventCount := id, events := l.events.insert id (args.toEvent id) },
          [.setEventCount id, .setEvent (args.toEvent id),
            .published (.eventCreated id args.organizer args.bondAmount args.capacity)]⟩
  | reserve {id : UInt64} {p : Address} {event : Event} {reservedCount : UInt32} {t : tok.State}
      (signed : env.authorizes p) (found : l.events.lookup id = some event)
      (active : event.status = .active) (early : env.timestamp < event.checkinDeadline)
      (seat : event.reservedCount < event.capacity)
      (fresh : l.reservations.lookup (id, p) = none)
      (counted : U32.checkedAdd event.reservedCount 1 = some reservedCount)
      (signedTransfer : p = contract ∨ env.authorizesTransfer p)
      (paid : tok.transfer l.token p contract event.bondAmount = some t) :
      Rule env l (.reserve id p)
        ⟨{ l with
            events := l.events.insert id { event with reservedCount }
            reservations := l.reservations.insert (id, p)
              ⟨id, p, event.bondAmount, env.timestamp, .locked⟩
            token := t },
          [.setEvent { event with reservedCount },
            .setReservation ⟨id, p, event.bondAmount, env.timestamp, .locked⟩,
            .transferred ⟨l.config.token, p, contract, event.bondAmount⟩,
            .published (.bondLocked id p event.bondAmount)]⟩
  | exit {call : Call} {x : Exit} {id : UInt64} {p : Address} {r : Reservation}
      {event event' : Event} {terms : Terms} {t : tok.State}
      (named : call = x.call id p)
      (held : l.reservations.lookup (id, p) = some r) (locked : r.status = .locked)
      (found : l.events.lookup id = some event) (isOpen : x.Open env event p)
      (seat : x.eventAfter event = some event')
      (agreed : x.terms l.config.communityPool event (id, p) r.amount = some terms)
      (paid : payAll tok contract l.token terms.legs = some t) :
      Rule env l call
        ⟨{ l with
            events := l.events.insert id event'
            reservations := l.reservations.insert (id, p) { r with status := x.status }
            token := t },
          x.writes event' { r with status := x.status } ++
            terms.legs.map (fun leg =>
              .transferred ⟨l.config.token, contract, leg.1, leg.2⟩) ++
            [.published terms.entry]⟩
  | cancelEvent {id : UInt64} {event : Event}
      (found : l.events.lookup id = some event) (signed : env.authorizes event.organizer)
      (active : event.status = .active) :
      Rule env l (.cancelEvent id)
        ⟨{ l with events := l.events.insert id { event with status := .cancelled } },
          [.setEvent { event with status := .cancelled },
            .published (.eventCancelled id event.organizer)]⟩

structure Ledger.Keyed {σ : Type} (l : Ledger σ) : Prop where
  event : ∀ {id e}, l.events.lookup id = some e → e.id = id
  reservation : ∀ {k r}, l.reservations.lookup k = some r → (r.eventId, r.participant) = k

end ShowUp

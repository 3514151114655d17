import ShowUp.Client.Reservations
import ShowUp.Contract.Checks

/-!
# What the client offers

`lib/domain/eligibility.ts` and `lib/domain/reservation-buckets.ts`: which calls
the screens offer, predicted from the views of the stored records and the ledger
time. The contract decides the same questions again, on the records themselves.
-/

namespace ShowUp.Client

set_option autoImplicit false

inductive EventViewStatus where
  | active
  | cancelled
  deriving DecidableEq

structure EventView where
  id : Int
  organizer : String
  verifier : String
  title : String
  venue : String
  bondAmount : Int
  capacity : Nat
  reservedCount : Nat
  startTime : Nat
  checkinStart : Nat
  checkinDeadline : Nat
  cancellationDeadline : Nat
  organizerBps : Nat
  communityBps : Nat
  status : EventViewStatus
  deriving DecidableEq

def toEventStatus : EventStatus → EventViewStatus
  | .active => .active
  | .cancelled => .cancelled

/-- `decodeText` is the generated client's reading of a contract string. -/
def toEventView (decodeText : List UInt8 → String) (event : Event) : EventView where
  id := event.id.toNat
  organizer := event.organizer.strkey
  verifier := event.verifier.strkey
  title := decodeText event.title
  venue := decodeText event.venue
  bondAmount := event.bondAmount.val
  capacity := event.capacity.toNat
  reservedCount := event.reservedCount.toNat
  startTime := secondsToNumber event.startTime
  checkinStart := secondsToNumber event.checkinStart
  checkinDeadline := secondsToNumber event.checkinDeadline
  cancellationDeadline := secondsToNumber event.cancellationDeadline
  organizerBps := event.organizerBps.toNat
  communityBps := event.communityBps.toNat
  status := toEventStatus event.status

section Predicates
variable (event : EventView) (reservation : Option ReservationView) (nowSeconds : Nat)

def canReserve : Bool :=
  event.status = .active ∧ nowSeconds < event.checkinDeadline ∧
    event.reservedCount < event.capacity ∧ reservation = none

/-- `reservation !== null && reservation.status === "locked"` -/
def isLocked : Bool := reservation.any fun r => r.status = .locked

def canCancelReservation : Bool :=
  isLocked reservation ∧ event.status = .active ∧ nowSeconds ≤ event.cancellationDeadline

def canCheckIn : Bool :=
  isLocked reservation ∧ event.status = .active ∧ event.checkinStart ≤ nowSeconds ∧
    nowSeconds ≤ event.checkinDeadline

def canSettleNoShow : Bool :=
  isLocked reservation ∧ event.status = .active ∧ event.checkinDeadline < nowSeconds

/-- Without a deadline: `nowSeconds` is there only so that all predicates are called alike. -/
def canClaimCancelledRefund (_nowSeconds : Nat) : Bool :=
  isLocked reservation ∧ event.status = .cancelled

end Predicates

inductive ReservationBucket where
  | upcoming
  | attended
  | cancelled
  | noShow
  deriving DecidableEq

def reservationBucket (event : EventView) (reservation : ReservationView) (nowSeconds : Nat) :
    ReservationBucket :=
  match reservation.status with
  | .attended => .attended
  | .cancelled | .refunded => .cancelled
  | .noShowSettled => .noShow
  | .locked =>
    if event.status = .cancelled then .cancelled
    else if event.checkinDeadline < nowSeconds then .noShow
    else .upcoming

/-! Narrowing a stored time to a double moves no deadline across a present below `2^53`. -/

theorem secondsToNumber_exact {value : UInt64} (small : value.toNat < 2 ^ 53) :
    secondsToNumber value = value.toNat := if_pos small

theorem le_secondsToNumber {value : UInt64} (large : 2 ^ 53 ≤ value.toNat) :
    2 ^ 53 ≤ secondsToNumber value := by
  have top : 53 ≤ value.toNat.log2 := (Nat.le_log2 (by omega)).mpr large
  have below : 2 ^ 52 ≤ value.toNat / 2 ^ (value.toNat.log2 - 52) := by
    apply (Nat.le_div_iff_mul_le (Nat.two_pow_pos _)).mpr
    rw [← Nat.pow_add, Nat.add_sub_cancel' (by omega)]
    exact Nat.log2_self_le (by omega)
  have ulp : 2 ^ 1 ≤ 2 ^ (value.toNat.log2 - 52) := Nat.pow_le_pow_right (by decide) (by omega)
  have scaled : 2 ^ 52 * 2 ^ 1 ≤
      value.toNat / 2 ^ (value.toNat.log2 - 52) * 2 ^ (value.toNat.log2 - 52) :=
    Nat.mul_le_mul below ulp
  unfold secondsToNumber
  rw [if_neg (Nat.not_lt.mpr large)]
  dsimp only
  split
  · exact scaled
  · rw [Nat.add_mul]
    omega

theorem lt_secondsToNumber_iff {now value : UInt64} (present : now.toNat < 2 ^ 53) :
    now.toNat < secondsToNumber value ↔ now < value := by
  rw [UInt64.lt_iff_toNat_lt]
  by_cases small : value.toNat < 2 ^ 53
  · rw [secondsToNumber_exact small]
  · have := le_secondsToNumber (Nat.not_lt.mp small)
    omega

theorem secondsToNumber_lt_iff {now value : UInt64} (present : now.toNat < 2 ^ 53) :
    secondsToNumber value < now.toNat ↔ value < now := by
  rw [UInt64.lt_iff_toNat_lt]
  by_cases small : value.toNat < 2 ^ 53
  · rw [secondsToNumber_exact small]
  · have := le_secondsToNumber (Nat.not_lt.mp small)
    omega

theorem secondsToNumber_le_iff {now value : UInt64} (present : now.toNat < 2 ^ 53) :
    secondsToNumber value ≤ now.toNat ↔ value ≤ now := by
  rw [← Nat.not_lt, lt_secondsToNumber_iff present, UInt64.not_lt]

theorem le_secondsToNumber_iff {now value : UInt64} (present : now.toNat < 2 ^ 53) :
    now.toNat ≤ secondsToNumber value ↔ now ≤ value := by
  rw [← Nat.not_lt, secondsToNumber_lt_iff present, UInt64.not_lt]

theorem isLocked_iff {stored : Option Reservation} :
    isLocked (stored.map toReservationView) ↔ ∃ r, stored = some r ∧ r.status = .locked := by
  cases stored with
  | none => simp [isLocked]
  | some r => cases h : r.status <;> simp [isLocked, toReservationView, toReservationStatus, h]

theorem toEventStatus_active {status : EventStatus} :
    toEventStatus status = .active ↔ status = .active := by
  cases status <;> decide

theorem toEventStatus_cancelled {status : EventStatus} :
    toEventStatus status = .cancelled ↔ status = .cancelled := by
  cases status <;> decide

section Agreement
variable {tok : Token} {contract : Address} {env : Env contract} {l : Ledger tok.State}
  {id : UInt64} {p : Address} {e : Event} (decodeText : List UInt8 → String)

theorem canReserve_iff (found : l.events.lookup id = some e)
    (present : env.timestamp.toNat < 2 ^ 53) :
    canReserve (toEventView decodeText e)
        ((l.reservations.lookup (id, p)).map toReservationView) env.timestamp.toNat ↔
      ∃ e, Reservable env l id p e := by
  simp only [canReserve, toEventView, toEventStatus_active, lt_secondsToNumber_iff present,
    ← UInt32.lt_iff_toNat_lt, Option.map_eq_none_iff, decide_eq_true_eq]
  constructor
  · intro h
    rcases h with ⟨active, early, seat, fresh⟩
    exact ⟨e, found, active, early, seat, fresh⟩
  · intro h
    rcases h with ⟨e', found', active, early, seat, fresh⟩
    cases found.symm.trans found'
    exact ⟨active, early, seat, fresh⟩

/-- Whoever has to sign for the exit has signed. -/
def Authorized (env : Env contract) (e : Event) (p : Address) : Exit → Prop
  | .cancelReservation => env.authorizes p
  | .checkIn => env.authorizes e.verifier
  | .claimCancelledEventRefund | .settleNoShow => True

/-- The predicate behind each exit's button. -/
def offers : Exit → EventView → Option ReservationView → Nat → Bool
  | .cancelReservation => canCancelReservation
  | .checkIn => canCheckIn
  | .claimCancelledEventRefund => canClaimCancelledRefund
  | .settleNoShow => canSettleNoShow

theorem offers_iff {x : Exit} {stored : Option Reservation}
    (present : env.timestamp.toNat < 2 ^ 53) (authorized : Authorized env e p x) :
    offers x (toEventView decodeText e) (stored.map toReservationView) env.timestamp.toNat ↔
      ∃ r, stored = some r ∧ r.status = .locked ∧ x.Open env e p := by
  have both : ∀ {c : Prop}, (∃ r, stored = some r ∧ r.status = .locked ∧ c) ↔
      isLocked (stored.map toReservationView) ∧ c := by
    intro c
    simp only [isLocked_iff, ← and_assoc, exists_and_right]
  rw [both]
  cases x with
  | cancelReservation =>
    have signed : env.authorizes p := authorized
    simp only [offers, canCancelReservation, Exit.Open, toEventView, toEventStatus_active,
      le_secondsToNumber_iff present, decide_eq_true_eq, signed, true_and]
  | checkIn =>
    have signed : env.authorizes e.verifier := authorized
    simp only [offers, canCheckIn, Exit.Open, toEventView, toEventStatus_active,
      le_secondsToNumber_iff present, secondsToNumber_le_iff present, decide_eq_true_eq, signed,
      true_and]
  | claimCancelledEventRefund =>
    simp only [offers, canClaimCancelledRefund, Exit.Open, toEventView, toEventStatus_cancelled,
      decide_eq_true_eq]
  | settleNoShow =>
    simp only [offers, canSettleNoShow, Exit.Open, toEventView, toEventStatus_active,
      secondsToNumber_lt_iff present, decide_eq_true_eq]

theorem offers_iff_passesChecks (w : l.WellFormed contract) (seated : l.Seated)
    (found : l.events.lookup id = some e) {x : Exit}
    (present : env.timestamp.toNat < 2 ^ 53) (authorized : Authorized env e p x)
    (fits : x = .settleNoShow → ∀ r, l.reservations.lookup (id, p) = some r →
      r.amount.val * e.organizerBps.toNat < 2 ^ 127) :
    offers x (toEventView decodeText e)
        ((l.reservations.lookup (id, p)).map toReservationView) env.timestamp.toNat ↔
      PassesChecks tok env (x.call id p) l := by
  rw [offers_iff decodeText present authorized, exit_passesChecks_iff w seated found]
  constructor
  · intro h
    rcases h with ⟨r, held, locked, isOpen⟩
    exact ⟨r, held, locked, isOpen, fun settles => fits settles r held⟩
  · intro h
    rcases h with ⟨r, held, locked, isOpen, _⟩
    exact ⟨r, held, locked, isOpen⟩

theorem bucket_of_locked {event : EventView} {reservation : ReservationView} {now : Nat}
    (locked : reservation.status = .locked) :
    (reservationBucket event reservation now = .noShow ↔
        canSettleNoShow event (some reservation) now) ∧
      (reservationBucket event reservation now = .cancelled ↔
        canClaimCancelledRefund event (some reservation) now) ∧
      (reservationBucket event reservation now = .upcoming ↔
        ¬ canSettleNoShow event (some reservation) now ∧
          ¬ canClaimCancelledRefund event (some reservation) now) := by
  have held : isLocked (some reservation) := by simp [isLocked, locked]
  simp only [reservationBucket, locked, canSettleNoShow, canClaimCancelledRefund, held,
    decide_eq_true_eq, true_and]
  cases status : event.status with
  | active =>
    by_cases late : event.checkinDeadline < now
    · simp [late]
    · simp [late]
  | cancelled => simp

/-- In every reachable state the screens offer exactly the calls that would pass, and a
locked reservation is filed by the exit that is open for it. -/
theorem offers_what_passes (d : Deployment tok) (steps : List (Step contract))
    (found : (Chain.after d steps).ledger.events.lookup id = some e) (env : Env contract)
    (present : env.timestamp.toNat < 2 ^ 53) (p : Address) :
    let l := (Chain.after d steps).ledger
    let event := toEventView decodeText e
    let stored := l.reservations.lookup (id, p)
    let reservation := stored.map toReservationView
    let now := env.timestamp.toNat
    (env.authorizes p →
      (canReserve event reservation now ↔ PassesChecks tok env (.reserve id p) l)) ∧
    (env.authorizes p → (canCancelReservation event reservation now ↔
      PassesChecks tok env (.cancelReservation id p) l)) ∧
    (env.authorizes e.verifier →
      (canCheckIn event reservation now ↔ PassesChecks tok env (.checkIn id p) l)) ∧
    ((∀ r, stored = some r → r.amount.val * e.organizerBps.toNat < 2 ^ 127) →
      (canSettleNoShow event reservation now ↔
        PassesChecks tok env (.settleNoShow id p) l)) ∧
    (canClaimCancelledRefund event reservation now ↔
      PassesChecks tok env (.claimCancelledEventRefund id p) l) ∧
    ∀ r, stored = some r → r.status = .locked →
      (reservationBucket event (toReservationView r) now = .noShow ↔
        canSettleNoShow event reservation now) ∧
      (reservationBucket event (toReservationView r) now = .cancelled ↔
        canClaimCancelledRefund event reservation now) ∧
      (reservationBucket event (toReservationView r) now = .upcoming ↔
        ¬ canSettleNoShow event reservation now ∧
          ¬ canClaimCancelledRefund event reservation now) := by
  have w := Chain.after_wellFormed d steps
  have exits := fun x => @offers_iff_passesChecks tok contract env _ id p e decodeText w
    (Chain.after_seated d steps) found x present
  refine ⟨?_, ?_, ?_, ?_, ?_, ?_⟩
  · intro signed
    rw [canReserve_iff decodeText found present, reserve_passesChecks_iff w.toKeyed signed]
  · exact fun signed => exits .cancelReservation signed nofun
  · exact fun signed => exits .checkIn signed nofun
  · exact fun fits => exits .settleNoShow trivial fun _ => fits
  · exact exits .claimCancelledEventRefund trivial nofun
  · intro r held locked
    have view : (toReservationView r).status = .locked := by
      rw [toReservationView, locked]
      rfl
    rw [held]
    exact bucket_of_locked view

theorem offers_what_passes_reserved :
    PassesChecks plainToken (Scenario.env 31) (.settleNoShow 1 Scenario.guest)
        (Chain.after Scenario.deployment Scenario.reserved).ledger ∧
      ¬ PassesChecks plainToken (Scenario.env 31) (.reserve 1 Scenario.organizer)
        (Chain.after Scenario.deployment Scenario.reserved).ledger := by
  have found : (Chain.after Scenario.deployment Scenario.reserved).ledger.events.lookup 1 =
    some { Scenario.args.toEvent 1 with reservedCount := 1 } := by decide
  have held : (Chain.after Scenario.deployment Scenario.reserved).ledger.reservations.lookup
      (1, Scenario.guest) = some ⟨1, Scenario.guest, .lit 50, 2, .locked⟩ := by decide
  have offered := fun p => offers_what_passes (fun _ => "") Scenario.deployment
    Scenario.reserved found (Scenario.env 31) (by decide) p
  constructor
  · apply ((offered Scenario.guest).2.2.2.1 ?_).mp
    · rw [held]
      decide
    · intro r stored
      cases held.symm.trans stored
      decide
  · intro passes
    have shown := ((offered Scenario.organizer).1 (by decide)).mpr passes
    revert shown
    decide

end Agreement

end ShowUp.Client

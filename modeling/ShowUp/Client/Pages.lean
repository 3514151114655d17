import ShowUp.Client.ActionPage
import ShowUp.Client.Eligibility

/-!
# What the pages say of the contract

The event page, the reservation page and the organizer's page of an event. Each tells of a
success and of an amount with it: the bond that is locked, given back or settled. The amount
is taken from a snapshot that may be old by then, the success from the confirmation alone.
-/

namespace ShowUp.Client

set_option autoImplicit false

open Utf16

/-- What the pages use of `AccountAssets`. -/
structure AccountAssets where
  accountExists : Bool
  spendableXlm : Int
  usdc : Int
  hasUsdcTrustline : Bool
  deriving DecidableEq

section Reads
variable {σ : Type}

def readEvent (decodeText : List UInt8 → String) (l : Ledger σ) (id : UInt64) :
    Option EventView := (l.events.lookup id).map (toEventView decodeText)

def readReservation (l : Ledger σ) (id : UInt64) (p : Address) : Option ReservationView :=
  (l.reservations.lookup (id, p)).map toReservationView

end Reads

/-- The identifier as the generated client encodes it. -/
def EventView.key (event : EventView) : UInt64 := .ofNat event.id.toNat

def addressOf (strkey : String) : Option Address :=
  if named : strkey ≠ "" then some ⟨strkey, named⟩ else none

section Definitions
variable (tok : Token) (contract : Address) (decodeText : List UInt8 → String) (eventId : UInt64)

/-! `app/events/[id]/page.tsx` -/

structure EventSnapshot where
  event : EventView
  ledgerNow : Nat
  reservation : Option ReservationView
  assets : Option AccountAssets

structure EventAnswers where
  eventLag : Nat
  reservationLag : Nat
  ledgerNow : Nat
  assets : Option AccountAssets

/-- Nothing that the page shows in place of the reservation is in the way. -/
def EventSnapshot.reservable (v : EventSnapshot) (x : Surroundings Unit) : Bool :=
  v.reservation = none ∧ v.event.status ≠ .cancelled ∧
    canReserve v.event v.reservation v.ledgerNow ∧ x.canTransact ∧
    v.assets.all fun assets => assets.accountExists ∧ assets.hasUsdcTrustline ∧
      ¬ (assets.spendableXlm = 0 ∧ x.address.isSome) ∧ ¬ assets.usdc < v.event.bondAmount

def eventPage : Page tok contract where
  Snapshot := EventSnapshot
  Answers := EventAnswers
  Action := Unit
  load ledgerAt account q := do
    let event ← readEvent decodeText (ledgerAt q.eventLag) eventId
    return {
      event
      ledgerNow := q.ledgerNow
      reservation := account.bind (readReservation (ledgerAt q.reservationLag) eventId)
      assets := account.bind fun _ => q.assets }
  offers v x _ := v.reservable x && x.pending.isNone
  confirms v x _ := v.reservable x && x.pending.isSome
  call v signer _ := some (.reserve v.event.key signer)
  message _ := "Your bond is held by the ShowUp contract until you check in, cancel, or the " ++
    "check-in window closes."
  amount v _ := some (v.event.bondAmount, "locked by the contract")
  fallback := "The reservation could not be completed. Refresh and try again."
  busyRef := false
  closed v x _ offered := by
    rw [Bool.and_eq_true, Option.isNone_iff_eq_none] at offered
    exact .inr offered.2

/-! `app/reservations/[id]/page.tsx` -/

structure ReservationSnapshot where
  event : EventView
  ledgerNow : Nat
  reservation : Option ReservationView
  assets : Option AccountAssets

inductive ReservationAction where
  | cancel
  | refund
  deriving DecidableEq

def ReservationAction.exit : ReservationAction → Exit
  | cancel => .cancelReservation
  | refund => .claimCancelledEventRefund

def ReservationAction.message : ReservationAction → String
  | cancel => "Reservation cancelled. The contract returned the full bond."
  | refund => "Cancelled-event refund claimed. The contract returned the full bond."

namespace ReservationSnapshot
variable (v : ReservationSnapshot) (x : Surroundings ReservationAction)

def ownsReservation : Bool :=
  v.reservation.any fun r => x.address.any fun address => address.strkey = r.participant

def canReceiveUsdc : Bool := v.assets.all AccountAssets.hasUsdcTrustline

def cancellationAvailable : Bool :=
  v.ownsReservation x && canCancelReservation v.event v.reservation v.ledgerNow &&
    v.canReceiveUsdc

def refundAvailable : Bool :=
  v.ownsReservation x && canClaimCancelledRefund v.event v.reservation v.ledgerNow &&
    v.canReceiveUsdc

def available : ReservationAction → Bool
  | .cancel => v.cancellationAvailable x
  | .refund => v.refundAvailable x

end ReservationSnapshot

/-- Both actions are for the connected account; the refund names the participant it read. -/
def reservationPage : Page tok contract where
  Snapshot := ReservationSnapshot
  Answers := EventAnswers
  Action := ReservationAction
  load ledgerAt account q := do
    let address ← account
    let event ← readEvent decodeText (ledgerAt q.eventLag) eventId
    return {
      event
      ledgerNow := q.ledgerNow
      reservation := readReservation (ledgerAt q.reservationLag) eventId address
      assets := q.assets }
  offers v x a :=
    x.pending.isNone && x.canTransact && !x.running &&
      (v.cancellationAvailable x || v.refundAvailable x) &&
      a = if v.refundAvailable x then .refund else .cancel
  confirms v x a := x.canTransact && v.available x a
  call v signer a :=
    match a with
    | .cancel => some (.cancelReservation v.event.key signer)
    | .refund => v.reservation.bind fun r =>
        (addressOf r.participant).map (.claimCancelledEventRefund v.event.key)
  message := ReservationAction.message
  amount v _ := v.reservation.map fun r => (r.amount, "returned to the participant")
  fallback := "The contract action could not be completed. Refresh and try again."
  busyRef := true
  closed v x a offered := by
    simp only [Bool.and_eq_true, Option.isNone_iff_eq_none] at offered
    exact .inr offered.1.1.1.1

/-! `app/organizer/events/[id]/page.tsx` -/

structure OrganizerSnapshot where
  event : EventView
  reservationList : Option (List ReservationView)
  ledgerNow : Option Nat

/-- `listed` has the participants the log names, each with the node that was asked for the
reservation. -/
structure OrganizerAnswers where
  eventLag : Nat
  listed : List (Nat × Address)
  ledgerNow : Nat

inductive PendingAction where
  | cancelEvent
  | settleNoShow (reservation : ReservationView)
  deriving DecidableEq

def PendingAction.message : PendingAction → String
  | cancelEvent => "Event cancelled. Locked bonds remain in the contract until each " ++
      "participant claims a full refund."
  | settleNoShow _ => "No-show settlement confirmed. The contract applied the published " ++
      "organizer/community split."

namespace OrganizerSnapshot
variable (v : OrganizerSnapshot) (x : Surroundings PendingAction)

def authorized : Bool :=
  x.address.any fun address => address.strkey = v.event.organizer ∨
    address.strkey = v.event.verifier

def cancelAvailable : Bool :=
  v.event.status = .active && x.address.any fun address => address.strkey = v.event.organizer

def settleAvailable (reservation : ReservationView) : Bool :=
  v.ledgerNow.any fun now => canSettleNoShow v.event (some reservation) now

def shown : Bool := v.authorized x && v.reservationList.isSome

end OrganizerSnapshot

def organizerPage : Page tok contract where
  Snapshot := OrganizerSnapshot
  Answers := OrganizerAnswers
  Action := PendingAction
  load ledgerAt account q := do
    let event ← readEvent decodeText (ledgerAt q.eventLag) eventId
    if account.any fun address =>
        address.strkey = event.organizer ∨ address.strkey = event.verifier then
      return {
        event
        reservationList := some (q.listed.filterMap fun entry =>
          readReservation (ledgerAt entry.1) event.key entry.2)
        ledgerNow := some q.ledgerNow }
    else return { event, reservationList := none, ledgerNow := none }
  offers v x a := v.shown x && !x.running &&
    match a with
    | .cancelEvent => v.cancelAvailable x
    | .settleNoShow r => v.settleAvailable r && (v.reservationList.getD []).contains r
  confirms v x a := v.shown x && x.canTransact &&
    match a with
    | .cancelEvent => v.cancelAvailable x
    | .settleNoShow r => v.settleAvailable r
  call v _ a :=
    match a with
    | .cancelEvent => some (.cancelEvent v.event.key)
    | .settleNoShow r => (addressOf r.participant).map (.settleNoShow v.event.key)
  message := PendingAction.message
  amount _ a :=
    match a with
    | .cancelEvent => none
    | .settleNoShow r => some (r.amount, "settled by the contract")
  fallback := "The contract action could not be completed. Refresh and try again."
  busyRef := true
  closed v x a offered := by
    simp only [Bool.and_eq_true, Bool.not_eq_true'] at offered
    exact .inl offered.1.2

end Definitions

/-! What was read is still true in what the pages tell of it. -/

section Reading
variable {tok : Token} {contract : Address} {decodeText : List UInt8 → String} {id : UInt64}
  {l now : Ledger tok.State} {p : Address}

theorem readEvent_later (later : l.Later now) (w : now.WellFormed contract) {event : EventView}
    (read : readEvent decodeText l id = some event) : event.key = id ∧
      ∃ e, now.events.lookup id = some e ∧ event.bondAmount = e.bondAmount.val := by
  obtain ⟨e₀, found, rfl⟩ := Option.map_eq_some_iff.mp read
  obtain ⟨e, stored, same⟩ := later.event id e₀ found
  have key : e₀.id = id := by
    rw [← w.event stored]
    exact (same.policy.field Event.id fun _ _ => rfl).symm
  refine ⟨?_, e, stored, ?_⟩
  · rw [← key]
    exact UInt64.ofNat_toNat
  · rw [same.policy.field Event.bondAmount fun _ _ => rfl]
    rfl

theorem addressOf_strkey (p : Address) : addressOf p.strkey = some p := dif_pos p.nonempty

theorem readReservation_later (later : l.Later now) (w : now.WellFormed contract)
    {view : ReservationView} (read : readReservation l id p = some view) :
    addressOf view.participant = some p ∧
      ∃ r, now.reservations.lookup (id, p) = some r ∧ view.amount = r.amount.val := by
  obtain ⟨r₀, found, rfl⟩ := Option.map_eq_some_iff.mp read
  obtain ⟨r, held, same⟩ := later.reservation (id, p) r₀ found
  have participant : r₀.participant = p := by
    have key := congrArg Prod.snd (w.reservation held)
    rw [same.kept] at key
    exact key
  refine ⟨?_, r, held, ?_⟩
  · rw [toReservationView, participant]
    exact addressOf_strkey p
  · rw [same.kept]
    rfl

end Reading

section Truth
variable {tok : Token} {contract : Address} {decodeText : List UInt8 → String} {eventId : UInt64}
  {d : Deployment tok} {steps : List (Step contract)} {s : Chain tok contract}

theorem event_loaded (w : s.ledger.WellFormed contract) {v : EventSnapshot}
    (loaded : (eventPage tok contract decodeText eventId).Loaded v s) :
    v.event.key = eventId ∧ ∃ e, s.ledger.events.lookup eventId = some e ∧
      v.event.bondAmount = e.bondAmount.val := by
  obtain ⟨ledgerAt, account, answers, behind, load⟩ := loaded
  obtain ⟨event, read, built⟩ := Option.bind_eq_some_iff.mp load
  cases built
  exact readEvent_later (behind _) w read

theorem reservation_loaded (w : s.ledger.WellFormed contract) {v : ReservationSnapshot}
    (loaded : (reservationPage tok contract decodeText eventId).Loaded v s) :
    v.event.key = eventId ∧ ∀ view, v.reservation = some view → ∃ p r,
      addressOf view.participant = some p ∧
      s.ledger.reservations.lookup (eventId, p) = some r ∧ view.amount = r.amount.val := by
  obtain ⟨ledgerAt, account, answers, behind, load⟩ := loaded
  obtain ⟨address, _, load⟩ := Option.bind_eq_some_iff.mp load
  obtain ⟨event, read, built⟩ := Option.bind_eq_some_iff.mp load
  cases built
  refine ⟨(readEvent_later (behind _) w read).1, ?_⟩
  intro view here
  obtain ⟨names, r, held, bond⟩ := readReservation_later (behind _) w here
  exact ⟨address, r, names, held, bond⟩

theorem organizer_loaded (w : s.ledger.WellFormed contract) {v : OrganizerSnapshot}
    (loaded : (organizerPage tok contract decodeText eventId).Loaded v s) :
    v.event.key = eventId ∧ ∀ view ∈ v.reservationList.getD [], ∃ p r,
      addressOf view.participant = some p ∧
      s.ledger.reservations.lookup (eventId, p) = some r ∧ view.amount = r.amount.val := by
  obtain ⟨ledgerAt, account, answers, behind, load⟩ := loaded
  obtain ⟨event, read, built⟩ := Option.bind_eq_some_iff.mp load
  have key := (readEvent_later (behind _) w read).1
  split at built
  · cases built
    refine ⟨key, ?_⟩
    intro view member
    obtain ⟨entry, _, here⟩ := List.mem_filterMap.mp member
    rw [key] at here
    obtain ⟨names, r, held, bond⟩ := readReservation_later (behind _) w here
    exact ⟨entry.2, r, names, held, bond⟩
  · cases built
    exact ⟨key, fun view member => by cases member⟩

/-- The event page, in every run: where it tells of a locked bond, the write whose hash is shown
was a reservation of the event, and its signer holds it, with the amount shown. That amount went
from the signer to the contract in a call with no other signature. -/
theorem event_page_tells_the_truth
    {inputs : List (PageInput (eventPage tok contract decodeText eventId))} {hash : Text}
    {message : String} {amount : Option (Int × String)}
    (shown : (Screen.after _ d steps inputs).tx = .success hash message amount) :
    let wire := (Screen.after _ d steps inputs).wire
    ∃ w ∈ wire.writes, w.stage = .settled (.ok hash) ∧ w.call = .reserve eventId w.signer ∧
    ∃ r rec timestamp, wire.now.ledger.reservations.lookup (eventId, w.signer) = some r ∧
      amount = some (r.amount.val, "locked by the contract") ∧
      rec ∈ wire.now.history ∧ rec.env = signedBy contract timestamp w.signer ∧
      rec.call = w.call ∧ rec.Opens wire.now.ledger.config (eventId, w.signer) r.amount := by
  have h := Screen.Sound.reached _ d steps inputs
  obtain ⟨w, member, stage, begun, ⟨count, landed⟩, _, said⟩ := h.landed shown
  obtain ⟨key, e, stored, bond⟩ := event_loaded h.wire.wellFormed begun.loaded
  have call : w.call = .reserve eventId w.signer := by
    rw [← Option.some.inj begun.call, key]
  rw [call] at landed
  obtain ⟨_, r, e', rec, timestamp, held, stored', priced, recorded, env, opens⟩ := landed.reserve
  cases stored.symm.trans stored'
  refine ⟨w, member, stage, call, r, rec, timestamp, held, ?_, recorded, env,
    opens.call_eq.trans call.symm, opens⟩
  rw [said, priced, ← bond]
  rfl

/-- A confirmed write that a ledger takes in at such a time. -/
def carriedOut (page : Page tok contract) (timestamp : UInt64) : List (PageInput page) :=
  [.confirm, .answer 0 (.built (.success (.ok ()))), .answer 0 (.signed (.ok ())),
    .outside (.takesIn 0 timestamp), .answer 0 .submitted,
    .answer 0 (.sent (.ok ⟨.ok (), some (ofString "7f"), none⟩))]

def guestReserves : Screen (eventPage plainToken Scenario.bond (fun _ => "") 1) :=
  Screen.after _ Scenario.deployment [.call (Scenario.env 1) (.createEvent Scenario.args)]
    (.wallet (some Scenario.guest) true :: .loaded (some Scenario.guest) ⟨0, 0, 2, none⟩ ::
      .opens () :: carriedOut _ 2)

theorem event_page_tells_the_truth_reserved :
    ∃ w ∈ guestReserves.wire.writes, w.call = .reserve 1 w.signer ∧ ∃ r,
      guestReserves.wire.now.ledger.reservations.lookup (1, w.signer) = some r ∧
        r.amount.val = 50 := by
  have shown : guestReserves.tx = .success (ofString "7f")
    ((eventPage plainToken Scenario.bond (fun _ => "") 1).message ())
    (some (50, "locked by the contract")) := rfl
  obtain ⟨w, member, _, call, r, _, _, held, amount, _⟩ := event_page_tells_the_truth shown
  exact ⟨w, member, call, r, held, (Prod.mk.inj (Option.some.inj amount)).1.symm⟩

theorem owned {v : ReservationSnapshot} {x : Surroundings ReservationAction}
    {a : ReservationAction} (available : v.available x a = true) {signer : Address}
    (wallet : x.address = some signer) :
    ∃ view, v.reservation = some view ∧ view.participant = signer.strkey := by
  have owns : v.ownsReservation x = true := by
    cases a <;>
      exact (Bool.and_eq_true_iff.mp (Bool.and_eq_true_iff.mp available).1).1
  obtain ⟨view, here, owns⟩ := (Option.any_eq_true ..).mp owns
  obtain ⟨address, connected, same⟩ := (Option.any_eq_true ..).mp owns
  cases wallet.symm.trans connected
  exact ⟨view, here, (of_decide_eq_true same).symm⟩

theorem ReservationAction.legs_eq (a : ReservationAction) {pool : Address} {e : Event}
    {key : ReservationKey} {amount : I128} {terms : Terms}
    (agreed : a.exit.terms pool e key amount = some terms) : terms.legs = [(key.2, amount)] := by
  cases a with
  | cancel | refund =>
    cases agreed
    rfl

theorem reservationPage_call {v : ReservationSnapshot} {signer : Address}
    {a : ReservationAction} {call : Call} {view : ReservationView}
    (here : v.reservation = some view) (mine : view.participant = signer.strkey)
    (named : (reservationPage tok contract decodeText eventId).call v signer a = some call) :
    call = a.exit.call v.event.key signer := by
  cases a with
  | cancel => exact (Option.some.inj named).symm
  | refund =>
    obtain ⟨view', here', named⟩ := Option.bind_eq_some_iff.mp named
    cases here.symm.trans here'
    rw [mine, addressOf_strkey] at named
    exact (Option.some.inj named).symm

/-- The reservation page, in every run: where it tells of a bond that was returned, the write whose
hash is shown ended the signer's own reservation of the event the way it says, and the amount
shown went from the contract to the signer in a call with no other signature. -/
theorem reservation_page_tells_the_truth
    {inputs : List (PageInput (reservationPage tok contract decodeText eventId))} {hash : Text}
    {message : String} {amount : Option (Int × String)}
    (shown : (Screen.after _ d steps inputs).tx = .success hash message amount) :
    let wire := (Screen.after _ d steps inputs).wire
    ∃ w ∈ wire.writes, ∃ a, w.stage = .settled (.ok hash) ∧
      w.call = (ReservationAction.exit a).call eventId w.signer ∧ message = a.message ∧
    ∃ r rec timestamp, wire.now.ledger.reservations.lookup (eventId, w.signer) = some r ∧
      r.status = a.exit.status ∧ amount = some (r.amount.val, "returned to the participant") ∧
      rec ∈ wire.now.history ∧ rec.env = signedBy contract timestamp w.signer ∧
      rec.call = w.call ∧
      rec.transfers = [⟨wire.now.ledger.config.token, contract, w.signer, r.amount⟩] := by
  have h := Screen.Sound.reached _ d steps inputs
  obtain ⟨w, member, stage, begun, ⟨count, landed⟩, told, said⟩ := h.landed shown
  obtain ⟨x, wallet, confirms⟩ := begun.confirmed
  obtain ⟨view, here, mine⟩ := owned (Bool.and_eq_true_iff.mp confirms).2 wallet
  obtain ⟨key, reads⟩ := reservation_loaded h.wire.wellFormed begun.loaded
  obtain ⟨p, r, names, held, bond⟩ := reads view here
  rw [mine, addressOf_strkey] at names
  cases names
  have call : w.call = w.about.2.exit.call eventId w.signer := by
    rw [reservationPage_call here mine begun.call, key]
  rw [call] at landed
  obtain ⟨r', e, terms, rec, timestamp, _, held', status, _, agreed, recorded, env, closes, _⟩ :=
    landed.exit
  cases held.symm.trans held'
  refine ⟨w, member, w.about.2, stage, call, told, r, rec, timestamp, held, status, ?_, recorded,
    env, closes.call_eq.trans call.symm, ?_⟩
  · change amount = w.about.1.reservation.map _ at said
    rw [said, here, ← bond]
    rfl
  · rw [closes.transfers_eq, w.about.2.legs_eq agreed]
    rfl

def guestCancels : Screen (reservationPage plainToken Scenario.bond (fun _ => "") 1) :=
  Screen.after _ Scenario.deployment Scenario.reserved
    (.wallet (some Scenario.guest) true :: .loaded (some Scenario.guest) ⟨0, 0, 3, none⟩ ::
      .opens .cancel :: carriedOut _ 3)

theorem reservation_page_tells_the_truth_cancelled :
    ∃ w ∈ guestCancels.wire.writes, ∃ (a : ReservationAction) (r : Reservation),
      guestCancels.wire.now.ledger.reservations.lookup (1, w.signer) = some r ∧
        r.status = a.exit.status ∧ r.amount.val = 50 := by
  have shown : guestCancels.tx = .success (ofString "7f") (ReservationAction.message .cancel)
    (some (50, "returned to the participant")) := rfl
  obtain ⟨w, member, a, _, _, _, r, _, _, held, status, amount, _⟩ :=
    reservation_page_tells_the_truth shown
  exact ⟨w, member, a, r, held, status, (Prod.mk.inj (Option.some.inj amount)).1.symm⟩

/-- The organizer's page of an event, in every run: where it tells of a success, the event is
cancelled, or a reservation of it is settled; then the amount shown is what the contract paid
the organizer and the community pool together, each by the event's split. -/
theorem organizer_page_tells_the_truth
    {inputs : List (PageInput (organizerPage tok contract decodeText eventId))} {hash : Text}
    {message : String} {amount : Option (Int × String)}
    (shown : (Screen.after _ d steps inputs).tx = .success hash message amount) :
    let s := (Screen.after _ d steps inputs).wire.now
    ∃ e, s.ledger.events.lookup eventId = some e ∧
      (e.status = .cancelled ∧ amount = none ∨
      ∃ p r rec o c, s.ledger.reservations.lookup (eventId, p) = some r ∧
        r.status = .noShowSettled ∧
        amount = some (r.amount.val, "settled by the contract") ∧
        ShowUp.splitByBps e r.amount = some (o, c) ∧ o.val + c.val = r.amount.val ∧
        rec ∈ s.history ∧ rec.call = .settleNoShow eventId p ∧
        rec.transfers = [⟨s.ledger.config.token, contract, e.organizer, o⟩,
          ⟨s.ledger.config.token, contract, s.ledger.config.communityPool, c⟩]) := by
  have h := Screen.Sound.reached _ d steps inputs
  obtain ⟨w, _, _, begun, ⟨count, landed⟩, _, said⟩ := h.landed shown
  obtain ⟨key, _⟩ := organizer_loaded h.wire.wellFormed begun.loaded
  have called := begun.call
  cases action : w.about.2 with
  | cancelEvent =>
    rw [action] at called said
    rw [← Option.some.inj called, key] at landed
    obtain ⟨e, stored, cancelled, _⟩ := landed.cancelEvent
    exact ⟨e, stored, .inl ⟨cancelled, said⟩⟩
  | settleNoShow view =>
    rw [action] at called said
    obtain ⟨v, x, loaded, offers⟩ := begun.offered
    rw [action] at offers
    have listed := (Bool.and_eq_true_iff.mp (Bool.and_eq_true_iff.mp offers).2).2
    obtain ⟨p, r, names, held, bond⟩ :=
      (organizer_loaded h.wire.wellFormed loaded).2 view (List.contains_iff_mem.mp listed)
    obtain ⟨p', names', named⟩ := Option.map_eq_some_iff.mp called
    cases names.symm.trans names'
    rw [← named, key] at landed
    obtain ⟨r', e, terms, rec, _, _, held', status, stored, agreed, recorded, _, closes, _⟩ :=
      landed.exit (x := .settleNoShow)
    cases held.symm.trans held'
    obtain ⟨⟨o, c⟩, shares, ⟨⟩⟩ := Option.bind_eq_some_iff.mp agreed
    refine ⟨e, stored, .inr ⟨p, r, rec, o, c, held, status, ?_, shares, ?_, recorded,
      closes.call_eq, closes.transfers_eq⟩⟩
    · rw [said, ← bond]
      rfl
    · have positive := h.wire.wellFormed.amount_pos held
      have values := splitByBps_values (Int.le_of_lt positive) shares
      omega

def organizerSettles : Screen (organizerPage plainToken Scenario.bond (fun _ => "") 1) :=
  let view := toReservationView ⟨1, Scenario.guest, Scenario.args.bondAmount, 2, .locked⟩
  Screen.after _ Scenario.deployment Scenario.reserved
    (.wallet (some Scenario.organizer) true ::
      .loaded (some Scenario.organizer) ⟨0, [(0, Scenario.guest)], 40⟩ ::
      .opens (.settleNoShow view) :: carriedOut _ 40)

theorem organizer_page_tells_the_truth_settled :
    ∃ e, organizerSettles.wire.now.ledger.events.lookup 1 = some e ∧ ∃ p r o c,
      organizerSettles.wire.now.ledger.reservations.lookup (1, p) = some r ∧
        ShowUp.splitByBps e r.amount = some (o, c) ∧ o.val + c.val = 50 := by
  have shown : organizerSettles.tx = .success (ofString "7f")
    (PendingAction.message (.settleNoShow (toReservationView
      ⟨1, Scenario.guest, Scenario.args.bondAmount, 2, .locked⟩)))
    (some (50, "settled by the contract")) := rfl
  obtain ⟨e, stored, ⟨_, none⟩ | ⟨p, r, _, o, c, held, _, amount, shares, total, _⟩⟩ :=
    organizer_page_tells_the_truth shown
  · cases none
  · have paid := (Prod.mk.inj (Option.some.inj amount)).1
    exact ⟨e, stored, p, r, o, c, held, shares, total.trans paid.symm⟩

end Truth

end ShowUp.Client

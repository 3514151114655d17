import Mathlib.Logic.Function.Basic
import ShowUp.Client.Pages
import ShowUp.Client.QrPayload

/-!
# The check-in page

`app/organizer/events/[id]/scan/page.tsx`. Passes come from the camera or are made up for an
address that was typed in; either way they are inspected against the contract. Inspections are
not called off, so that several may be under way, also while a check-in is. A check-in goes on
after its write with one more look at the reservation.
-/

namespace ShowUp.Client

set_option autoImplicit false

open Utf16

structure Candidate where
  pass : ReservationPass
  reservation : ReservationView
  ledgerNow : Nat
  assets : Option AccountAssets

/-- The account a pass names, as the generated client takes it. -/
def accountOf (participant : Text) : Option Address :=
  addressOf (String.ofList (participant.map fun u => Char.ofNat u.toNat))

/-- What is shown below a candidate. -/
inductive Notice where
  | alreadyCheckedIn
  | cannotReceiveRefund
  | notOpenYet (opens : Nat)
  | closed (closed : Nat)
  | notEligible
  | confirmButton
  deriving DecidableEq

namespace Candidate
variable (c : Candidate) (event : EventView)

def checkInOpen : Bool :=
  c.pass.eventId = event.id && canCheckIn event (some c.reservation) c.ledgerNow

def canReceiveRefund : Bool :=
  c.assets.any fun assets => assets.accountExists && assets.hasUsdcTrustline

def notice : Notice :=
  if c.reservation.status = .attended then .alreadyCheckedIn
  else if !c.canReceiveRefund then .cannotReceiveRefund
  else if !c.checkInOpen event ∧ c.ledgerNow < event.checkinStart then
    .notOpenYet event.checkinStart
  else if !c.checkInOpen event ∧ event.checkinDeadline < c.ledgerNow then
    .closed event.checkinDeadline
  else if !c.checkInOpen event then .notEligible
  else .confirmButton

end Candidate

/-- What `confirmCheckIn` awaits after its write. -/
inductive Reread where
  | afterSuccess (hash : Text)
  | afterFailure (thrown : TxError)

/-- `state` is there when it is ready; `follow` is by the number of the write. -/
structure ScanPage (tok : Token) (contract : Address) where
  /-- `about` is the event and the participant of a check-in. -/
  wire : Wire tok contract (UInt64 × Address) executeVoidWrite
  eventId : UInt64
  address : Option Address
  canTransact : Bool
  state : Option (EventView × Nat)
  candidate : Option Candidate
  candidateError : Option String
  manualParticipant : Text
  reading : Bool
  tx : TxState
  txBusy : Bool
  inspected : Nat
  inspections : Nat → Option ReservationPass
  follow : Nat → Option (UInt64 × Address × Reread)

inductive ScanPageInput (contract : Address) where
  | outside (o : Outside contract)
  | wallet (address : Option Address) (canTransact : Bool)
  | loaded (lag ledgerNow : Nat)
  | unloaded
  | typed (participant : Text)
  | lookUp
  | scanned (raw : Text)
  /-- the three reads of an inspection: the reservation by the node that is asked -/
  | inspection (j : Nat) (answer : Option (Nat × Nat × Option AccountAssets))
  | confirm
  | answer (k : Nat) (a : WriteAnswer Unit)
  | reread (k : Nat) (answer : Except TxError (Nat × Nat))
  | recovered (k : Nat) (answer : Option Nat)

namespace ScanPage

variable {tok : Token} {contract : Address} (decodeText : List UInt8 → String)

/-- `query` is `?participant=` where it is given once. -/
def initial (eventId : UInt64) (query : Option Text) (c : Chain tok contract) :
    ScanPage tok contract where
  wire := .initial c
  eventId := eventId
  address := none
  canTransact := false
  state := none
  candidate := none
  candidateError := none
  manualParticipant := query.getD []
  reading := false
  tx := .idle
  txBusy := false
  inspected := 0
  inspections := fun _ => none
  follow := fun _ => none

section Handlers
variable (s : ScanPage tok contract)

/-- The verifier's side of the page is there. -/
def authorized : Bool :=
  s.state.any fun snapshot => s.address.any fun address => address.strkey = snapshot.1.verifier

def inspectPayload (raw : Text) : ScanPage tok contract :=
  let cleared := { s with candidate := none, candidateError := none, tx := .idle }
  match decodePass raw with
  | .error _ =>
    { cleared with
      reading := false
      candidateError := some
        "The pass could not be read. Ask the participant to refresh it and try again." }
  | .ok pass =>
    if pass.eventId ≠ s.eventId.toNat then
      { cleared with
        reading := false
        candidateError := some ("This pass is for event #" ++ toString pass.eventId ++
          ", not event #" ++ toString s.eventId.toNat ++ ".") }
    else
      { cleared with
        reading := true
        inspected := s.inspected + 1
        inspections := Function.update s.inspections s.inspected (some pass) }

/-- The inspection's reads are through. -/
def inspectedBy (j : Nat) (pass : ReservationPass)
    (answer : Option (Nat × Nat × Option AccountAssets)) : ScanPage tok contract :=
  let settled := { s with
    reading := false, inspections := Function.update s.inspections j none }
  match accountOf pass.participant, answer with
  | some participant, some (lag, ledgerNow, assets) =>
    match readReservation (s.wire.ledgerAt lag) s.eventId participant with
    | some reservation =>
      { settled with candidate := some ⟨pass, reservation, ledgerNow, assets⟩ }
    | none =>
      { settled with
        candidateError := some "No reservation exists for this pass on the contract." }
  | _, _ =>
    { settled with
      candidateError := some
        "The reservation could not be verified on-chain. Refresh and try again." }

def inspectParticipant : ScanPage tok contract :=
  match s.state with
  | none => s
  | some (_, ledgerNow) =>
    match encodePass s.eventId.toNat (trim s.manualParticipant) (.finite ledgerNow) with
    | .ok raw => s.inspectPayload raw
    | .error _ =>
      { s with
        candidate := none
        candidateError := some "Enter a valid Stellar participant address." }

/-- The button is on the screen: the section shows the candidate and nothing in its place. -/
def confirmShown (event : EventView) (c : Candidate) : Bool :=
  s.authorized && !s.reading && s.candidateError.isNone && c.notice event = .confirmButton &&
    !s.tx.isRunning

def confirmCheckIn : ScanPage tok contract :=
  match s.candidate, s.address, s.state with
  | some c, some signer, some (event, _) =>
    match accountOf c.pass.participant with
    | some participant =>
      if s.confirmShown event c ∧ s.canTransact ∧ c.pass.eventId = event.id ∧
          c.canReceiveRefund ∧ !s.txBusy then
        { s with
          wire := s.wire.post (event.key, participant) (.checkIn event.key participant) signer
          tx := .running .simulating
          txBusy := true }
      else s
    | none => s
  | _, _, _ => s

def answered (k : Nat) (wire : Wire tok contract (UInt64 × Address) executeVoidWrite)
    (write : Write (UInt64 × Address) Text) : ScanPage tok contract :=
  match write.stage with
  | .settled (.ok hash) =>
    { s with
      wire
      follow := Function.update s.follow k
        (some (write.about.1, write.about.2, .afterSuccess hash)) }
  | .settled (.error thrown) =>
    { s with
      wire
      follow := Function.update s.follow k
        (some (write.about.1, write.about.2, .afterFailure thrown)) }
  | .simulating => { s with wire, tx := .running .simulating }
  | .awaitingSignature => { s with wire, tx := .running .awaitingSignature }
  | .submitting => { s with wire, tx := .running .submitting }
  | .confirming => { s with wire, tx := .running .confirming }

/-- `setCandidate` with the reservation read again, if there is one. -/
def renewed (lag : Nat) (key : UInt64) (participant : Address) (ledgerNow : Option Nat) :
    Option Candidate :=
  match readReservation (s.wire.ledgerAt lag) key participant with
  | some reservation => s.candidate.map fun c =>
      { c with reservation, ledgerNow := ledgerNow.getD c.ledgerNow }
  | none => s.candidate

def rereadBy (k : Nat) (key : UInt64) (participant : Address) (hash : Text) :
    Except TxError (Nat × Nat) → ScanPage tok contract
  | .ok (lag, ledgerNow) =>
    { s with
      candidate := s.renewed lag key participant (some ledgerNow)
      tx := .success hash
        "Attendance confirmed. The contract refunded the participant's bond." none
      txBusy := false
      follow := Function.update s.follow k none }
  | .error thrown =>
    { s with follow := Function.update s.follow k (some (key, participant, .afterFailure thrown)) }

def recoveredBy (k : Nat) (key : UInt64) (participant : Address) (thrown : TxError)
    (answer : Option Nat) : ScanPage tok contract :=
  { s with
    candidate := match answer with
      | some lag => s.renewed lag key participant none
      | none => s.candidate
    tx := txFailureState "Check-in could not be completed. Refresh and try again." thrown
    txBusy := false
    follow := Function.update s.follow k none }

end Handlers

def step (s : ScanPage tok contract) : ScanPageInput contract → ScanPage tok contract
  | .outside o => { s with wire := s.wire.outside o }
  | .wallet address canTransact => { s with address, canTransact }
  | .loaded lag ledgerNow =>
    { s with state := (readEvent decodeText (s.wire.ledgerAt lag) s.eventId).map (·, ledgerNow) }
  | .unloaded => { s with state := none }
  | .typed participant => { s with manualParticipant := participant }
  | .lookUp =>
    if s.authorized ∧ !s.reading ∧ trim s.manualParticipant ≠ [] then s.inspectParticipant else s
  | .scanned raw => s.inspectPayload raw
  | .inspection j answer =>
    match s.inspections j with
    | some pass => s.inspectedBy j pass answer
    | none => s
  | .confirm => s.confirmCheckIn
  | .answer k a =>
    match s.wire.answer k a with
    | some (write, wire) => s.answered k wire write
    | none => s
  | .reread k answer =>
    match s.follow k with
    | some (key, participant, .afterSuccess hash) => s.rereadBy k key participant hash answer
    | _ => s
  | .recovered k answer =>
    match s.follow k with
    | some (key, participant, .afterFailure thrown) =>
      s.recoveredBy k key participant thrown answer
    | _ => s

def after (eventId : UInt64) (query : Option Text) (d : Deployment tok)
    (steps : List (Step contract)) (inputs : List (ScanPageInput contract)) :
    ScanPage tok contract :=
  Runs.run (step decodeText) (initial eventId query (Chain.after d steps)) inputs

end ScanPage

end ShowUp.Client

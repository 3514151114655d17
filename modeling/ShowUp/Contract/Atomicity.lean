import ShowUp.Shared.Staged
import ShowUp.Contract.Chain

/-!
# Atomic failure

Every entry point makes all its checks before its first effect, so a typed error
or a refused authorization leaves nothing behind even without the host's help.
Only a token transfer can trap later, and then the host undoes the call.
-/

namespace ShowUp

set_option autoImplicit false

open Host Staged

/-- The one failure that may come after effects. -/
def Failure.Trap : Failure → Prop
  | .transferTrapped .. => True
  | .error _ | .unauthorized _ => False

namespace Host

variable {σ α : Type} {contract : Address}

theorem requireAuth_reads (env : Env contract) (who : Address) :
    Reads (requireAuth env who : Host σ Unit) :=
  ⟨fun h => (requireAuth_ok.mp h).2, fun h => (requireAuth_error.mp h).2.2⟩

theorem okOr_reads (o : Option α) (code : Error) : Reads (okOr o code : Host σ α) :=
  ⟨fun h => (okOr_ok.mp h).2, fun h => (okOr_error.mp h).2.2⟩

theorem returnErrIf_reads (c : Prop) [Decidable c] (code : Error) :
    Reads (returnErrIf c code : Host σ Unit) :=
  ⟨fun h => (returnErrIf_ok.mp h).2, fun h => (returnErrIf_error.mp h).2.2⟩

theorem getEventCount_reads : Reads (getEventCount : Host σ UInt64) :=
  ⟨fun h => (getEventCount_ok.mp h).2, fun h => (getEventCount_error.mp h).elim⟩

theorem getEvent_reads (id : UInt64) : Reads (getEvent id : Host σ (Option Event)) :=
  ⟨fun h => (getEvent_ok.mp h).2, fun h => (getEvent_error.mp h).elim⟩

theorem getReservation_reads (id : UInt64) (p : Address) :
    Reads (getReservation id p : Host σ (Option Reservation)) :=
  ⟨fun h => (getReservation_ok.mp h).2, fun h => (getReservation_error.mp h).elim⟩

theorem setEventCount_acts (count : UInt64) :
    Acts Failure.Trap (setEventCount count : Host σ Unit) := Acts.modify _

theorem setEvent_acts (event : Event) : Acts Failure.Trap (setEvent event : Host σ Unit) :=
  Acts.modify _

theorem setReservation_acts (r : Reservation) :
    Acts Failure.Trap (setReservation r : Host σ Unit) := Acts.modify _

theorem publish_acts (event : ContractEvent) : Acts Failure.Trap (publish event : Host σ Unit) :=
  Acts.modify _

theorem getConfig_acts : Acts Failure.Trap (getConfig : Host σ Config) :=
  ⟨fun h => (getConfig_error.mp h).elim⟩

theorem tokenTransfer_acts (tok : Token) (env : Env contract) (token source target : Address)
    (amount : I128) :
    Acts Failure.Trap (tokenTransfer tok env token source target amount) := by
  constructor
  intro s e s' h
  rw [(tokenTransfer_error.mp h).2.1]
  trivial

end Host

section EntryPoints

/-- The checks every exit starts with. -/
theorem locked_checksFirst {σ α : Type} {id : UInt64} {p : Address}
    {rest : Reservation → Event → Host σ α}
    (checked : ∀ r e, ChecksFirst Failure.Trap (rest r e)) :
    ChecksFirst Failure.Trap (do
      let reservation ← okOr (← getReservation id p) .notFound
      returnErrIf (reservation.status ≠ .locked) .notLocked
      let event ← okOr (← getEvent id) .notFound
      rest reservation event) := by
  apply ChecksFirst.bind (getReservation_reads ..)
  intro _
  apply ChecksFirst.bind (okOr_reads ..)
  intro r
  apply ChecksFirst.bind (returnErrIf_reads ..)
  intro _
  apply ChecksFirst.bind (getEvent_reads _)
  intro _
  apply ChecksFirst.bind (okOr_reads ..)
  intro e
  exact checked r e

variable (tok : Token) {contract : Address} (env : Env contract) (id : UInt64) (p : Address)

theorem createEvent_checksFirst (args : CreateEventArgs) :
    ChecksFirst Failure.Trap (createEvent tok env args) := by
  apply ChecksFirst.bind (requireAuth_reads ..)
  intro _
  apply ChecksFirst.bind (returnErrIf_reads ..)
  intro _
  apply ChecksFirst.bind (okOr_reads ..)
  intro _
  apply ChecksFirst.bind (returnErrIf_reads ..)
  intro _
  apply ChecksFirst.bind (returnErrIf_reads ..)
  intro _
  apply ChecksFirst.bind getEventCount_reads
  intro _
  apply ChecksFirst.bind (okOr_reads ..)
  intro _
  apply Acts.checksFirst
  apply Acts.bind (setEventCount_acts _)
  intro _
  apply Acts.bind (setEvent_acts _)
  intro _
  apply Acts.bind (publish_acts _)
  intro _
  exact Acts.pure _

theorem reserve_checksFirst : ChecksFirst Failure.Trap (reserve tok env id p) := by
  apply ChecksFirst.bind (requireAuth_reads ..)
  intro _
  apply ChecksFirst.bind (getEvent_reads _)
  intro _
  apply ChecksFirst.bind (okOr_reads ..)
  intro event
  apply ChecksFirst.bind (returnErrIf_reads ..)
  intro _
  apply ChecksFirst.bind (returnErrIf_reads ..)
  intro _
  apply ChecksFirst.bind (returnErrIf_reads ..)
  intro _
  apply ChecksFirst.bind (getReservation_reads ..)
  intro _
  apply ChecksFirst.bind (returnErrIf_reads ..)
  intro _
  apply ChecksFirst.bind (okOr_reads ..)
  intro _
  apply Acts.checksFirst
  apply Acts.bind (setEvent_acts _)
  intro _
  apply Acts.bind (setReservation_acts _)
  intro _
  apply Acts.bind getConfig_acts
  intro _
  apply Acts.bind (tokenTransfer_acts ..)
  intro _
  exact publish_acts _

/-- The effects every refund ends with. -/
theorem refund_acts (r : Reservation) (source target : Address) (amount : I128)
    (entry : ContractEvent) :
    Acts Failure.Trap (do
      setReservation r
      let config ← getConfig
      tokenTransfer tok env config.token source target amount
      publish entry) := by
  apply Acts.bind (setReservation_acts _)
  intro _
  apply Acts.bind getConfig_acts
  intro _
  apply Acts.bind (tokenTransfer_acts ..)
  intro _
  exact publish_acts _

theorem cancelReservation_checksFirst :
    ChecksFirst Failure.Trap (cancelReservation tok env id p) := by
  apply ChecksFirst.bind (requireAuth_reads ..)
  intro _
  apply locked_checksFirst
  intro r e
  apply ChecksFirst.bind (returnErrIf_reads ..)
  intro _
  apply ChecksFirst.bind (returnErrIf_reads ..)
  intro _
  apply ChecksFirst.bind (okOr_reads ..)
  intro _
  apply Acts.checksFirst
  apply Acts.bind (setEvent_acts _)
  intro _
  exact refund_acts ..

theorem checkIn_checksFirst : ChecksFirst Failure.Trap (checkIn tok env id p) := by
  apply locked_checksFirst
  intro r e
  apply ChecksFirst.bind (requireAuth_reads ..)
  intro _
  apply ChecksFirst.bind (returnErrIf_reads ..)
  intro _
  apply ChecksFirst.bind (returnErrIf_reads ..)
  intro _
  apply ChecksFirst.bind (returnErrIf_reads ..)
  intro _
  apply Acts.checksFirst
  exact refund_acts ..

theorem cancelEvent_checksFirst : ChecksFirst Failure.Trap (cancelEvent tok env id) := by
  apply ChecksFirst.bind (getEvent_reads _)
  intro _
  apply ChecksFirst.bind (okOr_reads ..)
  intro event
  apply ChecksFirst.bind (requireAuth_reads ..)
  intro _
  apply ChecksFirst.bind (returnErrIf_reads ..)
  intro _
  apply Acts.checksFirst
  apply Acts.bind (setEvent_acts _)
  intro _
  exact publish_acts _

theorem claimCancelledEventRefund_checksFirst :
    ChecksFirst Failure.Trap (claimCancelledEventRefund tok env id p) := by
  apply locked_checksFirst
  intro r e
  apply ChecksFirst.bind (returnErrIf_reads ..)
  intro _
  apply Acts.checksFirst
  exact refund_acts ..

theorem settleNoShow_checksFirst : ChecksFirst Failure.Trap (settleNoShow tok env id p) := by
  apply locked_checksFirst
  intro r e
  apply ChecksFirst.bind (returnErrIf_reads ..)
  intro _
  apply ChecksFirst.bind (returnErrIf_reads ..)
  intro _
  apply ChecksFirst.bind (okOr_reads ..)
  intro _
  apply ChecksFirst.bind (okOr_reads ..)
  intro _
  apply ChecksFirst.bind (okOr_reads ..)
  intro _
  apply Acts.checksFirst
  apply Acts.bind (setReservation_acts _)
  intro _
  apply Acts.bind getConfig_acts
  intro _
  apply Acts.bind (tokenTransfer_acts ..)
  intro _
  apply Acts.bind (tokenTransfer_acts ..)
  intro _
  exact publish_acts _

theorem perform_checksFirst (call : Call) : ChecksFirst Failure.Trap (call.perform tok env) := by
  cases call with
  | createEvent args => exact (createEvent_checksFirst tok env args).andThen fun _ => .pure ()
  | reserve id p => exact reserve_checksFirst tok env id p
  | cancelReservation id p => exact cancelReservation_checksFirst tok env id p
  | checkIn id p => exact checkIn_checksFirst tok env id p
  | cancelEvent id => exact cancelEvent_checksFirst tok env id
  | claimCancelledEventRefund id p => exact claimCancelledEventRefund_checksFirst tok env id p
  | settleNoShow id p => exact settleNoShow_checksFirst tok env id p

end EntryPoints

variable {tok : Token} {contract : Address}

/-- In any state a call that returns an error or is refused has had no effect when it stops,
and one that a transfer trapped leaves the chain as it was. -/
theorem failed_calls_leave_nothing (s : Chain tok contract) (env : Env contract) (call : Call) :
    (∀ code f, invoke tok env call s.ledger = .error (.error code) f → f = ⟨s.ledger, []⟩) ∧
    (∀ who f, invoke tok env call s.ledger = .error (.unauthorized who) f →
      f = ⟨s.ledger, []⟩) ∧
    ∀ source target n f,
      invoke tok env call s.ledger = .error (.transferTrapped source target n) f →
      (s.step (.call env call)).ledger = s.ledger ∧
        (∀ a, tok.balance (s.step (.call env call)).ledger.token a =
          tok.balance s.ledger.token a) ∧
        (s.step (.call env call)).history = s.history := by
  have clean := @(perform_checksFirst tok env call).late_or_clean
  refine ⟨?_, ?_, ?_⟩
  · intro code f h
    exact (clean h).resolve_left fun trap => trap
  · intro who f h
    exact (clean h).resolve_left fun trap => trap
  · intro source target n f h
    rw [Chain.step_call_failed h]
    exact ⟨rfl, fun _ => rfl, rfl⟩

/-- A token whose pool account takes no payments. -/
def Scenario.untrusted : Token where
  State := plainToken.State
  balance := plainToken.balance
  transfer t source target n :=
    if target = pool then none else plainToken.transfer t source target n
  balance_nonneg := plainToken.balance_nonneg
  transfer_nonneg := by
    intro t t' source target n h
    split at h
    · cases h
    · exact plainToken.transfer_nonneg h
  transfer_balance := by
    intro t t' source target n h
    split at h
    · cases h
    · exact plainToken.transfer_balance h

/-- Where a call stopped, and what it had done by then. -/
def stoppedAt {σ : Type} : EStateM.Result Failure (Frame σ) Unit → Option (Failure × List Effect)
  | .ok .. => none
  | .error failure f => some (failure, f.effects)

/-- The second payment of a settlement traps after the first was made. -/
theorem failed_calls_leave_nothing_settled :
    let s : Chain Scenario.untrusted Scenario.bond := Chain.after
      ⟨Scenario.usdc, Scenario.pool, Scenario.deployment.state⟩ Scenario.reserved
    let call := Call.settleNoShow 1 Scenario.guest
    stoppedAt (invoke Scenario.untrusted (Scenario.env 40) call s.ledger) =
        some (.transferTrapped Scenario.bond Scenario.pool (.lit 38),
          [.setReservation ⟨1, Scenario.guest, Scenario.args.bondAmount, 2, .noShowSettled⟩,
            .transferred ⟨Scenario.usdc, Scenario.bond, Scenario.organizer, .lit 12⟩]) ∧
      (s.step (.call (Scenario.env 40) call)).ledger = s.ledger := by
  intro s call
  have stopped : stoppedAt (invoke Scenario.untrusted (Scenario.env 40) call s.ledger) =
      some (.transferTrapped Scenario.bond Scenario.pool (.lit 38),
        [.setReservation ⟨1, Scenario.guest, Scenario.args.bondAmount, 2, .noShowSettled⟩,
          .transferred ⟨Scenario.usdc, Scenario.bond, Scenario.organizer, .lit 12⟩]) := by decide
  refine ⟨stopped, ?_⟩
  cases h : invoke Scenario.untrusted (Scenario.env 40) call s.ledger with
  | ok _ f => simp [h, stoppedAt] at stopped
  | error failure f =>
    rw [h] at stopped
    obtain ⟨rfl, _⟩ := Prod.mk.inj (Option.some.inj stopped)
    exact ((failed_calls_leave_nothing s _ call).2.2 _ _ _ f h).1

end ShowUp

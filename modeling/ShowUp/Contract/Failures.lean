import ShowUp.Contract.Refinement

/-!
# How a call fails

The counterpart of `Rule` for calls that do not succeed. An exit is refused by
one of its checks exactly when it is not open; past its checks it can only
overflow, or be stopped by the token in one of its payments. `reserve` stops at
the first of its checks that fails, or at its one payment.
-/

namespace ShowUp

set_option autoImplicit false

open Host StoreTotal

/-- A check said no: a missing authorization, or an error other than `Overflow`. -/
def Failure.Refusal : Failure → Prop
  | .error code => code ≠ .overflow
  | .unauthorized _ => True
  | .transferTrapped .. => False

variable (tok : Token) {contract : Address}

inductive ExitFailure (env : Env contract) (l : Ledger tok.State) (x : Exit) (id : UInt64)
    (p : Address) : Failure → Frame tok.State → Prop
  | refused {failure : Failure} {f : Frame tok.State} (refusal : failure.Refusal)
      (closed : ∀ {r e}, l.reservations.lookup (id, p) = some r → r.status = .locked →
        l.events.lookup id = some e → ¬ x.Open env e p) : ExitFailure env l x id p failure f
  | overflow {r : Reservation} {e : Event} {f : Frame tok.State}
      (held : l.reservations.lookup (id, p) = some r) (locked : r.status = .locked)
      (found : l.events.lookup id = some e) (isOpen : x.Open env e p)
      (unfit : x.eventAfter e = none ∨
        x.terms l.config.communityPool e (id, p) r.amount = none) :
      ExitFailure env l x id p (.error .overflow) f
  | trapped {r : Reservation} {e e' : Event} {terms : Terms} {target : Address} {n : I128}
      {done rest : List (Address × I128)} {f : Frame tok.State}
      (held : l.reservations.lookup (id, p) = some r) (locked : r.status = .locked)
      (found : l.events.lookup id = some e) (isOpen : x.Open env e p)
      (seat : x.eventAfter e = some e')
      (agreed : x.terms l.config.communityPool e (id, p) r.amount = some terms)
      (legs : terms.legs = done ++ (target, n) :: rest)
      (paid : payAll tok contract l.token done = some f.ledger.token)
      (stopped : tok.transfer f.ledger.token contract target n = none) :
      ExitFailure env l x id p (.transferTrapped contract target n) f

inductive ReserveStop (env : Env contract) (l : Ledger tok.State) (id : UInt64) (p : Address) :
    Failure → Prop
  | unauthorized (unsigned : env.authorizes p = false) : ReserveStop env l id p (.unauthorized p)
  | notFound (gone : l.events.lookup id = none) : ReserveStop env l id p (.error .notFound)
  | notActive {e : Event} (found : l.events.lookup id = some e) (inactive : e.status ≠ .active) :
      ReserveStop env l id p (.error .notActive)
  | checkInWindowClosed {e : Event} (found : l.events.lookup id = some e)
      (late : e.checkinDeadline ≤ env.timestamp) :
      ReserveStop env l id p (.error .checkInWindowClosed)
  | eventFull {e : Event} (found : l.events.lookup id = some e)
      (full : e.capacity ≤ e.reservedCount) : ReserveStop env l id p (.error .eventFull)
  | alreadyReserved {e : Event} (found : l.events.lookup id = some e)
      (seat : e.reservedCount < e.capacity)
      (taken : (l.reservations.lookup (id, p)).isSome) :
      ReserveStop env l id p (.error .alreadyReserved)
  | overflow {e : Event} (found : l.events.lookup id = some e)
      (seat : e.reservedCount < e.capacity)
      (uncounted : U32.checkedAdd e.reservedCount 1 = none) :
      ReserveStop env l id p (.error .overflow)
  | trapped {e : Event} (signed : env.authorizes p) (found : l.events.lookup id = some e)
      (active : e.status = .active) (early : env.timestamp < e.checkinDeadline)
      (seat : e.reservedCount < e.capacity) (fresh : l.reservations.lookup (id, p) = none) :
      ReserveStop env l id p (.transferTrapped p contract e.bondAmount)

variable {tok} {env : Env contract} {l : Ledger tok.State} {f : Frame tok.State}
  {failure : Failure} {id : UInt64} {p : Address}

theorem reserve_error (h : invoke tok env (.reserve id p) l = .error failure f) :
    ReserveStop tok env l id p failure := by
  simp only [invoke, Call.perform, reserve, Staged.run_bind_error, requireAuth_error,
    requireAuth_ok, okOr_error, okOr_ok, returnErrIf_error, returnErrIf_ok, getEvent_error,
    getEvent_ok, getReservation_error, getReservation_ok, getConfig_error, getConfig_ok,
    tokenTransfer_error, setEvent, setReservation, publish, modify_error, modify_ok, false_or,
    or_false, and_false, exists_false, and_assoc, exists_and_left, exists_eq_left, exists_const,
    Decidable.not_not, ne_eq, ge_iff_le, UInt64.not_le, UInt32.not_le, Bool.not_eq_true,
    Option.isSome_eq_false_iff, Option.isNone_iff_eq_none] at h
  rcases h with ⟨unsigned, rfl, -⟩ | ⟨signed, ⟨gone, rfl, -⟩ | ⟨e, found, ⟨inactive, rfl, -⟩ |
    ⟨active, ⟨late, rfl, -⟩ | ⟨early, ⟨full, rfl, -⟩ | ⟨seat, ⟨taken, rfl, -⟩ |
    ⟨fresh, ⟨uncounted, rfl, -⟩ | ⟨n, _, _, rfl, -⟩⟩⟩⟩⟩⟩⟩
  · exact .unauthorized unsigned
  · exact .notFound gone
  · exact .notActive found inactive
  · exact .checkInWindowClosed found late
  · exact .eventFull found full
  · exact .alreadyReserved found seat taken
  · exact .overflow found seat uncounted
  · exact .trapped signed found active early seat fresh

theorem ExitFailure.missing {x : Exit} {code : Error}
    (gone : l.reservations.lookup (id, p) = none) (ne : code ≠ .overflow := by decide) :
    ExitFailure tok env l x id p (.error code) f :=
  .refused ne fun held => by simp [gone] at held

theorem ExitFailure.ended {x : Exit} {r : Reservation} {code : Error}
    (held : l.reservations.lookup (id, p) = some r) (unlocked : r.status ≠ .locked)
    (ne : code ≠ .overflow := by decide) :
    ExitFailure tok env l x id p (.error code) f :=
  .refused ne fun held' locked => by
    cases held.symm.trans held'
    exact absurd locked unlocked

theorem ExitFailure.orphan {x : Exit} {code : Error} (gone : l.events.lookup id = none)
    (ne : code ≠ .overflow := by decide) : ExitFailure tok env l x id p (.error code) f :=
  .refused ne fun _ _ found => by simp [gone] at found

theorem ExitFailure.shut {x : Exit} {e : Event} {code : Error}
    (found : l.events.lookup id = some e) (shut : ¬ x.Open env e p)
    (ne : code ≠ .overflow := by decide) : ExitFailure tok env l x id p (.error code) f :=
  .refused ne fun _ _ found' => by
    cases found.symm.trans found'
    exact shut

theorem cancelReservation_error
    (h : invoke tok env (.cancelReservation id p) l = .error failure f) :
    ExitFailure tok env l .cancelReservation id p failure f := by
  simp only [invoke, Call.perform, cancelReservation, Staged.run_bind_error, requireAuth_error,
    requireAuth_ok, okOr_error, okOr_ok, returnErrIf_error, returnErrIf_ok, getEvent_error,
    getEvent_ok, getReservation_error, getReservation_ok, getConfig_error, getConfig_ok,
    tokenTransfer_error, setEvent, setReservation, publish, modify_error, modify_ok, false_or,
    or_false, and_false, exists_false, true_or, forall_const, and_assoc, exists_and_left,
    exists_eq_left, exists_const, Decidable.not_not, ne_eq, gt_iff_lt] at h
  rcases h with ⟨unsigned, rfl, -⟩ | ⟨signed, ⟨gone, rfl, -⟩ | ⟨r, held, ⟨unlocked, rfl, -⟩ |
    ⟨locked, ⟨gone, rfl, -⟩ | ⟨e, found, ⟨inactive, rfl, -⟩ | ⟨active, ⟨late, rfl, -⟩ |
    ⟨inTime, ⟨unfit, rfl, -⟩ | ⟨n, counted, stopped, rfl, rfl⟩⟩⟩⟩⟩⟩⟩
  · exact .refused trivial fun _ _ _ isOpen => unsigned isOpen.1
  · exact .missing gone
  · exact .ended held unlocked
  · exact .orphan gone
  · exact .shut found fun isOpen => inactive isOpen.2.1
  · exact .shut found fun isOpen => UInt64.not_lt.mpr isOpen.2.2 late
  · exact .overflow held locked found ⟨signed, active, UInt64.not_lt.mp inTime⟩
      (.inl (by simp [Exit.eventAfter, unfit]))
  · exact .trapped held locked found ⟨signed, active, UInt64.not_lt.mp inTime⟩
      (by simp [Exit.eventAfter, counted]; rfl) rfl (List.nil_append _).symm rfl stopped

theorem checkIn_error (keyed : l.Keyed)
    (h : invoke tok env (.checkIn id p) l = .error failure f) :
    ExitFailure tok env l .checkIn id p failure f := by
  simp only [invoke, Call.perform, checkIn, Staged.run_bind_error, requireAuth_error,
    requireAuth_ok, okOr_error, okOr_ok, returnErrIf_error, returnErrIf_ok, getEvent_error,
    getEvent_ok, getReservation_error, getReservation_ok, getConfig_error, getConfig_ok,
    tokenTransfer_error, setReservation, publish, modify_error, modify_ok, false_or, or_false,
    and_false, exists_false, true_or, forall_const, and_assoc, exists_and_left, exists_eq_left,
    exists_const, Decidable.not_not, ne_eq, gt_iff_lt] at h
  rcases h with ⟨gone, rfl, -⟩ | ⟨r, held, ⟨unlocked, rfl, -⟩ | ⟨locked, ⟨gone, rfl, -⟩ |
    ⟨e, found, ⟨unsigned, rfl, -⟩ | ⟨signed, ⟨inactive, rfl, -⟩ | ⟨active, ⟨early, rfl, -⟩ |
    ⟨notEarly, ⟨late, rfl, -⟩ | ⟨notLate, stopped, rfl, rfl⟩⟩⟩⟩⟩⟩⟩
  · exact .missing gone
  · exact .ended held unlocked
  · exact .orphan gone
  · refine .refused trivial fun _ _ found' isOpen => unsigned ?_
    cases found.symm.trans found'
    exact isOpen.1
  · exact .shut found fun isOpen => inactive isOpen.2.1
  · exact .shut found fun isOpen => UInt64.not_lt.mpr isOpen.2.2.1 early
  · exact .shut found fun isOpen => UInt64.not_lt.mpr isOpen.2.2.2 late
  · obtain ⟨rfl, rfl⟩ := Prod.mk.inj (keyed.reservation held)
    exact .trapped held locked found
      ⟨signed, active, UInt64.not_lt.mp notEarly, UInt64.not_lt.mp notLate⟩ rfl rfl
      (List.nil_append _).symm rfl stopped

theorem claimCancelledEventRefund_error (keyed : l.Keyed)
    (h : invoke tok env (.claimCancelledEventRefund id p) l = .error failure f) :
    ExitFailure tok env l .claimCancelledEventRefund id p failure f := by
  simp only [invoke, Call.perform, claimCancelledEventRefund, Staged.run_bind_error, okOr_error,
    okOr_ok, returnErrIf_error, returnErrIf_ok, getEvent_error, getEvent_ok, getReservation_error,
    getReservation_ok, getConfig_error, getConfig_ok, tokenTransfer_error, setReservation, publish,
    modify_error, modify_ok, false_or, or_false, and_false, exists_false, true_or, forall_const,
    and_assoc, exists_and_left, exists_eq_left, exists_const, Decidable.not_not, ne_eq] at h
  rcases h with ⟨gone, rfl, -⟩ | ⟨r, held, ⟨unlocked, rfl, -⟩ | ⟨locked, ⟨gone, rfl, -⟩ |
    ⟨e, found, ⟨notCancelled, rfl, -⟩ | ⟨cancelled, stopped, rfl, rfl⟩⟩⟩⟩
  · exact .missing gone
  · exact .ended held unlocked
  · exact .orphan gone
  · exact .shut found notCancelled
  · obtain ⟨rfl, rfl⟩ := Prod.mk.inj (keyed.reservation held)
    exact .trapped held locked found cancelled rfl rfl (List.nil_append _).symm rfl stopped

theorem settleNoShow_error
    (h : invoke tok env (.settleNoShow id p) l = .error failure f) :
    ExitFailure tok env l .settleNoShow id p failure f := by
  simp only [invoke, Call.perform, settleNoShow, Staged.run_bind_error, okOr_error, okOr_ok,
    returnErrIf_error, returnErrIf_ok, getEvent_error, getEvent_ok, getReservation_error,
    getReservation_ok, getConfig_error, getConfig_ok, tokenTransfer_error, tokenTransfer_ok,
    setReservation, publish, modify_error, modify_ok, false_or, or_false, and_false, exists_false,
    true_or, true_and, forall_const, and_assoc, exists_and_left, exists_eq_left, exists_const,
    exists_exists_and_eq_and, Decidable.not_not, ne_eq] at h
  rcases h with ⟨gone, rfl, -⟩ | ⟨r, held, ⟨unlocked, rfl, -⟩ | ⟨locked, ⟨gone, rfl, -⟩ |
    ⟨e, found, ⟨inactive, rfl, -⟩ | ⟨active, ⟨early, rfl, -⟩ | ⟨late, h⟩⟩⟩⟩⟩
  · exact .missing gone
  · exact .ended held unlocked
  · exact .orphan gone
  · exact .shut found fun isOpen => inactive isOpen.1
  · exact .shut found fun isOpen => UInt64.not_le.mpr isOpen.2 early
  · have isOpen : Exit.settleNoShow.Open env e p := ⟨active, UInt64.not_le.mp late⟩
    rcases h with ⟨unfit, rfl, -⟩ | ⟨a, mul, ⟨unfit, rfl, -⟩ | ⟨o, div, ⟨unfit, rfl, -⟩ |
      ⟨c, sub, ⟨stopped, rfl, rfl⟩ | ⟨t, paid, stopped, rfl, rfl⟩⟩⟩⟩
    · exact .overflow held locked found isOpen (.inr (by simp [Exit.terms, splitByBps, unfit]))
    · exact .overflow held locked found isOpen
        (.inr (by simp [Exit.terms, splitByBps, mul, unfit]))
    · exact .overflow held locked found isOpen
        (.inr (by simp [Exit.terms, splitByBps, mul, div, unfit]))
    all_goals
      have shares : splitByBps e r.amount = some (o, c) :=
        splitByBps_eq_some.mpr ⟨a, mul, div, sub⟩
      have agreed : Exit.settleNoShow.terms l.config.communityPool e (id, p) r.amount =
          some ⟨[(e.organizer, o), (l.config.communityPool, c)], .noShowSettled id p o c⟩ := by
        simp [Exit.terms, shares]
    · exact .trapped held locked found isOpen rfl agreed (List.nil_append _).symm rfl stopped
    · have first : payAll tok contract l.token [(e.organizer, o)] = some t := by simp [paid]
      exact .trapped held locked found isOpen rfl agreed
        (List.singleton_append (x := (e.organizer, o))).symm first stopped

theorem exit_error (keyed : l.Keyed) (x : Exit)
    (h : invoke tok env (x.call id p) l = .error failure f) :
    ExitFailure tok env l x id p failure f := by
  cases x with
  | cancelReservation => exact cancelReservation_error h
  | checkIn => exact checkIn_error keyed h
  | claimCancelledEventRefund => exact claimCancelledEventRefund_error keyed h
  | settleNoShow => exact settleNoShow_error h

end ShowUp

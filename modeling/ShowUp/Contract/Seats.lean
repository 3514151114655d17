import ShowUp.Contract.Failures
import ShowUp.Contract.WellFormed

/-!
# Seats

`reserved_count` is stored beside the reservations it counts. Two operations move
it and five change the statuses underneath; the invariant is that a reservation
keeps its seat unless it was cancelled by its participant.
-/

namespace ShowUp

set_option autoImplicit false

open Host StoreTotal

def holdsSeat (id : UInt64) (_ : ReservationKey) (r : Reservation) : Bool :=
  r.eventId = id ∧ r.status ≠ .cancelled

def Ledger.seatsTaken {σ : Type} (l : Ledger σ) (id : UInt64) : Nat :=
  count (holdsSeat id) l.reservations

def Ledger.Seated {σ : Type} (l : Ledger σ) : Prop :=
  ∀ id e, l.events.lookup id = some e →
    e.reservedCount.toNat = l.seatsTaken id ∧ e.reservedCount ≤ e.capacity

variable {tok : Token} {contract : Address} {env : Env contract} {l : Ledger tok.State}
  {f : Frame tok.State} {call : Call}

theorem Ledger.WellFormed.seatsTaken_fresh (w : l.WellFormed contract) {id : UInt64}
    (fresh : l.events.lookup id = none) : l.seatsTaken id = 0 := by
  apply count_eq_zero
  intro k r held
  obtain ⟨e, b⟩ := w.backed held
  have own := w.reservation held
  have other : r.eventId ≠ id := by
    intro h
    subst h
    subst own
    exact absurd b.found (by simp [fresh])
  simp [holdsSeat, other]

theorem Exit.eventAfter_count_le {x : Exit} {e e' : Event} (seat : x.eventAfter e = some e') :
    e'.reservedCount.toNat ≤ e.reservedCount.toNat := by
  cases x with
  | cancelReservation =>
    obtain ⟨n, counted, ⟨⟩⟩ := Option.bind_eq_some_iff.mp seat
    have := U32.checkedSub_eq_some.mp counted
    dsimp only
    omega
  | checkIn | claimCancelledEventRefund | settleNoShow =>
    cases seat
    exact Nat.le_refl _

theorem seatsTaken_exit (keyed : l.Keyed) {id a : UInt64} {p : Address} {r : Reservation}
    {e e' : Event} {x : Exit} (held : l.reservations.lookup (id, p) = some r)
    (locked : r.status = .locked) (seat : x.eventAfter e = some e') :
    count (holdsSeat a) (l.reservations.insert (id, p) { r with status := x.status }) +
        (if a = id then e.reservedCount.toNat else 0) =
      l.seatsTaken a + (if a = id then e'.reservedCount.toNat else 0) := by
  have moved := count_insert_of_lookup (holdsSeat a) held { r with status := x.status }
  obtain ⟨rfl, rfl⟩ := Prod.mk.inj (keyed.reservation held)
  unfold Ledger.seatsTaken
  by_cases ha : a = r.eventId
  · subst a
    cases x with
    | cancelReservation =>
      obtain ⟨n, counted, ⟨⟩⟩ := Option.bind_eq_some_iff.mp seat
      have gone := U32.checkedSub_eq_some.mp counted
      rw [UInt32.toNat_one] at gone
      simp [holdsSeat, locked, Exit.status] at moved ⊢
      omega
    | checkIn | claimCancelledEventRefund | settleNoShow =>
      cases seat
      simp [holdsSeat, locked, Exit.status] at moved ⊢
      omega
  · have other : r.eventId ≠ a := fun h => ha h.symm
    simp [holdsSeat, ha, other] at moved ⊢
    omega

theorem Ledger.Seated.rule (w : l.WellFormed contract) (s : l.Seated)
    (rule : Rule tok env l call f) : f.ledger.Seated := by
  intro a e₁ h
  cases rule with
  | @createEvent args id signed valid next =>
    rw [lookup_insert_eq] at h
    split at h
    · subst a
      cases h
      exact ⟨(w.seatsTaken_fresh (w.fresh_id next)).symm, UInt32.zero_le⟩
    · exact s a e₁ h
  | @reserve id p e n t signed found active early seat fresh counted signedTransfer paid =>
    have added := count_insert_fresh (holdsSeat a) fresh
      ⟨id, p, e.bondAmount, env.timestamp, .locked⟩
    have next := U32.checkedAdd_eq_some.mp counted
    rw [UInt32.toNat_one] at next
    rw [lookup_insert_eq] at h
    unfold Ledger.seatsTaken
    split at h
    · subst a
      cases h
      obtain ⟨agrees, _⟩ := s id e found
      have room := UInt32.lt_iff_toNat_lt.mp seat
      refine ⟨?_, UInt32.le_iff_toNat_le.mpr ?_⟩
      · simp only [holdsSeat, Ledger.seatsTaken] at added agrees ⊢
        simp at added
        omega
      · dsimp only
        omega
    · rename_i other
      have elsewhere : ¬ id = a := fun h => other h.symm
      simp only [holdsSeat, elsewhere, false_and, decide_false, Bool.toNat_false] at added
      exact added ▸ s a e₁ h
  | @exit _ x id p r e e' terms t named held locked found isOpen seat agreed paid =>
    have moved := seatsTaken_exit (a := a) w.toKeyed held locked seat
    have policy := Exit.eventAfter_samePolicy seat
    rw [lookup_insert_eq] at h
    unfold Ledger.seatsTaken
    split at h
    · subst a
      cases h
      obtain ⟨agrees, room⟩ := s id e found
      rw [if_pos rfl, if_pos rfl] at moved
      refine ⟨by dsimp only; omega, ?_⟩
      rw [policy.field Event.capacity fun _ _ => rfl]
      exact UInt32.le_trans (UInt32.le_iff_toNat_le.mpr (Exit.eventAfter_count_le seat)) room
    · rename_i other
      rw [if_neg other, if_neg other] at moved
      obtain ⟨agrees, room⟩ := s a e₁ h
      exact ⟨by dsimp only; omega, room⟩
  | @cancelEvent id e found signed active =>
    rw [lookup_insert_eq] at h
    split at h
    · subst a
      cases h
      have agrees := s id e found
      exact agrees
    · exact s a e₁ h

theorem Chain.after_seated (d : Deployment tok) (steps : List (Step contract)) :
    (after d steps).ledger.Seated :=
  after_induction (P := fun s => s.ledger.Seated)
    (by simp [deploy, constructor, Ledger.Seated])
    (fun w seated rule => seated.rule w rule) (fun _ seated _ => seated) steps

/-- The increment cannot overflow: the counter is below a capacity of its own width. -/
theorem reserve_overflow {id : UInt64} {p : Address} :
    invoke tok env (.reserve id p) l ≠ .error (.error .overflow) f := by
  intro h
  cases reserve_error h with
  | @overflow e found seat uncounted =>
    have full := U32.checkedAdd_eq_none.mp uncounted
    have room := UInt32.lt_iff_toNat_lt.mp seat
    have capacity := e.capacity.toNat_lt
    rw [UInt32.toNat_one] at full
    omega

/-- Neither can the decrement: the reservation being cancelled holds a seat. -/
theorem Ledger.Seated.cancelReservation_overflow (keyed : l.Keyed) (s : l.Seated) {id : UInt64}
    {p : Address} : invoke tok env (.cancelReservation id p) l ≠ .error (.error .overflow) f := by
  intro h
  cases cancelReservation_error h with
  | refused refusal => exact refusal rfl
  | @overflow r e _ held locked found isOpen unfit =>
    obtain ⟨rfl, rfl⟩ := Prod.mk.inj (keyed.reservation held)
    have seat : 0 < l.seatsTaken r.eventId :=
      count_pos (holdsSeat r.eventId) held (by simp [holdsSeat, locked])
    have agrees := (s _ _ found).1
    rcases unfit with unfit | unfit
    · simp only [Exit.eventAfter, Option.bind_eq_bind, Option.bind_eq_none_iff] at unfit
      have gone : U32.checkedSub e.reservedCount 1 = none := by
        cases h : U32.checkedSub e.reservedCount 1 with
        | none => rfl
        | some n => exact absurd (unfit n h) (by simp)
      have := U32.checkedSub_eq_none.mp gone
      rw [UInt32.toNat_one] at this
      omega
    · cases unfit

theorem reserve_eventFull_iff (keyed : l.Keyed) {id : UInt64} {p : Address} {e : Event}
    (signed : env.authorizes p) (found : l.events.lookup id = some e)
    (active : e.status = .active) (early : env.timestamp < e.checkinDeadline) :
    (∃ f, invoke tok env (.reserve id p) l = .error (.error .eventFull) f) ↔
      e.capacity ≤ e.reservedCount := by
  constructor
  · intro h
    rcases h with ⟨f, h⟩
    cases reserve_error h with
    | eventFull found' full =>
      cases found.symm.trans found'
      exact full
  · intro full
    cases h : invoke tok env (.reserve id p) l with
    | ok u f =>
      cases (perform_ok_iff keyed _).mp h with
      | reserve _ found' _ _ seat =>
        cases found.symm.trans found'
        exact absurd seat (UInt32.not_lt.mpr full)
      | @exit _ x _ _ _ _ _ _ _ named => cases x <;> cases named
    | error failure f =>
      cases reserve_error h with
      | unauthorized unsigned => simp [signed] at unsigned
      | notFound gone => cases gone.symm.trans found
      | notActive found' inactive =>
        cases found.symm.trans found'
        exact absurd active inactive
      | checkInWindowClosed found' late =>
        cases found.symm.trans found'
        exact absurd early (UInt64.not_lt.mpr late)
      | eventFull => exact ⟨f, rfl⟩
      | alreadyReserved found' seat | overflow found' seat | trapped _ found' _ _ seat =>
        cases found.symm.trans found'
        exact absurd seat (UInt32.not_lt.mpr full)

/-- After every run the counters count the seats, no seat arithmetic overflows, and an
event is full exactly when its seats are. -/
theorem seats_always_counted (d : Deployment tok) (steps : List (Step contract)) :
    (∀ id e, (Chain.after d steps).ledger.events.lookup id = some e →
      e.reservedCount.toNat = (Chain.after d steps).ledger.seatsTaken id ∧
        e.reservedCount ≤ e.capacity) ∧
    (∀ (env : Env contract) id p f,
      invoke tok env (.reserve id p) (Chain.after d steps).ledger ≠
        .error (.error .overflow) f ∧
      invoke tok env (.cancelReservation id p) (Chain.after d steps).ledger ≠
        .error (.error .overflow) f) ∧
    ∀ (env : Env contract) id p e, env.authorizes p →
      (Chain.after d steps).ledger.events.lookup id = some e → e.status = .active →
      env.timestamp < e.checkinDeadline →
      ((∃ f, invoke tok env (.reserve id p) (Chain.after d steps).ledger =
          .error (.error .eventFull) f) ↔
        (Chain.after d steps).ledger.seatsTaken id = e.capacity.toNat) := by
  have seated := Chain.after_seated d steps
  have w := Chain.after_wellFormed d steps
  refine ⟨seated, fun env id p f =>
    ⟨reserve_overflow, seated.cancelReservation_overflow w.toKeyed⟩, ?_⟩
  intro env id p e signed found active early
  rw [reserve_eventFull_iff w.toKeyed signed found active early]
  obtain ⟨agrees, room⟩ := seated id e found
  rw [UInt32.le_iff_toNat_le] at room ⊢
  omega

theorem seats_always_counted_reserved :
    ∃ f, invoke plainToken (Scenario.env 3) (.reserve 1 Scenario.organizer)
      (Chain.after Scenario.deployment Scenario.reserved).ledger =
        .error (.error .eventFull) f := by
  have found : ((Chain.after Scenario.deployment Scenario.reserved).ledger.events.lookup 1) =
    some { Scenario.args.toEvent 1 with reservedCount := 1 } := by decide
  exact ((seats_always_counted Scenario.deployment Scenario.reserved).2.2 (Scenario.env 3) 1
    Scenario.organizer _ (by decide) found (by decide) (by decide)).mpr (by decide)

end ShowUp

import ShowUp.Contract.Frames
import ShowUp.Contract.Failures

/-!
# What later calls may take for granted

An exit reads a reservation and then its event without asking whether the event
is there, and splits an amount without asking whether the shares are in range.
The joint invariant of the storage answers both.
-/

namespace ShowUp

set_option autoImplicit false

open Host StoreTotal

variable {tok : Token} {contract : Address} {env : Env contract} {l : Ledger tok.State}
  {f : Frame tok.State} {id : UInt64} {p : Address}

/-- `NotFound` means that one of the two records is missing. -/
theorem exit_notFound (x : Exit)
    (h : invoke tok env (x.call id p) l = .error (.error .notFound) f) :
    l.reservations.lookup (id, p) = none ∨ l.events.lookup id = none := by
  cases x
  all_goals
    simp only [invoke, Exit.call, Call.perform, cancelReservation, checkIn,
      claimCancelledEventRefund, settleNoShow, Staged.run_bind_error, requireAuth_error,
      requireAuth_ok, okOr_error, okOr_ok, returnErrIf_error, returnErrIf_ok, getEvent_error,
      getEvent_ok, getReservation_error, getReservation_ok, getConfig_error, tokenTransfer_error,
      setEvent, setReservation, publish, modify_error, Failure.error.injEq, reduceCtorEq,
      false_and, true_and, and_false, exists_false, false_or, or_false, and_assoc,
      exists_and_left, exists_eq_left, exists_const] at h
  -- the authorization of a cancellation comes before both reads
  case cancelReservation =>
    rcases h with ⟨_, ⟨gone, _⟩ | ⟨_, _, _, gone, _⟩⟩
    · exact .inl gone
    · exact .inr gone
  all_goals
    rcases h with ⟨gone, _⟩ | ⟨_, _, _, gone, _⟩
    · exact .inl gone
    · exact .inr gone

theorem leg_le_legsTotal {legs : List (Address × I128)} (nonneg : ∀ leg ∈ legs, 0 ≤ leg.2.val)
    {leg : Address × I128} (h : leg ∈ legs) : leg.2.val ≤ legsTotal legs := by
  obtain ⟨done, rest, split⟩ := List.append_of_mem h
  subst split
  have before := legsTotal_nonneg fun leg' h' => nonneg leg' (List.mem_append_left _ h')
  have after := legsTotal_nonneg fun leg' h' =>
    nonneg leg' (List.mem_append_right done (List.mem_cons_of_mem leg h'))
  rw [legsTotal_append, legsTotal_cons]
  omega

/-- Every payment an exit owes is between nothing and the whole amount. -/
theorem Ledger.WellFormed.leg_bounds (w : l.WellFormed contract) {x : Exit} {r : Reservation}
    {e : Event} {terms : Terms} (held : l.reservations.lookup (id, p) = some r)
    (found : l.events.lookup id = some e)
    (agreed : x.terms l.config.communityPool e (id, p) r.amount = some terms) :
    ∀ leg ∈ terms.legs, 0 ≤ leg.2.val ∧ leg.2.val ≤ r.amount.val := by
  obtain ⟨sum, nonneg⟩ :=
    Exit.terms_total (w.valid found) (Int.le_of_lt (w.amount_pos held)) agreed
  intro leg h
  rw [← sum]
  exact ⟨nonneg leg h, leg_le_legsTotal nonneg h⟩

theorem settled_shares (w : l.WellFormed contract)
    (h : invoke tok env (.settleNoShow id p) l = .ok () f) :
    ∃ r organizerAmount communityAmount, l.reservations.lookup (id, p) = some r ∧
      .published (.noShowSettled id p organizerAmount communityAmount) ∈ f.effects ∧
      .transferred ⟨l.config.token, contract, l.config.communityPool, communityAmount⟩ ∈
        f.effects ∧
      0 ≤ communityAmount.val ∧ communityAmount.val ≤ r.amount.val := by
  obtain ⟨r, e, e', terms, t, held, locked, found, _, _, agreed, _, rfl⟩ :=
    Rule.exit_inv (x := .settleNoShow) ((perform_ok_iff w.toKeyed _).mp h)
  have bounds := w.leg_bounds held found agreed
  obtain ⟨⟨o, c⟩, _, ⟨⟩⟩ := Option.bind_eq_some_iff.mp agreed
  refine ⟨r, o, c, held, ?_, ?_, bounds (l.config.communityPool, c) (by simp)⟩
  · simp
  · simp

/-- Storage is well formed after every run: ids are dense, records sit under their own
keys, and what an exit relies on is there. -/
theorem storage_always_wellFormed (d : Deployment tok) (steps : List (Step contract)) :
    let l := (Chain.after d steps).ledger
    (∀ id, (∃ e, l.events.lookup id = some e) ↔ 1 ≤ id.toNat ∧ id.toNat ≤ l.eventCount.toNat) ∧
    (∀ id e, l.events.lookup id = some e → e.id = id ∧ 0 < e.bondAmount.val ∧
      0 < e.capacity ∧ e.organizerBps.toNat + e.communityBps.toNat = 10000 ∧
      e.cancellationDeadline ≤ e.checkinStart ∧ e.checkinStart ≤ e.startTime ∧
      e.startTime ≤ e.checkinDeadline ∧ e.verifier = e.organizer ∧
      e.title.length ≤ maxTitleLength ∧ e.venue.length ≤ maxVenueLength) ∧
    (∀ k r, l.reservations.lookup k = some r → k = (r.eventId, r.participant) ∧
      ∃ e, l.events.lookup r.eventId = some e ∧ r.amount = e.bondAmount ∧
        r.reservedAt < e.checkinDeadline) ∧
    (∀ (env : Env contract) (x : Exit) id p r f, l.reservations.lookup (id, p) = some r →
      invoke tok env (x.call id p) l ≠ .error (.error .notFound) f) ∧
    (∀ (env : Env contract) args f, invoke tok env (.createEvent args) l = .ok () f →
      ∀ id e, l.events.lookup id = some e → f.ledger.events.lookup id = some e) ∧
    ∀ (env : Env contract) id p,
      (∀ f, invoke tok env (.settleNoShow id p) l = .ok () f →
        ∃ r organizerAmount communityAmount, l.reservations.lookup (id, p) = some r ∧
          .published (.noShowSettled id p organizerAmount communityAmount) ∈ f.effects ∧
          .transferred ⟨l.config.token, contract, l.config.communityPool, communityAmount⟩ ∈
            f.effects ∧
          0 ≤ communityAmount.val ∧ communityAmount.val ≤ r.amount.val) ∧
      ∀ target n f,
        invoke tok env (.settleNoShow id p) l = .error (.transferTrapped contract target n) f →
        ∃ r, l.reservations.lookup (id, p) = some r ∧ 0 ≤ n.val ∧ n.val ≤ r.amount.val := by
  have w := Chain.after_wellFormed d steps
  refine ⟨?_, ?_, ?_, ?_, ?_, ?_⟩
  · intro id
    exact Finmap.mem_iff.symm.trans (w.ids id)
  · intro id e found
    have v := w.valid found
    exact ⟨w.event found, v.bond_pos, UInt32.pos_iff_ne_zero.mpr v.capacity_ne, v.bps,
      v.cancellation_le, v.start_ge, v.start_le, v.verifier_eq, v.title_le, v.venue_le⟩
  · intro k r held
    obtain ⟨e, b⟩ := w.backed held
    obtain rfl := w.reservation held
    exact ⟨rfl, e, b.found, b.amount_eq, b.in_time⟩
  · intro env x id p r f held h
    obtain ⟨e, b⟩ := w.backed held
    rcases exit_notFound x h with gone | gone
    · cases held.symm.trans gone
    · cases b.found.symm.trans gone
  · intro env args f h id e found
    have rule := (perform_ok_iff w.toKeyed _).mp h
    have other : id ≠ (Call.createEvent args).event (Chain.after d steps).ledger := by
      intro same
      obtain ⟨_, fresh, _, eq⟩ := rule.created w
      subst same
      rw [eq, found] at fresh
      cases fresh
    rw [rule.framed.event id other]
    exact found
  · intro env id p
    refine ⟨fun f h => settled_shares w h, fun target n f h => ?_⟩
    cases exit_error w.toKeyed .settleNoShow h with
    | refused refusal => exact refusal.elim
    | @trapped r e _ terms _ _ done rest _ held locked found _ _ agreed legs =>
      refine ⟨r, held, w.leg_bounds held found agreed (target, n) ?_⟩
      rw [legs]
      exact List.mem_append_right done List.mem_cons_self

theorem storage_always_wellFormed_reserved :
    ∀ f, invoke plainToken (Scenario.env 40) (.settleNoShow 1 Scenario.guest)
        (Chain.after Scenario.deployment Scenario.reserved).ledger ≠
      .error (.error .notFound) f := by
  intro f
  have held : (Chain.after Scenario.deployment Scenario.reserved).ledger.reservations.lookup
      (1, Scenario.guest) =
        some ⟨1, Scenario.guest, Scenario.args.bondAmount, 2, .locked⟩ := by decide
  exact (storage_always_wellFormed Scenario.deployment Scenario.reserved).2.2.2.1 _
    .settleNoShow _ _ _ f held

end ShowUp

import ShowUp.Contract.Rules

/-!
# The entry points take exactly the rules' steps

Each entry point is run symbolically into the list of its checks and the frame it
leaves, and that list is matched with its rule in both directions. The records'
own keys matter: the source writes back under the keys stored in the records.
-/

namespace ShowUp

set_option autoImplicit false

open Host StoreTotal

variable {tok : Token} {contract : Address} {env : Env contract} {l : Ledger tok.State}
  {f : Frame tok.State}

@[simp] theorem payAll_nil (t : tok.State) : payAll tok contract t [] = some t := rfl

@[simp] theorem payAll_cons (t : tok.State) (leg : Address × I128)
    (legs : List (Address × I128)) : payAll tok contract t (leg :: legs) =
      (tok.transfer t contract leg.1 leg.2).bind fun t₁ => payAll tok contract t₁ legs := rfl

theorem CreateEventArgs.valid_iff {args : CreateEventArgs} : args.Valid ↔
    ¬ (args.bondAmount.val ≤ 0 ∨ args.capacity = 0 ∨
      args.title.length > maxTitleLength ∨ args.venue.length > maxVenueLength) ∧
    U32.checkedAdd args.organizerBps args.communityBps = some 10000 ∧
    ¬ (args.cancellationDeadline > args.checkinStart ∨
      args.checkinStart > args.checkinDeadline ∨ args.startTime < args.checkinStart ∨
      args.startTime > args.checkinDeadline) := by
  simp only [not_or, not_le, gt_iff_lt, not_lt, UInt64.not_lt]
  constructor
  · intro v
    exact ⟨⟨v.bond_pos, v.capacity_ne, v.title_le, v.venue_le⟩, v.bps,
      v.cancellation_le, v.window, v.start_ge, v.start_le⟩
  · intro h
    rcases h with ⟨⟨bond, capacity, title, venue⟩, bps, cancellation, window, ge, le⟩
    exact ⟨bond, capacity, title, venue, bps, cancellation, window, ge, le⟩

theorem splitByBps_eq_some {event : Event} {amount o c : I128} :
    splitByBps event amount = some (o, c) ↔
      ∃ product, amount.checkedMul (.ofU32 event.organizerBps) = some product ∧
        product.checkedDiv tenThousand = some o ∧ amount.checkedSub o = some c := by
  simp [splitByBps, Option.bind_eq_some_iff]

/-! A rule whose call is known has the shape of that call's rule. -/

theorem Rule.createEvent_inv {args : CreateEventArgs}
    (rule : Rule tok env l (.createEvent args) f) :
    env.authorizes args.organizer ∧ args.Valid ∧
      ∃ id, U64.checkedAdd l.eventCount 1 = some id ∧
        f = ⟨{ l with eventCount := id, events := l.events.insert id (args.toEvent id) },
          [.setEventCount id, .setEvent (args.toEvent id),
            .published (.eventCreated id args.organizer args.bondAmount args.capacity)]⟩ := by
  cases rule with
  | createEvent signed valid next => exact ⟨signed, valid, _, next, rfl⟩
  | @exit _ x _ _ _ _ _ _ _ named => cases x <;> cases named

theorem Rule.exit_inv {x : Exit} {id : UInt64} {p : Address}
    (rule : Rule tok env l (x.call id p) f) :
    ∃ r event event' terms t, l.reservations.lookup (id, p) = some r ∧ r.status = .locked ∧
      l.events.lookup id = some event ∧ x.Open env event p ∧ x.eventAfter event = some event' ∧
      x.terms l.config.communityPool event (id, p) r.amount = some terms ∧
      payAll tok contract l.token terms.legs = some t ∧
      f = ⟨{ l with
            events := l.events.insert id event'
            reservations := l.reservations.insert (id, p) { r with status := x.status }
            token := t },
          x.writes event' { r with status := x.status } ++
            terms.legs.map (fun leg =>
              .transferred ⟨l.config.token, contract, leg.1, leg.2⟩) ++
            [.published terms.entry]⟩ := by
  generalize hc : x.call id p = c at rule
  cases rule with
  | @exit _ y id' p' r event event' terms t named held locked found isOpen seat agreed paid =>
    have same : x = y ∧ id = id' ∧ p = p' := by
      subst hc
      cases x <;> cases y <;> simp_all [Exit.call]
    obtain ⟨rfl, rfl, rfl⟩ := same
    exact ⟨r, event, event', terms, t, held, locked, found, isOpen, seat, agreed, paid, rfl⟩
  | _ => cases x <;> cases hc

/-! The entry points, one by one. -/

theorem createEvent_ok_iff {args : CreateEventArgs} :
    ((Call.createEvent args).perform tok env).run ⟨l, []⟩ = .ok () f ↔
      Rule tok env l (.createEvent args) f := by
  simp only [Call.perform, createEvent, Staged.run_bind_ok, pure_ok, requireAuth_ok, okOr_ok,
    returnErrIf_ok, getEventCount_ok, setEventCount, setEvent, publish, modify_ok, and_assoc,
    exists_and_left, exists_eq_left, exists_const, List.nil_append, List.append_assoc,
    List.cons_append, Decidable.not_not, ne_eq]
  constructor
  · intro h
    rcases h with ⟨signed, fields, id, _, ⟨_, bps, rfl, schedule, _, next, rfl, rfl⟩, -, rfl⟩
    exact .createEvent signed (CreateEventArgs.valid_iff.mpr ⟨fields, bps, schedule⟩) next
  · intro rule
    obtain ⟨signed, valid, id, next, rfl⟩ := rule.createEvent_inv
    obtain ⟨fields, bps, schedule⟩ := CreateEventArgs.valid_iff.mp valid
    exact ⟨signed, fields, id, _, ⟨_, bps, rfl, schedule, id, next, rfl, rfl⟩, trivial, rfl⟩

theorem reserve_ok_iff (keyed : l.Keyed) {id : UInt64} {p : Address} :
    ((Call.reserve id p).perform tok env).run ⟨l, []⟩ = .ok () f ↔
      Rule tok env l (.reserve id p) f := by
  simp only [Call.perform, reserve, Staged.run_bind_ok, requireAuth_ok, okOr_ok, returnErrIf_ok,
    getEvent_ok, getReservation_ok, getConfig_ok, tokenTransfer_ok, setEvent, setReservation,
    publish, modify_ok, and_assoc, exists_and_left, exists_eq_left, exists_const,
    exists_exists_and_eq_and, List.nil_append, List.append_assoc, List.cons_append,
    Decidable.not_not, ne_eq, ge_iff_le, UInt64.not_le, UInt32.not_le, Bool.not_eq_true,
    Option.isSome_eq_false_iff, Option.isNone_iff_eq_none]
  constructor
  · intro h
    rcases h with ⟨signed, e, found, active, early, seat, fresh, n, counted, signedTransfer, t, paid, rfl⟩
    have rule := Rule.reserve signed found active early seat fresh counted signedTransfer paid
    simpa only [keyed.event found] using rule
  · intro rule
    cases rule with
    | @reserve _ _ e n t signed found active early seat fresh counted signedTransfer paid =>
      refine ⟨signed, e, found, active, early, seat, fresh, n, counted, signedTransfer, t, paid, ?_⟩
      rw [keyed.event found]
    | @exit _ x _ _ _ _ _ _ _ named => cases x <;> cases named

theorem cancelReservation_ok_iff (keyed : l.Keyed) {id : UInt64} {p : Address} :
    ((Call.cancelReservation id p).perform tok env).run ⟨l, []⟩ = .ok () f ↔
      Rule tok env l (.cancelReservation id p) f := by
  simp only [Call.perform, cancelReservation, Staged.run_bind_ok, requireAuth_ok, okOr_ok,
    returnErrIf_ok, getEvent_ok, getReservation_ok, getConfig_ok, tokenTransfer_ok, setEvent,
    setReservation, publish, modify_ok, and_assoc, exists_and_left, exists_eq_left, exists_const,
    true_or, true_and, exists_exists_and_eq_and, List.nil_append, List.append_assoc,
    List.cons_append, Decidable.not_not, ne_eq, gt_iff_lt, UInt64.not_lt]
  constructor
  · intro h
    rcases h with ⟨signed, r, held, locked, e, found, active, notLate, n, counted, t, paid, rfl⟩
    obtain ⟨rfl, rfl⟩ := Prod.mk.inj (keyed.reservation held)
    have isOpen : Exit.cancelReservation.Open env e r.participant := ⟨signed, active, notLate⟩
    have seat : Exit.cancelReservation.eventAfter e = some { e with reservedCount := n } := by
      simp [Exit.eventAfter, counted]
    have rule := Rule.exit rfl held locked found isOpen seat rfl (t := t) (by simp [paid])
    simp only [keyed.event found] at rule ⊢
    exact rule
  · intro rule
    obtain ⟨r, e, _, _, t, held, locked, found, ⟨signed, active, notLate⟩, seat, ⟨⟩, paid, rfl⟩ :=
      Rule.exit_inv (x := .cancelReservation) rule
    obtain ⟨n, counted, ⟨⟩⟩ := Option.bind_eq_some_iff.mp seat
    obtain ⟨rfl, rfl⟩ := Prod.mk.inj (keyed.reservation held)
    refine ⟨signed, r, held, locked, e, found, active, notLate, n, counted, t, ?_, ?_⟩
    · simpa using paid
    · simp only [keyed.event found]
      rfl

theorem checkIn_ok_iff (keyed : l.Keyed) {id : UInt64} {p : Address} :
    ((Call.checkIn id p).perform tok env).run ⟨l, []⟩ = .ok () f ↔
      Rule tok env l (.checkIn id p) f := by
  simp only [Call.perform, checkIn, Staged.run_bind_ok, requireAuth_ok, okOr_ok, returnErrIf_ok,
    getEvent_ok, getReservation_ok, getConfig_ok, tokenTransfer_ok, setReservation, publish,
    modify_ok, and_assoc, exists_and_left, exists_eq_left, exists_const, true_or, true_and,
    exists_exists_and_eq_and, List.nil_append, List.append_assoc, List.cons_append,
    Decidable.not_not, ne_eq, gt_iff_lt, UInt64.not_lt]
  constructor
  · intro h
    rcases h with ⟨r, held, locked, e, found, signed, active, notEarly, notLate, t, paid, rfl⟩
    obtain ⟨rfl, rfl⟩ := Prod.mk.inj (keyed.reservation held)
    have isOpen : Exit.checkIn.Open env e r.participant := ⟨signed, active, notEarly, notLate⟩
    have rule := Rule.exit rfl held locked found isOpen rfl rfl (t := t) (by simp [paid])
    rwa [insert_lookup_self found] at rule
  · intro rule
    obtain ⟨r, e, _, _, t, held, locked, found, ⟨signed, active, notEarly, notLate⟩, ⟨⟩, ⟨⟩, paid,
      rfl⟩ := Rule.exit_inv (x := .checkIn) rule
    obtain ⟨rfl, rfl⟩ := Prod.mk.inj (keyed.reservation held)
    refine ⟨r, held, locked, e, found, signed, active, notEarly, notLate, t, ?_, ?_⟩
    · simpa using paid
    · rw [insert_lookup_self found]
      rfl

theorem claimCancelledEventRefund_ok_iff (keyed : l.Keyed) {id : UInt64} {p : Address} :
    ((Call.claimCancelledEventRefund id p).perform tok env).run ⟨l, []⟩ = .ok () f ↔
      Rule tok env l (.claimCancelledEventRefund id p) f := by
  simp only [Call.perform, claimCancelledEventRefund, Staged.run_bind_ok, okOr_ok, returnErrIf_ok,
    getEvent_ok, getReservation_ok, getConfig_ok, tokenTransfer_ok, setReservation, publish,
    modify_ok, and_assoc, exists_and_left, exists_eq_left, exists_const, true_or, true_and,
    exists_exists_and_eq_and, List.nil_append, List.append_assoc, List.cons_append,
    Decidable.not_not, ne_eq]
  constructor
  · intro h
    rcases h with ⟨r, held, locked, e, found, cancelled, t, paid, rfl⟩
    obtain ⟨rfl, rfl⟩ := Prod.mk.inj (keyed.reservation held)
    have isOpen : Exit.claimCancelledEventRefund.Open env e r.participant := cancelled
    have rule := Rule.exit rfl held locked found isOpen rfl rfl (t := t) (by simp [paid])
    rwa [insert_lookup_self found] at rule
  · intro rule
    obtain ⟨r, e, _, _, t, held, locked, found, cancelled, ⟨⟩, ⟨⟩, paid, rfl⟩ :=
      Rule.exit_inv (x := .claimCancelledEventRefund) rule
    obtain ⟨rfl, rfl⟩ := Prod.mk.inj (keyed.reservation held)
    refine ⟨r, held, locked, e, found, cancelled, t, ?_, ?_⟩
    · simpa using paid
    · rw [insert_lookup_self found]
      rfl

theorem settleNoShow_ok_iff (keyed : l.Keyed) {id : UInt64} {p : Address} :
    ((Call.settleNoShow id p).perform tok env).run ⟨l, []⟩ = .ok () f ↔
      Rule tok env l (.settleNoShow id p) f := by
  simp only [Call.perform, settleNoShow, Staged.run_bind_ok, okOr_ok, returnErrIf_ok, getEvent_ok,
    getReservation_ok, getConfig_ok, tokenTransfer_ok, setReservation, publish, modify_ok,
    and_assoc, exists_and_left, exists_eq_left, exists_const, true_or, true_and,
    exists_exists_and_eq_and, List.nil_append, List.append_assoc, List.cons_append,
    Decidable.not_not, ne_eq, UInt64.not_le]
  constructor
  · intro h
    rcases h with ⟨r, held, locked, e, found, active, late, a, mul, o, div, c, sub, t₁, paid₁, t, paid, rfl⟩
    obtain ⟨rfl, rfl⟩ := Prod.mk.inj (keyed.reservation held)
    have shares : splitByBps e r.amount = some (o, c) := splitByBps_eq_some.mpr ⟨a, mul, div, sub⟩
    have isOpen : Exit.settleNoShow.Open env e r.participant := ⟨active, late⟩
    have agreed : Exit.settleNoShow.terms l.config.communityPool e (r.eventId, r.participant)
        r.amount = some ⟨[(e.organizer, o), (l.config.communityPool, c)],
          .noShowSettled r.eventId r.participant o c⟩ := by
      simp [Exit.terms, shares]
    have rule := Rule.exit rfl held locked found isOpen rfl agreed (t := t)
      (by simp [paid₁, paid])
    rwa [insert_lookup_self found] at rule
  · intro rule
    obtain ⟨r, e, _, _, t, held, locked, found, ⟨active, late⟩, ⟨⟩, agreed, paid, rfl⟩ :=
      Rule.exit_inv (x := .settleNoShow) rule
    obtain ⟨⟨o, c⟩, shares, ⟨⟩⟩ := Option.bind_eq_some_iff.mp agreed
    obtain ⟨a, mul, div, sub⟩ := splitByBps_eq_some.mp shares
    obtain ⟨t₁, paid₁, paid₂⟩ := Option.bind_eq_some_iff.mp paid
    obtain ⟨rfl, rfl⟩ := Prod.mk.inj (keyed.reservation held)
    refine ⟨r, held, locked, e, found, active, late, a, mul, o, div, c, sub, t₁, paid₁, t, ?_, ?_⟩
    · simpa using paid₂
    · rw [insert_lookup_self found]
      rfl

theorem cancelEvent_ok_iff (keyed : l.Keyed) {id : UInt64} :
    ((Call.cancelEvent id).perform tok env).run ⟨l, []⟩ = .ok () f ↔
      Rule tok env l (.cancelEvent id) f := by
  simp only [Call.perform, cancelEvent, Staged.run_bind_ok, requireAuth_ok, okOr_ok, returnErrIf_ok,
    getEvent_ok, setEvent, publish, modify_ok, and_assoc, exists_and_left, exists_eq_left,
    exists_const, List.nil_append, List.cons_append, Decidable.not_not, ne_eq]
  constructor
  · intro h
    rcases h with ⟨e, found, signed, active, rfl⟩
    have rule : Rule tok env l (.cancelEvent id) _ := Rule.cancelEvent found signed active
    simpa only [keyed.event found] using rule
  · intro rule
    cases rule with
    | @cancelEvent _ e found signed active =>
      refine ⟨e, found, signed, active, ?_⟩
      simp only [keyed.event found]
    | @exit _ x _ _ _ _ _ _ _ named => cases x <;> cases named

/-- The faithful entry points and the rules have the same successful steps. -/
theorem perform_ok_iff (keyed : l.Keyed) (call : Call) :
    invoke tok env call l = .ok () f ↔ Rule tok env l call f := by
  cases call with
  | createEvent args => exact createEvent_ok_iff
  | reserve id p => exact reserve_ok_iff keyed
  | cancelReservation id p => exact cancelReservation_ok_iff keyed
  | checkIn id p => exact checkIn_ok_iff keyed
  | cancelEvent id => exact cancelEvent_ok_iff keyed
  | claimCancelledEventRefund id p => exact claimCancelledEventRefund_ok_iff keyed
  | settleNoShow id p => exact settleNoShow_ok_iff keyed

end ShowUp

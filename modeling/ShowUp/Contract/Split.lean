import ShowUp.Contract.Atomicity
import ShowUp.Contract.Liquidity

/-!
# Settling over the whole range

Whether a settlement pays or overflows depends on one product alone, in any state
it is enabled in. A bond too large to be split still comes back whole: the
organizer cancels the event and anybody claims the refund.
-/

namespace ShowUp

set_option autoImplicit false

open Host StoreTotal

variable {tok : Token} {contract : Address} {env : Env contract} {l : Ledger tok.State}
  {f : Frame tok.State} {id : UInt64} {p : Address} {r : Reservation} {e : Event}

/-- What a successful settlement read and did, whatever the ledger. -/
theorem settleNoShow_ok (h : invoke tok env (.settleNoShow id p) l = .ok () f) :
    ∃ r e o c, l.reservations.lookup (id, p) = some r ∧ l.events.lookup id = some e ∧
      splitByBps e r.amount = some (o, c) ∧
      f.effects.filterMap Effect.transfer? =
        [⟨l.config.token, contract, e.organizer, o⟩,
          ⟨l.config.token, contract, l.config.communityPool, c⟩] := by
  simp only [invoke, Call.perform, settleNoShow, Staged.run_bind_ok, okOr_ok, returnErrIf_ok,
    getEvent_ok, getReservation_ok, getConfig_ok, tokenTransfer_ok, setReservation, publish,
    modify_ok, and_assoc, exists_and_left, exists_eq_left, exists_const, true_or, true_and,
    exists_exists_and_eq_and, List.nil_append, List.append_assoc, List.cons_append,
    Decidable.not_not, ne_eq, UInt64.not_le] at h
  rcases h with ⟨r, held, _, e, found, _, _, a, mul, o, div, c, sub, _, _, _, _, rfl⟩
  exact ⟨r, e, o, c, held, found, splitByBps_eq_some.mpr ⟨a, mul, div, sub⟩, rfl⟩

/-- An overflow means that the product did not fit. -/
theorem settleNoShow_overflow (held : l.reservations.lookup (id, p) = some r)
    (found : l.events.lookup id = some e)
    (h : invoke tok env (.settleNoShow id p) l = .error (.error .overflow) f) :
    splitByBps e r.amount = none := by
  cases settleNoShow_error h with
  | refused refusal => exact absurd rfl refusal
  | @overflow r' e' _ held' _ found' _ unfit =>
    cases held.symm.trans held'
    cases found.symm.trans found'
    rcases unfit with unfit | unfit
    · cases unfit
    · cases split : splitByBps e r.amount with
      | none => rfl
      | some shares => simp [Exit.terms, split] at unfit

/-- A settlement is at the right time. -/
structure Due (env : Env contract) (l : Ledger tok.State) (id : UInt64) (p : Address)
    (r : Reservation) (e : Event) : Prop where
  held : l.reservations.lookup (id, p) = some r
  locked : r.status = .locked
  found : l.events.lookup id = some e
  active : e.status = .active
  late : e.checkinDeadline < env.timestamp

theorem Due.refuses (due : Due env l id p r e) {failure : Failure} (refusal : failure.Refusal) :
    invoke tok env (.settleNoShow id p) l ≠ .error failure f := by
  intro h
  cases settleNoShow_error h with
  | refused _ closed => exact closed due.held due.locked due.found ⟨due.active, due.late⟩
  | overflow => exact refusal rfl
  | trapped => exact refusal

theorem Due.overflows (due : Due env l id p r e) (unfit : splitByBps e r.amount = none) :
    invoke tok env (.settleNoShow id p) l = .error (.error .overflow) ⟨l, []⟩ := by
  cases h : invoke tok env (.settleNoShow id p) l with
  | ok u f =>
    obtain ⟨r', e', o, c, held, found, split, _⟩ := settleNoShow_ok h
    cases due.held.symm.trans held
    cases due.found.symm.trans found
    cases unfit.symm.trans split
  | error failure f =>
    have clean := (settleNoShow_checksFirst tok env id p).late_or_clean h
    cases settleNoShow_error h with
    | refused refusal => exact absurd h (due.refuses refusal)
    | overflow => rw [clean.resolve_left fun trap => trap]
    | @trapped r' e' _ terms _ _ _ _ _ held _ found _ _ agreed =>
      cases due.held.symm.trans held
      cases due.found.symm.trans found
      obtain ⟨shares, split, _⟩ := Option.bind_eq_some_iff.mp agreed
      cases unfit.symm.trans split

theorem Due.completes (due : Due env l id p r e) {o c : I128}
    (split : splitByBps e r.amount = some (o, c)) :
    Completes tok env (.settleNoShow id p) l ∧
      ∀ f, invoke tok env (.settleNoShow id p) l = .ok () f →
        f.effects.filterMap Effect.transfer? =
          [⟨l.config.token, contract, e.organizer, o⟩,
            ⟨l.config.token, contract, l.config.communityPool, c⟩] := by
  constructor
  · cases h : invoke tok env (.settleNoShow id p) l with
    | ok u f => exact .inl ⟨f, h⟩
    | error failure f =>
      cases settleNoShow_error h with
      | refused refusal => exact absurd h (due.refuses refusal)
      | trapped => exact .inr ⟨_, _, f, h⟩
      | overflow => cases (settleNoShow_overflow due.held due.found h).symm.trans split
  · intro f h
    obtain ⟨r', e', o', c', held, found, split', paid⟩ := settleNoShow_ok h
    cases due.held.symm.trans held
    cases due.found.symm.trans found
    cases split.symm.trans split'
    exact paid

/-- The organizer's share grows with the amount and with the basis points. -/
theorem share_mono {amount amount' : Int} {bps bps' : Nat} (nonneg : 0 ≤ amount)
    (le_amount : amount ≤ amount') (le_bps : bps ≤ bps') :
    amount * bps / 10000 ≤ amount' * bps' / 10000 := by
  have products : amount * bps ≤ amount' * bps' := by
    calc amount * bps ≤ amount * bps' := Int.mul_le_mul_of_nonneg_left (by omega) nonneg
      _ ≤ amount' * bps' := Int.mul_le_mul_of_nonneg_right le_amount (Int.natCast_nonneg _)
  omega

theorem cancelEvent_succeeds (keyed : l.Keyed) (found : l.events.lookup id = some e)
    (signed : env.authorizes e.organizer) (active : e.status = .active) :
    ∃ f, invoke tok env (.cancelEvent id) l = .ok () f ∧
      f.ledger = { l with events := l.events.insert id { e with status := .cancelled } } :=
  ⟨_, (perform_ok_iff keyed _).mpr (.cancelEvent found signed active), rfl⟩

/-- Whatever the split, the organizer can release the whole bond to its participant. -/
theorem recovered_by_cancelling (liquid : tok.Liquid) (d : Deployment tok)
    (steps : List (Step contract)) {envOrganizer : Env contract}
    (held : (Chain.after d steps).ledger.reservations.lookup (id, p) = some r)
    (locked : r.status = .locked)
    (found : (Chain.after d steps).ledger.events.lookup id = some e) (active : e.status = .active)
    (signed : envOrganizer.authorizes e.organizer) (env : Env contract) :
    let s' := Chain.after d (steps ++ [.call envOrganizer (.cancelEvent id)] ++
      [.call env (.claimCancelledEventRefund id p)])
    s'.ledger.reservations.lookup (id, p) = some { r with status := .refunded } ∧
      tok.balance s'.ledger.token p =
        tok.balance (Chain.after d steps).ledger.token p + r.amount.val := by
  obtain ⟨f₁, ok₁, l₁⟩ :=
    cancelEvent_succeeds (Chain.after_wellFormed d steps).toKeyed found signed active
  have sound := Chain.after_sound d (steps ++ [.call envOrganizer (.cancelEvent id)])
  have mid := Chain.after_call ok₁
  rw [l₁] at mid
  have ready : Exit.claimCancelledEventRefund.Ready env
      (Chain.after d (steps ++ [.call envOrganizer (.cancelEvent id)])).ledger id p r
      { e with status := .cancelled } := by
    rw [mid]
    exact ⟨held, locked, Finmap.lookup_insert _, rfl, nofun⟩
  obtain ⟨f₂, ok₂⟩ := ready.succeeds liquid sound
  obtain ⟨r', _, _, _, t, held', _, _, _, _, ⟨⟩, paid, l₂⟩ :=
    Rule.exit_inv (x := .claimCancelledEventRefund)
      ((perform_ok_iff sound.wellFormed.toKeyed _).mp ok₂)
  cases ready.held.symm.trans held'
  obtain ⟨e', b⟩ := sound.wellFormed.backed ready.held
  have participant_ne : p ≠ contract := b.participant_ne
  have credited := payAll_credits paid p
  rw [mid, if_neg participant_ne] at credited
  have ended : (Chain.after d (steps ++ [.call envOrganizer (.cancelEvent id)] ++
      [.call env (.claimCancelledEventRefund id p)])).ledger = f₂.ledger := Chain.after_call ok₂
  dsimp only
  rw [ended, l₂]
  refine ⟨Finmap.lookup_insert _, ?_⟩
  simpa using credited

end ShowUp

import ShowUp.Contract.Exits

/-!
# Passing all checks

A call passes when nothing of the contract's own stops it: it succeeds, or it
gets as far as a token transfer that traps. For exits and for `reserve` that is a
condition on the two stored records and the clock.
-/

namespace ShowUp

set_option autoImplicit false

open Host StoreTotal

variable {tok : Token} {contract : Address} {env : Env contract} {l : Ledger tok.State}
  {f : Frame tok.State} {id : UInt64} {p : Address}

/-- Only a token transfer can stop the call. -/
def PassesChecks (tok : Token) (env : Env contract) (call : Call) (l : Ledger tok.State) : Prop :=
  ∀ failure f, invoke tok env call l = .error failure f →
    ∃ source target n, failure = .transferTrapped source target n

theorem Completes.passesChecks {call : Call} (completes : Completes tok env call l) :
    PassesChecks tok env call l := by
  intro failure f h
  rcases completes with ⟨f', ok⟩ | ⟨target, n, f', trapped⟩
  · rw [ok] at h
    cases h
  · rw [trapped] at h
    cases h
    exact ⟨contract, target, n, rfl⟩

/-- An exit passes when it is open on a locked reservation and, for a settlement, the
product of the split fits. -/
theorem exit_passesChecks_iff (w : l.WellFormed contract) (seated : l.Seated) {x : Exit}
    {e : Event} (found : l.events.lookup id = some e) :
    PassesChecks tok env (x.call id p) l ↔
      ∃ r, l.reservations.lookup (id, p) = some r ∧ r.status = .locked ∧ x.Open env e p ∧
        (x = .settleNoShow → r.amount.val * e.organizerBps.toNat < 2 ^ 127) := by
  have fits : ∀ {r : Reservation} {terms : Terms}, l.reservations.lookup (id, p) = some r →
      x.terms l.config.communityPool e (id, p) r.amount = some terms →
      x = .settleNoShow → r.amount.val * e.organizerBps.toNat < 2 ^ 127 := by
    intro r terms held agreed settles
    subst settles
    obtain ⟨shares, split, _⟩ := Option.bind_eq_some_iff.mp agreed
    apply (splitByBps_isSome_iff (Int.le_of_lt (w.amount_pos held)) (w.valid found).bps_le).mp
    rw [split]
    rfl
  constructor
  · intro passes
    cases h : invoke tok env (x.call id p) l with
    | ok u f =>
      obtain ⟨r, e', _, _, _, held, locked, found', isOpen, _, agreed, _⟩ :=
        Rule.exit_inv ((perform_ok_iff w.toKeyed _).mp h)
      cases found.symm.trans found'
      exact ⟨r, held, locked, isOpen, fits held agreed⟩
    | error failure f =>
      obtain ⟨source, target, n, rfl⟩ := passes _ _ h
      cases exit_error w.toKeyed x h with
      | refused refusal => exact refusal.elim
      | @trapped r e' _ _ _ _ _ _ _ held locked found' isOpen _ agreed =>
        cases found.symm.trans found'
        exact ⟨r, held, locked, isOpen, fits held agreed⟩
  · intro h
    rcases h with ⟨r, held, locked, isOpen, fits⟩
    have enabled : Enabled tok env (x.call id p) l :=
      (enabled_iff_open w.toKeyed held locked found).mpr isOpen
    exact (completes_of_enabled w seated held found enabled fits).passesChecks

/-- What `reserve` asks of the ledger and the clock. -/
structure Reservable (env : Env contract) (l : Ledger tok.State) (id : UInt64) (p : Address)
    (e : Event) : Prop where
  found : l.events.lookup id = some e
  active : e.status = .active
  early : env.timestamp < e.checkinDeadline
  seat : e.reservedCount < e.capacity
  fresh : l.reservations.lookup (id, p) = none

theorem reserve_passesChecks_iff (keyed : l.Keyed) (signed : env.authorizes p) :
    PassesChecks tok env (.reserve id p) l ↔ ∃ e, Reservable env l id p e := by
  constructor
  · intro passes
    cases h : invoke tok env (.reserve id p) l with
    | ok u f =>
      cases (perform_ok_iff keyed _).mp h with
      | @reserve _ _ e _ _ _ found active early seat fresh =>
        exact ⟨e, found, active, early, seat, fresh⟩
      | @exit _ x _ _ _ _ _ _ _ named => cases x <;> cases named
    | error failure f =>
      obtain ⟨source, target, n, rfl⟩ := passes _ _ h
      cases reserve_error h with
      | trapped _ found active early seat fresh => exact ⟨_, found, active, early, seat, fresh⟩
  · intro h failure f failed
    rcases h with ⟨e, isOpen⟩
    cases reserve_error failed with
    | unauthorized unsigned => simp [signed] at unsigned
    | notFound gone => cases gone.symm.trans isOpen.found
    | notActive found inactive =>
      cases found.symm.trans isOpen.found
      exact absurd isOpen.active inactive
    | checkInWindowClosed found late =>
      cases found.symm.trans isOpen.found
      exact absurd isOpen.early (UInt64.not_lt.mpr late)
    | eventFull found full =>
      cases found.symm.trans isOpen.found
      exact absurd isOpen.seat (UInt32.not_lt.mpr full)
    | alreadyReserved _ _ taken => simp [isOpen.fresh] at taken
    | overflow => exact absurd failed reserve_overflow
    | trapped => exact ⟨_, _, _, rfl⟩

end ShowUp

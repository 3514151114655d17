import ShowUp.Contract.Provenance
import ShowUp.Contract.Seats

/-!
# Which exits are open when

An exit is enabled when none of its own checks refuses it; what remains is the
arithmetic of the split and the token. Read off the schedule `create_event`
enforces, the exits exclude each other and together leave no gap.
-/

namespace ShowUp

set_option autoImplicit false

open Host StoreTotal

variable {tok : Token} {contract : Address}

/-- The contract's own checks let the call through. -/
def Enabled (tok : Token) (env : Env contract) (call : Call) (l : Ledger tok.State) : Prop :=
  ∀ failure f, invoke tok env call l = .error failure f → ¬ failure.Refusal

/-- The call succeeds unless one of its token transfers fails. -/
def Completes (tok : Token) (env : Env contract) (call : Call) (l : Ledger tok.State) : Prop :=
  (∃ f, invoke tok env call l = .ok () f) ∨
    ∃ target n f, invoke tok env call l = .error (.transferTrapped contract target n) f

def Env.Signed (env : Env contract) : Prop := ∀ a, a ≠ contract → env.authorizes a

section Open
variable {env : Env contract} {l : Ledger tok.State} {id : UInt64} {p : Address}
  {r : Reservation} {e : Event} {x : Exit}

/-- For a locked reservation the checks are those of `Exit.Open`. -/
theorem enabled_iff_open (keyed : l.Keyed) (held : l.reservations.lookup (id, p) = some r)
    (locked : r.status = .locked) (found : l.events.lookup id = some e) :
    Enabled tok env (x.call id p) l ↔ x.Open env e p := by
  constructor
  · intro enabled
    cases h : invoke tok env (x.call id p) l with
    | ok u f =>
      obtain ⟨_, e', _, _, _, _, _, found', isOpen, _⟩ :=
        Rule.exit_inv ((perform_ok_iff keyed _).mp h)
      cases found.symm.trans found'
      exact isOpen
    | error failure f =>
      cases exit_error keyed x h with
      | refused refusal => exact absurd refusal (enabled _ _ h)
      | overflow _ _ found' isOpen | trapped _ _ found' isOpen =>
        cases found.symm.trans found'
        exact isOpen
  · intro isOpen failure f h
    cases exit_error keyed x h with
    | refused _ closed => exact absurd isOpen (closed held locked found)
    | overflow => exact fun refusal => refusal rfl
    | trapped => exact fun refusal => refusal

theorem completes_of_enabled (w : l.WellFormed contract) (seated : l.Seated)
    (held : l.reservations.lookup (id, p) = some r) (found : l.events.lookup id = some e)
    (enabled : Enabled tok env (x.call id p) l)
    (fits : x = .settleNoShow → r.amount.val * e.organizerBps.toNat < 2 ^ 127) :
    Completes tok env (x.call id p) l := by
  cases h : invoke tok env (x.call id p) l with
  | ok u f => exact .inl ⟨f, h⟩
  | error failure f =>
    cases exit_error w.toKeyed x h with
    | refused refusal => exact absurd refusal (enabled _ _ h)
    | trapped => exact .inr ⟨_, _, f, h⟩
    | @overflow _ _ _ held' _ found' _ unfit =>
      cases held.symm.trans held'
      cases found.symm.trans found'
      cases x with
      | cancelReservation => exact absurd h (seated.cancelReservation_overflow w.toKeyed)
      | checkIn | claimCancelledEventRefund => rcases unfit with unfit | unfit <;> cases unfit
      | settleNoShow =>
        have split := (splitByBps_isSome_iff (Int.le_of_lt (w.amount_pos held))
          (w.valid found).bps_le).mpr (fits rfl)
        obtain ⟨shares, split⟩ := Option.isSome_iff_exists.mp split
        rcases unfit with unfit | unfit
        · cases unfit
        · simp [Exit.terms, split] at unfit

end Open

section Schedule
variable {env : Env contract} {e e' : Event} {p : Address}

/-- Two different exits are open together only at the one second in which cancelling ends
and check-in starts. -/
theorem Exit.open_together (v : e.Valid contract) {x y : Exit} (different : x ≠ y)
    (hx : x.Open env e p) (hy : y.Open env e p) :
    (x = .cancelReservation ∧ y = .checkIn ∨ x = .checkIn ∧ y = .cancelReservation) ∧
      env.timestamp = e.cancellationDeadline ∧ env.timestamp = e.checkinStart := by
  have order := v.cancellation_le
  have window := v.window
  cases x <;> cases y <;> simp only [Exit.Open, reduceCtorEq, ne_eq, not_true_eq_false] at * <;>
    grind

/-- From every second on, some exit of an event in its present state is going to be open. -/
theorem Exit.open_later (v : e.Valid contract) (p : Address) (now : UInt64) :
    ∃ later x, now ≤ later ∧ ∀ env : Env contract, env.Signed → env.timestamp = later →
      Exit.Open env e p x := by
  have window := v.window
  have verifier_ne : e.verifier ≠ contract := v.verifier_eq ▸ v.organizer_ne
  cases status : e.status with
  | cancelled => exact ⟨now, .claimCancelledEventRefund, UInt64.le_refl _, fun _ _ _ => status⟩
  | active =>
    by_cases late : e.checkinDeadline < now
    · refine ⟨now, .settleNoShow, UInt64.le_refl _, ?_⟩
      intro env _ h
      subst h
      exact ⟨status, late⟩
    · by_cases early : now < e.checkinStart
      · refine ⟨e.checkinStart, .checkIn, UInt64.le_of_lt early, fun env signed clock => ?_⟩
        rw [Exit.Open, clock]
        exact ⟨signed _ verifier_ne, status, UInt64.le_refl _, window⟩
      · refine ⟨now, .checkIn, UInt64.le_refl _, ?_⟩
        intro env signed h
        subst h
        exact ⟨signed _ verifier_ne, status, UInt64.not_lt.mp early, UInt64.not_lt.mp late⟩

/-- Whoever reserved in time can be checked in at some later second, as long as the event
stays active. -/
theorem Exit.checkIn_open_later (v : e.Valid contract) {reservedAt : UInt64}
    (in_time : reservedAt < e.checkinDeadline) :
    ∃ later, reservedAt ≤ later ∧ ∀ e', e.SamePolicy e' → e'.status = .active →
      ∀ env : Env contract, env.Signed → env.timestamp = later → Exit.checkIn.Open env e' p := by
  have window := v.window
  have verifier_ne : e.verifier ≠ contract := v.verifier_eq ▸ v.organizer_ne
  obtain ⟨later, ge, start_le, le_deadline⟩ : ∃ later, reservedAt ≤ later ∧
      e.checkinStart ≤ later ∧ later ≤ e.checkinDeadline := by
    by_cases early : reservedAt < e.checkinStart
    · exact ⟨e.checkinStart, UInt64.le_of_lt early, UInt64.le_refl _, window⟩
    · exact ⟨reservedAt, UInt64.le_refl _, UInt64.not_lt.mp early, UInt64.le_of_lt in_time⟩
  refine ⟨later, ge, fun e' policy active env signed clock => ?_⟩
  rw [Exit.Open, clock, policy.field Event.verifier fun _ _ => rfl,
    policy.field Event.checkinStart fun _ _ => rfl,
    policy.field Event.checkinDeadline fun _ _ => rfl]
  exact ⟨signed _ verifier_ne, active, start_le, le_deadline⟩

end Schedule

/-- In every reachable state the exits of a locked reservation exclude each other as their
schedule says, none of them fails for want of arithmetic below `i64::MAX`, and there is
always one to come. -/
theorem exits_exclude_and_cover (d : Deployment tok) (steps : List (Step contract))
    {id : UInt64} {p : Address} {r : Reservation} {e : Event}
    (held : (Chain.after d steps).ledger.reservations.lookup (id, p) = some r)
    (locked : r.status = .locked)
    (found : (Chain.after d steps).ledger.events.lookup id = some e) :
    (∀ env : Env contract,
      let enabled := fun call => Enabled tok env call (Chain.after d steps).ledger
      ¬ (enabled (.checkIn id p) ∧ enabled (.settleNoShow id p)) ∧
      ¬ (enabled (.cancelReservation id p) ∧ enabled (.settleNoShow id p)) ∧
      ¬ (enabled (.claimCancelledEventRefund id p) ∧
        (enabled (.cancelReservation id p) ∨ enabled (.checkIn id p) ∨
          enabled (.settleNoShow id p))) ∧
      (enabled (.cancelReservation id p) ∧ enabled (.checkIn id p) →
        env.timestamp = e.cancellationDeadline ∧ env.timestamp = e.checkinStart) ∧
      (e.checkinDeadline < env.timestamp →
        (enabled (.settleNoShow id p) ↔ e.status = .active) ∧
        (enabled (.claimCancelledEventRefund id p) ↔ e.status = .cancelled) ∧
        (enabled (.settleNoShow id p) ↔ ¬ enabled (.claimCancelledEventRefund id p))) ∧
      (e.status = .cancelled → enabled (.claimCancelledEventRefund id p)) ∧
      ∀ x : Exit, enabled (x.call id p) →
        (x = .settleNoShow → r.amount.val * e.organizerBps.toNat < 2 ^ 127) →
        Completes tok env (x.call id p) (Chain.after d steps).ledger) ∧
    (r.amount.val ≤ 2 ^ 63 - 1 → r.amount.val * e.organizerBps.toNat < 2 ^ 127) ∧
    (∃ later, r.reservedAt ≤ later ∧ ∀ rest r' e',
      (Chain.after d (steps ++ rest)).ledger.reservations.lookup (id, p) = some r' →
      r'.status = .locked →
      (Chain.after d (steps ++ rest)).ledger.events.lookup id = some e' →
      e'.status = .active → ∀ env : Env contract, env.Signed → env.timestamp = later →
        Enabled tok env (.checkIn id p) (Chain.after d (steps ++ rest)).ledger) ∧
    ∀ now, ∃ later x, now ≤ later ∧ ∀ env : Env contract, env.Signed → env.timestamp = later →
      Enabled tok env (Exit.call x id p) (Chain.after d steps).ledger := by
  have w := Chain.after_wellFormed d steps
  have v := w.valid found
  have iff_open : ∀ (env : Env contract) (x : Exit),
      Enabled tok env (x.call id p) (Chain.after d steps).ledger ↔ x.Open env e p :=
    fun env x => enabled_iff_open w.toKeyed held locked found
  refine ⟨?_, fun small => split_fits small v.bps_le, ?_, ?_⟩
  · intro env
    have cancel := iff_open env .cancelReservation
    have check := iff_open env .checkIn
    have claim := iff_open env .claimCancelledEventRefund
    have settle := iff_open env .settleNoShow
    have apart := @Exit.open_together contract env e p v
    simp only [Exit.call] at cancel check claim settle
    dsimp only
    rw [cancel, check, claim, settle]
    refine ⟨?_, ?_, ?_, ?_, ?_, ?_, ?_⟩
    · intro h
      rcases h with ⟨h₁, h₂⟩
      simpa using (apart (by decide) h₁ h₂).1
    · intro h
      rcases h with ⟨h₁, h₂⟩
      simpa using (apart (by decide) h₁ h₂).1
    · rintro ⟨h₁, h₂ | h₂ | h₂⟩ <;> simpa using (apart (by decide) h₁ h₂).1
    · intro h
      rcases h with ⟨h₁, h₂⟩
      exact (apart (by decide) h₁ h₂).2
    · intro late
      simp only [Exit.Open, late, and_true]
      cases e.status <;> decide
    · exact fun cancelled => cancelled
    · exact fun x isEnabled fits =>
        completes_of_enabled w (Chain.after_seated d steps) held found isEnabled fits
  · obtain ⟨e₁, b⟩ := w.backed held
    cases found.symm.trans b.found
    obtain ⟨later, ge, isOpen⟩ := Exit.checkIn_open_later (p := p) v b.in_time
    refine ⟨later, ge, fun rest r' e' held' locked' found' active env signed clock => ?_⟩
    obtain ⟨e₂, found₂, policy⟩ := Chain.after_policyKept d steps rest id e found
    cases found'.symm.trans found₂
    exact (enabled_iff_open (x := .checkIn) (Chain.after_wellFormed d (steps ++ rest)).toKeyed
      held' locked' found').mpr (isOpen e' policy active env signed clock)
  · intro now
    obtain ⟨later, x, ge, isOpen⟩ := Exit.open_later v p now
    exact ⟨later, x, ge, fun env signed clock => (iff_open env x).mpr (isOpen env signed clock)⟩

theorem exits_exclude_and_cover_reserved :
    Enabled plainToken (Scenario.env 31) (.settleNoShow 1 Scenario.guest)
        (Chain.after Scenario.deployment Scenario.reserved).ledger ∧
      ¬ Enabled plainToken (Scenario.env 31) (.claimCancelledEventRefund 1 Scenario.guest)
        (Chain.after Scenario.deployment Scenario.reserved).ledger := by
  have held : (Chain.after Scenario.deployment Scenario.reserved).ledger.reservations.lookup
      (1, Scenario.guest) = some ⟨1, Scenario.guest, .lit 50, 2, .locked⟩ := by decide
  have found : (Chain.after Scenario.deployment Scenario.reserved).ledger.events.lookup 1 =
    some { Scenario.args.toEvent 1 with reservedCount := 1 } := by decide
  obtain ⟨_, _, _, _, late, _⟩ :=
    (exits_exclude_and_cover Scenario.deployment Scenario.reserved held rfl found).1
      (Scenario.env 31)
  obtain ⟨settle, _, claim⟩ := late (by decide)
  exact ⟨settle.mpr rfl, claim.mp (settle.mpr rfl)⟩

end ShowUp

import ShowUp.Contract.Lifeline

/-!
# Where a status comes from

A terminal status was set by one call of the run, and that call was open then:
the right party had signed, the event was in the right state and the clock stood
where it had to. The same argument on events finds the organizer behind every
refund. Whoever signs nothing is never bound and never pays.
-/

namespace ShowUp

set_option autoImplicit false

open StoreTotal

section Policy

theorem Event.SamePolicy.trans {a b c : Event} (h₁ : a.SamePolicy b) (h₂ : b.SamePolicy c) :
    a.SamePolicy c := by
  rw [Event.SamePolicy, h₂, h₁]

theorem PolicyKept.refl (events : Store UInt64 Event) : PolicyKept events events :=
  fun _ e h => ⟨e, h, rfl⟩

theorem PolicyKept.trans {a b c : Store UInt64 Event} (h₁ : PolicyKept a b)
    (h₂ : PolicyKept b c) : PolicyKept a c := by
  intro id e h
  obtain ⟨e₁, found₁, same₁⟩ := h₁ id e h
  obtain ⟨e₂, found₂, same₂⟩ := h₂ id e₁ found₁
  exact ⟨e₂, found₂, same₁.trans same₂⟩

end Policy

section Rules
variable {tok : Token} {contract : Address} {env : Env contract} {l : Ledger tok.State}
  {f : Frame tok.State} {call : Call}

/-- A reservation that is there after a rule was there before, was made by it for somebody
who signed, or was ended by it while the exit was open. -/
theorem Rule.reservation_after (rule : Rule tok env l call f) {k : ReservationKey}
    {r : Reservation} (held : f.ledger.reservations.lookup k = some r) :
    l.reservations.lookup k = some r ∨
    (call = .reserve k.1 k.2 ∧ env.authorizes k.2 ∧ r.status = .locked) ∨
    ∃ x r₀ e, call = Exit.call x k.1 k.2 ∧ r.status = x.status ∧
      l.reservations.lookup k = some r₀ ∧ r₀.status = .locked ∧
      l.events.lookup k.1 = some e ∧ x.Open env e k.2 := by
  cases rule with
  | createEvent => exact .inl held
  | cancelEvent => exact .inl held
  | reserve signed =>
    rw [lookup_insert_eq] at held
    split at held
    · subst k
      cases held
      exact .inr (.inl ⟨rfl, signed, rfl⟩)
    · exact .inl held
  | @exit _ x id p r₀ e e' terms t named held₀ locked found isOpen =>
    rw [lookup_insert_eq] at held
    split at held
    · subst k
      cases held
      exact .inr (.inr ⟨x, r₀, e, named, rfl, held₀, locked, found, isOpen⟩)
    · exact .inl held

theorem Rule.cancelled_after (rule : Rule tok env l call f) {id : UInt64} {e : Event}
    (found : f.ledger.events.lookup id = some e) (cancelled : e.status = .cancelled) :
    (∃ e₀, l.events.lookup id = some e₀ ∧ e₀.status = .cancelled) ∨
    (call = .cancelEvent id ∧ env.authorizes e.organizer) := by
  cases rule with
  | createEvent signed valid next =>
    rw [lookup_insert_eq] at found
    split at found
    · cases found
      cases cancelled
    · exact .inl ⟨e, found, cancelled⟩
  | @reserve _ _ e₀ _ _ _ found₀ =>
    rw [lookup_insert_eq] at found
    split at found
    · subst id
      cases found
      exact .inl ⟨e₀, found₀, cancelled⟩
    · exact .inl ⟨e, found, cancelled⟩
  | @exit _ x _ _ _ e₀ e' _ _ _ _ _ found₀ _ seat =>
    rw [lookup_insert_eq] at found
    split at found
    · subst id
      cases found
      refine .inl ⟨e₀, found₀, ?_⟩
      rwa [Exit.eventAfter_eq seat] at cancelled
    · exact .inl ⟨e, found, cancelled⟩
  | cancelEvent found₀ signed active =>
    rw [lookup_insert_eq] at found
    split at found
    · subst id
      cases found
      exact .inr ⟨rfl, signed⟩
    · exact .inl ⟨e, found, cancelled⟩

/-- A call takes tokens only from somebody who signed it, or from the contract. -/
theorem Rule.balance_le (rule : Rule tok env l call f) {a : Address} (other : a ≠ contract)
    (silent : ¬ env.authorizes a) : tok.balance l.token a ≤ tok.balance f.ledger.token a := by
  cases rule with
  | createEvent => exact Int.le_refl _
  | cancelEvent => exact Int.le_refl _
  | @reserve id p e n t signed found active early seat fresh counted signedTransfer paid =>
    have moved := tok.transfer_balance paid a
    have unbound : a ≠ p := fun h => silent (h ▸ signed)
    rw [if_neg unbound, if_neg other] at moved
    dsimp only
    omega
  | exit named held locked found isOpen seat agreed paid => exact payAll_gain other paid

end Rules

namespace Chain
variable {tok : Token} {contract : Address}

theorem after_append (d : Deployment tok) (before rest : List (Step contract)) :
    after d (before ++ rest) = Runs.run step (after d before) rest := Runs.run_append ..

/-- What every rule keeps from one ledger to the next is kept from any point of a run to
its end, unless third-party transfers matter to it. -/
theorem after_related {R : Ledger tok.State → Ledger tok.State → Prop} (refl : ∀ l, R l l)
    (trans : ∀ {a b c}, R a b → R b c → R a c) (blind : ∀ l t, R l { l with token := t })
    (rule : ∀ {l : Ledger tok.State} {env : Env contract} {call f}, l.WellFormed contract →
      Rule tok env l call f → R l f.ledger)
    (d : Deployment tok) (before rest : List (Step contract)) :
    R (after d before).ledger (after d (before ++ rest)).ledger := by
  have related := Runs.run_related
    (R := fun s s' : Chain tok contract => s.ledger.WellFormed contract →
      s'.ledger.WellFormed contract ∧ R s.ledger s'.ledger)
    (fun s w => ⟨w, refl _⟩)
    (fun h₁ h₂ w => ⟨(h₂ (h₁ w).1).1, trans (h₁ w).2 (h₂ (h₁ w).1).2⟩)
    (fun s i w => by
      refine ⟨step_wellFormed w i, ?_⟩
      rcases step_cases w.toKeyed i with h | ⟨env, call, f, _, taken, h⟩ |
        ⟨_, _, _, _, t, _, _, h⟩
      · rw [h]
        exact refl _
      · rw [h]
        exact rule w taken
      · rw [h]
        exact blind _ t)
    (after d before) rest (after_wellFormed d before)
  rw [after_append]
  exact related.2

/-- What was stored of an event's policy at any time is what is stored at the end. -/
theorem after_policyKept (d : Deployment tok) (before rest : List (Step contract)) :
    PolicyKept (after d before).ledger.events (after d (before ++ rest)).ledger.events :=
  after_related (R := fun l l' => PolicyKept l.events l'.events) (fun _ => .refl _)
    (fun h₁ h₂ => h₁.trans h₂) (fun _ _ => .refl _) (fun w rule => rule.policyKept w)
    d before rest

/-- What a run holds and did not start with was brought about by one successful call,
unless third-party transfers matter to it. -/
theorem exists_call {P : Ledger tok.State → Prop} {d : Deployment tok}
    (blind : ∀ l t, P { l with token := t } → P l)
    (start : ¬ P (deploy d : Chain tok contract).ledger) {steps : List (Step contract)}
    (last : P (after d steps).ledger) :
    ∃ before env call rest f, steps = before ++ .call env call :: rest ∧
      Rule tok env (after d before).ledger call f ∧
      after d (before ++ [.call env call]) =
        ⟨f.ledger, (after d before).history ++ [⟨env, call, f.effects⟩]⟩ ∧
      ¬ P (after d before).ledger ∧ P f.ledger := by
  obtain ⟨before, i, rest, rfl, before_not, now⟩ :=
    Runs.exists_flip (P := fun s : Chain tok contract => P s.ledger) start last
  change ¬ P (after d before).ledger at before_not
  change P ((after d before).step i).ledger at now
  rcases step_cases (after_wellFormed d before).toKeyed i with h | ⟨env, call, f, rfl, rule, h⟩ |
    ⟨_, _, _, _, t, _, _, h⟩
  · rw [h] at now
    exact absurd now before_not
  · rw [h] at now
    refine ⟨before, env, call, rest, f, rfl, rule, ?_, before_not, now⟩
    rw [after_concat, h]
  · rw [h] at now
    exact absurd (blind _ t now) before_not

/-- At this point of the run a call turned the pair's locked reservation into `status`. -/
def Turns (d : Deployment tok) (before : List (Step contract)) (env : Env contract) (call : Call)
    (k : ReservationKey) (status : ReservationStatus) : Prop :=
  (∃ r, (after d before).ledger.reservations.lookup k = some r ∧ r.status = .locked) ∧
  ∃ r, (after d (before ++ [.call env call])).ledger.reservations.lookup k = some r ∧
    r.status = status

/-- Behind every terminal status stands an exit that was open when it was called. -/
theorem turn_of_ended {d : Deployment tok} {steps : List (Step contract)} {k : ReservationKey}
    {r : Reservation} (held : (after d steps).ledger.reservations.lookup k = some r)
    (unlocked : r.status ≠ .locked) :
    ∃ x before env rest e₀ e, r.status = Exit.status x ∧
      steps = before ++ .call env (x.call k.1 k.2) :: rest ∧
      Turns d before env (x.call k.1 k.2) k r.status ∧
      (after d before).ledger.events.lookup k.1 = some e₀ ∧
      (after d steps).ledger.events.lookup k.1 = some e ∧ e₀.SamePolicy e ∧ x.Open env e₀ k.2 := by
  obtain ⟨before, env, call, rest, f, rfl, rule, reached, not_yet, r₁, held₁, same⟩ :=
    exists_call (P := fun l => ∃ r', l.reservations.lookup k = some r' ∧ r'.status = r.status)
      (fun _ _ h => h) (by simp [deploy, constructor]) ⟨r, held, rfl⟩
  rcases rule.reservation_after held₁ with old | ⟨_, _, locked⟩ |
    ⟨x, r₀, e₀, rfl, status, held₀, locked, found₀, isOpen⟩
  · exact absurd ⟨r₁, old, same⟩ not_yet
  · exact absurd (same.symm.trans locked) unlocked
  · obtain ⟨e, found, policy⟩ := after_policyKept d before _ _ _ found₀
    exact ⟨x, before, env, rest, e₀, e, same.symm.trans status, rfl,
      ⟨⟨r₀, held₀, locked⟩, r₁, by rw [reached]; exact held₁, same⟩, found₀, found, policy, isOpen⟩

theorem organizer_cancelled {d : Deployment tok} {steps : List (Step contract)} {id : UInt64}
    {e : Event} (found : (after d steps).ledger.events.lookup id = some e)
    (cancelled : e.status = .cancelled) :
    ∃ before env rest f, steps = before ++ .call env (.cancelEvent id) :: rest ∧
      env.authorizes e.organizer ∧
      invoke tok env (.cancelEvent id) (after d before).ledger = .ok () f := by
  obtain ⟨before, env, call, rest, f, rfl, rule, reached, not_yet, e₁, found₁, cancelled₁⟩ :=
    exists_call (P := fun l => ∃ e', l.events.lookup id = some e' ∧ e'.status = .cancelled)
      (fun _ _ h => h) (by simp [deploy, constructor]) ⟨e, found, cancelled⟩
  rcases rule.cancelled_after found₁ cancelled₁ with old | ⟨rfl, signed⟩
  · exact absurd old not_yet
  · have later := after_policyKept d (before ++ [.call env (.cancelEvent id)]) rest id e₁
      (by rw [reached]; exact found₁)
    rw [List.append_assoc, List.singleton_append] at later
    obtain ⟨e₂, found₂, policy⟩ := later
    cases found.symm.trans found₂
    refine ⟨before, env, rest, f, rfl, ?_,
      (perform_ok_iff (after_wellFormed d before).toKeyed _).mpr rule⟩
    rwa [policy.field Event.organizer fun _ _ => rfl]

theorem participant_signed {d : Deployment tok} {steps : List (Step contract)}
    {k : ReservationKey} {r : Reservation}
    (held : (after d steps).ledger.reservations.lookup k = some r) :
    ∃ env call, .call env call ∈ steps ∧ env.authorizes k.2 := by
  obtain ⟨before, env, call, rest, f, rfl, rule, _, not_yet, r₁, held₁⟩ :=
    exists_call (P := fun l => ∃ r', l.reservations.lookup k = some r')
      (fun _ _ h => h) (by simp [deploy, constructor]) ⟨r, held⟩
  rcases rule.reservation_after held₁ with old | ⟨_, signed, _⟩ | ⟨_, r₀, _, _, _, held₀, _⟩
  · exact absurd ⟨r₁, old⟩ not_yet
  · exact ⟨env, call, by simp, signed⟩
  · exact absurd ⟨r₀, held₀⟩ not_yet

theorem call_balance_le (d : Deployment tok) (before : List (Step contract)) {env : Env contract}
    (call : Call) {a : Address} (other : a ≠ contract) (silent : ¬ env.authorizes a) :
    tok.balance (after d before).ledger.token a ≤
      tok.balance (after d (before ++ [.call env call])).ledger.token a := by
  rw [after_concat]
  rcases step_cases (after_wellFormed d before).toKeyed (.call env call) with h |
    ⟨_, _, f, ⟨⟩, rule, h⟩ | ⟨_, _, _, _, _, ⟨⟩, _⟩
  · rw [h]
  · rw [h]
    exact rule.balance_le other silent

end Chain

section Claims
variable {tok : Token} {contract : Address}

/-- In every run each terminal status was set by a call of the right party at the right
time, and whoever never signs is never bound and never loses tokens to a call. -/
theorem every_status_has_an_author (d : Deployment tok) (steps : List (Step contract)) :
    (∀ k r, (Chain.after d steps).ledger.reservations.lookup k = some r → r.status ≠ .locked →
      ∃ before env call rest e₀ e, steps = before ++ .call env call :: rest ∧
        Chain.Turns d before env call k r.status ∧
        (Chain.after d before).ledger.events.lookup k.1 = some e₀ ∧
        (Chain.after d steps).ledger.events.lookup k.1 = some e ∧
        (r.status = .cancelled → env.authorizes r.participant ∧
          env.timestamp ≤ e.cancellationDeadline ∧ e₀.status = .active) ∧
        (r.status = .attended → e.verifier = e.organizer ∧ env.authorizes e.verifier ∧
          e.checkinStart ≤ env.timestamp ∧ env.timestamp ≤ e.checkinDeadline ∧
          e₀.status = .active) ∧
        (r.status = .refunded → ∃ earlier env' between f,
          before = earlier ++ .call env' (.cancelEvent k.1) :: between ∧
          invoke tok env' (.cancelEvent k.1) (Chain.after d earlier).ledger = .ok () f ∧
          env'.authorizes e.organizer) ∧
        (r.status = .noShowSettled → e.checkinDeadline < env.timestamp ∧ e₀.status = .active)) ∧
    ∀ a, a ≠ contract → (∀ env call, .call env call ∈ steps → env.authorizes a = false) →
      (∀ k r, (Chain.after d steps).ledger.reservations.lookup k = some r →
        r.participant ≠ a) ∧
      ∀ before env call rest, steps = before ++ .call env call :: rest →
        tok.balance (Chain.after d before).ledger.token a ≤
          tok.balance (Chain.after d (before ++ [.call env call])).ledger.token a := by
  have w := Chain.after_wellFormed d steps
  constructor
  · intro k r held unlocked
    obtain ⟨x, before, env, rest, e₀, e, status, split, turns, found₀, found, policy, isOpen⟩ :=
      Chain.turn_of_ended held unlocked
    refine ⟨before, env, _, rest, e₀, e, split, turns, found₀, found, ?_⟩
    have own := w.reservation held
    rw [status]
    rw [policy.field Event.cancellationDeadline fun _ _ => rfl,
      policy.field Event.verifier fun _ _ => rfl, policy.field Event.organizer fun _ _ => rfl,
      policy.field Event.checkinStart fun _ _ => rfl,
      policy.field Event.checkinDeadline fun _ _ => rfl]
    cases x with
    | cancelReservation =>
      obtain ⟨signed, active, inTime⟩ := isOpen
      rw [← own] at signed
      exact ⟨fun _ => ⟨signed, inTime, active⟩, nofun, nofun, nofun⟩
    | checkIn =>
      obtain ⟨signed, active, notEarly, notLate⟩ := isOpen
      have verifier_eq := ((Chain.after_wellFormed d before).valid found₀).verifier_eq
      exact ⟨nofun, fun _ => ⟨verifier_eq, signed, notEarly, notLate, active⟩, nofun, nofun⟩
    | claimCancelledEventRefund =>
      obtain ⟨earlier, env', between, f, split', signed, ok⟩ :=
        Chain.organizer_cancelled found₀ isOpen
      exact ⟨nofun, nofun, fun _ => ⟨earlier, env', between, f, split', ok, signed⟩, nofun⟩
    | settleNoShow =>
      obtain ⟨active, late⟩ := isOpen
      exact ⟨nofun, nofun, nofun, fun _ => ⟨late, active⟩⟩
  · intro a other silent
    refine ⟨?_, ?_⟩
    · intro k r held h
      subst h
      obtain ⟨env, call, made, signed⟩ := Chain.participant_signed held
      rw [← w.reservation held] at signed
      exact absurd signed (by simp [silent env call made])
    · intro before env call rest h
      subst h
      exact Chain.call_balance_le d before call other (by simp [silent env call])

theorem every_status_has_an_author_settled : ∃ before env call rest,
    Scenario.settled = before ++ .call env call :: rest ∧
      Chain.Turns Scenario.deployment before env call (1, Scenario.guest) .noShowSettled ∧
      30 < env.timestamp := by
  have held : (Chain.after Scenario.deployment Scenario.settled).ledger.reservations.lookup
      (1, Scenario.guest) = some ⟨1, Scenario.guest, .lit 50, 2, .noShowSettled⟩ := by decide
  obtain ⟨before, env, call, rest, e₀, e, split, turns, _, found, _, _, _, late⟩ :=
    (every_status_has_an_author Scenario.deployment Scenario.settled).1 _ _ held (by decide)
  have stored : e = { Scenario.args.toEvent 1 with reservedCount := 1 } :=
    Option.some.inj (found.symm.trans (by decide))
  refine ⟨before, env, call, rest, split, turns, ?_⟩
  have after_deadline := (late rfl).1
  rwa [stored] at after_deadline

end Claims

end ShowUp

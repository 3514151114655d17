import ShowUp.Contract.Provenance

/-!
# What a call leaves alone

A successful call touches the event and the reservation it names and nothing
else. Along a run a stored record keeps everything it was stored with, except
that an event's seats are counted and it may be cancelled once, and that a locked
reservation may be ended once.
-/

namespace ShowUp

set_option autoImplicit false

open StoreTotal

/-- The event a call names; `create_event` names the one it is about to add. -/
def Call.event {σ : Type} (l : Ledger σ) : Call → UInt64
  | createEvent _ => l.eventCount + 1
  | reserve id _ | cancelReservation id _ | checkIn id _ | cancelEvent id
  | claimCancelledEventRefund id _ | settleNoShow id _ => id

theorem Exit.call_event {σ : Type} (l : Ledger σ) (x : Exit) (id : UInt64) (p : Address) :
    (x.call id p).event l = id := by cases x <;> rfl

/-- Cancelling an event is for good. -/
structure Event.Later (e e' : Event) : Prop where
  policy : e.SamePolicy e'
  cancelled : e.status = .cancelled → e'.status = .cancelled

/-- Only the status may differ, and only if the bond was still locked. -/
structure Reservation.Later (r r' : Reservation) : Prop where
  kept : r' = { r with status := r'.status }
  ended : r.status ≠ .locked → r'.status = r.status

structure Ledger.Later {σ : Type} (l l' : Ledger σ) : Prop where
  config : l'.config = l.config
  event : ∀ id e, l.events.lookup id = some e → ∃ e', l'.events.lookup id = some e' ∧ e.Later e'
  reservation : ∀ k r, l.reservations.lookup k = some r →
    ∃ r', l'.reservations.lookup k = some r' ∧ r.Later r'

theorem Event.Later.refl (e : Event) : e.Later e := ⟨rfl, fun h => h⟩

theorem Event.Later.trans {a b c : Event} (h₁ : a.Later b) (h₂ : b.Later c) : a.Later c :=
  ⟨h₁.policy.trans h₂.policy, fun cancelled => h₂.cancelled (h₁.cancelled cancelled)⟩

theorem Reservation.Later.refl (r : Reservation) : r.Later r := ⟨rfl, fun _ => rfl⟩

theorem Reservation.Later.trans {a b c : Reservation} (h₁ : a.Later b) (h₂ : b.Later c) :
    a.Later c := by
  constructor
  · rw [h₂.kept, h₁.kept]
  · intro unlocked
    have same := h₁.ended unlocked
    rw [h₂.ended (same ▸ unlocked), same]

theorem Ledger.Later.refl {σ : Type} (l : Ledger σ) : l.Later l :=
  ⟨rfl, fun _ e h => ⟨e, h, .refl e⟩, fun _ r h => ⟨r, h, .refl r⟩⟩

theorem Ledger.Later.trans {σ : Type} {a b c : Ledger σ} (h₁ : a.Later b) (h₂ : b.Later c) :
    a.Later c where
  config := h₂.config.trans h₁.config
  event := by
    intro id e found
    obtain ⟨e₁, found₁, later₁⟩ := h₁.event id e found
    obtain ⟨e₂, found₂, later₂⟩ := h₂.event id e₁ found₁
    exact ⟨e₂, found₂, later₁.trans later₂⟩
  reservation := by
    intro k r held
    obtain ⟨r₁, held₁, later₁⟩ := h₁.reservation k r held
    obtain ⟨r₂, held₂, later₂⟩ := h₂.reservation k r₁ held₁
    exact ⟨r₂, held₂, later₁.trans later₂⟩

/-- Writing a binding moves every binding forward when it moves the written one forward. -/
theorem later_insert {κ ν : Type} [DecidableEq κ] {Later : ν → ν → Prop}
    (refl : ∀ v, Later v v) {s : Store κ ν} {k : κ} {v : ν}
    (forward : ∀ u, s.lookup k = some u → Later u v) (a : κ) (u : ν)
    (found : s.lookup a = some u) : ∃ u', (s.insert k v).lookup a = some u' ∧ Later u u' := by
  by_cases ha : a = k
  · subst a
    exact ⟨v, Finmap.lookup_insert s, forward u found⟩
  · exact ⟨u, (Finmap.lookup_insert_of_ne s ha).trans found, refl u⟩

theorem later_of_lookup {κ ν : Type} [DecidableEq κ] {Later : ν → ν → Prop} {s : Store κ ν}
    {k : κ} {u v : ν} (found : s.lookup k = some u) (forward : Later u v) :
    ∀ u', s.lookup k = some u' → Later u' v := by
  intro u' found'
  cases found.symm.trans found'
  exact forward

section Rules
variable {tok : Token} {contract : Address} {env : Env contract} {l : Ledger tok.State}
  {f : Frame tok.State} {call : Call}

theorem Rule.later (w : l.WellFormed contract) (rule : Rule tok env l call f) :
    l.Later f.ledger := by
  cases rule with
  | createEvent signed valid next =>
    refine ⟨rfl, later_insert Event.Later.refl ?_, fun _ r h => ⟨r, h, .refl r⟩⟩
    intro e found
    simp [w.fresh_id next] at found
  | reserve signed found active early seat fresh =>
    refine ⟨rfl, later_insert Event.Later.refl (later_of_lookup found ⟨rfl, id⟩),
      later_insert Reservation.Later.refl ?_⟩
    intro r held
    simp [fresh] at held
  | exit named held locked found isOpen seat =>
    have status := congrArg Event.status (Exit.eventAfter_eq seat)
    refine ⟨rfl, later_insert Event.Later.refl (later_of_lookup found
      ⟨Exit.eventAfter_samePolicy seat, fun cancelled => status.trans cancelled⟩),
      later_insert Reservation.Later.refl (later_of_lookup held ⟨rfl, ?_⟩)⟩
    exact fun unlocked => absurd locked unlocked
  | cancelEvent found signed active =>
    exact ⟨rfl, later_insert Event.Later.refl (later_of_lookup found ⟨rfl, fun _ => rfl⟩),
      fun _ r h => ⟨r, h, .refl r⟩⟩

/-- Nothing but the named event and the named reservation differs. -/
structure Ledger.Framed {σ : Type} (l l' : Ledger σ) (id : UInt64) (key : Option ReservationKey) :
    Prop where
  config : l'.config = l.config
  event : ∀ a, a ≠ id → l'.events.lookup a = l.events.lookup a
  reservation : ∀ k, key ≠ some k → l'.reservations.lookup k = l.reservations.lookup k

theorem next_id {id : UInt64} (next : U64.checkedAdd l.eventCount 1 = some id) :
    id = l.eventCount + 1 := by
  unfold U64.checkedAdd at next
  split at next
  · exact (Option.some.inj next).symm
  · cases next

theorem Rule.framed (rule : Rule tok env l call f) :
    l.Framed f.ledger (call.event l) call.key := by
  cases rule with
  | createEvent signed valid next =>
    refine ⟨rfl, fun a other => ?_, fun _ _ => rfl⟩
    rw [next_id next]
    exact Finmap.lookup_insert_of_ne _ other
  | reserve =>
    exact ⟨rfl, fun a other => Finmap.lookup_insert_of_ne _ other,
      fun k other => Finmap.lookup_insert_of_ne _ fun h => other (congrArg some h.symm)⟩
  | @exit _ x id p _ _ _ _ _ named =>
    subst named
    rw [x.call_event, x.call_key]
    exact ⟨rfl, fun a other => Finmap.lookup_insert_of_ne _ other,
      fun k other => Finmap.lookup_insert_of_ne _ fun h => other (congrArg some h.symm)⟩
  | cancelEvent =>
    exact ⟨rfl, fun a other => Finmap.lookup_insert_of_ne _ other, fun _ _ => rfl⟩

theorem Rule.counted (rule : Rule tok env l call f) (other : ∀ args, call ≠ .createEvent args) :
    f.ledger.eventCount = l.eventCount := by
  cases rule with
  | @createEvent args => exact absurd rfl (other args)
  | reserve | exit | cancelEvent => rfl

theorem Rule.created (w : l.WellFormed contract) {args : CreateEventArgs}
    (rule : Rule tok env l (.createEvent args) f) :
    f.ledger.eventCount.toNat = l.eventCount.toNat + 1 ∧
      l.events.lookup f.ledger.eventCount = none ∧
      f.ledger.events.lookup f.ledger.eventCount = some (args.toEvent f.ledger.eventCount) ∧
      f.ledger.eventCount = (Call.createEvent args).event l := by
  obtain ⟨_, _, id, next, rfl⟩ := rule.createEvent_inv
  have counted := U64.checkedAdd_eq_some.mp next
  rw [UInt64.toNat_one] at counted
  exact ⟨counted, w.fresh_id next, Finmap.lookup_insert _, next_id next⟩

/-- What is reserved once cannot be reserved again. -/
theorem reserve_taken (keyed : l.Keyed) {id : UInt64} {p : Address} {r : Reservation}
    (held : l.reservations.lookup (id, p) = some r) :
    invoke tok env (.reserve id p) l ≠ .ok () f := by
  intro h
  cases (perform_ok_iff keyed _).mp h with
  | reserve _ _ _ _ _ fresh => cases held.symm.trans fresh
  | @exit _ x _ _ _ _ _ _ _ named => cases x <;> cases named

end Rules

/-- Every successful call is framed by what it names, and along every run stored records
are kept, with one status change each at most. -/
theorem lifecycle_and_frame {tok : Token} {contract : Address} (d : Deployment tok)
    (before : List (Step contract)) :
    let l := (Chain.after d before).ledger
    (∀ (env : Env contract) call f, invoke tok env call l = .ok () f →
      l.Framed f.ledger (call.event l) call.key ∧
      ((∀ args, call ≠ .createEvent args) → f.ledger.eventCount = l.eventCount) ∧
      ∀ args, call = .createEvent args → f.ledger.eventCount.toNat = l.eventCount.toNat + 1 ∧
        f.ledger.eventCount = call.event l ∧ l.events.lookup (call.event l) = none ∧
        f.ledger.events.lookup (call.event l) = some (args.toEvent (call.event l))) ∧
    ∀ rest, let l' := (Chain.after d (before ++ rest)).ledger
      l'.config = l.config ∧
      (∀ id e, l.events.lookup id = some e → ∃ e', l'.events.lookup id = some e' ∧
        e' = { e with reservedCount := e'.reservedCount, status := e'.status } ∧
        (e.status = .cancelled → e'.status = .cancelled)) ∧
      ∀ k r, l.reservations.lookup k = some r → ∃ r', l'.reservations.lookup k = some r' ∧
        r' = { r with status := r'.status } ∧
        (r.status ≠ .locked → r' = r) ∧
        ∀ (env : Env contract) f, invoke tok env (.reserve k.1 k.2) l' ≠ .ok () f := by
  have w := Chain.after_wellFormed d before
  constructor
  · intro env call f h
    have rule := (perform_ok_iff w.toKeyed call).mp h
    refine ⟨rule.framed, rule.counted, fun args named => ?_⟩
    subst named
    obtain ⟨counted, fresh, added, same⟩ := rule.created w
    rw [same] at fresh added
    exact ⟨counted, same, fresh, added⟩
  · intro rest
    have later := Chain.after_related (R := Ledger.Later) .refl .trans
      (fun l t => ⟨rfl, fun _ e h => ⟨e, h, .refl e⟩, fun _ r h => ⟨r, h, .refl r⟩⟩)
      (fun w rule => rule.later w) d before rest
    refine ⟨later.config, ?_, ?_⟩
    · intro id e found
      obtain ⟨e', found', policy, cancelled⟩ := later.event id e found
      exact ⟨e', found', policy, cancelled⟩
    · intro k r held
      obtain ⟨r', held', kept, ended⟩ := later.reservation k r held
      refine ⟨r', held', kept, fun unlocked => ?_, fun env f => ?_⟩
      · rw [kept, ended unlocked]
      · exact reserve_taken (Chain.after_wellFormed d (before ++ rest)).toKeyed held'

theorem lifecycle_and_frame_settled : ∃ r : Reservation,
    (Chain.after Scenario.deployment Scenario.settled).ledger.reservations.lookup
        (1, Scenario.guest) = some r ∧ r.amount = Scenario.args.bondAmount ∧
      ∀ f, invoke plainToken (Scenario.env 3) (.reserve 1 Scenario.guest)
        (Chain.after Scenario.deployment Scenario.settled).ledger ≠ .ok () f := by
  have held : (Chain.after Scenario.deployment Scenario.reserved).ledger.reservations.lookup
      (1, Scenario.guest) =
        some ⟨1, Scenario.guest, Scenario.args.bondAmount, 2, .locked⟩ := by decide
  obtain ⟨_, _, kept⟩ := (lifecycle_and_frame Scenario.deployment Scenario.reserved).2
    [.call (Scenario.env 40) (.settleNoShow 1 Scenario.guest)]
  obtain ⟨r, held', same, _, taken⟩ := kept _ _ held
  exact ⟨r, held', by rw [same], taken (Scenario.env 3)⟩

end ShowUp

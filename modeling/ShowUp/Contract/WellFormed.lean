import ShowUp.Contract.Chain

/-!
# Well-formed storage

The joint invariant of the counter and the two maps that every later argument
rests on: ids run from 1 to the count, records sit under their own keys, each
event keeps a schedule and a split that `create_event` accepted, and each
reservation belongs to a stored event whose bond it carries.
-/

namespace ShowUp

set_option autoImplicit false

open StoreTotal

/-- What `create_event` checked once and no later call touches. -/
structure Event.Valid (contract : Address) (e : Event) : Prop where
  bond_pos : 0 < e.bondAmount.val
  capacity_ne : e.capacity ≠ 0
  title_le : e.title.length ≤ maxTitleLength
  venue_le : e.venue.length ≤ maxVenueLength
  bps : e.organizerBps.toNat + e.communityBps.toNat = 10000
  cancellation_le : e.cancellationDeadline ≤ e.checkinStart
  window : e.checkinStart ≤ e.checkinDeadline
  start_ge : e.checkinStart ≤ e.startTime
  start_le : e.startTime ≤ e.checkinDeadline
  verifier_eq : e.verifier = e.organizer
  organizer_ne : e.organizer ≠ contract

def Event.SamePolicy (e e' : Event) : Prop :=
  e' = { e with reservedCount := e'.reservedCount, status := e'.status }

/-- A field that neither the seat counter nor the status enters is the same. -/
theorem Event.SamePolicy.field {α : Type} {e e' : Event} (same : e.SamePolicy e') (g : Event → α)
    (blind : ∀ n s, g { e with reservedCount := n, status := s } = g e) : g e' = g e := by
  rw [same]
  exact blind _ _

theorem Event.SamePolicy.valid {contract : Address} {e e' : Event} (same : e.SamePolicy e')
    (v : e.Valid contract) : e'.Valid contract := by
  rw [same]
  exact ⟨v.bond_pos, v.capacity_ne, v.title_le, v.venue_le, v.bps, v.cancellation_le, v.window,
    v.start_ge, v.start_le, v.verifier_eq, v.organizer_ne⟩

theorem Exit.eventAfter_eq {x : Exit} {e e' : Event} (h : x.eventAfter e = some e') :
    e' = { e with reservedCount := e'.reservedCount } := by
  cases x with
  | cancelReservation =>
    obtain ⟨n, _, ⟨⟩⟩ := Option.bind_eq_some_iff.mp h
    rfl
  | checkIn | claimCancelledEventRefund | settleNoShow =>
    cases h
    rfl

theorem Exit.eventAfter_samePolicy {x : Exit} {e e' : Event} (h : x.eventAfter e = some e') :
    e.SamePolicy e' := by
  rw [Exit.eventAfter_eq h]
  rfl

structure Reservation.Backed (contract : Address) (events : Store UInt64 Event)
    (k : ReservationKey) (r : Reservation) (e : Event) : Prop where
  found : events.lookup k.1 = some e
  amount_eq : r.amount = e.bondAmount
  in_time : r.reservedAt < e.checkinDeadline
  participant_ne : k.2 ≠ contract

structure Ledger.WellFormed {σ : Type} (contract : Address) (l : Ledger σ) : Prop
    extends l.Keyed where
  ids : ∀ id, id ∈ l.events ↔ 0 < id.toNat ∧ id.toNat ≤ l.eventCount.toNat
  valid : ∀ {id e}, l.events.lookup id = some e → e.Valid contract
  backed : ∀ {k r}, l.reservations.lookup k = some r → ∃ e, r.Backed contract l.events k e

section Steps
variable {tok : Token} {contract : Address} {env : Env contract} {l : Ledger tok.State}

theorem Ledger.WellFormed.amount_pos (w : l.WellFormed contract) {k : ReservationKey}
    {r : Reservation} (held : l.reservations.lookup k = some r) : 0 < r.amount.val := by
  obtain ⟨e, b⟩ := w.backed held
  rw [b.amount_eq]
  exact (w.valid b.found).bond_pos

theorem Reservation.Backed.update {events : Store UInt64 Event} {k : ReservationKey}
    {r : Reservation} {e e₁ e₂ : Event} {id : UInt64} (b : r.Backed contract events k e)
    (found : events.lookup id = some e₁) (same : e₁.SamePolicy e₂) :
    ∃ e', r.Backed contract (events.insert id e₂) k e' := by
  by_cases hk : k.1 = id
  · subst hk
    obtain rfl : e = e₁ := Option.some.inj (b.found.symm.trans found)
    refine ⟨e₂, Finmap.lookup_insert _, ?_, ?_, b.participant_ne⟩
    · rw [same.field Event.bondAmount fun _ _ => rfl]
      exact b.amount_eq
    · rw [same.field Event.checkinDeadline fun _ _ => rfl]
      exact b.in_time
  · exact ⟨e, (Finmap.lookup_insert_of_ne _ hk).trans b.found, b.amount_eq, b.in_time,
      b.participant_ne⟩

theorem Ledger.WellFormed.updateEvent (w : l.WellFormed contract) {id : UInt64} {e e' : Event}
    (found : l.events.lookup id = some e) (same : e.SamePolicy e') :
    ({ l with events := l.events.insert id e' } : Ledger tok.State).WellFormed contract where
  event := by
    intro a e₁ h
    rw [lookup_insert_eq] at h
    split at h
    · subst a
      cases h
      exact (same.field Event.id fun _ _ => rfl).trans (w.event found)
    · exact w.event h
  reservation := w.reservation
  ids := by
    intro a
    rw [Finmap.mem_insert, ← w.ids a, or_iff_right_of_imp]
    intro h
    subst h
    exact Finmap.mem_of_lookup_eq_some found
  valid := by
    intro a e₁ h
    rw [lookup_insert_eq] at h
    split at h
    · cases h
      exact same.valid (w.valid found)
    · exact w.valid h
  backed := by
    intro k r h
    obtain ⟨e₁, b⟩ := w.backed h
    exact b.update found same

theorem Ledger.WellFormed.setReservation (w : l.WellFormed contract) {k : ReservationKey}
    {r : Reservation} {e : Event} (own : (r.eventId, r.participant) = k)
    (b : r.Backed contract l.events k e) :
    ({ l with reservations := l.reservations.insert k r } :
      Ledger tok.State).WellFormed contract where
  event := w.event
  ids := w.ids
  valid := w.valid
  reservation := by
    intro a r₁ h
    rw [lookup_insert_eq] at h
    split at h
    · subst a
      cases h
      exact own
    · exact w.reservation h
  backed := by
    intro a r₁ h
    rw [lookup_insert_eq] at h
    split at h
    · subst a
      cases h
      exact ⟨e, b⟩
    · exact w.backed h

theorem Ledger.WellFormed.setToken (w : l.WellFormed contract) (t : tok.State) :
    ({ l with token := t } : Ledger tok.State).WellFormed contract :=
  ⟨⟨w.event, w.reservation⟩, w.ids, w.valid, w.backed⟩

theorem Ledger.WellFormed.fresh_id (w : l.WellFormed contract) {id : UInt64}
    (next : U64.checkedAdd l.eventCount 1 = some id) : l.events.lookup id = none := by
  rw [Finmap.lookup_eq_none, w.ids]
  have h := U64.checkedAdd_eq_some.mp next
  rw [UInt64.toNat_one] at h
  omega

theorem CreateEventArgs.Valid.toEvent {args : CreateEventArgs} (v : args.Valid) (id : UInt64)
    (organizer_ne : args.organizer ≠ contract) : (args.toEvent id).Valid contract where
  bond_pos := v.bond_pos
  capacity_ne := v.capacity_ne
  title_le := v.title_le
  venue_le := v.venue_le
  bps := (U32.checkedAdd_eq_some.mp v.bps).symm
  cancellation_le := v.cancellation_le
  window := v.window
  start_ge := v.start_ge
  start_le := v.start_le
  verifier_eq := rfl
  organizer_ne := organizer_ne

theorem Env.ne_contract {who : Address} (signed : env.authorizes who) : who ≠ contract := by
  intro h
  subst h
  rw [env.contract_silent] at signed
  cases signed

theorem Ledger.WellFormed.addEvent (w : l.WellFormed contract) {args : CreateEventArgs}
    {id : UInt64} (v : args.Valid) (organizer_ne : args.organizer ≠ contract)
    (next : U64.checkedAdd l.eventCount 1 = some id) :
    ({ l with eventCount := id, events := l.events.insert id (args.toEvent id) } :
      Ledger tok.State).WellFormed contract where
  event := by
    intro a e h
    rw [lookup_insert_eq] at h
    split at h
    · subst a
      cases h
      rfl
    · exact w.event h
  reservation := w.reservation
  ids := by
    intro a
    have h := U64.checkedAdd_eq_some.mp next
    rw [UInt64.toNat_one] at h
    rw [Finmap.mem_insert, w.ids a, ← UInt64.toNat_inj]
    dsimp only
    omega
  valid := by
    intro a e h
    rw [lookup_insert_eq] at h
    split at h
    · cases h
      exact v.toEvent id organizer_ne
    · exact w.valid h
  backed := by
    intro k r h
    obtain ⟨e, b⟩ := w.backed h
    refine ⟨e, (Finmap.lookup_insert_of_ne _ ?_).trans b.found, b.amount_eq, b.in_time,
      b.participant_ne⟩
    intro h
    subst h
    exact absurd b.found (by simp [w.fresh_id next])

theorem Ledger.WellFormed.rule (w : l.WellFormed contract) {call : Call}
    {f : Frame tok.State} (rule : Rule tok env l call f) : f.ledger.WellFormed contract := by
  cases rule with
  | createEvent signed valid next => exact w.addEvent valid (Env.ne_contract signed) next
  | @reserve id p e n t signed found active early seat fresh counted signedTransfer paid =>
    have same : e.SamePolicy { e with reservedCount := n } := rfl
    have b : (⟨id, p, e.bondAmount, env.timestamp, .locked⟩ : Reservation).Backed contract
        (l.events.insert id { e with reservedCount := n }) (id, p)
        { e with reservedCount := n } :=
      ⟨Finmap.lookup_insert _, rfl, early, Env.ne_contract signed⟩
    exact ((w.updateEvent found same).setReservation
      (r := ⟨id, p, e.bondAmount, env.timestamp, .locked⟩) rfl b).setToken t
  | @exit _ x id p r e e' terms t named held locked found isOpen seat agreed paid =>
    have same := Exit.eventAfter_samePolicy seat
    obtain ⟨e₁, b₁⟩ := w.backed held
    obtain ⟨e₂, b⟩ := b₁.update found same
    have b' : ({ r with status := x.status } : Reservation).Backed contract
        (l.events.insert id e') (id, p) e₂ :=
      ⟨b.found, b.amount_eq, b.in_time, b.participant_ne⟩
    have own : (r.eventId, r.participant) = (id, p) := w.reservation held
    exact ((w.updateEvent found same).setReservation (r := { r with status := x.status })
      own b').setToken t
  | cancelEvent found signed active => exact w.updateEvent found rfl

theorem constructor_wellFormed (token pool : Address) (t : tok.State) :
    (constructor tok token pool t).WellFormed contract where
  event := by simp [constructor]
  reservation := by simp [constructor]
  ids := by
    intro id
    simp only [constructor, Finmap.notMem_empty, UInt64.toNat_zero, false_iff]
    omega
  valid := by simp [constructor]
  backed := by simp [constructor]

end Steps

namespace Chain
variable {tok : Token} {contract : Address}

theorem step_wellFormed {s : Chain tok contract} (w : s.ledger.WellFormed contract)
    (i : Step contract) : (s.step i).ledger.WellFormed contract := by
  rcases step_cases w.toKeyed i with h | ⟨env, call, f, _, rule, h⟩ | ⟨_, _, _, _, t, _, _, h⟩
  · rw [h]
    exact w
  · rw [h]
    exact w.rule rule
  · rw [h]
    exact w.setToken t

theorem after_wellFormed (d : Deployment tok) (steps : List (Step contract)) :
    (after d steps).ledger.WellFormed contract :=
  Runs.run_invariant (P := fun s : Chain tok contract => s.ledger.WellFormed contract)
    (fun _ i w => step_wellFormed w i)
    (constructor_wellFormed d.token d.communityPool d.state) steps

/-- Induction over runs whose steps all meet `C`: what holds at deployment and is
kept by every rule on well-formed storage and by every third-party transfer holds
after every such run. -/
theorem after_induction_along {P : Chain tok contract → Prop}
    {C : Chain tok contract → Step contract → Prop} {d : Deployment tok} (start : P (deploy d))
    (call : ∀ {s env call f}, s.ledger.WellFormed contract → P s → C s (.call env call) →
      Rule tok env s.ledger call f → P ⟨f.ledger, s.history ++ [⟨env, call, f.effects⟩]⟩)
    (transfer : ∀ {s source target amount t} (foreign : source ≠ contract), P s →
      C s (.transfer source target amount foreign) →
      tok.transfer s.ledger.token source target amount = some t →
      P { s with ledger := { s.ledger with token := t } })
    {steps : List (Step contract)} (along : Runs.Along step C (deploy d) steps) :
    P (after d steps) := by
  have both : (after d steps).ledger.WellFormed contract ∧ P (after d steps) := by
    refine Runs.run_invariant_along
      (P := fun s : Chain tok contract => s.ledger.WellFormed contract ∧ P s) ?_
      ⟨constructor_wellFormed d.token d.communityPool d.state, start⟩ along
    intro s i h hc
    rcases h with ⟨w, hp⟩
    refine ⟨step_wellFormed w i, ?_⟩
    rcases step_cases w.toKeyed i with h | ⟨env, c, f, rfl, rule, h⟩ |
      ⟨_, _, _, foreign, t, rfl, moved, h⟩
    · rw [h]
      exact hp
    · rw [h]
      exact call w hp hc rule
    · rw [h]
      exact transfer foreign hp hc moved
  exact both.2

theorem along_true (s : Chain tok contract) (steps : List (Step contract)) :
    Runs.Along step (fun _ _ => True) s steps := by
  induction steps generalizing s with
  | nil => trivial
  | cons i is ih => exact ⟨trivial, ih _⟩

theorem after_induction {P : Chain tok contract → Prop} {d : Deployment tok}
    (start : P (deploy d))
    (call : ∀ {s env call f}, s.ledger.WellFormed contract → P s →
      Rule tok env s.ledger call f → P ⟨f.ledger, s.history ++ [⟨env, call, f.effects⟩]⟩)
    (transfer : ∀ {s source target amount t}, source ≠ contract → P s →
      tok.transfer s.ledger.token source target amount = some t →
      P { s with ledger := { s.ledger with token := t } })
    (steps : List (Step contract)) : P (after d steps) :=
  after_induction_along start (fun w hp _ rule => call w hp rule)
    (fun foreign hp _ moved => transfer foreign hp moved) (along_true _ steps)

end Chain

end ShowUp

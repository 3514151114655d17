import ShowUp.Contract.Settlement

/-!
# The life of one bond

Seen from one (event, participant) pair the whole history is nothing, or one
opening call, or an opening call and one closing call, and which of the three is
what the stored reservation says. The transfers and the published entries of
these calls are fixed by the event's policy.
-/

namespace ShowUp

set_option autoImplicit false

open StoreTotal

/-- The reservation an entry is about, if it is about one. -/
def ContractEvent.key : ContractEvent → Option ReservationKey
  | eventCreated .. | eventCancelled .. => none
  | bondLocked id p _ | reservationCancelled id p _ | checkedIn id p _ | refundClaimed id p _
  | noShowSettled id p _ _ => some (id, p)

section Policy
variable {tok : Token} {contract : Address} {env : Env contract} {l : Ledger tok.State}
  {f : Frame tok.State} {call : Call}

def PolicyKept (events events' : Store UInt64 Event) : Prop :=
  ∀ id e, events.lookup id = some e → ∃ e', events'.lookup id = some e' ∧ e.SamePolicy e'

theorem PolicyKept.update {events : Store UInt64 Event} {id : UInt64} {e e' : Event}
    (found : events.lookup id = some e) (same : e.SamePolicy e') :
    PolicyKept events (events.insert id e') := by
  intro a e₁ h
  by_cases ha : a = id
  · subst a
    cases found.symm.trans h
    exact ⟨e', Finmap.lookup_insert _, same⟩
  · exact ⟨e₁, (Finmap.lookup_insert_of_ne _ ha).trans h, rfl⟩

theorem Rule.policyKept (w : l.WellFormed contract) (rule : Rule tok env l call f) :
    PolicyKept l.events f.ledger.events := by
  cases rule with
  | createEvent signed valid next =>
    intro a e h
    refine ⟨e, (Finmap.lookup_insert_of_ne _ ?_).trans h, rfl⟩
    intro h
    subst h
    exact absurd h (by simp [w.fresh_id next])
  | reserve signed found => exact .update found rfl
  | exit named held locked found isOpen seat =>
    exact .update found (Exit.eventAfter_samePolicy seat)
  | cancelEvent found => exact .update found rfl

theorem Rule.config_eq (rule : Rule tok env l call f) : f.ledger.config = l.config := by
  cases rule <;> rfl

theorem Exit.terms_policy {x : Exit} {e e' : Event} (same : e.SamePolicy e') (pool : Address)
    (k : ReservationKey) (amount : I128) : x.terms pool e' k amount = x.terms pool e k amount := by
  rw [same]
  cases x <;> rfl

end Policy

section Lives
variable {contract : Address} {config : Config} {k : ReservationKey} {r : Reservation}

structure Record.Opens (rec : Record contract) (config : Config) (k : ReservationKey)
    (amount : I128) : Prop where
  call_eq : rec.call = .reserve k.1 k.2
  transfers_eq : rec.transfers = [⟨config.token, k.2, contract, amount⟩]
  published_eq : rec.published = [.bondLocked k.1 k.2 amount]

structure Record.Closes (rec : Record contract) (config : Config) (k : ReservationKey)
    (x : Exit) (terms : Terms) : Prop where
  call_eq : rec.call = x.call k.1 k.2
  transfers_eq : rec.transfers =
    terms.legs.map fun leg => ⟨config.token, contract, leg.1, leg.2⟩
  published_eq : rec.published = [terms.entry]

theorem Exit.call_key (x : Exit) (id : UInt64) (p : Address) :
    (x.call id p).key = some (id, p) := by cases x <;> rfl

theorem Exit.terms_entry_key {x : Exit} {pool : Address} {e : Event} {k : ReservationKey}
    {amount : I128} {terms : Terms} (agreed : x.terms pool e k amount = some terms) :
    terms.entry.key = some k := by
  cases x with
  | cancelReservation | checkIn | claimCancelledEventRefund =>
    cases agreed
    rfl
  | settleNoShow =>
    obtain ⟨_, _, ⟨⟩⟩ := Option.bind_eq_some_iff.mp agreed
    rfl

theorem Exit.closes (x : Exit) (env : Env contract) (config : Config) (id : UInt64) (p : Address)
    (e : Event) (r : Reservation) (terms : Terms) :
    Record.Closes ⟨env, x.call id p, x.writes e r ++
      terms.legs.map (fun leg => .transferred ⟨config.token, contract, leg.1, leg.2⟩) ++
      [.published terms.entry]⟩ config (id, p) x terms where
  call_eq := rfl
  transfers_eq := by
    have quiet : (x.writes e r).filterMap Effect.transfer? = [] := by cases x <;> rfl
    simp only [Record.transfers, List.filterMap_append, quiet, List.filterMap_map]
    simp [Function.comp_def, Effect.transfer?]
  published_eq := by
    have quiet : (x.writes e r).filterMap Effect.published? = [] := by cases x <;> rfl
    simp only [Record.published, List.filterMap_append, quiet, List.filterMap_map]
    simp [Function.comp_def, Effect.published?]

/-- The calls made for a stored reservation, by its status. -/
inductive Life (config : Config) (events : Store UInt64 Event) (k : ReservationKey)
    (r : Reservation) : List (Record contract) → Prop
  | locked {opening : Record contract} (status : r.status = .locked)
      (opens : opening.Opens config k r.amount) : Life config events k r [opening]
  | ended {opening closing : Record contract} {x : Exit} {e : Event} {terms : Terms}
      (status : r.status = x.status) (opens : opening.Opens config k r.amount)
      (found : events.lookup k.1 = some e)
      (agreed : x.terms config.communityPool e k r.amount = some terms)
      (closes : closing.Closes config k x terms) : Life config events k r [opening, closing]

theorem Life.mono {events events' : Store UInt64 Event} {calls : List (Record contract)}
    (kept : PolicyKept events events') (life : Life config events k r calls) :
    Life config events' k r calls := by
  cases life with
  | locked status opens => exact .locked status opens
  | ended status opens found agreed closes =>
    obtain ⟨e', found', same⟩ := kept _ _ found
    exact .ended status opens found' ((Exit.terms_policy same ..).trans agreed) closes

end Lives

namespace Chain
variable {tok : Token} {contract : Address}

/-- The successful calls that named the pair, in order. -/
def callsFor (s : Chain tok contract) (k : ReservationKey) : List (Record contract) :=
  s.history.filter fun rec => rec.call.key = some k

def transfersFor (s : Chain tok contract) (k : ReservationKey) : List Transfer :=
  (s.callsFor k).flatMap Record.transfers

def log (s : Chain tok contract) : List ContractEvent := s.history.flatMap Record.published

structure Lived (s : Chain tok contract) : Prop where
  absent : ∀ k, s.ledger.reservations.lookup k = none → s.callsFor k = []
  stored : ∀ k r, s.ledger.reservations.lookup k = some r →
    Life s.ledger.config s.ledger.events k r (s.callsFor k)
  keyless : ∀ rec ∈ s.history, rec.call.key = none → rec.transfers = []
  stamped : ∀ rec ∈ s.history, ∀ entry ∈ rec.published, entry.key = rec.call.key

theorem callsFor_record (s : Chain tok contract) (l : Ledger tok.State) (rec : Record contract)
    (k : ReservationKey) : callsFor ⟨l, s.history ++ [rec]⟩ k =
      s.callsFor k ++ if rec.call.key = some k then [rec] else [] := by
  simp [callsFor, List.filter_append, List.filter_singleton]

/-- One more record: what it has to bring along to keep every life in order. -/
theorem Lived.record {s : Chain tok contract} (lived : s.Lived) {l : Ledger tok.State}
    {rec : Record contract} (config : l.config = s.ledger.config)
    (kept : PolicyKept s.ledger.events l.events)
    (others : ∀ k, rec.call.key ≠ some k →
      l.reservations.lookup k = s.ledger.reservations.lookup k)
    (own : ∀ k, rec.call.key = some k → ∃ r, l.reservations.lookup k = some r ∧
      Life s.ledger.config l.events k r (s.callsFor k ++ [rec]))
    (keyless : rec.call.key = none → rec.transfers = [])
    (stamped : ∀ entry ∈ rec.published, entry.key = rec.call.key) :
    Lived ⟨l, s.history ++ [rec]⟩ where
  absent := by
    intro k gone
    rw [callsFor_record]
    by_cases named : rec.call.key = some k
    · obtain ⟨r, held, _⟩ := own k named
      cases held.symm.trans gone
    · rw [if_neg named, List.append_nil]
      exact lived.absent k ((others k named).symm.trans gone)
  stored := by
    intro k r held
    rw [callsFor_record]
    dsimp only at held ⊢
    rw [config]
    by_cases named : rec.call.key = some k
    · obtain ⟨r', held', life⟩ := own k named
      cases held.symm.trans held'
      rwa [if_pos named]
    · rw [if_neg named, List.append_nil]
      exact (lived.stored k r ((others k named).symm.trans held)).mono kept
  keyless := by
    intro rec' h
    rcases List.mem_append.mp h with h | h
    · exact lived.keyless rec' h
    · cases List.mem_singleton.mp h
      exact keyless
  stamped := by
    intro rec' h
    rcases List.mem_append.mp h with h | h
    · exact lived.stamped rec' h
    · cases List.mem_singleton.mp h
      exact stamped

theorem Lived.rule {s : Chain tok contract} (w : s.ledger.WellFormed contract) (lived : s.Lived)
    {env : Env contract} {call : Call} {f : Frame tok.State}
    (rule : Rule tok env s.ledger call f) :
    Lived ⟨f.ledger, s.history ++ [⟨env, call, f.effects⟩]⟩ := by
  have config := rule.config_eq
  have kept := rule.policyKept w
  cases rule with
  | createEvent signed valid next =>
    refine lived.record config kept (fun _ _ => rfl) (fun _ named => by cases named)
      (fun _ => rfl) ?_
    simp [Record.published, Effect.published?, ContractEvent.key, Call.key]
  | @reserve id p e n t signed found active early seat fresh counted signedTransfer paid =>
    refine lived.record config kept ?_ ?_ (fun keyless => by cases keyless) ?_
    · intro k other
      exact Finmap.lookup_insert_of_ne _ fun h => other (by rw [h]; rfl)
    · intro _ h
      cases h
      refine ⟨_, Finmap.lookup_insert _, ?_⟩
      rw [lived.absent _ fresh]
      exact .locked rfl ⟨rfl, rfl, rfl⟩
    · simp [Record.published, Effect.published?, ContractEvent.key, Call.key]
  | @exit _ x id p r e e' terms t named held locked found isOpen seat agreed paid =>
    subst named
    have closes := x.closes env s.ledger.config id p e' { r with status := x.status } terms
    have named := x.call_key id p
    refine lived.record config kept ?_ ?_ (fun keyless => by simp [named] at keyless) ?_
    · intro k other
      exact Finmap.lookup_insert_of_ne _ fun h => other (by rw [h]; exact named)
    · intro k own
      cases named.symm.trans own
      refine ⟨_, Finmap.lookup_insert _, ?_⟩
      have life := lived.stored _ r held
      generalize s.callsFor (id, p) = calls at life
      cases life with
      | locked _ opens =>
        exact .ended rfl opens (Finmap.lookup_insert _)
          ((Exit.terms_policy (Exit.eventAfter_samePolicy seat) ..).trans agreed) closes
      | @ended _ _ y _ _ status =>
        rw [locked] at status
        cases y <;> cases status
    · rw [closes.published_eq]
      simp [Exit.terms_entry_key agreed, named]
  | cancelEvent found signed active =>
    refine lived.record config kept (fun _ _ => rfl) (fun _ named => by cases named)
      (fun _ => rfl) ?_
    simp [Record.published, Effect.published?, ContractEvent.key, Call.key]

theorem after_lived (d : Deployment tok) (steps : List (Step contract)) : (after d steps).Lived :=
  after_induction (P := Lived)
    ⟨fun _ _ => rfl, by simp [deploy, constructor], by simp [deploy], by simp [deploy]⟩
    (fun w lived rule => lived.rule w rule)
    (fun _ lived _ => ⟨lived.absent, lived.stored, lived.keyless, lived.stamped⟩) steps

end Chain

end ShowUp

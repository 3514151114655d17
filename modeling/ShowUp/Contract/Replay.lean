import ShowUp.Contract.Lifeline

/-!
# Replaying the log

What an outside reader can know: a view built from the published entries alone,
one entry at a time. After every run it is the view of storage.
-/

namespace ShowUp

set_option autoImplicit false

open StoreTotal

structure EventView where
  organizer : Address
  bondAmount : I128
  capacity : UInt32
  status : EventStatus
  reservedCount : Nat
  deriving DecidableEq

structure View where
  eventCount : Nat
  events : UInt64 → Option EventView
  reservations : ReservationKey → Option (I128 × ReservationStatus)

namespace View

def empty : View := ⟨0, fun _ => none, fun _ => none⟩

def onEvent (v : View) (id : UInt64) (change : EventView → EventView) : View :=
  { v with events := Function.update v.events id ((v.events id).map change) }

def onReservation (v : View) (k : ReservationKey) (status : ReservationStatus) : View :=
  { v with
    reservations := Function.update v.reservations k
      ((v.reservations k).map fun (amount, _) => (amount, status)) }

def apply (v : View) : ContractEvent → View
  | .eventCreated id organizer bondAmount capacity =>
      { v with
        eventCount := v.eventCount + 1
        events := Function.update v.events id (some ⟨organizer, bondAmount, capacity, .active, 0⟩) }
  | .bondLocked id p amount =>
      let v := v.onEvent id fun e => { e with reservedCount := e.reservedCount + 1 }
      { v with reservations := Function.update v.reservations (id, p) (some (amount, .locked)) }
  | .reservationCancelled id p _ =>
      (v.onEvent id fun e => { e with reservedCount := e.reservedCount - 1 }).onReservation
        (id, p) .cancelled
  | .checkedIn id p _ => v.onReservation (id, p) .attended
  | .eventCancelled id _ => v.onEvent id fun e => { e with status := .cancelled }
  | .refundClaimed id p _ => v.onReservation (id, p) .refunded
  | .noShowSettled id p _ _ => v.onReservation (id, p) .noShowSettled

def replay (log : List ContractEvent) : View := log.foldl apply empty

end View

def Event.view (e : Event) : EventView :=
  ⟨e.organizer, e.bondAmount, e.capacity, e.status, e.reservedCount.toNat⟩

/-- The same things read from storage. -/
def Ledger.view {σ : Type} (l : Ledger σ) : View where
  eventCount := l.eventCount.toNat
  events id := (l.events.lookup id).map Event.view
  reservations k := (l.reservations.lookup k).map fun r => (r.amount, r.status)

theorem lookup_insert_map {κ ν α : Type} [DecidableEq κ] (s : Store κ ν) (k : κ) (v : ν)
    (g : ν → α) : (fun a => ((s.insert k v).lookup a).map g) =
      Function.update (fun a => (s.lookup a).map g) k (some (g v)) := by
  funext a
  rw [lookup_insert_eq, Function.update_apply]
  split <;> rfl

section Step
variable {tok : Token} {contract : Address} {env : Env contract} {l : Ledger tok.State}
  {f : Frame tok.State} {call : Call}

/-- Every rule publishes one entry, and the entry says what the rule did. -/
theorem Rule.replays (rule : Rule tok env l call f) :
    ∃ entry, f.effects.filterMap Effect.published? = [entry] ∧
      l.view.apply entry = f.ledger.view := by
  cases rule with
  | @createEvent args id signed valid next =>
    refine ⟨_, rfl, ?_⟩
    have counted := U64.checkedAdd_eq_some.mp next
    rw [UInt64.toNat_one] at counted
    simp [View.apply, Ledger.view, lookup_insert_map, Event.view, CreateEventArgs.toEvent, counted]
  | @reserve id p e n t signed found active early seat fresh counted signedTransfer paid =>
    refine ⟨_, rfl, ?_⟩
    have added := U32.checkedAdd_eq_some.mp counted
    rw [UInt32.toNat_one] at added
    simp [View.apply, View.onEvent, Ledger.view, lookup_insert_map, found, Event.view, added]
  | @exit _ x id p r e e' terms t named held locked found isOpen seat agreed paid =>
    refine ⟨terms.entry, (x.closes env l.config id p e' _ terms).published_eq, ?_⟩
    cases x with
    | cancelReservation =>
      obtain ⟨n, counted, ⟨⟩⟩ := Option.bind_eq_some_iff.mp seat
      have gone := U32.checkedSub_eq_some.mp counted
      rw [UInt32.toNat_one] at gone
      cases agreed
      simp [View.apply, View.onEvent, View.onReservation, Ledger.view, lookup_insert_map, held,
        found, Event.view, gone, Exit.status]
    | checkIn | claimCancelledEventRefund =>
      cases agreed
      cases seat
      simp [View.apply, View.onReservation, Ledger.view, lookup_insert_map, held,
        insert_lookup_self found, Exit.status]
    | settleNoShow =>
      obtain ⟨_, _, ⟨⟩⟩ := Option.bind_eq_some_iff.mp agreed
      cases seat
      simp [View.apply, View.onReservation, Ledger.view, lookup_insert_map, held,
        insert_lookup_self found, Exit.status]
  | @cancelEvent id e found signed active =>
    refine ⟨_, rfl, ?_⟩
    simp [View.apply, View.onEvent, Ledger.view, lookup_insert_map, found, Event.view]

end Step

def ContractEvent.exitStatus : ContractEvent → Option ReservationStatus
  | reservationCancelled .. => some .cancelled
  | checkedIn .. => some .attended
  | refundClaimed .. => some .refunded
  | noShowSettled .. => some .noShowSettled
  | eventCreated .. | bondLocked .. | eventCancelled .. => none

theorem Exit.terms_exitStatus {x : Exit} {pool : Address} {e : Event} {k : ReservationKey}
    {amount : I128} {terms : Terms} (agreed : x.terms pool e k amount = some terms) :
    terms.entry.exitStatus = some x.status := by
  cases x with
  | cancelReservation | checkIn | claimCancelledEventRefund =>
    cases agreed
    rfl
  | settleNoShow =>
    obtain ⟨_, _, ⟨⟩⟩ := Option.bind_eq_some_iff.mp agreed
    rfl

namespace Chain
variable {tok : Token} {contract : Address}

def entriesFor (s : Chain tok contract) (k : ReservationKey) : List ContractEvent :=
  s.log.filter fun entry => entry.key = some k

theorem replay_log (d : Deployment tok) (steps : List (Step contract)) :
    View.replay (after d steps).log = (after d steps).ledger.view := by
  refine after_induction (P := fun s => View.replay s.log = s.ledger.view) ?_ ?_ ?_ steps
  · simp [deploy, log, View.replay, View.empty, constructor, Ledger.view]
  · intro s env call f _ replayed rule
    obtain ⟨entry, published, applied⟩ := rule.replays
    simp only [log, View.replay] at replayed ⊢
    rw [List.flatMap_append, List.foldl_append, replayed, List.flatMap_singleton,
      Record.published, published]
    exact applied
  · exact fun _ replayed _ => replayed

theorem filter_published {history : List (Record contract)} (k : ReservationKey)
    (stamped : ∀ rec ∈ history, ∀ entry ∈ rec.published, entry.key = rec.call.key) :
    (history.flatMap Record.published).filter (fun entry => entry.key = some k) =
      (history.filter fun rec => rec.call.key = some k).flatMap Record.published := by
  induction history with
  | nil => rfl
  | cons rec history ih =>
    have rest := ih fun rec' h => stamped rec' (List.mem_cons_of_mem _ h)
    have own := stamped rec List.mem_cons_self
    rw [List.flatMap_cons, List.filter_append, rest, List.filter_cons]
    by_cases named : rec.call.key = some k
    · have all : rec.published.filter (fun entry => entry.key = some k) = rec.published :=
        List.filter_eq_self.mpr fun entry h => by simp [own entry h, named]
      simp [all, named]
    · have none : rec.published.filter (fun entry => entry.key = some k) = [] :=
        List.filter_eq_nil_iff.mpr fun entry h => by simp [own entry h, named]
      simp [none, named]

theorem Lived.entriesFor_eq {s : Chain tok contract} (lived : s.Lived) (k : ReservationKey) :
    s.entriesFor k = (s.callsFor k).flatMap Record.published :=
  filter_published k lived.stamped

end Chain

section Claims
variable {tok : Token} {contract : Address}

/-- After every run the log replays to the view of storage, tells of each reservation
exactly that it was locked and, if it was, how it ended, and has nothing from failed calls. -/
theorem log_replays_to_state (d : Deployment tok) (steps : List (Step contract)) :
    View.replay (Chain.after d steps).log = (Chain.after d steps).ledger.view ∧
    (∀ k, (Chain.after d steps).ledger.reservations.lookup k = none →
      (Chain.after d steps).entriesFor k = []) ∧
    (∀ k r, (Chain.after d steps).ledger.reservations.lookup k = some r →
      (r.status = .locked ∧
        (Chain.after d steps).entriesFor k = [.bondLocked k.1 k.2 r.amount]) ∨
      ∃ ending, ContractEvent.exitStatus ending = some r.status ∧
        (Chain.after d steps).entriesFor k = [.bondLocked k.1 k.2 r.amount, ending]) ∧
    ∀ (env : Env contract) call failure f,
      invoke tok env call (Chain.after d steps).ledger = .error failure f →
      (Chain.after d (steps ++ [.call env call])).log = (Chain.after d steps).log := by
  have lived := Chain.after_lived d steps
  refine ⟨Chain.replay_log d steps, ?_, ?_, ?_⟩
  · intro k gone
    rw [lived.entriesFor_eq, lived.absent k gone, List.flatMap_nil]
  · intro k r held
    rw [lived.entriesFor_eq]
    have life := lived.stored k r held
    generalize (Chain.after d steps).callsFor k = calls at life
    cases life with
    | locked status opens => exact .inl ⟨status, by simp [opens.published_eq]⟩
    | @ended _ _ _ _ terms status opens found agreed closes =>
      refine .inr ⟨terms.entry, ?_, by simp [opens.published_eq, closes.published_eq]⟩
      rw [status, Exit.terms_exitStatus agreed]
  · intro env call failure f failed
    rw [Chain.after_concat, Chain.step_call_failed failed]

theorem log_replays_to_state_settled :
    (View.replay (Chain.after Scenario.deployment Scenario.settled).log).reservations
        (1, Scenario.guest) = some (.lit 50, .noShowSettled) ∧
      (Chain.after Scenario.deployment Scenario.settled).entriesFor (1, Scenario.organizer) = [] := by
  obtain ⟨replayed, absent, _⟩ := log_replays_to_state Scenario.deployment Scenario.settled
  rw [replayed]
  exact ⟨by decide, absent _ (by decide)⟩

end Claims

end ShowUp

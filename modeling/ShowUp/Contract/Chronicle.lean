import ShowUp.Contract.Replay

/-!
# The order of the log

Every entry is about a stored event, and the creation of an event is the first
entry about it. A reader who still has the creation has everything that followed.
-/

namespace ShowUp

set_option autoImplicit false

open StoreTotal

namespace ContractEvent

def isCreation : ContractEvent → Bool
  | eventCreated .. => true
  | _ => false

theorem eventId_of_key {entry : ContractEvent} {k : ReservationKey} (h : entry.key = some k) :
    entry.eventId = k.1 ∧ entry.isCreation = false := by
  cases entry with
  | eventCreated | eventCancelled => cases h
  | bondLocked | reservationCancelled | checkedIn | refundClaimed | noShowSettled =>
    cases h
    exact ⟨rfl, rfl⟩

end ContractEvent

def CreationFirst (log : List ContractEvent) : Prop :=
  log.Pairwise fun earlier later => later.isCreation → earlier.eventId ≠ later.eventId

/-- A suffix with the creation has every entry about the event. -/
theorem CreationFirst.mem_of_suffix {log recent : List ContractEvent} (first : CreationFirst log)
    (suffix : recent <:+ log) {created entry : ContractEvent} (kept : created ∈ recent)
    (creation : created.isCreation) (member : entry ∈ log)
    (same : entry.eventId = created.eventId) : entry ∈ recent := by
  obtain ⟨before, split⟩ := suffix
  rw [← split] at member first
  rcases List.mem_append.mp member with early | late
  · have apart := (List.pairwise_append.mp first).2.2 entry early created kept
    exact absurd same (apart creation)
  · exact late

section Step
variable {tok : Token} {contract : Address} {env : Env contract} {l : Ledger tok.State}
  {f : Frame tok.State} {call : Call}

/-- The entry a call publishes is about an event that is stored then, and was not before
if the entry is its creation. -/
theorem Rule.announces (w : l.WellFormed contract) (rule : Rule tok env l call f) :
    ∃ entry, f.effects.filterMap Effect.published? = [entry] ∧
      (∃ e, f.ledger.events.lookup entry.eventId = some e) ∧
      (entry.isCreation → l.events.lookup entry.eventId = none) := by
  cases rule with
  | createEvent signed valid next =>
    exact ⟨_, rfl, ⟨_, Finmap.lookup_insert _⟩, fun _ => w.fresh_id next⟩
  | reserve signed found => exact ⟨_, rfl, ⟨_, Finmap.lookup_insert _⟩, nofun⟩
  | cancelEvent found => exact ⟨_, rfl, ⟨_, Finmap.lookup_insert _⟩, nofun⟩
  | @exit _ x id p r e e' terms t named held locked found isOpen seat agreed paid =>
    obtain ⟨about, notCreation⟩ := ContractEvent.eventId_of_key (Exit.terms_entry_key agreed)
    refine ⟨terms.entry, (x.closes env l.config id p e' _ terms).published_eq, ⟨e', ?_⟩, ?_⟩
    · rw [about]
      exact Finmap.lookup_insert _
    · rw [notCreation]
      exact nofun

end Step

namespace Chain
variable {tok : Token} {contract : Address}

structure Announced (s : Chain tok contract) : Prop where
  stored : ∀ entry ∈ s.log, ∃ e, s.ledger.events.lookup entry.eventId = some e
  creationFirst : CreationFirst s.log

theorem Announced.rule {s : Chain tok contract} (w : s.ledger.WellFormed contract)
    (announced : s.Announced) {env : Env contract} {call : Call} {f : Frame tok.State}
    (rule : Rule tok env s.ledger call f) :
    Announced ⟨f.ledger, s.history ++ [⟨env, call, f.effects⟩]⟩ := by
  obtain ⟨entry, published, stored, fresh⟩ := rule.announces w
  have grown : log (⟨f.ledger, s.history ++ [⟨env, call, f.effects⟩]⟩ : Chain tok contract) =
      s.log ++ [entry] := by
    rw [log, List.flatMap_append, List.flatMap_singleton, Record.published, published]
    rfl
  constructor
  · intro old member
    rw [grown] at member
    rcases List.mem_append.mp member with member | member
    · obtain ⟨e, found⟩ := announced.stored old member
      obtain ⟨e', found', _⟩ := rule.policyKept w _ _ found
      exact ⟨e', found'⟩
    · cases List.mem_singleton.mp member
      exact stored
  · rw [grown]
    apply List.pairwise_append.mpr
    refine ⟨announced.creationFirst, List.pairwise_singleton _ _, ?_⟩
    intro old member new last creation same
    cases List.mem_singleton.mp last
    obtain ⟨e, found⟩ := announced.stored old member
    rw [same, fresh creation] at found
    cases found

theorem after_announced (d : Deployment tok) (steps : List (Step contract)) :
    (after d steps).Announced :=
  after_induction (P := Announced) ⟨by simp [deploy, log], .nil⟩
    (fun w announced rule => announced.rule w rule)
    (fun _ announced _ => ⟨announced.stored, announced.creationFirst⟩) steps

theorem Lived.stored_of_entry {s : Chain tok contract} (lived : s.Lived) {k : ReservationKey}
    {entry : ContractEvent} (member : entry ∈ s.log) (about : entry.key = some k) :
    ∃ r, s.ledger.reservations.lookup k = some r := by
  cases held : s.ledger.reservations.lookup k with
  | some r => exact ⟨r, rfl⟩
  | none =>
    have among : entry ∈ s.entriesFor k := List.mem_filter.mpr ⟨member, by simp [about]⟩
    rw [lived.entriesFor_eq, lived.absent k held] at among
    cases among

theorem Lived.bondLocked_mem {s : Chain tok contract} (lived : s.Lived) {k : ReservationKey}
    {r : Reservation} (held : s.ledger.reservations.lookup k = some r) :
    .bondLocked k.1 k.2 r.amount ∈ s.log := by
  have among : .bondLocked k.1 k.2 r.amount ∈ s.entriesFor k := by
    rw [lived.entriesFor_eq]
    have life := lived.stored k r held
    generalize s.callsFor k = calls at life
    cases life with
    | locked status opens => simp [opens.published_eq]
    | ended status opens => simp [opens.published_eq]
  exact List.mem_of_mem_filter among

end Chain

end ShowUp

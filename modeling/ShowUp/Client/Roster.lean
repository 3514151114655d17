import ShowUp.Client.LogComplete
import ShowUp.Client.Reservations
import ShowUp.Contract.Chronicle

/-!
# The roster of an event

From the retained end of the log and a round of reads that may fail, the reader
lists reservations. Every listed one is stored; and the list is called complete
only if it is all of them, because the creation of an event comes before its bonds.
-/

namespace ShowUp.Client

set_option autoImplicit false

open CursorPaging StoreTotal

section Collecting

def EventBody.locked : EventBody → Option String
  | .bondLocked _ participant _ => some participant
  | _ => none

theorem mem_addToSet {set : List String} {value p : String} :
    p ∈ addToSet set value ↔ p ∈ set ∨ p = value := by
  unfold addToSet
  split
  · rename_i known
    constructor
    · exact .inl
    · intro h
      rcases h with h | rfl
      · exact h
      · exact known
  · simp

theorem nodup_addToSet {set : List String} (nodup : set.Nodup) (value : String) :
    (addToSet set value).Nodup := by
  unfold addToSet
  split
  · exact nodup
  · rename_i fresh
    apply List.nodup_append.mpr
    refine ⟨nodup, List.nodup_singleton _, ?_⟩
    intro a member b last same
    rw [List.mem_singleton.mp last] at same
    exact fresh (same ▸ member)

theorem addParticipant_eq (participants : List String) (entry : ShowUpContractEvent) :
    addParticipant participants entry = (entry.body.locked.elim participants
      (addToSet participants)) := by
  unfold addParticipant
  cases entry.body <;> rfl

theorem participants_spec (entries : List ShowUpContractEvent) {seen : List String}
    (nodup : seen.Nodup) : (entries.foldl addParticipant seen).Nodup ∧
      ∀ p, p ∈ entries.foldl addParticipant seen ↔
        p ∈ seen ∨ ∃ entry ∈ entries, entry.body.locked = some p := by
  induction entries generalizing seen with
  | nil => exact ⟨nodup, by simp⟩
  | cons entry rest ih =>
    rw [List.foldl_cons, addParticipant_eq]
    cases locked : entry.body.locked with
    | none =>
      obtain ⟨nodup', members⟩ := ih nodup
      refine ⟨nodup', fun p => (members p).trans ?_⟩
      simp [locked]
    | some value =>
      obtain ⟨nodup', members⟩ := ih (nodup_addToSet nodup value)
      refine ⟨nodup', fun p => (members p).trans ?_⟩
      rw [mem_addToSet, or_assoc]
      simp [locked, eq_comm]

def readable (outcome : Except String (Option ReservationView)) : Option ReservationView :=
  outcome.toOption.join

theorem countOutcome_foldl (outcomes : List (Except String (Option ReservationView)))
    (seen : List ReservationView × Nat) : outcomes.foldl countOutcome seen =
      (seen.1 ++ outcomes.filterMap readable,
        seen.2 + outcomes.countP fun outcome => (readable outcome).isNone) := by
  induction outcomes generalizing seen with
  | nil => simp
  | cons outcome rest ih =>
    rw [List.foldl_cons, ih, List.filterMap_cons, List.countP_cons]
    rcases outcome with error | _ | value
    · simp [countOutcome, readable, Except.toOption, Nat.add_assoc, Nat.add_comm]
    · simp [countOutcome, readable, Except.toOption, Nat.add_assoc, Nat.add_comm]
    · simp [countOutcome, readable, Except.toOption]

/-- Shown values that name what they were asked for repeat nothing. -/
theorem filterMap_map_sublist {α β : Type} {f : α → Option β} {g : β → α} {asked : List α}
    (names : ∀ a ∈ asked, ∀ b, f a = some b → g b = a) :
    ((asked.filterMap f).map g).Sublist asked := by
  induction asked with
  | nil => exact .slnil
  | cons a rest ih =>
    obtain ⟨first, names⟩ := List.forall_mem_cons.mp names
    rw [List.filterMap_cons]
    cases shown : f a with
    | none => exact (ih names).cons a
    | some b =>
      rw [List.map_cons, first b shown]
      exact (ih names).cons_cons a

end Collecting

/-- The reads that succeed show what is stored. -/
def Faithful (getReservation : ReadClient) (reservations : Store ReservationKey Reservation) :
    Prop :=
  ∀ id (p : Address) result, getReservation id p.strkey = .success result →
    result = reservations.lookup (id, p)

theorem readable_iff {getReservation : ReadClient}
    {reservations : Store ReservationKey Reservation}
    (faithful : Faithful getReservation reservations) {id : UInt64} {p : Address}
    {r : Reservation} (held : reservations.lookup (id, p) = some r) (view : ReservationView) :
    readable (readCurrentReservation getReservation id p.strkey) = some view ↔
      (∃ result, getReservation id p.strkey = .success result) ∧ view = toReservationView r := by
  unfold readCurrentReservation
  cases outcome : getReservation id p.strkey with
  | success result =>
    cases faithful id p result outcome
    simp [readable, Except.toOption, held, eq_comm]
  | rejected | unsimulated | simulationError | restore => simp [readable, Except.toOption]

section Reading
variable {getReservation : ReadClient} {reservations : Store ReservationKey Reservation}
  {id : UInt64} {names : List String} {locked : Address → Prop}
  (faithful : Faithful getReservation reservations)
  (known : ∀ name, name ∈ names ↔ ∃ p, locked p ∧ p.strkey = name)
  (stored : ∀ p, locked p → ∃ r, reservations.lookup (id, p) = some r)
include faithful known stored

theorem mem_views_iff (view : ReservationView) :
    view ∈ (names.map (readCurrentReservation getReservation id)).filterMap readable ↔
      ∃ p r, locked p ∧ (∃ result, getReservation id p.strkey = .success result) ∧
        reservations.lookup (id, p) = some r ∧ view = toReservationView r := by
  rw [List.filterMap_map, List.mem_filterMap]
  constructor
  · intro h
    rcases h with ⟨name, member, shown⟩
    obtain ⟨p, isLocked, rfl⟩ := (known name).mp member
    obtain ⟨r, held⟩ := stored p isLocked
    obtain ⟨succeeded, same⟩ := (readable_iff faithful held view).mp shown
    exact ⟨p, r, isLocked, succeeded, held, same⟩
  · intro h
    rcases h with ⟨p, r, isLocked, succeeded, held, same⟩
    exact ⟨p.strkey, (known _).mpr ⟨p, isLocked, rfl⟩,
      (readable_iff faithful held view).mpr ⟨succeeded, same⟩⟩

theorem views_nodup (keyed : ∀ {k r}, reservations.lookup k = some r →
      (r.eventId, r.participant) = k) (nodup : names.Nodup) :
    (((names.map (readCurrentReservation getReservation id)).filterMap readable).map
      ReservationView.participant).Nodup := by
  rw [List.filterMap_map]
  refine (filterMap_map_sublist ?_).nodup nodup
  intro name member view shown
  obtain ⟨p, isLocked, rfl⟩ := (known name).mp member
  obtain ⟨r, held⟩ := stored p isLocked
  have same := ((readable_iff faithful held view).mp shown).2
  have own : r.participant = p := congrArg Prod.snd (keyed held)
  rw [same, toReservationView, own]

theorem unreadable_eq_zero_iff :
    (names.map (readCurrentReservation getReservation id)).countP
        (fun outcome => (readable outcome).isNone) = 0 ↔
      ∀ p, locked p → ∃ result, getReservation id p.strkey = .success result := by
  rw [List.countP_eq_zero, List.forall_mem_map]
  constructor
  · intro all p isLocked
    obtain ⟨r, held⟩ := stored p isLocked
    have shown := all p.strkey ((known _).mpr ⟨p, isLocked, rfl⟩)
    rw [Option.isNone_iff_eq_none] at shown
    obtain ⟨view, shown⟩ := Option.ne_none_iff_exists'.mp shown
    exact ((readable_iff faithful held view).mp shown).1
  · intro all name member
    obtain ⟨p, isLocked, rfl⟩ := (known name).mp member
    obtain ⟨r, held⟩ := stored p isLocked
    simp [(readable_iff faithful held _).mpr ⟨all p isLocked, rfl⟩]

end Reading

section History
variable {spec : EventSpec} {contractId : String} (history : RetainedHistory spec contractId)

/-- What the contract published successfully and the server still has. -/
def RetainedHistory.published : List ContractEvent :=
  history.events.filterMap fun e =>
    if e.response.inSuccessfulContractCall then e.origin else none

/-- The entries for an id carry what was published with that id. -/
theorem RetainedHistory.entries_bodies (id : UInt64) :
    (history.entries id).map ShowUpContractEvent.body =
      (history.published.filter fun event => event.eventId = id).map toBody := by
  unfold entries published
  induction history.events with
  | nil => rfl
  | cons e rest ih =>
    rw [List.filterMap_cons, List.filterMap_cons]
    unfold LedgerEvent.entry at ih ⊢
    cases e.origin with
    | none => simpa using ih
    | some event =>
      cases e.response.inSuccessfulContractCall with
      | false => simpa using ih
      | true =>
        by_cases asked : event.eventId = id
        · simpa [asked, withMetadata] using ih
        · simpa [asked] using ih

theorem RetainedHistory.exists_entry_iff (id : UInt64) (P : EventBody → Prop) :
    (∃ entry ∈ history.entries id, P entry.body) ↔
      ∃ event ∈ history.published, event.eventId = id ∧ P (toBody event) := by
  have bodies := history.entries_bodies id
  constructor
  · intro h
    rcases h with ⟨entry, member, holds⟩
    have among : entry.body ∈ (history.entries id).map ShowUpContractEvent.body :=
      List.mem_map_of_mem member
    rw [bodies] at among
    obtain ⟨event, kept, same⟩ := List.mem_map.mp among
    obtain ⟨kept, asked⟩ := List.mem_filter.mp kept
    exact ⟨event, kept, of_decide_eq_true asked, same ▸ holds⟩
  · intro h
    rcases h with ⟨event, kept, asked, holds⟩
    have among : toBody event ∈
        (history.published.filter fun event => event.eventId = id).map toBody :=
      List.mem_map_of_mem (List.mem_filter.mpr ⟨kept, decide_eq_true asked⟩)
    rw [← bodies] at among
    obtain ⟨entry, member, same⟩ := List.mem_map.mp among
    exact ⟨entry, member, same ▸ holds⟩

theorem RetainedHistory.isEventCreated_iff (id : UInt64) :
    (history.entries id).any isEventCreated = true ↔
      ∃ organizer bondAmount capacity,
        .eventCreated id organizer bondAmount capacity ∈ history.published := by
  have creations := history.exists_entry_iff id fun body =>
    ∃ eventId organizer bondAmount capacity,
      body = .eventCreated eventId organizer bondAmount capacity
  rw [List.any_eq_true]
  refine Iff.trans (exists_congr fun entry => and_congr_right fun _ => ?_) (creations.trans ?_)
  · unfold isEventCreated
    cases entry.body <;> simp
  · constructor
    · intro h
      rcases h with ⟨event, kept, asked, _, _, _, _, creation⟩
      cases event with
      | eventCreated id' organizer bondAmount capacity =>
        cases asked
        exact ⟨organizer, bondAmount, capacity, kept⟩
      | _ => cases creation
    · intro h
      rcases h with ⟨organizer, bondAmount, capacity, kept⟩
      exact ⟨_, kept, rfl, _, _, _, _, rfl⟩

theorem RetainedHistory.locked_iff (id : UInt64) (name : String) :
    (∃ entry ∈ history.entries id, entry.body.locked = some name) ↔
      ∃ (p : Address) (amount : I128), .bondLocked id p amount ∈ history.published ∧
        p.strkey = name := by
  refine (history.exists_entry_iff id fun body => body.locked = some name).trans ?_
  constructor
  · intro h
    rcases h with ⟨event, kept, asked, locked⟩
    cases event with
    | bondLocked id' p amount =>
      cases asked
      exact ⟨p, amount, kept, Option.some.inj locked⟩
    | _ => cases locked
  · intro h
    rcases h with ⟨p, amount, kept, rfl⟩
    exact ⟨_, kept, rfl, rfl⟩

end History

section Listing
variable {spec : EventSpec} {contractId : String} {history : RetainedHistory spec contractId}

/-- Where a short page means the end, the whole retained log is read. -/
theorem Server.readEventLog_of_honest (server : Server history) (id : UInt64) {fuel : Nat}
    (enough : history.events.length < fuel) (honest : server.ShortMeansEnd) :
    readEventLog contractId server.rpc fuel id = some (.ok
      { entries := history.entries id
        historyComplete := (history.entries id).any isEventCreated
        retention := history.retention }) := by
  obtain ⟨stop, items, ends, reads, read, items_eq⟩ := server.readEventLog_eq id enough
  have last : stop = history.latest := by
    refine reads.stop_eq (server.startWith_nextCursor id) (server.logPage_answers id) ?_
      history.oldest_le_latest
    intro n cursor within short
    exact honest n _ (history.requestWith_limit id cursor) within short
  have all : items.filterMap (LedgerEvent.entry id) = history.entries id := by
    rw [items_eq]
    apply (history.entries_before_eq_iff id).mpr
    intro e member _
    rw [last]
    exact (history.retained e member).2
  rw [read, all]

theorem listEventReservations_eq {rpc : Rpc spec} {getReservation : ReadClient} {fuel : Nat}
    {id : UInt64} {log : EventLogSnapshot}
    (read : readEventLog contractId rpc fuel id = some (.ok log)) :
    listEventReservations contractId rpc getReservation fuel id = some (.ok
      (let outcomes := (log.entries.foldl addParticipant []).map
          (readCurrentReservation getReservation id)
        let unreadable := outcomes.countP fun outcome => (readable outcome).isNone
        { reservations := outcomes.filterMap readable
          historyComplete := log.historyComplete && unreadable == 0
          unreadable := unreadable
          retention := log.retention })) := by
  rw [listEventReservations, read]
  simp [countOutcome_foldl, bind, Except.bind, pure, Except.pure]

variable {tok : Token} {contract : Address}

/-- From any retained end of the log of any run: the listed reservations are distinct stored
ones, the list is called complete exactly when the creation is retained and every read
succeeded, and then it is all of the event's reservations. -/
theorem roster_reconstructed (d : Deployment tok) (steps : List (Step contract))
    (server : Server history) (honest : server.ShortMeansEnd)
    (suffix : history.published <:+ (Chain.after d steps).log) {getReservation : ReadClient}
    (faithful : Faithful getReservation (Chain.after d steps).ledger.reservations)
    (id : UInt64) {fuel : Nat} (enough : history.events.length < fuel) :
    ∃ roster, listEventReservations contractId server.rpc getReservation fuel id =
        some (.ok roster) ∧
      (roster.reservations.map ReservationView.participant).Nodup ∧
      (∀ view ∈ roster.reservations, ∃ p r,
        (Chain.after d steps).ledger.reservations.lookup (id, p) = some r ∧
          view = toReservationView r) ∧
      (roster.historyComplete = true ↔
        (∃ organizer bondAmount capacity,
          .eventCreated id organizer bondAmount capacity ∈ history.published) ∧
        ∀ p amount, .bondLocked id p amount ∈ history.published →
          ∃ result, getReservation id p.strkey = .success result) ∧
      (roster.historyComplete = true → ∀ view, view ∈ roster.reservations ↔ ∃ p r,
        (Chain.after d steps).ledger.reservations.lookup (id, p) = some r ∧
          view = toReservationView r) := by
  have lived := Chain.after_lived d steps
  have keyed := (Chain.after_wellFormed d steps).toKeyed
  have first := (Chain.after_announced d steps).creationFirst
  have stored : ∀ p, (∃ amount, .bondLocked id p amount ∈ history.published) →
      ∃ r, (Chain.after d steps).ledger.reservations.lookup (id, p) = some r := by
    intro p h
    rcases h with ⟨amount, kept⟩
    exact lived.stored_of_entry (suffix.subset kept) rfl
  have known : ∀ name, name ∈ (history.entries id).foldl addParticipant [] ↔
      ∃ p, (∃ amount, .bondLocked id p amount ∈ history.published) ∧ p.strkey = name := by
    intro name
    rw [(participants_spec _ List.nodup_nil).2 name]
    simp [history.locked_iff]
  have nodup := (participants_spec (history.entries id) List.nodup_nil).1
  have members := mem_views_iff faithful known stored
  have readAll := unreadable_eq_zero_iff faithful known stored
  have created := history.isEventCreated_iff id
  refine ⟨_, listEventReservations_eq (server.readEventLog_of_honest id enough honest),
    views_nodup faithful known stored keyed.reservation nodup, ?_, ?_, ?_⟩
  · intro view member
    obtain ⟨p, r, _, _, held, same⟩ := (members view).mp member
    exact ⟨p, r, held, same⟩
  · dsimp only
    rw [Bool.and_eq_true, beq_iff_eq, created, readAll]
    simp only [forall_exists_index]
  · intro complete view
    dsimp only at complete ⊢
    rw [Bool.and_eq_true, beq_iff_eq, created, readAll] at complete
    obtain ⟨⟨organizer, bondAmount, capacity, kept⟩, succeeded⟩ := complete
    rw [members view]
    constructor
    · intro h
      rcases h with ⟨p, r, _, _, held, same⟩
      exact ⟨p, r, held, same⟩
    · intro h
      rcases h with ⟨p, r, held, same⟩
      -- the bond came after the creation, so it is retained with it
      have isLocked : ∃ amount, .bondLocked id p amount ∈ history.published :=
        ⟨r.amount, first.mem_of_suffix suffix kept rfl (lived.bondLocked_mem held) rfl⟩
      exact ⟨p, r, isLocked, succeeded p isLocked, held, same⟩

def directReads (reservations : Store ReservationKey Reservation) : ReadClient :=
  fun id name =>
    if nonempty : name ≠ "" then .success (reservations.lookup (id, ⟨name, nonempty⟩))
    else .rejected "not an address"

theorem directReads_address (reservations : Store ReservationKey Reservation) (id : UInt64)
    (p : Address) :
    directReads reservations id p.strkey = .success (reservations.lookup (id, p)) :=
  dif_pos p.nonempty

theorem directReads_faithful (reservations : Store ReservationKey Reservation) :
    Faithful (directReads reservations) reservations := by
  intro id p result succeeded
  rw [directReads_address] at succeeded
  cases succeeded
  rfl

theorem published_plain (contractId : String) (log : List ContractEvent) :
    (Plain.history contractId log).published = log := by
  have from_position : ∀ position, (Plain.eventsFrom contractId position log).filterMap
      (fun e => if e.response.inSuccessfulContractCall then e.origin else none) = log := by
    induction log with
    | nil => exact fun _ => rfl
    | cons event rest ih =>
      intro position
      exact congrArg (event :: ·) (ih (position + 1))
  exact from_position 0

theorem roster_reconstructed_settled : ∃ roster,
    listEventReservations "bond"
        (Server.paced (Plain.history "bond"
          (Chain.after Scenario.deployment Scenario.settled).log) true).rpc
        (directReads (Chain.after Scenario.deployment Scenario.settled).ledger.reservations) 4 1 =
      some (.ok roster) ∧ roster.historyComplete = true ∧
    ⟨1, "guest", 50, 2, .noShowSettled⟩ ∈ roster.reservations := by
  have kept := published_plain "bond" (Chain.after Scenario.deployment Scenario.settled).log
  obtain ⟨roster, listed, _, _, complete_iff, all⟩ := roster_reconstructed Scenario.deployment
    Scenario.settled _ (Server.paced_shortMeansEnd _) (by rw [kept])
    (directReads_faithful _) 1
    (by decide : (Plain.history "bond"
      (Chain.after Scenario.deployment Scenario.settled).log).events.length < 4)
  have complete : roster.historyComplete = true := by
    apply complete_iff.mpr
    rw [kept]
    refine ⟨⟨Scenario.organizer, .lit 50, 1, by decide⟩, ?_⟩
    intro p amount _
    exact ⟨_, directReads_address _ _ p⟩
  refine ⟨roster, listed, complete, (all complete _).mpr ?_⟩
  exact ⟨Scenario.guest, ⟨1, Scenario.guest, .lit 50, 2, .noShowSettled⟩, by decide, by decide⟩

end Listing

end ShowUp.Client

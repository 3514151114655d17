import Mathlib.Data.List.Perm.Subperm
import ShowUp.Client.Listing
import ShowUp.Contract.Frames

/-!
# The lists of an account

What is loaded of the events an account organizes (`app/organizer/page.tsx`) and of the
reservations it holds (`app/reservations/page.tsx`, `lib/domain/reservation-results.ts`). Both
loads go through all events. Every read may be answered at another moment.
-/

namespace ShowUp.Client

set_option autoImplicit false

section Definitions
variable (client : EventReads) (decodeText : List UInt8 → String)

/-- The load of the organizer's page, for the account it was started with:
`all.filter((event) => event.organizer === address)` -/
def loadOrganized (address : String) : Except ReadError (List EventView) :=
  (listEvents client decodeText none).result.map fun all =>
    all.filter fun event => event.organizer = address

/-- What the generated client's `get_reservation` comes back with. -/
abbrev ReservationReads := Int → String → Read (Option Reservation)

def getReservation (reads : ReservationReads) (eventId : Int) (participant : String) :
    Except ReadError (Option ReservationView) :=
  ((readSimulation (reads eventId participant)).map
    (Option.map toReservationView)).mapError translateContractError

structure ReadableReservation where
  event : EventView
  reservation : ReservationView

def collectResult (results : List (Except ReadError (Option ReservationView)))
    (seen : List ReadableReservation × Nat) (entry : EventView × Nat) :
    List ReadableReservation × Nat :=
  match results[entry.2]? with
  | none | some (.error _) => (seen.1, seen.2 + 1)
  | some (.ok none) => seen
  | some (.ok (some reservation)) => (seen.1 ++ [⟨entry.1, reservation⟩], seen.2)

def collectReservationResults (events : List EventView)
    (results : List (Except ReadError (Option ReservationView))) :
    List ReadableReservation × Nat :=
  events.zipIdx.foldl (collectResult results) ([], 0)

structure ReservationsSnapshot where
  ledgerNow : Nat
  items : List ReadableReservation
  unreadable : Nat

/-- The load of the guest's page, for the account it was started with. `allSettled` has the
reservations' errors as results. -/
def loadReservations (reads : ReservationReads) (getLedgerNow : Except ReadError Nat)
    (address : String) : Except ReadError ReservationsSnapshot := do
  let events ← (listEvents client decodeText none).result
  let ledgerNow ← getLedgerNow
  let reservations := events.map fun event => getReservation reads event.id address
  let (items, unreadable) := collectReservationResults events reservations
  return { ledgerNow, items, unreadable }

end Definitions

/-! The two loops as one pass each. -/

theorem forall₂_of_mapM {α β ε : Type} {f : α → Except ε β} {items : List α} {values : List β}
    (read : items.mapM f = .ok values) : List.Forall₂ (fun a b => f a = .ok b) items values := by
  induction items generalizing values with
  | nil =>
    cases read
    exact .nil
  | cons a items ih =>
    rw [List.mapM_cons] at read
    cases first : f a with
    | error e =>
      rw [first] at read
      cases read
    | ok b =>
      rw [first] at read
      cases rest : items.mapM f with
      | error e =>
        rw [rest] at read
        cases read
      | ok bs =>
        rw [rest] at read
        cases read
        exact .cons first (ih rest)

theorem exists_of_mem {α β : Type} {R : α → β → Prop} {items : List α} {values : List β}
    (outcomes : List.Forall₂ R items values) {b : β} (member : b ∈ values) :
    ∃ a ∈ items, R a b := by
  induction outcomes with
  | nil => cases member
  | @cons a b' _ _ first _ ih =>
    rcases List.mem_cons.mp member with rfl | rest
    · exact ⟨a, List.mem_cons_self, first⟩
    · obtain ⟨a', among, outcome⟩ := ih rest
      exact ⟨a', List.mem_cons_of_mem a among, outcome⟩

theorem mem_kept {β : Type} {values : List (Option β)} {b : β} :
    b ∈ values.filterMap id ↔ some b ∈ values := by simp

/-- What is left of the values has labels in the order of the items. -/
theorem labels_sublist {α β : Type} {R : α → Option β → Prop} {label : β → α} {items : List α}
    {values : List (Option β)} (outcomes : List.Forall₂ R items values)
    (named : ∀ a ∈ items, ∀ b, R a (some b) → label b = a) :
    ((values.filterMap id).map label).Sublist items := by
  induction outcomes with
  | nil => exact .slnil
  | @cons a value l₁ l₂ first _ ih =>
    have rest := ih fun a' among => named a' (List.mem_cons_of_mem a among)
    cases value with
    | none => exact rest.cons a
    | some b =>
      have kept : (some b :: l₂).filterMap id = b :: l₂.filterMap id := rfl
      rw [kept, List.map_cons, named a List.mem_cons_self b first]
      exact rest.cons_cons a

section Collecting
variable (read : EventView → Except ReadError (Option ReservationView))

/-- What an event adds to the items. -/
def itemOf (event : EventView) : Option ReadableReservation :=
  match read event with
  | .ok reservation => reservation.map fun reservation => ⟨event, reservation⟩
  | .error _ => none

def isUnreadable (event : EventView) : Bool := !(read event).toBool

theorem itemOf_some {read : EventView → Except ReadError (Option ReservationView)}
    {event : EventView} {item : ReadableReservation} (here : itemOf read event = some item) :
    item.event = event ∧
      ∃ reservation, read event = .ok (some reservation) ∧ item.reservation = reservation := by
  unfold itemOf at here
  split at here
  · rename_i reservation answer
    obtain ⟨value, rfl, rfl⟩ := Option.map_eq_some_iff.mp here
    exact ⟨rfl, value, answer, rfl⟩
  · cases here

theorem collect_from (before events : List EventView) (seen : List ReadableReservation × Nat) :
    (events.zipIdx before.length).foldl (collectResult ((before ++ events).map read)) seen =
      (seen.1 ++ events.filterMap (itemOf read), seen.2 + events.countP (isUnreadable read)) := by
  induction events generalizing before seen with
  | nil => simp
  | cons event events ih =>
    have rest := ih (before ++ [event])
    rw [List.append_assoc, List.singleton_append, List.length_append, List.length_singleton] at rest
    have here : ((before ++ event :: events).map read)[before.length]? = some (read event) := by
      simp
    rw [List.zipIdx_cons, List.foldl_cons, rest]
    simp only [collectResult, here]
    cases outcome : read event with
    | error thrown => simp [itemOf, isUnreadable, outcome, Except.toBool, Nat.add_assoc,
        Nat.add_comm 1]
    | ok reservation =>
      cases reservation <;> simp [itemOf, isUnreadable, outcome, Except.toBool]

theorem collect_eq (events : List EventView) :
    collectReservationResults events (events.map read) =
      (events.filterMap (itemOf read), events.countP (isUnreadable read)) := by
  have all := collect_from read [] events ([], 0)
  simpa [collectReservationResults] using all

end Collecting

section Moments
variable {tok : Token} {contract : Address} (client : EventReads)
  (decodeText : List UInt8 → String) (reads : ReservationReads) (d : Deployment tok)
  (steps : List (Step contract))

/-- The node that is asked has the steps behind it, and maybe more. -/
def AtSome (P : Ledger tok.State → Prop) : Prop := ∃ more, P (Chain.after d (steps ++ more)).ledger

/-- What comes through of the events, comes from nodes at some moment from then on. -/
structure EventReads.Since : Prop where
  count : ∀ n, client.getEventCount = .success n → AtSome d steps fun l => l.getEventCount = n
  event : ∀ (id : UInt64) e, client.getEvent id.toNat = .success (.ok e) →
    AtSome d steps fun l => l.getEvent id = .ok e
  missing : ∀ (id : UInt64) error, Client.getEvent client decodeText id.toNat = .error error →
    isNotFound error = true → AtSome d steps fun l => l.getEvent id = .error .notFound

/-- And likewise of an account's reservations. -/
def ReservationReads.Since (p : Address) : Prop :=
  ∀ (id : UInt64) found, reads id.toNat p.strkey = .success found →
    AtSome d steps fun l => l.reservations.lookup (id, p) = found

end Moments

section Listed
variable {tok : Token} {contract : Address} {client : EventReads}
  {decodeText : List UInt8 → String} {reads : ReservationReads} {d : Deployment tok}
  {steps : List (Step contract)}

theorem later_of_more (d : Deployment tok) (steps more : List (Step contract)) :
    (Chain.after d steps).ledger.Later (Chain.after d (steps ++ more)).ledger :=
  Chain.after_related (R := Ledger.Later) .refl .trans
    (fun _ _ => ⟨rfl, fun _ e found => ⟨e, found, .refl e⟩, fun _ r held => ⟨r, held, .refl r⟩⟩)
    (fun w rule => rule.later w) d steps more

theorem getEvent_eq_ok {σ : Type} {l : Ledger σ} {id : UInt64} {e : Event} :
    l.getEvent id = .ok e ↔ l.events.lookup id = some e := by
  unfold Ledger.getEvent
  cases l.events.lookup id <;> simp

/-- The view is of an event that is stored under the id at some moment. -/
def Stored (decodeText : List UInt8 → String) (d : Deployment tok) (steps : List (Step contract))
    (id : UInt64) (view : EventView) : Prop :=
  AtSome d steps fun l => ∃ e, l.events.lookup id = some e ∧ view = toEventView decodeText e

theorem Stored.id {id : UInt64} {view : EventView} (stored : Stored decodeText d steps id view) :
    view.id = id.toNat := by
  obtain ⟨more, e, found, rfl⟩ := stored
  rw [toEventView, (Chain.after_wellFormed d (steps ++ more)).event found]

theorem getEvent_ok {eventId : Int} {view : EventView}
    (read : getEvent client decodeText eventId = .ok view) :
    ∃ e, client.getEvent eventId = .success (.ok e) ∧ view = toEventView decodeText e := by
  unfold getEvent at read
  cases answer : client.getEvent eventId with
  | success result =>
    rw [answer] at read
    cases result with
    | ok e =>
      cases read
      exact ⟨e, rfl, rfl⟩
    | error returned =>
      simp only [readSimulation, Except.bind, unwrapResult] at read
      cases code : returned.code <;> simp [code, Except.map, Except.mapError] at read
  | simulationError text =>
    rw [answer] at read
    simp only [readSimulation] at read
    cases code : extractContractErrorCode text <;>
      simp [code, Except.bind, Except.map, Except.mapError] at read
  | rejected | unsimulated | restore =>
    rw [answer] at read
    cases read

/-- What a listed id was read as. -/
theorem readListed_some (since : client.Since decodeText d steps) {id : UInt64} {view : EventView}
    (read : readListed client decodeText id.toNat = .ok (some view)) :
    Stored decodeText d steps id view := by
  unfold readListed at read
  split at read
  · rename_i event here
    cases read
    obtain ⟨e, answered, rfl⟩ := getEvent_ok here
    obtain ⟨more, found⟩ := since.event id e answered
    exact ⟨more, e, getEvent_eq_ok.mp found, rfl⟩
  · split at read <;> cases read

theorem readListed_none (since : client.Since decodeText d steps) {id : UInt64}
    (read : readListed client decodeText id.toNat = .ok none) :
    AtSome d steps fun l => l.events.lookup id = none := by
  unfold readListed at read
  split at read
  · cases read
  · rename_i error here
    split at read
    · rename_i absent
      obtain ⟨more, missing⟩ := since.missing id error here absent
      refine ⟨more, ?_⟩
      unfold Ledger.getEvent at missing
      split at missing
      · cases missing
      · assumption
    · cases read

theorem getEventCount_ok {n : Nat} (read : getEventCount client = .ok n)
    (small : ∀ c, client.getEventCount = .success c → c.toNat < 2 ^ 53) :
    ∃ c, client.getEventCount = .success c ∧ n = c.toNat := by
  unfold getEventCount at read
  cases answer : client.getEventCount with
  | success c =>
    rw [answer] at read
    refine ⟨c, rfl, ?_⟩
    rw [← secondsToNumber_exact (small c answer)]
    exact (Except.ok.inj read).symm
  | simulationError text =>
    rw [answer] at read
    simp only [readSimulation] at read
    cases code : extractContractErrorCode text <;>
      simp [code, Except.map, Except.mapError] at read
  | rejected | unsimulated | restore =>
    rw [answer] at read
    cases read

/-- The ids that are asked for go up to a count that is read later. -/
theorem mem_listed (since : client.Since decodeText d steps) {c : UInt64}
    (answered : client.getEventCount = .success c) {id : UInt64}
    (present : id ∈ (Chain.after d steps).ledger.events) :
    (id.toNat : Int) ∈ (List.range c.toNat).map fun i : Nat => (c.toNat : Int) - i := by
  obtain ⟨more, counted⟩ := since.count c answered
  obtain ⟨e, found⟩ := Finmap.mem_iff.mp present
  obtain ⟨e', found', _⟩ := (later_of_more d steps more).event id e found
  have within := ((Chain.after_wellFormed d (steps ++ more)).ids id).mp
    (Finmap.mem_of_lookup_eq_some found')
  rw [Ledger.getEventCount] at counted
  rw [counted] at within
  exact List.mem_map.mpr ⟨c.toNat - id.toNat, List.mem_range.mpr (by omega), by omega⟩

theorem exists_listed_id {c : UInt64} {i : Int}
    (listed : i ∈ (List.range c.toNat).map fun j : Nat => (c.toNat : Int) - j) :
    ∃ id : UInt64, (id.toNat : Int) = i := by
  have range := c.toNat_lt
  obtain ⟨j, below, rfl⟩ := List.mem_map.mp listed
  have below := List.mem_range.mp below
  exact U64.exists_toNat (by omega) (by omega)

/-- The whole listing: the ids go down, each view is of a stored event, and an event that was
there from the start is not left out. -/
theorem listed_since (since : client.Since decodeText d steps)
    (small : ∀ n, client.getEventCount = .success n → n.toNat < 2 ^ 53) {events : List EventView}
    (listed : (listEvents client decodeText none).result = .ok events) :
    events.Pairwise (fun a b => b.id < a.id) ∧
    (∀ view ∈ events, ∃ id, Stored decodeText d steps id view) ∧
    ∀ id ∈ (Chain.after d steps).ledger.events, ∃ view ∈ events, view.id = id.toNat := by
  obtain ⟨n, count⟩ : ∃ n, getEventCount client = .ok n := by
    cases count : getEventCount client with
    | ok n => exact ⟨n, rfl⟩
    | error e =>
      unfold listEvents at listed
      rw [count] at listed
      cases listed
  obtain ⟨c, answered, rfl⟩ := getEventCount_ok count small
  rw [listEvents_eq count] at listed
  dsimp only at listed
  have taken : (take none c.toNat).toNat = c.toNat := rfl
  rw [taken] at listed
  cases settled : ((List.range c.toNat).map fun i : Nat => (c.toNat : Int) - i).mapM
      (readListed client decodeText) with
  | error e =>
    rw [settled] at listed
    cases listed
  | ok values =>
    rw [settled] at listed
    cases listed
    have outcomes := forall₂_of_mapM settled
    refine ⟨?_, ?_, ?_⟩
    · have ordered : ((values.filterMap id).map EventView.id).Pairwise fun a b => b < a := by
        apply List.Pairwise.sublist (labels_sublist outcomes ?_)
        · apply List.pairwise_map.mpr
          apply List.pairwise_lt_range.imp
          intro i j lt
          omega
        · intro i member view read
          obtain ⟨id, rfl⟩ := exists_listed_id member
          exact (readListed_some since read).id
      exact List.pairwise_map.mp ordered
    · intro view member
      obtain ⟨i, among, read⟩ := exists_of_mem outcomes (mem_kept.mp member)
      obtain ⟨id, rfl⟩ := exists_listed_id among
      exact ⟨id, readListed_some since read⟩
    · intro id present
      have listed := mem_listed since answered present
      obtain ⟨value, among, read⟩ := exists_of_mem outcomes.flip listed
      cases value with
      | none =>
        obtain ⟨more, absent⟩ := readListed_none since read
        obtain ⟨e, found⟩ := Finmap.mem_iff.mp present
        obtain ⟨e', found', _⟩ := (later_of_more d steps more).event id e found
        rw [absent] at found'
        cases found'
      | some view =>
        exact ⟨view, mem_kept.mpr among, (readListed_some since read).id⟩

/-- The events of the account as organizer, the newest first: each was stored at some moment, and
none that was there from the start is left out. -/
structure Organized (decodeText : List UInt8 → String) (d : Deployment tok)
    (steps : List (Step contract)) (p : Address) (events : List EventView) : Prop where
  ordered : events.Pairwise fun a b => b.id < a.id
  own : ∀ view ∈ events, ∃ id, AtSome d steps fun l =>
    ∃ e, l.events.lookup id = some e ∧ e.organizer = p ∧ view = toEventView decodeText e
  complete : ∀ id e, (Chain.after d steps).ledger.events.lookup id = some e → e.organizer = p →
    ∃ view ∈ events, view.id = id.toNat

theorem loadOrganized_own {p : Address} (since : client.Since decodeText d steps)
    (small : ∀ n, client.getEventCount = .success n → n.toNat < 2 ^ 53) {events : List EventView}
    (loaded : loadOrganized client decodeText p.strkey = .ok events) :
    Organized decodeText d steps p events := by
  unfold loadOrganized at loaded
  cases listed : (listEvents client decodeText none).result with
  | error thrown =>
    rw [listed] at loaded
    cases loaded
  | ok all =>
    rw [listed] at loaded
    cases loaded
    obtain ⟨ordered, stored, complete⟩ := listed_since since small listed
    refine ⟨ordered.filter _, ?_, ?_⟩
    · intro view member
      obtain ⟨among, own⟩ := List.mem_filter.mp member
      obtain ⟨id, more, e, found, rfl⟩ := stored view among
      exact ⟨id, more, e, found, Address.strkey_inj.mp (of_decide_eq_true own), rfl⟩
    · intro id e found own
      obtain ⟨view, among, named⟩ := complete id (Finmap.mem_of_lookup_eq_some found)
      refine ⟨view, List.mem_filter.mpr ⟨among, ?_⟩, named⟩
      obtain ⟨id', here⟩ := stored view among
      have same : id' = id := UInt64.toNat_inj.mp (by have := here.id; omega)
      subst same
      obtain ⟨more, e', found', rfl⟩ := here
      obtain ⟨e'', found'', later⟩ := (later_of_more d steps more).event id' e found
      cases found'.symm.trans found''
      have organizer := later.policy.field Event.organizer fun _ _ => rfl
      rw [own] at organizer
      exact decide_eq_true (congrArg Address.strkey organizer)

theorem getReservation_ok {eventId : Int} {participant : String} {view : Option ReservationView}
    (read : getReservation reads eventId participant = .ok view) :
    ∃ found, reads eventId participant = .success found ∧ view = found.map toReservationView := by
  unfold getReservation at read
  cases answer : reads eventId participant with
  | success found =>
    rw [answer] at read
    exact ⟨found, rfl, (Except.ok.inj read).symm⟩
  | simulationError text =>
    rw [answer] at read
    simp only [readSimulation] at read
    cases code : extractContractErrorCode text <;>
      simp [code, Except.map, Except.mapError] at read
  | rejected | unsimulated | restore =>
    rw [answer] at read
    cases read

theorem loadReservations_ok {getLedgerNow : Except ReadError Nat} {address : String}
    {snapshot : ReservationsSnapshot}
    (loaded : loadReservations client decodeText reads getLedgerNow address = .ok snapshot) :
    ∃ events, (listEvents client decodeText none).result = .ok events ∧
      snapshot.items =
        events.filterMap (itemOf fun event => getReservation reads event.id address) ∧
      snapshot.unreadable =
        events.countP (isUnreadable fun event => getReservation reads event.id address) := by
  unfold loadReservations at loaded
  cases listed : (listEvents client decodeText none).result with
  | error thrown =>
    rw [listed] at loaded
    cases loaded
  | ok events =>
    have collected := collect_eq (fun event => getReservation reads event.id address) events
    cases now : getLedgerNow with
    | error thrown =>
      rw [listed, now] at loaded
      cases loaded
    | ok ledgerNow =>
      rw [listed, now] at loaded
      cases loaded
      exact ⟨events, rfl, congrArg Prod.fst collected, congrArg Prod.snd collected⟩

/-- A reservation that was there from the start is not answered for with none. -/
theorem shown_or_unreadable {p : Address} (own : ReservationReads.Since reads d steps p)
    {view : EventView} {id : UInt64} (named : view.id = id.toNat)
    (held : (id, p) ∈ (Chain.after d steps).ledger.reservations) :
    (∃ item, itemOf (fun event => getReservation reads event.id p.strkey) view = some item) ∨
      isUnreadable (fun event => getReservation reads event.id p.strkey) view = true := by
  unfold itemOf isUnreadable
  dsimp only
  cases read : getReservation reads view.id p.strkey with
  | error thrown => exact .inr rfl
  | ok answer =>
    cases answer with
    | some reservation => exact .inl ⟨_, rfl⟩
    | none =>
      obtain ⟨found, answered, same⟩ := getReservation_ok read
      rw [named] at answered
      obtain ⟨more, lookup⟩ := own id found answered
      obtain ⟨r, stored⟩ := Finmap.mem_iff.mp held
      obtain ⟨r', stored', _⟩ := (later_of_more d steps more).reservation (id, p) r stored
      cases lookup.symm.trans stored'
      cases same

/-- The reservations of the account, that of the newest event first: each was stored at some
moment, under the event it is listed with. Of those that were there from the start, at most as
many are missing as are counted as unreadable. -/
structure Held (decodeText : List UInt8 → String) (d : Deployment tok)
    (steps : List (Step contract)) (p : Address) (snapshot : ReservationsSnapshot) : Prop where
  ordered : snapshot.items.Pairwise fun a b => b.event.id < a.event.id
  own : ∀ item ∈ snapshot.items, ∃ id, Stored decodeText d steps id item.event ∧
    AtSome d steps fun l => ∃ r, l.reservations.lookup (id, p) = some r ∧
      item.reservation = toReservationView r
  complete : ∀ ids : List UInt64, ids.Nodup →
    (∀ id ∈ ids, (id, p) ∈ (Chain.after d steps).ledger.reservations ∧
      ∀ item ∈ snapshot.items, item.event.id ≠ id.toNat) →
    ids.length ≤ snapshot.unreadable

theorem loadReservations_own {p : Address} (since : client.Since decodeText d steps)
    (own : ReservationReads.Since reads d steps p)
    (small : ∀ n, client.getEventCount = .success n → n.toNat < 2 ^ 53)
    {getLedgerNow : Except ReadError Nat} {snapshot : ReservationsSnapshot}
    (loaded : loadReservations client decodeText reads getLedgerNow p.strkey = .ok snapshot) :
    Held decodeText d steps p snapshot := by
  obtain ⟨events, listed, items, unreadable⟩ := loadReservations_ok loaded
  obtain ⟨ordered, stored, complete⟩ := listed_since since small listed
  refine ⟨?_, ?_, ?_⟩
  all_goals rw [items]
  · apply List.Pairwise.filterMap _ _ ordered
    intro a b before item here item' here'
    rw [(itemOf_some here).1, (itemOf_some here').1]
    exact before
  · intro item member
    obtain ⟨view, among, here⟩ := List.mem_filterMap.mp member
    obtain ⟨same, reservation, read, told⟩ := itemOf_some here
    obtain ⟨id, isStored⟩ := stored view among
    obtain ⟨found, answered, viewed⟩ := getReservation_ok read
    obtain ⟨r, rfl, rfl⟩ := Option.map_eq_some_iff.mp viewed.symm
    rw [isStored.id] at answered
    obtain ⟨more, lookup⟩ := own id (some r) answered
    exact ⟨id, same ▸ isStored, more, r, lookup, told⟩
  · intro ids distinct missing
    rw [unreadable]
    have among : ids.map (fun id => (id.toNat : Int)) ⊆
        (events.filter (isUnreadable fun event =>
          getReservation reads event.id p.strkey)).map EventView.id := by
      intro n member
      obtain ⟨id, here, rfl⟩ := List.mem_map.mp member
      obtain ⟨held, hidden⟩ := missing id here
      obtain ⟨r, stored⟩ := Finmap.mem_iff.mp held
      obtain ⟨e, b⟩ := (Chain.after_wellFormed d steps).backed stored
      obtain ⟨view, listed, named⟩ := complete id (Finmap.mem_of_lookup_eq_some b.found)
      rcases shown_or_unreadable own named held with ⟨item, shown⟩ | unreadable
      · have told := hidden item (List.mem_filterMap.mpr ⟨view, listed, shown⟩)
        rw [(itemOf_some shown).1] at told
        exact absurd named told
      · exact List.mem_map.mpr ⟨view, List.mem_filter.mpr ⟨listed, unreadable⟩, named⟩
    have nodup : (ids.map fun id => (id.toNat : Int)).Nodup := by
      apply distinct.map
      intro a b same
      exact UInt64.toNat_inj.mp (Int.ofNat_inj.mp same)
    have fewer := (List.subperm_of_subset nodup among).length_le
    rw [List.length_map, List.length_map] at fewer
    rw [List.countP_eq_length_filter]
    exact fewer

/-- What one node says. -/
def ReservationReads.ofChain (d : Deployment tok) (steps : List (Step contract)) :
    ReservationReads := fun eventId participant =>
  if named : participant ≠ "" then
    match U64.ofInt? eventId with
    | some id =>
      .success ((Chain.after d steps).ledger.reservations.lookup (id, ⟨participant, named⟩))
    | none => .unsimulated
  else .unsimulated

theorem ReservationReads.ofChain_eq {p : Address} {eventId : Int} {id : UInt64}
    (encoded : U64.ofInt? eventId = some id) :
    ofChain d steps eventId p.strkey =
      .success ((Chain.after d steps).ledger.reservations.lookup (id, p)) := by
  simp only [ofChain, dif_pos p.nonempty, encoded]

theorem ReservationReads.ofChain_since (d : Deployment tok) (steps : List (Step contract))
    (p : Address) : Since (ofChain d steps) d steps p := by
  intro id found answered
  refine ⟨[], ?_⟩
  rw [List.append_nil]
  rw [ofChain_eq (U64.ofInt?_eq_some.mpr rfl)] at answered
  exact Read.success.inj answered

theorem EventReads.ofChain_since (d : Deployment tok) (steps : List (Step contract)) :
    (EventReads.ofChain (fun _ => ⟨some 1, []⟩) d steps).Since decodeText d steps where
  count n answered := by
    refine ⟨[], ?_⟩
    rw [List.append_nil]
    cases answered
    rfl
  event id e answered := by
    refine ⟨[], ?_⟩
    rw [EventReads.ofChain_getEvent (U64.ofInt?_eq_some.mpr rfl)] at answered
    rw [List.append_nil]
    cases here : (Chain.after d steps).ledger.getEvent id <;> rw [here] at answered <;>
      cases answered
    exact here
  missing id error read _ := by
    refine ⟨[], ?_⟩
    rw [List.append_nil]
    cases here : (Chain.after d steps).ledger.getEvent id with
    | ok e =>
      rw [Client.getEvent, EventReads.ofChain_getEvent (U64.ofInt?_eq_some.mpr rfl), here] at read
      cases read
    | error refusal =>
      have absent := here
      unfold Ledger.getEvent at here
      split at here <;> cases here
      exact absent

end Listed

end ShowUp.Client

import ShowUp.Client.AsyncData
import ShowUp.Client.OwnLists

/-!
# The pages of an account

`app/organizer/page.tsx` and `app/reservations/page.tsx` load their lists with `useAsyncData`,
under the connected account as the key. A list is of the account its load was started for. When
another account is connected after the list has come, it stays until the next load is through.
-/

namespace ShowUp.Client

set_option autoImplicit false

open Runs

/-- `ρ` is what the reads of one load come back with. -/
inductive OwnPageInput (ρ : Type) where
  | render (address : Option Address)
  | flush
  | reload
  | unmount
  | answers (j : Nat) (reads : ρ)

namespace OwnPage

variable {δ ρ : Type} (load : ρ → Address → Except ReadError δ)

/-- What the hook hears of: `useAsyncData(load, [address], { enabled: Boolean(address) })` -/
def hookInput (s : Hook (Option Address) δ ReadError) :
    OwnPageInput ρ → Option (HookInput (Option Address) δ ReadError)
  | .render address => some (.render address.isSome address)
  | .flush => some .flush
  | .reload => some .reload
  | .unmount => some .unmount
  | .answers j reads =>
    match s.loads[j]? with
    | some ⟨some address, _, _⟩ => some (.complete j (load reads address))
    | _ => none

def step (s : Hook (Option Address) δ ReadError) (i : OwnPageInput ρ) :
    Hook (Option Address) δ ReadError :=
  match hookInput load s i with
  | some heard => s.step heard
  | none => s

def after (inputs : List (OwnPageInput ρ)) : Hook (Option Address) δ ReadError :=
  run (step load) .initial inputs

/-- The connected account, and the list the page shows to it. -/
def shown (s : Hook (Option Address) δ ReadError) : Option (Address × δ) :=
  match s.mounted, s.rendered, s.state with
  | true, some ⟨true, _, some address⟩, .ready data => some (address, data)
  | _, _, _ => none

/-- Another account is connected in time for the hook. -/
def Timely (s : Hook (Option Address) δ ReadError) (i : OwnPageInput ρ) : Prop :=
  ∀ heard, hookInput load s i = some heard → s.Timely heard

variable {load} {inputs : List (OwnPageInput ρ)} {s : Hook (Option Address) δ ReadError}

theorem shown_cases {q : Address} {data : δ} (here : shown s = some (q, data)) :
    s.mounted = true ∧ (∃ attempt, s.rendered = some ⟨true, attempt, some q⟩) ∧
      s.state = .ready data := by
  unfold shown at here
  split at here
  · rename_i attempt address value mounted rendered state
    cases here
    exact ⟨mounted, ⟨attempt, rendered⟩, state⟩
  · cases here

theorem step_sourced {Good : Address → δ → Prop}
    (h : s.Sourced fun key data => ∃ p, key = some p ∧ Good p data) (i : OwnPageInput ρ)
    (given : ∀ j reads, i = .answers j reads → ∀ p data, load reads p = .ok data → Good p data) :
    (step load s i).Sourced fun key data => ∃ p, key = some p ∧ Good p data := by
  unfold step
  cases i with
  | answers j reads =>
    unfold hookInput
    dsimp only
    split
    · rename_i heard eq
      split at eq
      · rename_i address cancelled pending held
        cases eq
        refine h.step _ ?_
        intro k data key same here
        injection same with place outcome
        subst place
        cases held.symm.trans here
        exact ⟨address, rfl, given j reads rfl address data outcome⟩
      · cases eq
    · exact h
  | _ => exact h.step _ fun _ _ _ same => by cases same

theorem step_consistent (i : OwnPageInput ρ) (h : s.Consistent) (timely : Timely load s i) :
    (step load s i).Consistent := by
  unfold step
  split
  · rename_i heard eq
    exact Hook.consistent_step s heard h (timely heard eq)
  · exact h

/-- What is shown was loaded for some account, and for the connected one if the accounts change
in time. -/
theorem shown_loaded {Good : Address → δ → Prop}
    (given : ∀ j reads, .answers j reads ∈ inputs →
      ∀ p data, load reads p = .ok data → Good p data)
    {q : Address} {data : δ} (here : shown (after load inputs) = some (q, data)) :
    ∃ p, (after load inputs).source = some (some p) ∧ Good p data ∧
      (Along (step load) (Timely load) .initial inputs → p = q) := by
  obtain ⟨mounted, ⟨attempt, rendered⟩, ready⟩ := shown_cases here
  have answered : Along (step load) (fun _ i => ∀ j reads, i = .answers j reads →
      ∀ p data, load reads p = .ok data → Good p data) .initial inputs := by
    apply along_of_forall
    rintro i member j reads rfl
    exact given j reads member
  have sourced : (after load inputs).Sourced fun key data => ∃ p, key = some p ∧ Good p data :=
    run_invariant_along (P := Hook.Sourced fun key data => ∃ p, key = some p ∧ Good p data)
      (fun _ i h good => step_sourced h i good) (fun _ ready => by cases ready) answered
  obtain ⟨_, source, p, rfl, good⟩ := sourced data ready
  refine ⟨p, source, good, ?_⟩
  intro timely
  have consistent : (after load inputs).Consistent :=
    run_invariant_along (P := Hook.Consistent) (fun _ i h timely => step_consistent i h timely)
      Hook.consistent_initial timely
  have belongs := consistent.belongs mounted attempt (some q) rendered
    (by rw [ready]; exact fun loading => by cases loading)
  cases source.symm.trans belongs
  rfl

/-- A load that comes through under one account is shown. -/
theorem shown_first {address : Address} {reads : ρ} {data : δ}
    (loaded : load reads address = .ok data) :
    shown (after load [.render (some address), .flush, .answers 0 reads]) =
      some (address, data) := by
  have heard : after load [.render (some address), .flush, .answers 0 reads] =
      (after load [.render (some address), .flush]).complete 0 (load reads address) := rfl
  rw [heard, loaded]
  rfl

end OwnPage

section Organizer
variable {tok : Token} {contract : Address} (decodeText : List UInt8 → String)

def organizerLoad (client : EventReads) (address : Address) : Except ReadError (List EventView) :=
  loadOrganized client decodeText address.strkey

/-- The organizer's page, whichever accounts are connected and however often it loads: the events
shown are those of the account the load was started for, which is the connected one where the
accounts change in time. -/
theorem organizer_sees_own_events (d : Deployment tok) (steps : List (Step contract))
    (inputs : List (OwnPageInput EventReads))
    (since : ∀ j client, .answers j client ∈ inputs → client.Since decodeText d steps ∧
      ∀ n, client.getEventCount = .success n → n.toNat < 2 ^ 53)
    {q : Address} {events : List EventView}
    (shown : OwnPage.shown (OwnPage.after (organizerLoad decodeText) inputs) = some (q, events)) :
    ∃ p, (OwnPage.after (organizerLoad decodeText) inputs).source = some (some p) ∧
      Organized decodeText d steps p events ∧
      (Along (OwnPage.step (organizerLoad decodeText)) (OwnPage.Timely (organizerLoad decodeText))
        .initial inputs → p = q) := by
  apply OwnPage.shown_loaded _ shown
  intro j client member p events loaded
  obtain ⟨reads, small⟩ := since j client member
  exact loadOrganized_own reads small loaded

/-- One node, of which nothing has changed since the guest's reservations. -/
def twoEventsReads : EventReads :=
  EventReads.ofChain (fun _ => ⟨some 1, []⟩) Scenario.deployment Scenario.twoEvents

theorem twoEventsReads_small (n : UInt64)
    (answered : twoEventsReads.getEventCount = .success n) : n.toNat < 2 ^ 53 := by
  cases answered
  decide

def eventOfTwo (id : UInt64) : EventView :=
  toEventView (fun _ => "title") { Scenario.args.toEvent id with reservedCount := 1 }

theorem twoEvents_listed : (listEvents twoEventsReads (fun _ => "title") none).result =
    .ok [eventOfTwo 2, eventOfTwo 1] := by
  rw [listEvents_eq (n := 2) rfl]
  rfl

theorem organizer_sees_own_events_twoEvents : ∃ newer older,
    OwnPage.shown (OwnPage.after (organizerLoad fun _ => "title")
      [.render (some Scenario.organizer), .flush, .answers 0 twoEventsReads]) =
        some (Scenario.organizer, [newer, older]) ∧ older.id < newer.id := by
  have loaded : organizerLoad (fun _ => "title") twoEventsReads Scenario.organizer =
      .ok [eventOfTwo 2, eventOfTwo 1] := by
    rw [organizerLoad, loadOrganized, twoEvents_listed]
    rfl
  have shown : OwnPage.shown (OwnPage.after (organizerLoad fun _ => "title")
      [.render (some Scenario.organizer), .flush, .answers 0 twoEventsReads]) =
        some (Scenario.organizer, [eventOfTwo 2, eventOfTwo 1]) := OwnPage.shown_first loaded
  have since : ∀ j client, OwnPageInput.answers j client ∈
      [.render (some Scenario.organizer), .flush, .answers 0 twoEventsReads] →
      client.Since (fun _ => "title") Scenario.deployment Scenario.twoEvents ∧
        ∀ n, client.getEventCount = .success n → n.toNat < 2 ^ 53 := by
    intro j client member
    simp only [List.mem_cons, reduceCtorEq, false_or, List.not_mem_nil, or_false,
      OwnPageInput.answers.injEq] at member
    rw [member.2]
    exact ⟨EventReads.ofChain_since Scenario.deployment Scenario.twoEvents, twoEventsReads_small⟩
  obtain ⟨p, _, organized, _⟩ := organizer_sees_own_events _ _ _ _ since shown
  exact ⟨_, _, shown, (List.pairwise_cons.mp organized.ordered).1 _ List.mem_cons_self⟩

end Organizer

section Guest
variable {tok : Token} {contract : Address} (decodeText : List UInt8 → String)

/-- What one load of the guest's page asks for. -/
structure GuestReads where
  client : EventReads
  reservations : ReservationReads
  ledgerNow : Except ReadError Nat

def guestLoad (reads : GuestReads) (address : Address) : Except ReadError ReservationsSnapshot :=
  loadReservations reads.client decodeText reads.reservations reads.ledgerNow address.strkey

/-- The guest's page, whichever accounts are connected and however often it loads: the
reservations shown are those of the account the load was started for, which is the connected one
where the accounts change in time. -/
theorem guest_sees_own_reservations (d : Deployment tok) (steps : List (Step contract))
    (inputs : List (OwnPageInput GuestReads))
    (since : ∀ j reads, .answers j reads ∈ inputs → reads.client.Since decodeText d steps ∧
      (∀ p, reads.reservations.Since d steps p) ∧
      ∀ n, reads.client.getEventCount = .success n → n.toNat < 2 ^ 53)
    {q : Address} {snapshot : ReservationsSnapshot}
    (shown : OwnPage.shown (OwnPage.after (guestLoad decodeText) inputs) = some (q, snapshot)) :
    ∃ p, (OwnPage.after (guestLoad decodeText) inputs).source = some (some p) ∧
      Held decodeText d steps p snapshot ∧
      (Along (OwnPage.step (guestLoad decodeText)) (OwnPage.Timely (guestLoad decodeText))
        .initial inputs → p = q) := by
  apply OwnPage.shown_loaded _ shown
  intro j reads member p snapshot loaded
  obtain ⟨events, reservations, small⟩ := since j reads member
  exact loadReservations_own events (reservations p) small loaded

def twoEventsGuestReads : GuestReads where
  client := twoEventsReads
  reservations := .ofChain Scenario.deployment Scenario.twoEvents
  ledgerNow := .ok 5

theorem guest_sees_own_reservations_twoEvents : ∃ newer older unreadable,
    OwnPage.shown (OwnPage.after (guestLoad fun _ => "title")
      [.render (some Scenario.guest), .flush, .answers 0 twoEventsGuestReads]) =
        some (Scenario.guest, ⟨5, [newer, older], unreadable⟩) ∧
      older.event.id < newer.event.id := by
  have loaded : ∃ newer older, guestLoad (fun _ => "title") twoEventsGuestReads Scenario.guest =
      .ok ⟨5, [newer, older], 0⟩ := by
    rw [guestLoad, loadReservations, twoEventsGuestReads, twoEvents_listed]
    exact ⟨_, _, rfl⟩
  obtain ⟨newer, older, loaded⟩ := loaded
  have shown := OwnPage.shown_first loaded
  have since : ∀ j reads, OwnPageInput.answers j reads ∈
      [.render (some Scenario.guest), .flush, .answers 0 twoEventsGuestReads] →
      reads.client.Since (fun _ => "title") Scenario.deployment Scenario.twoEvents ∧
        (∀ p, reads.reservations.Since Scenario.deployment Scenario.twoEvents p) ∧
        ∀ n, reads.client.getEventCount = .success n → n.toNat < 2 ^ 53 := by
    intro j reads member
    simp only [List.mem_cons, reduceCtorEq, false_or, List.not_mem_nil, or_false,
      OwnPageInput.answers.injEq] at member
    rw [member.2]
    exact ⟨EventReads.ofChain_since Scenario.deployment Scenario.twoEvents,
      ReservationReads.ofChain_since Scenario.deployment Scenario.twoEvents, twoEventsReads_small⟩
  obtain ⟨p, _, held, _⟩ := guest_sees_own_reservations _ _ _ _ since shown
  exact ⟨_, _, _, shown, (List.pairwise_cons.mp held.ordered).1 _ List.mem_cons_self⟩

end Guest

end ShowUp.Client

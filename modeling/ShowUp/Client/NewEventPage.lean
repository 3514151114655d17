import ShowUp.Client.CreateEvent
import ShowUp.Client.EventForm
import ShowUp.Client.Pages

/-!
# The page for new events

`app/organizer/events/new/page.tsx`: the form, and the write it ends in. While a write is under
way the fields and the button are disabled; the handler itself keeps no reference to it.
-/

namespace ShowUp.Client

set_option autoImplicit false

open Utf16

/-- A number that is none of the safe integers has no `u32` to be encoded as. -/
def FormInput.toInput (input : FormInput) : Option CreateEventInput :=
  match input.capacity with
  | .safe value lower upper => some {
      organizer := input.organizer
      title := input.title
      venue := input.venue
      bondAmount := input.bondAmount
      capacity := ⟨value, lower, upper⟩
      startTime := input.startTime
      checkinStart := input.checkinStart
      checkinDeadline := input.checkinDeadline
      cancellationDeadline := input.cancellationDeadline
      organizerBps := input.organizerBps
      communityBps := input.communityBps }
  | _ => none

/-- `EMPTY` -/
def emptyForm : FormValues where
  title := []
  venue := []
  bond := ofString "5.00"
  capacity := ofString "20"
  organizerShare := ofString "80"
  startTime := []
  checkinStart := []
  checkinDeadline := []
  cancellationDeadline := []

/-- What the page's handlers call. -/
structure FormHost where
  number : Text → JsNumber
  dateParse : Text → Option TimeValue
  /-- the SDK's reading of an address -/
  strkey : Text → Option Address

structure NewEventPage (tok : Token) (contract : Address) where
  /-- `about` is the form that was submitted, and what was made of it -/
  wire : Wire tok contract (FormValues × FormInput) createEvent
  address : Option Address
  canTransact : Bool
  /-- `accountAssets` -/
  assets : Option AccountAssets
  values : FormValues
  errors : FieldErrors
  tx : TxState
  /-- the event the router was sent to -/
  location : Option UInt64

inductive NewEventInput (contract : Address) where
  | outside (o : Outside contract)
  | wallet (address : Option Address) (canTransact : Bool)
  | account (assets : Option AccountAssets)
  | edit (values : FormValues)
  | schedule (values : FormValues)
  /-- `thrown` is what the client throws if it cannot encode the arguments -/
  | submit (thrown : TxError)
  | answer (k : Nat) (a : WriteAnswer UInt64)

namespace NewEventPage

variable {tok : Token} {contract : Address} (host : FormHost)

def initial (c : Chain tok contract) : NewEventPage tok contract where
  wire := .initial c
  address := none
  canTransact := false
  assets := none
  values := emptyForm
  errors := .none
  tx := .idle
  location := none

section Handlers
variable (s : NewEventPage tok contract)

def insufficientXlm : Bool :=
  s.assets.any fun assets => !assets.accountExists || assets.spendableXlm = 0

/-- The fields and the button can be used. -/
def enabled : Bool := s.canTransact && !s.insufficientXlm && !s.tx.isRunning

def onSubmit (thrown : TxError) : NewEventPage tok contract :=
  match s.address with
  | none => s
  | some address =>
    if s.insufficientXlm then s
    else
      let found := validate host.number host.dateParse s.values
      if found ≠ .none then { s with errors := found, tx := .idle }
      else
        match Client.onSubmit host.number host.dateParse s.values
            (some (ofString address.strkey)) s.insufficientXlm with
        | none => { s with errors := found }
        | some input =>
          match input.toInput.bind fun input => (toCreateEventArgs input).encode host.strkey with
          | none =>
            { s with
              errors := found
              tx := txFailureState "The event could not be created. Refresh and try again."
                thrown.translate }
          | some args =>
            { s with
              errors := found
              wire := s.wire.post (s.values, input) (.createEvent args) address
              tx := .running .simulating }

def answered (wire : Wire tok contract (FormValues × FormInput) createEvent)
    (write : Write (FormValues × FormInput) (UInt64 × Text)) : NewEventPage tok contract :=
  match write.stage with
  | .settled (.ok (eventId, hash)) =>
    { s with
      wire
      tx := .success hash ("Event #" ++ toString eventId.toNat ++ " is live on Testnet.") none
      location := some eventId }
  | .settled (.error thrown) =>
    { s with
      wire
      tx := txFailureState "The event could not be created. Refresh and try again." thrown }
  | .simulating => { s with wire, tx := .running .simulating }
  | .awaitingSignature => { s with wire, tx := .running .awaitingSignature }
  | .submitting => { s with wire, tx := .running .submitting }
  | .confirming => { s with wire, tx := .running .confirming }

end Handlers

def step (s : NewEventPage tok contract) : NewEventInput contract → NewEventPage tok contract
  | .outside o => { s with wire := s.wire.outside o }
  | .wallet address canTransact => { s with address, canTransact }
  | .account assets => { s with assets }
  | .edit values => if s.enabled then { s with values } else s
  | .schedule values =>
    if s.enabled then
      { s with
        values
        errors := { s.errors with
          startTime := none, checkinStart := none
          checkinDeadline := none, cancellationDeadline := none } }
    else s
  | .submit thrown => if s.enabled then s.onSubmit host thrown else s
  | .answer k a =>
    match s.wire.answer k a with
    | some (write, wire) => s.answered wire write
    | none => s

def after (d : Deployment tok) (steps : List (Step contract))
    (inputs : List (NewEventInput contract)) : NewEventPage tok contract :=
  Runs.run (step host) (initial (Chain.after d steps)) inputs

section Truth
variable {host : FormHost} {I : NewEventInput contract → Prop} {s : NewEventPage tok contract}

/-- The form held these values at some time. -/
def Entered (I : NewEventInput contract → Prop) (values : FormValues) : Prop :=
  values = emptyForm ∨ I (.edit values) ∨ I (.schedule values)

/-- How a creation was begun: from what had been entered, by the account that signs it. -/
structure Begun (host : FormHost) (I : NewEventInput contract → Prop)
    (w : Write (FormValues × FormInput) (UInt64 × Text)) : Prop where
  entered : Entered I w.about.1
  submitted : Client.onSubmit host.number host.dateParse w.about.1
    (some (ofString w.signer.strkey)) false = some w.about.2
  encoded : ∃ input args, w.about.2.toInput = some input ∧
    (toCreateEventArgs input).encode host.strkey = some args ∧ w.call = .createEvent args

theorem Begun.same {w w' : Write (FormValues × FormInput) (UInt64 × Text)} (begun : Begun host I w)
    (about : w'.about = w.about) (call : w'.call = w.call) (signer : w'.signer = w.signer) :
    Begun host I w' := by
  obtain ⟨entered, submitted, encoded⟩ := begun
  rw [← about] at entered submitted encoded
  rw [← signer] at submitted
  rw [← call] at encoded
  exact ⟨entered, submitted, encoded⟩

structure Sound (host : FormHost) (I : NewEventInput contract → Prop)
    (s : NewEventPage tok contract) : Prop where
  wire : s.wire.Sound
  single : s.wire.Single
  idle : s.tx.isRunning = false → s.wire.Idle
  values : Entered I s.values
  /-- the form has kept what is under way -/
  held : ∀ w ∈ s.wire.writes, w.pending = true → w.about.1 = s.values
  begun : ∀ w ∈ s.wire.writes, Begun host I w
  told : ∀ hash message amount, s.tx = .success hash message amount → ∃ w ∈ s.wire.writes,
    ∃ id, w.stage = .settled (.ok (id, hash)) ∧ s.location = some id ∧
      message = "Event #" ++ toString id.toNat ++ " is live on Testnet."

theorem Sound.initial {c : Chain tok contract} (wellFormed : c.ledger.WellFormed contract) :
    (initial c).Sound host I where
  wire := .initial wellFormed
  single _ _ found := by cases found
  idle _ _ member := by cases member
  values := .inl rfl
  held _ member := by cases member
  begun _ member := by cases member
  told _ _ _ success := by cases success

theorem Sound.outside (h : s.Sound host I) (o : Outside contract) :
    ({ s with wire := s.wire.outside o } : NewEventPage tok contract).Sound host I := by
  obtain ⟨wire, goes⟩ := h.wire.outside o
  refine ⟨wire, h.single.outside o, fun quiet => (h.idle quiet).outside o, h.values, ?_, ?_, ?_⟩
  · intro w' member pending
    obtain ⟨k, found⟩ := List.mem_iff_getElem?.mp member
    obtain ⟨w, here, same⟩ := Wire.outside_back found
    rw [same.about]
    exact h.held w (List.mem_of_getElem? here) (same.pending.symm.trans pending)
  · intro w' member
    obtain ⟨w, older, about, call, signer⟩ := goes.same w' member
    exact (h.begun w older).same about call signer
  · intro hash message amount success
    obtain ⟨w, member, id, stage, sent⟩ := h.told hash message amount success
    obtain ⟨w', member', same⟩ := Wire.outside_kept o member
    exact ⟨w', member', id, same.stage.trans stage, sent⟩

theorem Sound.onSubmit (h : s.Sound host I) (still : s.tx.isRunning = false) (thrown : TxError) :
    (s.onSubmit host thrown).Sound host I := by
  unfold NewEventPage.onSubmit
  split
  · exact h
  · rename_i address wallet
    split
    · exact h
    · rename_i funded
      dsimp only
      split
      · exact ⟨h.wire, h.single, fun _ => h.idle still, h.values, h.held, h.begun,
          fun _ _ _ success => (by cases success)⟩
      · split
        · exact ⟨h.wire, h.single, h.idle, h.values, h.held, h.begun, h.told⟩
        · rename_i form submitted
          split
          · exact ⟨h.wire, h.single, fun _ => h.idle still, h.values, h.held, h.begun,
              fun _ _ _ success => (by cases success)⟩
          · rename_i args encoded
            refine ⟨h.wire.post .., Wire.Single.post (h.idle still) _ _ _,
              fun quiet => (by cases quiet), h.values, ?_, ?_,
              fun _ _ _ success => (by cases success)⟩
            all_goals
              intro w member
              rcases List.mem_append.mp member with older | new
            · intro pending
              rw [h.idle still w older] at pending
              cases pending
            · cases List.mem_singleton.mp new
              exact fun _ => rfl
            · exact h.begun w older
            · cases List.mem_singleton.mp new
              obtain ⟨input, read, encoded⟩ := Option.bind_eq_some_iff.mp encoded
              rw [Bool.eq_false_iff.mpr funded] at submitted
              exact ⟨h.values, submitted, input, args, read, encoded, rfl⟩

theorem Sound.answered (h : s.Sound host I) {k : Nat} {a : WriteAnswer UInt64}
    {w : Write (FormValues × FormInput) (UInt64 × Text)} {wire : Wire tok contract _ createEvent}
    (reached : s.wire.answer k a = some (w, wire)) : (s.answered wire w).Sound host I := by
  obtain ⟨sound, goes⟩ := h.wire.answer reached
  obtain ⟨single, ended⟩ := h.single.answer reached
  have begun : ∀ w' ∈ wire.writes, Begun host I w' := by
    intro w' member
    obtain ⟨older, among, about, call, signer⟩ := goes.same w' member
    exact (h.begun older among).same about call signer
  have held : ∀ w' ∈ wire.writes, w'.pending = true → w'.about.1 = s.values := by
    intro w' member pending
    obtain ⟨j, found⟩ := List.mem_iff_getElem?.mp member
    obtain ⟨older, among, about, waits⟩ := Wire.answer_back reached found
    rw [about]
    exact h.held older (List.mem_of_getElem? among) (waits pending)
  have goesOn : ∀ phase, ({ s with wire, tx := .running phase } :
      NewEventPage tok contract).Sound host I := fun phase =>
    ⟨sound, single, fun quiet => (by cases quiet), h.values, held, begun,
      fun _ _ _ success => (by cases success)⟩
  unfold NewEventPage.answered
  cases stage : w.stage with
  | simulating => exact goesOn .simulating
  | awaitingSignature => exact goesOn .awaitingSignature
  | submitting => exact goesOn .submitting
  | confirming => exact goesOn .confirming
  | settled outcome =>
    have idle : wire.Idle := ended (by unfold Write.pending; rw [stage]; rfl)
    cases outcome with
    | error thrown =>
      exact ⟨sound, single, fun _ => idle, h.values, held, begun,
        fun _ _ _ success => (by cases success)⟩
    | ok outcome =>
      refine ⟨sound, single, fun _ => idle, h.values, held, begun, ?_⟩
      intro hash message amount success
      cases success
      exact ⟨w, List.mem_of_getElem? (Wire.answer_self reached), outcome.1, stage, rfl, rfl⟩

theorem still_of_enabled (usable : s.enabled = true) : s.tx.isRunning = false := by
  simpa [enabled] using (Bool.and_eq_true_iff.mp usable).2

theorem Sound.entered (h : s.Sound host I) (usable : s.enabled = true) {values : FormValues}
    (errors : FieldErrors) (entered : Entered I values) :
    ({ s with values, errors } : NewEventPage tok contract).Sound host I := by
  have idle := h.idle (still_of_enabled usable)
  refine ⟨h.wire, h.single, h.idle, entered, ?_, h.begun, h.told⟩
  intro w member pending
  rw [idle w member] at pending
  cases pending

theorem Sound.next (h : s.Sound host I) (i : NewEventInput contract) (given : I i) :
    (step host s i).Sound host I := by
  cases i with
  | outside o => exact h.outside o
  | wallet | account => exact ⟨h.wire, h.single, h.idle, h.values, h.held, h.begun, h.told⟩
  | edit values =>
    simp only [step]
    split
    · rename_i usable
      exact h.entered usable s.errors (.inr (.inl given))
    · exact h
  | schedule values =>
    simp only [step]
    split
    · rename_i usable
      exact h.entered usable _ (.inr (.inr given))
    · exact h
  | submit thrown =>
    simp only [step]
    split
    · rename_i usable
      exact h.onSubmit (still_of_enabled usable) thrown
    · exact h
  | answer k a =>
    cases reached : s.wire.answer k a with
    | none =>
      simp only [step, reached]
      exact h
    | some both =>
      simp only [step, reached]
      exact h.answered reached

variable (host) in
theorem Sound.reached (d : Deployment tok) (steps : List (Step contract))
    (inputs : List (NewEventInput contract)) :
    (after host d steps inputs).Sound host (· ∈ inputs) :=
  Runs.run_invariant_along (fun _ i h given => h.next i given)
    (.initial (Chain.after_wellFormed d steps))
    (Runs.along_of_forall (step host) (fun _ member => member) _)

/-- What the contract was asked to create is what the form was read as. -/
theorem Begun.carried {w : Write (FormValues × FormInput) (UInt64 × Text)} (begun : Begun host I w)
    {args : CreateEventArgs} (call : w.call = .createEvent args) :
    ∃ input, w.about.2.toInput = some input ∧ input.Carried args.organizer args := by
  obtain ⟨input, args', read, encoded, call'⟩ := begun.encoded
  cases call.symm.trans call'
  obtain ⟨organizer, valid, _⟩ := Option.bind_eq_some_iff.mp encoded
  have carried := (encode_eq_some valid).mp encoded
  rw [carried.organizer]
  exact ⟨input, read, carried⟩

/-- In every run of the page for new events: while a creation is under way the form is locked and
still holds what is being created, and there is no second one. Where a success is shown, the
browser is sent to the event that the write whose hash is shown has created for its signer, with
the terms of the form as it was entered and passed its checks. -/
theorem new_event_page_tells_the_truth (host : FormHost) (d : Deployment tok)
    (steps : List (Step contract)) (inputs : List (NewEventInput contract)) :
    let s := after host d steps inputs
    s.wire.Single ∧
    (∀ w ∈ s.wire.writes, w.pending = true → s.enabled = false ∧ s.values = w.about.1) ∧
    ∀ hash message amount, s.tx = .success hash message amount →
      ∃ w ∈ s.wire.writes, ∃ id e input rec timestamp, w.stage = .settled (.ok (id, hash)) ∧
        message = "Event #" ++ toString id.toNat ++ " is live on Testnet." ∧
        s.location = some id ∧ s.wire.now.ledger.events.lookup id = some e ∧
        w.call = .createEvent (terms e) ∧ rec ∈ s.wire.now.history ∧
        rec.env = signedBy contract timestamp w.signer ∧ rec.call = w.call ∧
        Entered (· ∈ inputs) w.about.1 ∧
        Client.onSubmit host.number host.dateParse w.about.1
          (some (ofString w.signer.strkey)) false = some w.about.2 ∧
        w.about.2.toInput = some input ∧ input.Carried w.signer (terms e) := by
  intro s
  have h := Sound.reached host d steps inputs
  refine ⟨h.single, ?_, ?_⟩
  · intro w member pending
    refine ⟨?_, (h.held w member pending).symm⟩
    by_contra usable
    rw [h.idle (still_of_enabled (Bool.not_eq_false _ ▸ usable)) w member] at pending
    cases pending
  · intro hash message amount success
    obtain ⟨w, member, id, stage, location, said⟩ := h.told hash message amount success
    obtain ⟨count, returned, landed⟩ := h.wire.carriedOut member stage
    have begun := h.begun w member
    obtain ⟨_, args, _, _, call⟩ := begun.encoded
    obtain ⟨input, read, carried⟩ := begun.carried call
    rw [call] at landed
    obtain ⟨signer, e, rec, timestamp, stored, same, recorded, env, called⟩ := landed.createEvent
    have number : id = count := of_decide_eq_true returned
    have asked : args = terms e := by
      rw [same]
      rfl
    rw [asked] at call called carried signer
    rw [signer] at carried
    rw [← number] at stored
    exact ⟨w, member, id, e, input, rec, timestamp, stage, said, location, stored, call, recorded,
      env, called.trans call.symm, begun.entered, begun.submitted, read, carried⟩

def formHost : FormHost where
  number := Scenario.numberOf
  dateParse := Scenario.dateOf
  strkey text :=
    if text = ofString Scenario.organizer.strkey then some Scenario.organizer else none

def organizerPublishes : List (NewEventInput Scenario.bond) :=
  [.wallet (some Scenario.organizer) true, .edit Scenario.formValues, .submit unnamed,
    .answer 0 (.built (.success (.ok 1))), .answer 0 (.signed (.ok ())),
    .outside (.takesIn 0 2), .answer 0 .submitted,
    .answer 0 (.sent (.ok ⟨.ok 1, some (ofString "7f"), none⟩))]

theorem new_event_page_tells_the_truth_meetup :
    let s := after formHost Scenario.deployment [] organizerPublishes
    ∃ w ∈ s.wire.writes, ∃ e rec, s.wire.now.ledger.events.lookup 1 = some e ∧
      rec ∈ s.wire.now.history ∧ rec.call = w.call ∧ w.call = .createEvent (terms e) := by
  intro s
  have shown : s.tx = .success (ofString "7f") "Event #1 is live on Testnet." none := by rfl
  obtain ⟨w, member, id, e, _, rec, _, _, _, sent, stored, call, recorded, _, called, _⟩ :=
    (new_event_page_tells_the_truth formHost Scenario.deployment [] organizerPublishes).2.2 _ _ _
      shown
  have number : s.location = some 1 := by rfl
  cases number.symm.trans sent
  exact ⟨w, member, e, rec, stored, recorded, called, call⟩

end Truth

end NewEventPage

end ShowUp.Client

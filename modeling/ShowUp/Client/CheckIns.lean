import ShowUp.Client.ScanTruth

/-!
# Check-ins from the page

What the invariant of the page says of the chain: by whom and for whom check-ins are signed,
when a success is shown, and what is shown of the guest on the screen.
-/

namespace ShowUp.Client

set_option autoImplicit false
set_option maxRecDepth 8192

open Utf16 Replicas

section Reading
variable {tok : Token} {contract : Address} {decodeText : List UInt8 → String} {id : UInt64}
  {p : Address}

/-- An attended reservation stays one. -/
def Attended (id : UInt64) (p : Address) (s : Chain tok contract) : Prop :=
  ∃ r, s.ledger.reservations.lookup (id, p) = some r ∧ r.status = .attended

section Nodes
variable {chain : Replicas (Chain tok contract)} (forward : chain.Forward Chain.Before)
include forward

theorem RecordRead.attended {view : ReservationView} (read : RecordRead id p view chain)
    (attended : view.status = .attended) : Attended id p chain.now := by
  obtain ⟨lag, found⟩ := read
  obtain ⟨r, held, rfl⟩ := Option.map_eq_some_iff.mp found
  have ended : r.status = .attended := by
    cases status : r.status <;> simp [toReservationView, toReservationStatus, status] at attended
    rfl
  have later := (forward.seen Chain.Before.refl lag).ledger
  obtain ⟨r', held', kept⟩ := later.reservation (id, p) r held
  have unlocked : r.status ≠ .locked := by
    rw [ended]
    exact fun h => by cases h
  exact ⟨r', held', (kept.ended unlocked).trans ended⟩

/-- What the organizer laid down is as it was read. -/
theorem EventRead.stored {event : EventView} (read : EventRead decodeText id event chain)
    (wellFormed : chain.now.ledger.WellFormed contract) :
    ∃ e, chain.now.ledger.events.lookup id = some e ∧
      event.id = id.toNat ∧ event.verifier = e.verifier.strkey ∧
      event.checkinStart = secondsToNumber e.checkinStart ∧
      event.checkinDeadline = secondsToNumber e.checkinDeadline := by
  obtain ⟨lag, here⟩ := read
  obtain ⟨e₀, found, rfl⟩ := Option.map_eq_some_iff.mp here
  obtain ⟨e, stored, same⟩ := (forward.seen Chain.Before.refl lag).ledger.event id e₀ found
  have named : e₀.id = id := by
    rw [← wellFormed.event stored]
    exact (same.policy.field Event.id fun _ _ => rfl).symm
  refine ⟨e, stored, ?_, ?_, ?_, ?_⟩
  · rw [← named]
    rfl
  · rw [same.policy.field Event.verifier fun _ _ => rfl]
    rfl
  · rw [same.policy.field Event.checkinStart fun _ _ => rfl]
    rfl
  · rw [same.policy.field Event.checkinDeadline fun _ _ => rfl]
    rfl

end Nodes

theorem Candidate.of_alreadyCheckedIn {c : Candidate} {event : EventView}
    (shown : c.notice event = .alreadyCheckedIn) : c.reservation.status = .attended := by
  by_contra other
  unfold Candidate.notice at shown
  rw [if_neg other] at shown
  split_ifs at shown

/-- The button stands for all of the checks before it. -/
theorem Candidate.of_confirmButton {c : Candidate} {event : EventView}
    (shown : c.notice event = .confirmButton) : c.pass.eventId = event.id ∧
      c.reservation.status = .locked ∧ event.status = .active ∧
      event.checkinStart ≤ c.ledgerNow ∧ c.ledgerNow ≤ event.checkinDeadline := by
  unfold Candidate.notice at shown
  have isOpen : c.checkInOpen event = true := by
    by_contra closed
    simp only [Bool.not_eq_true] at closed
    simp only [closed] at shown
    split_ifs at shown
    contradiction
  simpa [Candidate.checkInOpen, canCheckIn, isLocked] using isOpen

end Reading

namespace ScanPage

variable {tok : Token} {contract : Address}

section Telling
variable {decodeText : List UInt8 → String} {s : ScanPage tok contract} {query : Option Text}
  {I : ScanPageInput contract → Prop} {calm : Prop}

/-- A success is of a check-in that the chain knows. -/
theorem Sound.success (h : s.Sound decodeText query I calm) {hash : Text} {message : String}
    {amount : Option (Int × String)} (shown : s.tx = .success hash message amount) :
    ∃ p r e rec timestamp, s.wire.now.ledger.reservations.lookup (s.eventId, p) = some r ∧
      r.status = .attended ∧ s.wire.now.ledger.events.lookup s.eventId = some e ∧
      rec ∈ s.wire.now.history ∧ rec.env = signedBy contract timestamp e.verifier ∧
      rec.call = .checkIn s.eventId p ∧
      rec.transfers = [⟨s.wire.now.ledger.config.token, contract, p, r.amount⟩] ∧
      (calm → ∀ c, s.candidate = some c → accountOf c.pass.participant = some p) := by
  obtain ⟨w, member, stage, own⟩ := h.told hash message amount shown
  have called := (h.calls w member).2
  obtain ⟨_, _, landed⟩ := h.wire.carriedOut member stage
  rw [called] at landed
  obtain ⟨r, e, terms, rec, timestamp, e₀, held, status, stored, agreed, recorded, env, closes,
    policy, isOpen⟩ := landed.exit (x := .checkIn)
  have verifier : w.signer = e.verifier := by
    rw [policy.field Event.verifier fun _ _ => rfl]
    have signed := isOpen.1
    rw [env] at signed
    exact (of_decide_eq_true signed).1.symm
  cases agreed
  exact ⟨w.about.2, r, e, rec, timestamp, held, status, stored, recorded, verifier ▸ env,
    closes.call_eq, closes.transfers_eq, own⟩

theorem inspectPayload_eq {raw : Text} {pass : ReservationPass}
    (decoded : decodePass raw = .ok pass) (mine : pass.eventId = s.eventId.toNat) :
    s.inspectPayload raw = { s with
      candidate := none, candidateError := none, tx := .idle, reading := true
      inspected := s.inspected + 1
      inspections := Function.update s.inspections s.inspected (some pass) } := by
  simp only [ScanPage.inspectPayload, decoded, mine, ne_eq, not_true_eq_false, if_false]

/-- An inspection, however it is begun and however it ends, leaves the writes alone. -/
theorem inspectPayload_frame (s : ScanPage tok contract) (raw : Text) :
    (s.inspectPayload raw).eventId = s.eventId ∧ (s.inspectPayload raw).wire = s.wire := by
  unfold ScanPage.inspectPayload
  split
  · exact ⟨rfl, rfl⟩
  · split <;> exact ⟨rfl, rfl⟩

theorem inspectParticipant_frame (s : ScanPage tok contract) :
    s.inspectParticipant.eventId = s.eventId ∧ s.inspectParticipant.wire = s.wire := by
  unfold ScanPage.inspectParticipant
  split
  · exact ⟨rfl, rfl⟩
  · split
    · exact inspectPayload_frame s _
    · exact ⟨rfl, rfl⟩

theorem inspectedBy_frame (s : ScanPage tok contract) (j : Nat) (pass : ReservationPass)
    (answer : Option (Nat × Nat × Option AccountAssets)) :
    (s.inspectedBy j pass answer).eventId = s.eventId ∧
      (s.inspectedBy j pass answer).wire = s.wire := by
  unfold ScanPage.inspectedBy
  split
  · split <;> exact ⟨rfl, rfl⟩
  · exact ⟨rfl, rfl⟩

variable (decodeText) in
/-- The page stays at its event, and only the click begins a write. -/
theorem step_frame (s : ScanPage tok contract) (i : ScanPageInput contract) :
    (step decodeText s i).eventId = s.eventId ∧
    ((step decodeText s i).wire = s.wire ∨
      (∃ o, (step decodeText s i).wire = s.wire.outside o) ∨
      (∃ k a w, s.wire.answer k a = some (w, (step decodeText s i).wire)) ∨
      i = .confirm ∧ ∃ c signer event now participant,
        s.Confirms c signer event now participant ∧ (step decodeText s i).wire =
          s.wire.post (event.key, participant) (.checkIn event.key participant) signer) := by
  cases i with
  | outside o => exact ⟨rfl, .inr (.inl ⟨o, rfl⟩)⟩
  | wallet | loaded | unloaded | typed => exact ⟨rfl, .inl rfl⟩
  | scanned raw => exact (inspectPayload_frame s raw).imp_right .inl
  | lookUp =>
    simp only [step]
    split
    · exact (inspectParticipant_frame s).imp_right .inl
    · exact ⟨rfl, .inl rfl⟩
  | inspection j answer =>
    simp only [step]
    split
    · exact (inspectedBy_frame s j _ answer).imp_right .inl
    · exact ⟨rfl, .inl rfl⟩
  | confirm =>
    rcases confirmCheckIn_cases s with same | ⟨c, signer, event, now, participant, goes, begun⟩
    · rw [step, same]
      exact ⟨rfl, .inl rfl⟩
    · rw [step, begun]
      exact ⟨rfl, .inr (.inr (.inr ⟨rfl, c, signer, event, now, participant, goes, rfl⟩))⟩
  | answer k a =>
    simp only [step]
    split
    · rename_i w wire reached
      have frame : (s.answered k wire w).eventId = s.eventId ∧
          (s.answered k wire w).wire = wire := by
        unfold ScanPage.answered
        split <;> exact ⟨rfl, rfl⟩
      refine ⟨frame.1, .inr (.inr (.inl ⟨k, a, w, ?_⟩))⟩
      rw [frame.2]
      exact reached
    · exact ⟨rfl, .inl rfl⟩
  | reread k answer =>
    simp only [step]
    split
    · cases answer <;> exact ⟨rfl, .inl rfl⟩
    · exact ⟨rfl, .inl rfl⟩
  | recovered k answer =>
    simp only [step]
    split <;> exact ⟨rfl, .inl rfl⟩

theorem step_kept (s : ScanPage tok contract) (i : ScanPageInput contract) :
    s.wire.Kept (step decodeText s i).wire := by
  rcases (step_frame decodeText s i).2 with
    same | ⟨o, same⟩ | ⟨k, a, w, reached⟩ | ⟨_, _, _, _, _, _, _, same⟩
  · rw [same]
    exact .refl s.wire
  · rw [same]
    exact .outside s.wire o
  · exact .answer reached
  · rw [same]
    exact .post s.wire _ _ _

/-- A write was begun by a click, and is what it was then. -/
theorem begun_of_found {s : ScanPage tok contract} {inputs : List (ScanPageInput contract)}
    (fresh : s.wire.writes = []) {k : Nat} {w : Write (UInt64 × Address) Text}
    (found : (Runs.run (step decodeText) s inputs).wire.writes[k]? = some w) :
    ∃ before rest c event now, inputs = before ++ .confirm :: rest ∧
      (Runs.run (step decodeText) s before).wire.writes.length = k ∧
      (Runs.run (step decodeText) s before).Confirms c w.signer event now w.about.2 ∧
      w.call = .checkIn event.key w.about.2 := by
  have within := (List.getElem?_eq_some_iff.mp found).1
  obtain ⟨before, i, rest, rfl, short, long⟩ := Runs.exists_flip
    (P := fun s : ScanPage tok contract => k < s.wire.writes.length) (by simp [fresh]) within
  rw [Runs.run_append, Runs.run_cons] at found
  generalize at_click : Runs.run (step decodeText) s before = s₀ at found short long
  have kept : (step decodeText s₀ i).wire.Kept
      (Runs.run (step decodeText) (step decodeText s₀ i) rest).wire :=
    Runs.run_related (R := fun a b : ScanPage tok contract => a.wire.Kept b.wire)
      (fun a => .refl a.wire) (fun first second => first.trans second) step_kept _ rest
  rcases (step_frame decodeText s₀ i).2 with
    same | ⟨o, same⟩ | ⟨j, a, w', reached⟩ | ⟨rfl, c, signer, event, now, p, goes, same⟩
  · rw [same] at long
    exact absurd long short
  · rw [same, Wire.outside_length] at long
    exact absurd long short
  · rw [Wire.answer_length reached] at long
    exact absurd long short
  · have last : s₀.wire.writes.length = k := by
      rw [same, Wire.post, List.length_append, List.length_singleton] at long
      omega
    have new : (step decodeText s₀ .confirm).wire.writes[k]? = some
        ⟨(event.key, p), .checkIn event.key p, signer, .simulating, .unsigned⟩ := by
      rw [same, ← last, Wire.post, List.getElem?_concat_length]
    obtain ⟨w', found', about, call, signed⟩ := kept k _ new
    cases found.symm.trans found'
    refine ⟨before, rest, c, event, now, rfl, at_click ▸ last, ?_, ?_⟩
    · rw [at_click, about, signed]
      exact goes
    · rw [about, call]

end Telling

/-! Two guests of one event, and the passes they bring. -/

section Guests

/-- The account of `passHolder`. -/
def holder : Address := ⟨"GAAZI4TCR3TY5OJHCTJC2A4QSY6CJWJH5IAJTGKIN2ER7LBNVKOCCWN7", by decide⟩

/-- Another guest, with an account of the same form. -/
def neighbour : Address := ⟨"GBBZI4TCR3TY5OJHCTJC2A4QSY6CJWJH5IAJTGKIN2ER7LBNVKOCCWN7", by decide⟩

def neighbourText : Text := ofString neighbour.strkey

def bothReserved : List (Step Scenario.bond) :=
  [.call (Scenario.env 1) (.createEvent { Scenario.args with capacity := 2 }),
    .call (Scenario.env 2) (.reserve 1 holder), .call (Scenario.env 3) (.reserve 1 neighbour)]

def funded : Deployment plainToken := { Scenario.deployment with state := fun _ => 100 }

/-- The first check-in is carried out, but has not been heard of yet. -/
def holderComes : List (ScanPageInput Scenario.bond) :=
  [.wallet (some Scenario.organizer) true, .loaded 0 12, .scanned (passText 1 passHolder 12),
    .inspection 0 (some (0, 12, some ⟨true, 5, 0, true⟩)), .confirm,
    .answer 0 (.built (.success (.ok ()))), .answer 0 (.signed (.ok ())),
    .outside (.takesIn 0 12), .answer 0 .submitted]

def heardOf : List (ScanPageInput Scenario.bond) :=
  [.answer 0 (.sent (.ok ⟨.ok (), some (ofString "7f"), none⟩)), .reread 0 (.ok (0, 13))]

def neighbourComes : List (ScanPageInput Scenario.bond) :=
  [.scanned (passText 1 neighbourText 12), .inspection 1 (some (0, 12, some ⟨true, 5, 0, true⟩))]

def afterReservations (inputs : List (ScanPageInput Scenario.bond)) :
    ScanPage plainToken Scenario.bond :=
  after (fun _ => "") 1 none funded bothReserved inputs

theorem pass_of_holder : PassFields 1 passHolder 12 :=
  ⟨by decide, by decide, by decide, by decide⟩

theorem pass_of_neighbour : PassFields 1 neighbourText 12 :=
  ⟨by decide, by decide, by decide, by decide⟩

theorem holder_told : (afterReservations (holderComes ++ heardOf)).tx = .success (ofString "7f")
    "Attendance confirmed. The contract refunded the participant's bond." none := by
  unfold afterReservations after holderComes
  simp only [List.cons_append, Runs.run_cons]
  rw [show step _ _ (.scanned _) = _ from inspectPayload_eq pass_of_holder.decode_eq rfl]
  rfl

end Guests

variable (decodeText : List UInt8 → String) (eventId : UInt64) (query : Option Text)

section Reached
variable (d : Deployment tok) (steps : List (Step contract))
  (inputs : List (ScanPageInput contract))

theorem after_eventId : (after decodeText eventId query d steps inputs).eventId = eventId :=
  Runs.run_invariant (P := fun s : ScanPage tok contract => s.eventId = eventId)
    (fun s i same => (step_frame decodeText s i).1.trans same) rfl inputs

/-- The run keeps to one guest at a time. -/
def CalmRun : Prop :=
  Runs.Along (step decodeText) Calm (initial eventId query (Chain.after d steps)) inputs

theorem Sound.reached {calm : Prop}
    (kept : calm → CalmRun decodeText eventId query d steps inputs) :
    (after decodeText eventId query d steps inputs).Sound decodeText query (· ∈ inputs) calm := by
  have along : Runs.Along (step decodeText) (fun s i => i ∈ inputs ∧ (calm → s.Calm i))
      (ScanPage.initial eventId query (Chain.after d steps)) inputs := by
    by_cases holds : calm
    · exact (kept holds).imp fun _ _ member free => ⟨member, fun _ => free⟩
    · have given : Runs.Along (step decodeText) (fun _ i => i ∈ inputs)
          (ScanPage.initial eventId query (Chain.after d steps)) inputs :=
        Runs.along_of_forall _ (fun _ member => member) _
      exact given.imp fun _ _ member _ => ⟨member, fun no => absurd no holds⟩
  exact Runs.run_invariant_along (P := Sound decodeText query (· ∈ inputs) calm)
    (fun _ i h given => h.next i given.1 given.2)
    (Sound.initial (Chain.after_wellFormed d steps) eventId) along

end Reached

/-- The click that begins a check-in, after the inputs `before`: the candidate `c` is on the
screen with its button, and shows the record of the guest `q`. -/
structure Click (before : List (ScanPageInput contract)) (s : ScanPage tok contract)
    (w : Write (UInt64 × Address) Text) (c : Candidate) (q : Address) : Prop where
  candidate : s.candidate = some c
  presented : Presented query (· ∈ before) c.pass
  event : c.pass.eventId = eventId.toNat
  participant : accountOf c.pass.participant = some w.about.2
  call : w.call = .checkIn eventId w.about.2
  signer : s.address = some w.signer
  locked : c.reservation.status = .locked
  record : RecordRead eventId q c.reservation s.wire.chain
  time : TimeRead (· ∈ before) c.ledgerNow
  shown : ∃ event now, s.state = some (event, now) ∧ s.confirmShown event c = true ∧
    event.status = .active ∧ EventRead decodeText eventId event s.wire.chain
  window : ∃ e, s.wire.now.ledger.events.lookup eventId = some e ∧ w.signer = e.verifier ∧
    secondsToNumber e.checkinStart ≤ c.ledgerNow ∧
    c.ledgerNow ≤ secondsToNumber e.checkinDeadline

/-- In a calm run the record is of the guest who is checked in. -/
theorem Sound.click {before : List (ScanPageInput contract)} {s : ScanPage tok contract}
    {calm : Prop} (h : s.Sound decodeText query (· ∈ before) calm) (here : s.eventId = eventId)
    {c : Candidate} {event : EventView} {now : Nat} {w : Write (UInt64 × Address) Text}
    (goes : s.Confirms c w.signer event now w.about.2)
    (called : w.call = .checkIn event.key w.about.2) :
    ∃ q, Click decodeText eventId query before s w c q ∧ (calm → q = w.about.2) := by
  have button := goes.button
  simp only [ScanPage.confirmShown, Bool.and_eq_true, decide_eq_true_eq] at button
  obtain ⟨⟨⟨⟨authorized, _⟩, _⟩, notice⟩, _⟩ := button
  obtain ⟨same, locked, active, opened, closes⟩ := Candidate.of_confirmButton notice
  obtain ⟨p, q, checked⟩ := h.candidate c goes.candidate
  cases checked.named.symm.trans goes.named
  have read := h.state event now goes.state
  rw [here] at checked read
  obtain ⟨e, stored, named, verifies, start, deadline⟩ :=
    read.stored h.wire.forward h.wire.wellFormed
  have verifier : event.verifier = w.signer.strkey := by
    simpa [ScanPage.authorized, goes.state, goes.address, eq_comm] using authorized
  have key : event.key = eventId := by
    obtain ⟨lag, found⟩ := read
    exact (readEvent_later (h.wire.before lag).ledger h.wire.wellFormed found).1
  refine ⟨q, ⟨goes.candidate, checked.presented, same.trans named, goes.named, key ▸ called,
    goes.address, locked, checked.record, checked.time,
    ⟨event, now, goes.state, goes.button, active, read⟩, e, stored,
    Address.strkey_inj.mp (verifier.symm.trans verifies), ?_, ?_⟩, checked.own⟩
  · rw [← start]
    exact opened
  · rw [← deadline]
    exact closes

/-- In every run, whatever others do and the wallet does, and however many passes are presented
in the meantime: each check-in is begun by a click on the candidate that is then on the screen. It
is signed by the event's verifier, for the account of that candidate's pass, which was presented
for this event. The record on the screen was locked, and the ledger time read with it is in the
event's window. One check-in is under way at a time, and while it is the page is busy, also when
another inspection has brought the button back. -/
theorem check_ins_are_earned (d : Deployment tok) (steps : List (Step contract))
    (inputs : List (ScanPageInput contract)) :
    let s := after decodeText eventId query d steps inputs
    (∀ k w, s.wire.writes[k]? = some w → ∃ before rest c q,
      inputs = before ++ .confirm :: rest ∧
      (after decodeText eventId query d steps before).wire.writes.length = k ∧
      Click decodeText eventId query before (after decodeText eventId query d steps before)
        w c q) ∧
    (∀ j k, s.Active j → s.Active k → j = k) ∧ ∀ k, s.Active k → s.txBusy = true := by
  have h := Sound.reached decodeText eventId query d steps inputs (@False.elim _)
  refine ⟨?_, h.alone, ?_⟩
  · intro k w found
    obtain ⟨before, rest, c, event, now, split, count, goes, called⟩ :=
      begun_of_found (s := initial eventId query (Chain.after d steps)) rfl found
    obtain ⟨q, click, _⟩ := (Sound.reached decodeText eventId query d steps before
      (@False.elim _)).click _ _ _ (after_eventId ..) goes called
    exact ⟨before, rest, c, q, split, count, click⟩
  · intro k active
    by_contra free
    exact h.idle (Bool.not_eq_true _ ▸ free) k active

/-- In every run: where the page tells of a check-in, a guest of the event has attended, checked
in by the verifier with no other signature, and has been paid the whole bond. Where it shows
"Already checked in", a guest of the event has attended. -/
theorem tells_the_truth (d : Deployment tok) (steps : List (Step contract))
    (inputs : List (ScanPageInput contract)) :
    let s := after decodeText eventId query d steps inputs
    (∀ hash message amount, s.tx = .success hash message amount → ∃ p r e rec timestamp,
      s.wire.now.ledger.reservations.lookup (eventId, p) = some r ∧ r.status = .attended ∧
      s.wire.now.ledger.events.lookup eventId = some e ∧ rec ∈ s.wire.now.history ∧
      rec.env = signedBy contract timestamp e.verifier ∧ rec.call = .checkIn eventId p ∧
      rec.transfers = [⟨s.wire.now.ledger.config.token, contract, p, r.amount⟩]) ∧
    (∀ c event, s.candidate = some c → c.notice event = .alreadyCheckedIn →
      ∃ p, Attended eventId p s.wire.now) := by
  have h := Sound.reached decodeText eventId query d steps inputs (@False.elim _)
  have here := after_eventId decodeText eventId query d steps inputs
  refine ⟨?_, ?_⟩
  · intro hash message amount shown
    obtain ⟨p, r, e, rec, timestamp, held, status, stored, recorded, env, call, paid, _⟩ :=
      h.success shown
    rw [here] at held stored call
    exact ⟨p, r, e, rec, timestamp, held, status, stored, recorded, env, call, paid⟩
  · intro c event shown notice
    obtain ⟨_, q, checked⟩ := h.candidate c shown
    rw [here] at checked
    exact ⟨q, checked.record.attended h.wire.forward (Candidate.of_alreadyCheckedIn notice)⟩

theorem tells_the_truth_holder : ∃ p r,
    (afterReservations (holderComes ++ heardOf)).wire.now.ledger.reservations.lookup (1, p) =
      some r ∧ r.status = .attended := by
  obtain ⟨p, r, _, _, _, held, status, _⟩ :=
    (tells_the_truth (fun _ => "") 1 none funded bothReserved (holderComes ++ heardOf)).1 _ _ _
      holder_told
  exact ⟨p, r, held, status⟩

/-- In a calm run all of it is about one guest: the record on the screen is of the account that
the pass names, what is told is of that account, and a check-in is begun by a click on the
candidate whose record, locked, is of the account that is checked in. -/
theorem calm_run_keeps_to_the_guest (d : Deployment tok) (steps : List (Step contract))
    (inputs : List (ScanPageInput contract))
    (calm : CalmRun decodeText eventId query d steps inputs) :
    let s := after decodeText eventId query d steps inputs
    (∀ c, s.candidate = some c → ∃ p, accountOf c.pass.participant = some p ∧
      RecordRead eventId p c.reservation s.wire.chain ∧
      (c.reservation.status = .attended → Attended eventId p s.wire.now) ∧
      (∀ hash message amount, s.tx = .success hash message amount →
        Attended eventId p s.wire.now)) ∧
    ∀ k w, s.wire.writes[k]? = some w → ∃ before rest c, inputs = before ++ .confirm :: rest ∧
      (after decodeText eventId query d steps before).wire.writes.length = k ∧
      Click decodeText eventId query before (after decodeText eventId query d steps before)
        w c w.about.2 := by
  have h := Sound.reached decodeText eventId query d steps inputs (fun _ : True => calm)
  have here := after_eventId decodeText eventId query d steps inputs
  refine ⟨?_, ?_⟩
  · intro c shown
    obtain ⟨p, q, checked⟩ := h.candidate c shown
    rw [here] at checked
    obtain rfl := checked.own trivial
    refine ⟨q, checked.named, checked.record, checked.record.attended h.wire.forward, ?_⟩
    intro hash message amount told
    obtain ⟨p, r, _, _, _, held, status, _, _, _, _, _, own⟩ := h.success told
    cases checked.named.symm.trans (own trivial c shown)
    rw [here] at held
    exact ⟨r, held, status⟩
  · intro k w found
    obtain ⟨before, rest, c, event, now, rfl, count, goes, called⟩ :=
      begun_of_found (s := initial eventId query (Chain.after d steps)) rfl found
    have calm_before : CalmRun decodeText eventId query d steps before :=
      ((Runs.along_append (step decodeText) Calm _ before _).mp calm).1
    obtain ⟨q, click, own⟩ := (Sound.reached decodeText eventId query d steps before
      (fun _ : True => calm_before)).click _ _ _ (after_eventId ..) goes called
    exact ⟨before, rest, c, rfl, count, own trivial ▸ click⟩

theorem calm_run_keeps_to_the_guest_holder :
    Attended 1 holder (afterReservations (holderComes ++ heardOf)).wire.now := by
  have calm : CalmRun (fun _ => "") 1 none funded bothReserved (holderComes ++ heardOf) := by
    unfold CalmRun holderComes heardOf
    simp only [List.cons_append, List.nil_append, Runs.Along]
    refine ⟨trivial, trivial, ⟨fun _ => rfl, rfl⟩, trivial, trivial, trivial, trivial, trivial,
      trivial, trivial, trivial, trivial⟩
  have shown : ∃ c, (afterReservations (holderComes ++ heardOf)).candidate = some c ∧
      accountOf c.pass.participant = some holder := by
    unfold afterReservations after holderComes
    simp only [List.cons_append, Runs.run_cons]
    rw [show step _ _ (.scanned _) = _ from inspectPayload_eq pass_of_holder.decode_eq rfl]
    exact ⟨_, rfl, rfl⟩
  obtain ⟨c, shown, named⟩ := shown
  obtain ⟨p, named', _, _, told⟩ := (calm_run_keeps_to_the_guest _ _ _ _ _ _ calm).1 c shown
  cases named.symm.trans named'
  exact told _ _ _ holder_told

/-- In haste it is not: the neighbour's pass is inspected before the holder's check-in is heard of,
and is then shown with the holder's record, as if the neighbour were checked in already. -/
example : ∃ c, (afterReservations (holderComes ++ neighbourComes ++ heardOf)).candidate = some c ∧
    accountOf c.pass.participant = some neighbour ∧ c.reservation.status = .attended ∧
    c.reservation.participant = holder.strkey := by
  unfold afterReservations after holderComes neighbourComes
  simp only [List.cons_append, List.nil_append, Runs.run_cons]
  rw [show step _ _ (.scanned (passText 1 passHolder 12)) = _ from
    inspectPayload_eq pass_of_holder.decode_eq rfl]
  rw [show step _ _ (.scanned (passText 1 neighbourText 12)) = _ from
    inspectPayload_eq pass_of_neighbour.decode_eq rfl]
  exact ⟨_, rfl, rfl, rfl, rfl⟩

end ScanPage

end ShowUp.Client

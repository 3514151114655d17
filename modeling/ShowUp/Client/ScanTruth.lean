import ShowUp.Client.ScanPage

/-!
# What the check-in page does for a guest

One invariant for all runs. What it says of a guest's own record is said for calm runs
only: those in which no pass is presented while another is inspected or a check-in is under
way. Otherwise the record of one guest may be shown with the pass of another.
-/

namespace ShowUp.Client

set_option autoImplicit false

open Utf16 Replicas

section Facts
variable {tok : Token} {contract : Address}

/-- A node shows, or once showed, the guest's reservation like this. -/
def RecordRead (id : UInt64) (p : Address) (view : ReservationView)
    (chain : Replicas (Chain tok contract)) : Prop :=
  chain.Shown fun s => readReservation s.ledger id p = some view

def EventRead (decodeText : List UInt8 → String) (id : UInt64) (event : EventView)
    (chain : Replicas (Chain tok contract)) : Prop :=
  chain.Shown fun s => readEvent decodeText s.ledger id = some event

/-- The pass came from the camera, or was made up for what was typed in or in the query. -/
def Presented (query : Option Text) (I : ScanPageInput contract → Prop)
    (pass : ReservationPass) : Prop :=
  (∃ raw, I (.scanned raw) ∧ decodePass raw = .ok pass) ∨
  ∃ participant, (I (.typed participant) ∨ query = some participant) ∧
    pass.participant = trim participant

/-- The ledger time was read for a candidate. -/
def TimeRead (I : ScanPageInput contract → Prop) (ledgerNow : Nat) : Prop :=
  (∃ j lag assets, I (.inspection j (some (lag, ledgerNow, assets)))) ∨
  ∃ k lag, I (.reread k (.ok (lag, ledgerNow)))

/-- The candidate is of a pass that was presented, its record of the chain. -/
structure Candidate.Checked (query : Option Text) (I : ScanPageInput contract → Prop)
    (calm : Prop) (id : UInt64) (c : Candidate) (p q : Address)
    (chain : Replicas (Chain tok contract)) : Prop where
  presented : Presented query I c.pass
  named : accountOf c.pass.participant = some p
  record : RecordRead id q c.reservation chain
  time : TimeRead I c.ledgerNow
  own : calm → q = p

theorem Candidate.Checked.later {query : Option Text} {I : ScanPageInput contract → Prop}
    {calm : Prop} {id : UInt64} {c : Candidate} {p q : Address}
    {chain chain' : Replicas (Chain tok contract)}
    (read : c.Checked query I calm id p q chain) (keeps : chain.Keeps chain') :
    c.Checked query I calm id p q chain' :=
  ⟨read.presented, read.named, read.record.later keeps, read.time, read.own⟩

theorem decode_encoded {eventId : Int} {participant raw : Text} {issuedAt : Double}
    (encoded : encodePass eventId participant issuedAt = .ok raw) :
    decodePass raw = .ok ⟨1, eventId, participant, issuedAt⟩ := by
  obtain ⟨event, issued, rfl, rfl, fields⟩ := fields_of_encode encoded
  rw [fields.encode_eq] at encoded
  cases encoded
  exact fields.decode_eq

end Facts

namespace ScanPage

variable {tok : Token} {contract : Address} {decodeText : List UInt8 → String}
  {s : ScanPage tok contract} {query : Option Text} {I : ScanPageInput contract → Prop}
  {calm : Prop}

/-- The check-in is under way: its write, or what follows on it. -/
def Active (s : ScanPage tok contract) (k : Nat) : Prop :=
  (∃ w : Write (UInt64 × Address) Text, s.wire.writes[k]? = some w ∧ w.pending = true) ∨
    s.follow k ≠ none

/-- One guest at a time. -/
def Calm (s : ScanPage tok contract) : ScanPageInput contract → Prop
  | .scanned _ | .lookUp => (∀ j, s.inspections j = none) ∧ s.txBusy = false
  | _ => True

structure Sound (decodeText : List UInt8 → String) (query : Option Text)
    (I : ScanPageInput contract → Prop) (calm : Prop) (s : ScanPage tok contract) : Prop where
  wire : s.wire.Sound
  state : ∀ event now, s.state = some (event, now) →
    EventRead decodeText s.eventId event s.wire.chain
  manual : s.manualParticipant = [] ∨ I (.typed s.manualParticipant) ∨
    query = some s.manualParticipant
  inspections : ∀ j pass, s.inspections j = some pass → Presented query I pass
  candidate : ∀ c, s.candidate = some c →
    ∃ p q, c.Checked query I calm s.eventId p q s.wire.chain
  calls : ∀ w ∈ s.wire.writes, w.about.1 = s.eventId ∧ w.call = .checkIn s.eventId w.about.2
  follow : ∀ k key p rest, s.follow k = some (key, p, rest) →
    ∃ w : Write (UInt64 × Address) Text, s.wire.writes[k]? = some w ∧ w.about = (key, p) ∧
      w.pending = false ∧ ∀ hash, rest = .afterSuccess hash → w.stage = .settled (.ok hash)
  alone : ∀ j k, s.Active j → s.Active k → j = k
  idle : s.txBusy = false → ∀ k, ¬ s.Active k
  told : ∀ hash message amount, s.tx = .success hash message amount →
    ∃ w ∈ s.wire.writes, w.stage = .settled (.ok hash) ∧
      (calm → ∀ c, s.candidate = some c → accountOf c.pass.participant = some w.about.2)
  /-- while a calm run inspects, nothing else goes on -/
  reading : calm → ∀ j, s.inspections j ≠ none → s.reading = true ∧ s.candidate = none ∧
    s.txBusy = false ∧ ∀ hash message amount, s.tx ≠ .success hash message amount
  single : calm → ∀ j k, s.inspections j ≠ none → s.inspections k ≠ none → j = k
  /-- in a calm run a check-in is of the candidate that is shown -/
  held : calm → ∀ k (w : Write (UInt64 × Address) Text), s.wire.writes[k]? = some w → s.Active k →
    ∃ c, s.candidate = some c ∧ accountOf c.pass.participant = some w.about.2

theorem Sound.initial {c : Chain tok contract} (wellFormed : c.ledger.WellFormed contract)
    (id : UInt64) : (initial id query c).Sound decodeText query I calm where
  wire := .initial wellFormed
  state _ _ here := by cases here
  manual := by
    cases query with
    | none => exact .inl rfl
    | some participant => exact .inr (.inr rfl)
  inspections _ _ here := by cases here
  candidate _ here := by cases here
  calls _ member := by cases member
  follow _ _ _ _ here := by cases here
  alone _ _ active _ := by rcases active with ⟨_, found, _⟩ | follows <;> contradiction
  idle _ _ active := by rcases active with ⟨_, found, _⟩ | follows <;> contradiction
  told _ _ _ success := by cases success
  reading _ _ under := absurd rfl under
  single _ _ _ under _ := absurd rfl under
  held _ _ _ found _ := by cases found

section Outside
variable {o : Outside contract}

theorem active_outside {k : Nat}
    (active : ({ s with wire := s.wire.outside o } : ScanPage tok contract).Active k) :
    s.Active k := by
  rcases active with ⟨w', found, pending⟩ | follows
  · obtain ⟨w, here, same⟩ := Wire.outside_back found
    exact .inl ⟨w, here, same.pending ▸ pending⟩
  · exact .inr follows

theorem Sound.outside (h : s.Sound decodeText query I calm) (o : Outside contract) :
    ({ s with wire := s.wire.outside o } : ScanPage tok contract).Sound
      decodeText query I calm := by
  obtain ⟨wire, goes⟩ := h.wire.outside o
  have keeps := Wire.outside_keeps (w := s.wire) o
  refine ⟨wire, fun event now here => (h.state event now here).later keeps, h.manual,
    h.inspections, ?_, ?_, ?_, ?_, ?_, ?_, h.reading, h.single, ?_⟩
  · intro c here
    obtain ⟨p, q, read⟩ := h.candidate c here
    exact ⟨p, q, read.later keeps⟩
  · intro w' member
    obtain ⟨w, older, about, call, _⟩ := goes.same w' member
    rw [about, call]
    exact h.calls w older
  · intro k key p rest here
    obtain ⟨w, found, about, ended, settled⟩ := h.follow k key p rest here
    obtain ⟨w', found', same⟩ := Wire.outside_forth o found
    exact ⟨w', found', same.about.trans about, same.pending.trans ended,
      fun hash good => same.stage.trans (settled hash good)⟩
  · exact fun j k active active' => h.alone j k (active_outside active) (active_outside active')
  · exact fun free k active => h.idle free k (active_outside active)
  · intro hash message amount success
    obtain ⟨w, member, stage, own⟩ := h.told hash message amount success
    obtain ⟨w', member', same⟩ := Wire.outside_kept o member
    exact ⟨w', member', same.stage.trans stage, by rw [same.about]; exact own⟩
  · intro isCalm k w' found active
    obtain ⟨w, here, same⟩ := Wire.outside_back found
    rw [same.about]
    exact h.held isCalm k w here (active_outside active)

end Outside

section Inspections
variable (h : s.Sound decodeText query I calm)
include h

/-- A pass that is presented clears the screen. -/
theorem Sound.cleared (free : calm → (∀ j, s.inspections j = none) ∧ s.txBusy = false)
    (reading : Bool) (error : Option String) :
    ({ s with candidate := none, candidateError := error, tx := .idle, reading } :
      ScanPage tok contract).Sound decodeText query I calm := by
  refine ⟨h.wire, h.state, h.manual, h.inspections, fun _ here => (by cases here), h.calls,
    h.follow, h.alone, h.idle, fun _ _ _ success => (by cases success), ?_, h.single, ?_⟩
  · exact fun isCalm j under => absurd ((free isCalm).1 j) under
  · exact fun isCalm k _ _ active => absurd active (h.idle (free isCalm).2 k)

theorem Sound.inspects (free : calm → (∀ j, s.inspections j = none) ∧ s.txBusy = false)
    {pass : ReservationPass} (presented : Presented query I pass) (error : Option String) :
    ({ s with
        candidate := none, candidateError := error, tx := .idle, reading := true
        inspected := s.inspected + 1
        inspections := Function.update s.inspections s.inspected (some pass) } :
      ScanPage tok contract).Sound decodeText query I calm := by
  have clear := h.cleared free true error
  have only : calm → ∀ j, Function.update s.inspections s.inspected (some pass) j ≠ none →
      j = s.inspected := by
    intro isCalm j under
    by_contra other
    rw [Function.update_of_ne other] at under
    exact under ((free isCalm).1 j)
  refine ⟨clear.wire, clear.state, clear.manual, ?_, clear.candidate, clear.calls,
    clear.follow, clear.alone, clear.idle, clear.told, ?_, ?_, clear.held⟩
  · intro j pass' here
    dsimp only at here
    by_cases new : j = s.inspected
    · rw [new, Function.update_self] at here
      cases here
      exact presented
    · rw [Function.update_of_ne new] at here
      exact h.inspections j pass' here
  · exact fun isCalm _ _ => ⟨rfl, rfl, (free isCalm).2, fun _ _ _ success => (by cases success)⟩
  · exact fun isCalm j k under under' =>
      (only isCalm j under).trans (only isCalm k under').symm

theorem Sound.inspectPayload (free : calm → (∀ j, s.inspections j = none) ∧ s.txBusy = false)
    {raw : Text} (presented : ∀ pass, decodePass raw = .ok pass → Presented query I pass) :
    (s.inspectPayload raw).Sound decodeText query I calm := by
  unfold ScanPage.inspectPayload
  cases decoded : decodePass raw with
  | error thrown => exact h.cleared free false _
  | ok pass =>
    dsimp only
    split
    · exact h.cleared free false _
    · exact h.inspects free (presented pass decoded) none

theorem Sound.inspectParticipant
    (free : calm → (∀ j, s.inspections j = none) ∧ s.txBusy = false)
    (typed : trim s.manualParticipant ≠ []) :
    s.inspectParticipant.Sound decodeText query I calm := by
  unfold ScanPage.inspectParticipant
  split
  · exact h
  · split
    · rename_i raw encoded
      apply h.inspectPayload free
      intro pass decoded
      rw [decode_encoded encoded] at decoded
      cases decoded
      refine .inr ⟨s.manualParticipant, ?_, rfl⟩
      rcases h.manual with blank | given
      · rw [blank] at typed
        exact absurd rfl typed
      · exact given
    · refine ⟨h.wire, h.state, h.manual, h.inspections, fun _ here => (by cases here), h.calls,
        h.follow, h.alone, h.idle, ?_, ?_, h.single, ?_⟩
      · intro hash message amount success
        obtain ⟨w, member, stage, _⟩ := h.told hash message amount success
        exact ⟨w, member, stage, fun _ _ here => (by cases here)⟩
      · exact fun isCalm j under => absurd ((free isCalm).1 j) under
      · exact fun isCalm k _ _ active => absurd active (h.idle (free isCalm).2 k)

/-- An inspection is over, and leaves the candidate or a text. -/
theorem Sound.inspectedBy {j : Nat} {pass : ReservationPass} (under : s.inspections j = some pass)
    {answer : Option (Nat × Nat × Option AccountAssets)} (given : I (.inspection j answer)) :
    (s.inspectedBy j pass answer).Sound decodeText query I calm := by
  have waits : s.inspections j ≠ none := by rw [under]; exact Option.some_ne_none pass
  have fewer : ∀ k pass', Function.update s.inspections j none k = some pass' →
      s.inspections k = some pass' ∧ k ≠ j := by
    intro k pass' here
    by_cases same : k = j
    · rw [same, Function.update_self] at here
      cases here
    · rw [Function.update_of_ne same] at here
      exact ⟨here, same⟩
  have last : calm → ∀ k, Function.update s.inspections j none k = none := by
    intro isCalm k
    by_contra more
    obtain ⟨pass', here⟩ := Option.ne_none_iff_exists'.mp more
    obtain ⟨here, apart⟩ := fewer k pass' here
    exact apart (h.single isCalm k j (by rw [here]; exact Option.some_ne_none pass') waits)
  have said : ∀ error, ({ s with
      reading := false, inspections := Function.update s.inspections j none
      candidateError := error } : ScanPage tok contract).Sound decodeText query I calm :=
    fun error => ⟨h.wire, h.state, h.manual,
      fun k pass' here => h.inspections k pass' (fewer k pass' here).1, h.candidate, h.calls,
      h.follow, h.alone, h.idle, h.told,
      fun isCalm k more => absurd (last isCalm k) more,
      fun isCalm k _ more => absurd (last isCalm k) more, h.held⟩
  unfold ScanPage.inspectedBy
  dsimp only
  split
  · rename_i participant lag ledgerNow assets named
    split
    · rename_i reservation here
      have done := said s.candidateError
      refine ⟨done.wire, done.state, done.manual, done.inspections, ?_, done.calls, done.follow,
        done.alone, done.idle, ?_, ?_, done.single, ?_⟩
      · intro c shown
        cases shown
        exact ⟨participant, participant, h.inspections j pass under, named, ⟨lag, here⟩,
          .inl ⟨j, lag, assets, given⟩, fun _ => rfl⟩
      · intro hash message amount success
        obtain ⟨w, member, stage, _⟩ := h.told hash message amount success
        exact ⟨w, member, stage,
          fun isCalm => absurd success ((h.reading isCalm j waits).2.2.2 hash message amount)⟩
      · exact fun isCalm k more => absurd (last isCalm k) more
      · exact fun isCalm k _ _ active => absurd active
          (h.idle (h.reading isCalm j waits).2.2.1 k)
    · exact said _
  · exact said _

end Inspections

/-- The click on the button goes through. -/
structure Confirms (s : ScanPage tok contract) (c : Candidate) (signer : Address)
    (event : EventView) (now : Nat) (participant : Address) : Prop where
  candidate : s.candidate = some c
  address : s.address = some signer
  state : s.state = some (event, now)
  named : accountOf c.pass.participant = some participant
  button : s.confirmShown event c = true
  free : s.txBusy = false

theorem confirmCheckIn_cases (s : ScanPage tok contract) : s.confirmCheckIn = s ∨
    ∃ c signer event now participant, s.Confirms c signer event now participant ∧
      s.confirmCheckIn = { s with
        wire := s.wire.post (event.key, participant) (.checkIn event.key participant) signer
        tx := .running .simulating
        txBusy := true } := by
  unfold ScanPage.confirmCheckIn
  split
  · rename_i c signer event now shown wallet ready
    split
    · rename_i participant named
      split
      · rename_i goes
        exact .inr ⟨c, signer, event, now, participant,
          ⟨shown, wallet, ready, named, goes.1, by simpa using goes.2.2.2.2⟩, rfl⟩
      · exact .inl rfl
    · exact .inl rfl
  · exact .inl rfl

section CheckIns
variable (h : s.Sound decodeText query I calm)
include h

theorem Sound.confirmCheckIn : s.confirmCheckIn.Sound decodeText query I calm := by
  rcases confirmCheckIn_cases s with same | ⟨c, signer, event, now, participant, goes, begun⟩
  · rw [same]
    exact h
  rw [begun]
  have quiet : ∀ k, ¬ s.Active k := h.idle goes.free
  obtain ⟨lag, found⟩ := h.state event now goes.state
  have key := (readEvent_later (h.wire.before lag).ledger h.wire.wellFormed found).1
  have fresh : ∀ k, ({ s with
      wire := s.wire.post (event.key, participant) (.checkIn event.key participant) signer
      tx := .running .simulating, txBusy := true } : ScanPage tok contract).Active k →
      k = s.wire.writes.length := by
    intro k active
    rcases active with ⟨w, found, pending⟩ | follows
    · rcases Nat.lt_trichotomy k s.wire.writes.length with older | same | beyond
      · rw [Wire.post, List.getElem?_append_left older] at found
        exact absurd (.inl ⟨w, found, pending⟩) (quiet k)
      · exact same
      · have within := (List.getElem?_eq_some_iff.mp found).1
        rw [Wire.post, List.length_append, List.length_singleton] at within
        omega
    · exact absurd (.inr follows) (quiet k)
  refine ⟨h.wire.post .., h.state, h.manual, h.inspections, h.candidate, ?_, ?_,
    fun j k active active' => (fresh j active).trans (fresh k active').symm,
    fun free => (by cases free), fun _ _ _ success => (by cases success), ?_, h.single, ?_⟩
  · intro w member
    rcases List.mem_append.mp member with older | new
    · exact h.calls w older
    · cases List.mem_singleton.mp new
      exact ⟨key, by rw [key]⟩
  · intro k key' p' rest here
    exact absurd (.inr (by rw [here]; exact Option.some_ne_none _)) (quiet k)
  · intro isCalm j under
    have shown := goes.candidate
    rw [(h.reading isCalm j under).2.1] at shown
    cases shown
  · intro isCalm k w found active
    have last := fresh k active
    rw [last, Wire.post, List.getElem?_concat_length] at found
    cases found
    exact ⟨c, goes.candidate, goes.named⟩

/-- The one check-in that is under way goes on: its write, or what follows on that. -/
theorem Sound.goesOn {k : Nat} {a : WriteAnswer Unit} {w : Write (UInt64 × Address) Text}
    {wire : Wire tok contract (UInt64 × Address) executeVoidWrite}
    (reached : s.wire.answer k a = some (w, wire))
    {tx : TxState} {follow : Nat → Option (UInt64 × Address × Reread)}
    (elsewhere : ∀ j, j ≠ k → follow j = s.follow j)
    (here : ∀ key p rest, follow k = some (key, p, rest) → w.about = (key, p) ∧
      w.pending = false ∧ ∀ hash, rest = .afterSuccess hash → w.stage = .settled (.ok hash))
    (told : ∀ hash message amount, tx = .success hash message amount → tx = s.tx) :
    ({ s with wire, tx, follow } : ScanPage tok contract).Sound decodeText query I calm := by
  obtain ⟨sound, goes⟩ := h.wire.answer reached
  have running : s.Active k := by
    obtain ⟨before, _, found, next, _⟩ := Wire.answer_cases reached
    exact .inl ⟨before, found, Wire.pending_of_next next⟩
  have active : ∀ j, ({ s with wire, tx, follow } : ScanPage tok contract).Active j →
      s.Active j := by
    intro j under
    rcases under with ⟨other, found, pending⟩ | follows
    · obtain ⟨older, before, _, still⟩ := Wire.answer_back reached found
      exact .inl ⟨older, before, still pending⟩
    · by_cases same : j = k
      · exact same ▸ running
      · exact .inr ((elsewhere j same) ▸ follows)
  have busy : s.txBusy = true := by
    by_contra free
    exact h.idle (Bool.not_eq_true _ ▸ free) k running
  have same_chain := Wire.answer_chain reached
  refine ⟨sound, fun event now ready => same_chain ▸ h.state event now ready, h.manual,
    h.inspections, ?_, ?_, ?_, fun j j' under under' => h.alone j j' (active j under)
      (active j' under'), fun free j under => h.idle free j (active j under), ?_, ?_, h.single, ?_⟩
  · intro c shown
    obtain ⟨p, q, read⟩ := h.candidate c shown
    exact ⟨p, q, same_chain ▸ read⟩
  · intro w' member
    obtain ⟨older, among, about, call, _⟩ := goes.same w' member
    rw [about, call]
    exact h.calls older among
  · intro j key p rest follows
    by_cases same : j = k
    · subst same
      exact ⟨w, Wire.answer_self reached, here key p rest follows⟩
    · have follows' : s.follow j = some (key, p, rest) := (elsewhere j same) ▸ follows
      have apart := h.alone j k (.inr (by rw [follows']; exact Option.some_ne_none _)) running
      exact absurd apart same
  · intro hash message amount success
    obtain ⟨w', member, stage, own⟩ :=
      h.told hash message amount ((told hash message amount success) ▸ success)
    obtain ⟨j, found⟩ := List.mem_iff_getElem?.mp member
    have ended : w'.pending = false := by rw [Write.pending, stage]; rfl
    exact ⟨w', List.mem_of_getElem? (Wire.answer_forth reached found ended), stage, own⟩
  · intro isCalm j under
    have free := (h.reading isCalm j under).2.2.1
    rw [busy] at free
    cases free
  · intro isCalm j w' found under
    obtain ⟨older, before, about, _⟩ := Wire.answer_back reached found
    rw [about]
    exact h.held isCalm j older before (active j under)

theorem Sound.answered {k : Nat} {a : WriteAnswer Unit} {w : Write (UInt64 × Address) Text}
    {wire : Wire tok contract (UInt64 × Address) executeVoidWrite}
    (reached : s.wire.answer k a = some (w, wire)) :
    (s.answered k wire w).Sound decodeText query I calm := by
  have quiet : s.follow k = none := by
    obtain ⟨before, _, found, next, _⟩ := Wire.answer_cases reached
    by_contra follows
    obtain ⟨⟨key, p, rest⟩, follows⟩ := Option.ne_none_iff_exists'.mp follows
    obtain ⟨w', found', _, ended, _⟩ := h.follow k key p rest follows
    cases found.symm.trans found'
    exact absurd (Wire.pending_of_next next) (Bool.eq_false_iff.mp ended)
  have waits : ∀ phase, ({ s with wire, tx := .running phase } :
      ScanPage tok contract).Sound decodeText query I calm := fun phase =>
    h.goesOn reached (fun _ _ => rfl)
      (fun key p rest follows => by rw [quiet] at follows; cases follows)
      (fun _ _ _ success => by cases success)
  have follows : ∀ rest, (∀ hash, rest = .afterSuccess hash → w.stage = .settled (.ok hash)) →
      w.pending = false → ({ s with
        wire
        follow := Function.update s.follow k (some (w.about.1, w.about.2, rest)) } :
      ScanPage tok contract).Sound decodeText query I calm := by
    intro rest settled ended
    refine h.goesOn reached (fun j other => Function.update_of_ne other _ _) ?_
      (fun _ _ _ _ => rfl)
    intro key p rest' here
    rw [Function.update_self] at here
    cases here
    exact ⟨rfl, ended, settled⟩
  unfold ScanPage.answered
  cases stage : w.stage with
  | simulating => exact waits .simulating
  | awaitingSignature => exact waits .awaitingSignature
  | submitting => exact waits .submitting
  | confirming => exact waits .confirming
  | settled outcome =>
    have ended : w.pending = false := by rw [Write.pending, stage]; rfl
    cases outcome with
    | ok hash =>
      refine follows _ ?_ ended
      intro hash' same
      cases same
      exact stage
    | error thrown => exact follows _ (fun _ same => by cases same) ended

section Following
variable {k : Nat} {key : UInt64} {p : Address} {rest : Reread}
  (followed : s.follow k = some (key, p, rest))
include followed

/-- In a calm run the guest who is checked in is on the screen. -/
theorem Sound.mine {c : Candidate} (shown : s.candidate = some c) :
    calm → accountOf c.pass.participant = some p := by
  intro isCalm
  obtain ⟨w, found, about, _, _⟩ := h.follow k key p rest followed
  have active : s.Active k := .inr (by rw [followed]; exact Option.some_ne_none _)
  obtain ⟨c', here, named⟩ := h.held isCalm k w found active
  cases shown.symm.trans here
  rw [named, about]

/-- The record that is read again is of the guest who is checked in. -/
theorem Sound.renewed (lag : Nat) (ledgerNow : Option Nat)
    (time : ∀ now, ledgerNow = some now → TimeRead I now) {c : Candidate}
    (shown : s.renewed lag key p ledgerNow = some c) :
    (∃ p' q, c.Checked query I calm s.eventId p' q s.wire.chain) ∧
      (calm → accountOf c.pass.participant = some p) := by
  obtain ⟨w, found, about, _, _⟩ := h.follow k key p rest followed
  have mine := fun c' here => h.mine followed (c := c') here
  unfold ScanPage.renewed at shown
  split at shown
  · rename_i reservation read
    obtain ⟨c', here, rfl⟩ := Option.map_eq_some_iff.mp shown
    obtain ⟨p', q, checked⟩ := h.candidate c' here
    refine ⟨⟨p', p, checked.presented, checked.named, ?_, ?_, ?_⟩, mine c' here⟩
    · have same : key = s.eventId := by
        rw [← (h.calls w (List.mem_of_getElem? found)).1, about]
      rw [← same]
      exact ⟨lag, read⟩
    · cases ledgerNow with
      | none => exact checked.time
      | some now => exact time now rfl
    · intro isCalm
      exact Option.some.inj ((mine c' here isCalm).symm.trans checked.named)
  · exact ⟨h.candidate c shown, mine c shown⟩

/-- The check-in is over. -/
theorem Sound.finished {candidate : Option Candidate} {tx : TxState}
    (checked : ∀ c, candidate = some c →
      (∃ p' q, c.Checked query I calm s.eventId p' q s.wire.chain) ∧
        (calm → accountOf c.pass.participant = some p))
    (told : ∀ hash message amount, tx = .success hash message amount →
      rest = .afterSuccess hash) :
    ({ s with
        candidate, tx, txBusy := false, follow := Function.update s.follow k none } :
      ScanPage tok contract).Sound decodeText query I calm := by
  obtain ⟨w, found, about, ended, settled⟩ := h.follow k key p rest followed
  have active : s.Active k := .inr (by rw [followed]; exact Option.some_ne_none _)
  have others : ∀ j, ({ s with
      candidate, tx, txBusy := false, follow := Function.update s.follow k none } :
      ScanPage tok contract).Active j → s.Active j ∧ j ≠ k := by
    intro j under
    rcases under with ⟨w', found', pending⟩ | follows
    · refine ⟨.inl ⟨w', found', pending⟩, ?_⟩
      intro same
      subst same
      cases found.symm.trans found'
      exact absurd pending (Bool.eq_false_iff.mp ended)
    · have follows : Function.update s.follow k none j ≠ none := follows
      have apart : j ≠ k := by
        intro same
        exact follows (by rw [same, Function.update_self])
      rw [Function.update_of_ne apart] at follows
      exact ⟨.inr follows, apart⟩
  have quiet : ∀ j, ¬ ({ s with
      candidate, tx, txBusy := false, follow := Function.update s.follow k none } :
      ScanPage tok contract).Active j :=
    fun j under => (others j under).2 (h.alone j k (others j under).1 active)
  refine ⟨h.wire, h.state, h.manual, h.inspections, fun c shown => (checked c shown).1, h.calls,
    ?_, fun j _ under _ => absurd under (quiet j), fun _ => quiet, ?_, ?_, h.single,
    fun _ j _ _ under => absurd under (quiet j)⟩
  · intro j key' p' rest' follows
    dsimp only at follows
    by_cases same : j = k
    · rw [same, Function.update_self] at follows
      cases follows
    · rw [Function.update_of_ne same] at follows
      exact h.follow j key' p' rest' follows
  · intro hash message amount success
    refine ⟨w, List.mem_of_getElem? found, settled hash (told hash message amount success), ?_⟩
    intro isCalm c shown
    rw [about]
    exact (checked c shown).2 isCalm
  · intro isCalm j under
    exact absurd active (h.idle (h.reading isCalm j under).2.2.1 k)

/-- What follows on a check-in has thrown, and is followed by what follows on a failure. -/
theorem Sound.rethrown (thrown : TxError) :
    ({ s with follow := Function.update s.follow k (some (key, p, .afterFailure thrown)) } :
      ScanPage tok contract).Sound decodeText query I calm := by
  have active : s.Active k := .inr (by rw [followed]; exact Option.some_ne_none _)
  have before : ∀ j, ({ s with
      follow := Function.update s.follow k (some (key, p, .afterFailure thrown)) } :
      ScanPage tok contract).Active j → s.Active j := by
    intro j under
    rcases under with ⟨w, found, pending⟩ | follows
    · exact .inl ⟨w, found, pending⟩
    · by_cases same : j = k
      · exact same ▸ active
      · exact .inr fun none => follows ((Function.update_of_ne same _ _).trans none)
  refine ⟨h.wire, h.state, h.manual, h.inspections, h.candidate, h.calls, ?_,
    fun j j' under under' => h.alone j j' (before j under) (before j' under'),
    fun free j under => h.idle free j (before j under), h.told, h.reading, h.single,
    fun isCalm j w found under => h.held isCalm j w found (before j under)⟩
  intro j key' p' rest' follows
  dsimp only at follows
  by_cases same : j = k
  · rw [same, Function.update_self] at follows
    cases follows
    obtain ⟨w, found, about, ended, _⟩ := h.follow k key p rest followed
    exact ⟨w, same ▸ found, about, ended, fun _ settled => by cases settled⟩
  · rw [Function.update_of_ne same] at follows
    exact h.follow j key' p' rest' follows

end Following

end CheckIns

/-- One step, whatever it is, with the inputs the run is made of. -/
theorem Sound.next (h : s.Sound decodeText query I calm) (i : ScanPageInput contract) (given : I i)
    (free : calm → s.Calm i) : (step decodeText s i).Sound decodeText query I calm := by
  cases i with
  | outside o => exact h.outside o
  | wallet address canTransact =>
    exact ⟨h.wire, h.state, h.manual, h.inspections, h.candidate, h.calls, h.follow, h.alone,
      h.idle, h.told, h.reading, h.single, h.held⟩
  | loaded lag ledgerNow =>
    refine ⟨h.wire, ?_, h.manual, h.inspections, h.candidate, h.calls, h.follow, h.alone,
      h.idle, h.told, h.reading, h.single, h.held⟩
    intro event now ready
    obtain ⟨event', read, same⟩ := Option.map_eq_some_iff.mp ready
    cases same
    exact ⟨lag, read⟩
  | unloaded =>
    exact ⟨h.wire, fun _ _ ready => (by cases ready), h.manual, h.inspections, h.candidate,
      h.calls, h.follow, h.alone, h.idle, h.told, h.reading, h.single, h.held⟩
  | typed participant =>
    exact ⟨h.wire, h.state, .inr (.inl given), h.inspections, h.candidate, h.calls, h.follow,
      h.alone, h.idle, h.told, h.reading, h.single, h.held⟩
  | lookUp =>
    simp only [step]
    split
    · rename_i shown
      exact h.inspectParticipant free shown.2.2
    · exact h
  | scanned raw => exact h.inspectPayload free fun pass decoded => .inl ⟨raw, given, decoded⟩
  | inspection j answer =>
    cases under : s.inspections j with
    | none =>
      simp only [step, under]
      exact h
    | some pass =>
      simp only [step, under]
      exact h.inspectedBy under given
  | confirm => exact h.confirmCheckIn
  | answer k a =>
    cases reached : s.wire.answer k a with
    | none =>
      simp only [step, reached]
      exact h
    | some both =>
      simp only [step, reached]
      exact h.answered reached
  | reread k answer =>
    simp only [step]
    split
    · rename_i key p hash followed
      cases answer with
      | ok read =>
        exact h.finished followed
          (fun c shown => h.renewed followed read.1 (some read.2)
            (fun now same => .inr ⟨k, read.1, Option.some.inj same ▸ given⟩) shown)
          (fun _ _ _ success => by cases success; rfl)
      | error thrown => exact h.rethrown followed thrown
    · exact h
  | recovered k answer =>
    simp only [step]
    split
    · rename_i key p thrown followed
      refine h.finished followed ?_ (fun _ _ _ success => by cases success)
      intro c shown
      cases answer with
      | some lag => exact h.renewed followed lag none (fun _ same => by cases same) shown
      | none => exact ⟨h.candidate c shown, h.mine followed shown⟩
    · exact h

end ScanPage

end ShowUp.Client

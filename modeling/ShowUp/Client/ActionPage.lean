import ShowUp.Client.ContractWrite

/-!
# Pages with an action on the contract

What `app/events/[id]`, `app/reservations/[id]` and `app/organizer/events/[id]` have in
common: a snapshot that is loaded and loaded again, a button that opens a confirmation, and
the confirmation's button, which starts a write. The wallet may change at any time; the
closures of a write keep what they were made with.
-/

namespace ShowUp.Client

set_option autoImplicit false

open Utf16

/-- What the page is rendered with beside the snapshot. -/
structure Surroundings (α : Type) where
  address : Option Address
  canTransact : Bool
  pending : Option α
  running : Bool

structure Page (tok : Token) (contract : Address) where
  Snapshot : Type
  /-- what a load is answered: how far behind the nodes are, and what is read elsewhere -/
  Answers : Type
  Action : Type
  load : (Nat → Ledger tok.State) → Option Address → Answers → Option Snapshot
  /-- the button that opens the action's confirmation is there -/
  offers : Snapshot → Surroundings Action → Action → Bool
  /-- the confirmation's button is there, and its handler goes through -/
  confirms : Snapshot → Surroundings Action → Action → Bool
  /-- none for a participant the client could not name -/
  call : Snapshot → Address → Action → Option Call
  message : Action → String
  amount : Snapshot → Action → Option (Int × String)
  fallback : String
  /-- the handler keeps a reference to whether it is at work -/
  busyRef : Bool
  closed : ∀ v x a, offers v x a → x.running = false ∨ x.pending = none

/-- One mounted page. -/
structure Screen {tok : Token} {contract : Address} (page : Page tok contract) where
  wire : Wire tok contract (page.Snapshot × page.Action) executeVoidWrite
  address : Option Address
  canTransact : Bool
  /-- `state`, when it is ready -/
  snapshot : Option page.Snapshot
  pending : Option page.Action
  tx : TxState
  busy : Bool

inductive PageInput {tok : Token} {contract : Address} (page : Page tok contract) where
  | outside (o : Outside contract)
  | wallet (address : Option Address) (canTransact : Bool)
  | loaded (account : Option Address) (answers : page.Answers)
  | unloaded
  | opens (a : page.Action)
  | dismiss
  | confirm
  | answer (k : Nat) (a : WriteAnswer Unit)

namespace Screen

variable {tok : Token} {contract : Address} {page : Page tok contract}

def initial (page : Page tok contract) (s : Chain tok contract) : Screen page where
  wire := .initial s
  address := none
  canTransact := false
  snapshot := none
  pending := none
  tx := .idle
  busy := false

section Handlers
variable (s : Screen page)

def surroundings : Surroundings page.Action where
  address := s.address
  canTransact := s.canTransact
  pending := s.pending
  running := s.tx.isRunning

/-- `setTx({ kind: "idle" })`, and the action waits for its confirmation. -/
def opened (a : page.Action) : Screen page := { s with tx := .idle, pending := some a }

def runAction (v : page.Snapshot) (a : page.Action) (call : Call) (signer : Address) :
    Screen page :=
  { s with
    wire := s.wire.post (v, a) call signer
    tx := .running .simulating
    busy := page.busyRef }

/-- What the handler goes on with; either end of it asks for a new snapshot. -/
def answered (wire : Wire tok contract (page.Snapshot × page.Action) executeVoidWrite)
    (write : Write (page.Snapshot × page.Action) Text) : Screen page :=
  match write.stage with
  | .settled (.ok hash) =>
    { s with
      wire, busy := false, snapshot := none, pending := none
      tx := .success hash (page.message write.about.2) (page.amount write.about.1 write.about.2) }
  | .settled (.error thrown) =>
    { s with
      wire, busy := false, snapshot := none, tx := txFailureState page.fallback thrown }
  | .simulating => { s with wire, tx := .running .simulating }
  | .awaitingSignature => { s with wire, tx := .running .awaitingSignature }
  | .submitting => { s with wire, tx := .running .submitting }
  | .confirming => { s with wire, tx := .running .confirming }

end Handlers

def step (s : Screen page) : PageInput page → Screen page
  | .outside o => { s with wire := s.wire.outside o }
  | .wallet address canTransact => { s with address, canTransact }
  | .loaded account answers =>
    { s with snapshot := page.load s.wire.ledgerAt account answers }
  | .unloaded => { s with snapshot := none }
  | .opens a =>
    match s.snapshot with
    | some v => if page.offers v s.surroundings a then s.opened a else s
    | none => s
  | .dismiss => if s.tx.isRunning then s else { s with pending := none }
  | .confirm =>
    match s.snapshot, s.pending, s.address with
    | some v, some a, some signer =>
      if page.confirms v s.surroundings a ∧ !s.tx.isRunning ∧ !(page.busyRef && s.busy) then
        match page.call v signer a with
        | some call => s.runAction v a call signer
        | none => s
      else s
    | _, _, _ => s
  | .answer k a =>
    match s.wire.answer k a with
    | some (write, wire) => s.answered wire write
    | none => s

def after (page : Page tok contract) (d : Deployment tok) (steps : List (Step contract))
    (inputs : List (PageInput page)) : Screen page :=
  Runs.run step (initial page (Chain.after d steps)) inputs

end Screen

/-! What holds in every run. -/

section Truth
variable {tok : Token} {contract : Address} {page : Page tok contract}

/-- The snapshot was put together from ledgers that are behind. -/
def Page.Loaded (page : Page tok contract) (v : page.Snapshot) (s : Chain tok contract) : Prop :=
  ∃ (ledgerAt : Nat → Ledger tok.State) (account : Option Address) (answers : page.Answers),
    (∀ lag, (ledgerAt lag).Later s.ledger) ∧ page.load ledgerAt account answers = some v

def Page.Offered (page : Page tok contract) (a : page.Action) (s : Chain tok contract) : Prop :=
  ∃ v x, page.Loaded v s ∧ page.offers v x a = true

/-- How a write began. -/
structure Page.Begun (page : Page tok contract) (w : Write (page.Snapshot × page.Action) Text)
    (s : Chain tok contract) : Prop where
  loaded : page.Loaded w.about.1 s
  offered : page.Offered w.about.2 s
  confirmed : ∃ x, x.address = some w.signer ∧ page.confirms w.about.1 x w.about.2 = true
  call : page.call w.about.1 w.signer w.about.2 = some w.call

variable {a b : Chain tok contract}

theorem Page.Loaded.later {v : page.Snapshot} (loaded : page.Loaded v a) (before : a.Before b) :
    page.Loaded v b := by
  obtain ⟨ledgerAt, account, answers, behind, load⟩ := loaded
  exact ⟨ledgerAt, account, answers, fun lag => (behind lag).trans before.ledger, load⟩

theorem Page.Offered.later {action : page.Action} (offered : page.Offered action a)
    (before : a.Before b) : page.Offered action b := by
  obtain ⟨v, x, loaded, offers⟩ := offered
  exact ⟨v, x, loaded.later before, offers⟩

theorem Page.Begun.later {w w' : Write (page.Snapshot × page.Action) Text} (begun : page.Begun w a)
    (before : a.Before b) (about : w'.about = w.about) (call : w'.call = w.call)
    (signer : w'.signer = w.signer) : page.Begun w' b := by
  obtain ⟨loaded, offered, confirmed, named⟩ := begun
  rw [← about] at loaded offered confirmed named
  rw [← signer] at confirmed named
  rw [← call] at named
  exact ⟨loaded.later before, offered.later before, confirmed, named⟩

/-- The success that is shown is that of a write of the page. -/
def Page.Told (page : Page tok contract) (tx : TxState)
    (writes : List (Write (page.Snapshot × page.Action) Text)) : Prop :=
  ∀ hash message amount, tx = .success hash message amount → ∃ w ∈ writes,
    w.stage = .settled (.ok hash) ∧ message = page.message w.about.2 ∧
      amount = page.amount w.about.1 w.about.2

/-- The phase that is shown is that of a write of the page. -/
def Page.Phased (page : Page tok contract) (tx : TxState)
    (writes : List (Write (page.Snapshot × page.Action) Text)) : Prop :=
  ∀ phase, tx = .running phase → ∃ w ∈ writes, w.stage.phase? = some phase

namespace Screen

variable {s : Screen page}

structure Sound (s : Screen page) : Prop where
  wire : s.wire.Sound
  single : s.wire.Single
  idle : s.tx.isRunning = false → s.wire.Idle
  pending : s.tx.isRunning = true → s.pending ≠ none
  busy : s.busy = (page.busyRef && s.tx.isRunning)
  loaded : ∀ v, s.snapshot = some v → page.Loaded v s.wire.now
  offered : ∀ a, s.pending = some a → page.Offered a s.wire.now
  begun : ∀ w ∈ s.wire.writes, page.Begun w s.wire.now
  told : page.Told s.tx s.wire.writes
  phase : page.Phased s.tx s.wire.writes

theorem Sound.initial (page : Page tok contract) {c : Chain tok contract}
    (wellFormed : c.ledger.WellFormed contract) : (initial page c).Sound where
  wire := .initial wellFormed
  single _ _ found := by cases found
  idle _ _ member := by cases member
  pending running := by cases running
  busy := (Bool.and_false _).symm
  loaded _ here := by cases here
  offered _ here := by cases here
  begun _ member := by cases member
  told _ _ _ success := by cases success
  phase _ running := by cases running

theorem Sound.outside (h : s.Sound) (o : Outside contract) :
    ({ s with wire := s.wire.outside o } : Screen page).Sound := by
  obtain ⟨wire, goes⟩ := h.wire.outside o
  refine ⟨wire, h.single.outside o, fun quiet => (h.idle quiet).outside o, h.pending, h.busy,
    fun v here => (h.loaded v here).later goes.before,
    fun a here => (h.offered a here).later goes.before, ?_, ?_, ?_⟩
  · intro w' member
    obtain ⟨w, older, about, call, signer⟩ := goes.same w' member
    exact (h.begun w older).later goes.before about call signer
  · intro hash message amount success
    obtain ⟨w, member, stage, said⟩ := h.told hash message amount success
    obtain ⟨w', member', same⟩ := Wire.outside_kept o member
    rw [← same.about] at said
    exact ⟨w', member', same.stage.trans stage, said⟩
  · intro phase running
    obtain ⟨w, member, shown⟩ := h.phase phase running
    obtain ⟨w', member', same⟩ := Wire.outside_kept o member
    exact ⟨w', member', by rw [same.stage, shown]⟩

theorem Sound.opened (h : s.Sound) {v : page.Snapshot} {a : page.Action}
    (here : s.snapshot = some v) (offers : page.offers v s.surroundings a = true) :
    (s.opened a).Sound := by
  have still : s.tx.isRunning = false := by
    rcases page.closed v s.surroundings a offers with still | none
    · exact still
    · exact Bool.eq_false_iff.mpr fun running => h.pending running none
  refine ⟨h.wire, h.single, fun _ => h.idle still, fun running => (by cases running), ?_,
    h.loaded, ?_, h.begun, fun _ _ _ success => (by cases success),
    fun _ running => (by cases running)⟩
  · exact h.busy.trans (by rw [still]; rfl)
  · intro action waits
    cases waits
    exact ⟨v, s.surroundings, h.loaded v here, offers⟩

theorem Sound.runAction (h : s.Sound) {v : page.Snapshot} {a : page.Action} {call : Call}
    {signer : Address} (named : page.call v signer a = some call)
    (here : s.snapshot = some v) (waits : s.pending = some a) (wallet : s.address = some signer)
    (still : s.tx.isRunning = false) (confirms : page.confirms v s.surroundings a = true) :
    (s.runAction v a call signer).Sound := by
  refine ⟨h.wire.post .., Wire.Single.post (h.idle still) _ _ _, fun quiet => (by cases quiet),
    fun _ none => ?_, (Bool.and_true _).symm, h.loaded, h.offered, ?_,
    fun _ _ _ success => (by cases success), ?_⟩
  · cases waits.symm.trans none
  · intro w member
    rcases List.mem_append.mp member with older | new
    · exact h.begun w older
    · cases List.mem_singleton.mp new
      exact ⟨h.loaded v here, h.offered a waits, ⟨s.surroundings, wallet, confirms⟩, named⟩
  · intro phase running
    cases running
    exact ⟨_, List.mem_append_right _ List.mem_cons_self, rfl⟩

theorem Sound.answered (h : s.Sound) {k : Nat} {answer : WriteAnswer Unit}
    {w : Write (page.Snapshot × page.Action) Text} {wire : Wire tok contract _ executeVoidWrite}
    (answered : s.wire.answer k answer = some (w, wire)) : (s.answered wire w).Sound := by
  obtain ⟨sound, goes⟩ := h.wire.answer answered
  obtain ⟨single, ended⟩ := h.single.answer answered
  have waits : s.pending ≠ none := by
    obtain ⟨before, _, here, next, _⟩ := Wire.answer_cases answered
    apply h.pending
    by_contra still
    have idle := h.idle (Bool.not_eq_true _ ▸ still) before (List.mem_of_getElem? here)
    exact absurd (Wire.pending_of_next next) (Bool.eq_false_iff.mp idle)
  have begun : ∀ w' ∈ wire.writes, page.Begun w' wire.now := by
    intro w' member
    obtain ⟨older, among, about, call, signer⟩ := goes.same w' member
    exact (h.begun older among).later goes.before about call signer
  have loaded : ∀ v, s.snapshot = some v → page.Loaded v wire.now :=
    fun v here => (h.loaded v here).later goes.before
  have offered : ∀ a, s.pending = some a → page.Offered a wire.now :=
    fun a here => (h.offered a here).later goes.before
  have present : w ∈ wire.writes := List.mem_of_getElem? (Wire.answer_self answered)
  have goesOn : ∀ phase, w.stage.phase? = some phase →
      ({ s with wire, tx := .running phase } : Screen page).Sound := by
    intro phase waiting
    have running : s.tx.isRunning = true := by
      by_contra still
      obtain ⟨before, _, here, next, _⟩ := Wire.answer_cases answered
      have idle := h.idle (Bool.not_eq_true _ ▸ still) before (List.mem_of_getElem? here)
      exact absurd (Wire.pending_of_next next) (Bool.eq_false_iff.mp idle)
    refine ⟨sound, single, fun quiet => (by cases quiet), fun _ => waits, ?_, loaded, offered,
      begun, fun _ _ _ success => (by cases success), ?_⟩
    · rw [h.busy, running]
      rfl
    · intro phase' running'
      cases running'
      exact ⟨w, present, waiting⟩
  unfold Screen.answered
  cases stage : w.stage with
  | simulating => exact goesOn .simulating (by rw [stage]; rfl)
  | awaitingSignature => exact goesOn .awaitingSignature (by rw [stage]; rfl)
  | submitting => exact goesOn .submitting (by rw [stage]; rfl)
  | confirming => exact goesOn .confirming (by rw [stage]; rfl)
  | settled outcome =>
    have idle : wire.Idle := ended (by unfold Write.pending; rw [stage]; rfl)
    cases outcome with
    | error thrown =>
      exact ⟨sound, single, fun _ => idle, fun running => (by cases running),
        (Bool.and_false _).symm, fun _ here => (by cases here), offered, begun,
        fun _ _ _ success => (by cases success), fun _ running => (by cases running)⟩
    | ok hash =>
      refine ⟨sound, single, fun _ => idle, fun running => (by cases running),
        (Bool.and_false _).symm, fun _ here => (by cases here), fun _ waits => (by cases waits),
        begun, ?_, fun _ running => (by cases running)⟩
      intro hash' message amount success
      cases success
      exact ⟨w, present, stage, rfl, rfl⟩

theorem Sound.next (h : s.Sound) (i : PageInput page) : (s.step i).Sound := by
  cases i with
  | outside o => exact h.outside o
  | wallet address canTransact =>
    exact ⟨h.wire, h.single, h.idle, h.pending, h.busy, h.loaded, h.offered, h.begun, h.told,
      h.phase⟩
  | loaded account answers =>
    have behind : ∀ lag, (s.wire.ledgerAt lag).Later s.wire.now.ledger :=
      fun lag => (h.wire.before lag).ledger
    refine ⟨h.wire, h.single, h.idle, h.pending, h.busy, ?_, h.offered, h.begun, h.told,
      h.phase⟩
    exact fun v here => ⟨s.wire.ledgerAt, account, answers, behind, here⟩
  | unloaded =>
    exact ⟨h.wire, h.single, h.idle, h.pending, h.busy, fun _ here => (by cases here),
      h.offered, h.begun, h.told,
      h.phase⟩
  | opens a =>
    cases here : s.snapshot with
    | none =>
      simp only [step, here]
      exact h
    | some v =>
      simp only [step, here]
      split
      · rename_i offers
        exact h.opened here offers
      · exact h
  | dismiss =>
    simp only [step]
    split
    · exact h
    · rename_i still
      exact ⟨h.wire, h.single, h.idle, fun running => absurd running still, h.busy, h.loaded,
        fun _ waits => (by cases waits), h.begun, h.told,
      h.phase⟩
  | confirm =>
    simp only [step]
    split
    · rename_i v a signer here waits wallet
      split
      · rename_i goes
        split
        · rename_i call named
          exact h.runAction named here waits wallet (by simpa using goes.2.1) goes.1
        · exact h
      · exact h
    · exact h
  | answer k a =>
    cases answered : s.wire.answer k a with
    | none =>
      simp only [step, answered]
      exact h
    | some both =>
      simp only [step, answered]
      exact h.answered answered

/-- What a success tells of was carried out. -/
theorem Sound.landed (h : s.Sound) {hash : Text} {message : String}
    {amount : Option (Int × String)} (shown : s.tx = .success hash message amount) :
    ∃ w ∈ s.wire.writes, w.stage = .settled (.ok hash) ∧ page.Begun w s.wire.now ∧
      (∃ count, Landed w.call w.signer count s.wire.now) ∧
      message = page.message w.about.2 ∧ amount = page.amount w.about.1 w.about.2 := by
  obtain ⟨w, member, stage, said⟩ := h.told hash message amount shown
  obtain ⟨count, _, landed⟩ := h.wire.carriedOut member stage
  exact ⟨w, member, stage, h.begun w member, ⟨count, landed⟩, said⟩

/-- In every run, whatever others do and the wallet does. -/
theorem Sound.reached (page : Page tok contract) (d : Deployment tok)
    (steps : List (Step contract)) (inputs : List (PageInput page)) :
    (after page d steps inputs).Sound :=
  Runs.run_invariant (P := Sound) (fun _ i h => Sound.next h i)
    (Sound.initial page (Chain.after_wellFormed d steps)) inputs

/-- On each of these pages, in every run: at most one write is under way, the last that was
begun, and the phase that is shown is its phase. The reference of the handler never stops a
click that the button would let through. -/
theorem one_write_at_a_time (page : Page tok contract) (d : Deployment tok)
    (steps : List (Step contract)) (inputs : List (PageInput page)) :
    let s := after page d steps inputs
    (∀ k w, s.wire.writes[k]? = some w → w.pending = true → k + 1 = s.wire.writes.length) ∧
      (∀ phase, s.tx = .running phase ↔ ∃ w ∈ s.wire.writes, w.stage.phase? = some phase) ∧
      (s.busy = true → s.tx.isRunning = true) := by
  have h := Sound.reached page d steps inputs
  refine ⟨h.single, fun phase => ⟨h.phase phase, ?_⟩, ?_⟩
  · intro under
    obtain ⟨w, member, shown⟩ := under
    have pending : w.pending = true := by rw [Write.pending, shown]; rfl
    have running : (after page d steps inputs).tx.isRunning = true := by
      by_contra still
      rw [h.idle (Bool.not_eq_true _ ▸ still) w member] at pending
      cases pending
    cases told : (after page d steps inputs).tx with
    | running phase' =>
      obtain ⟨w', member', shown'⟩ := h.phase phase' told
      obtain ⟨k, found⟩ := List.mem_iff_getElem?.mp member
      obtain ⟨k', found'⟩ := List.mem_iff_getElem?.mp member'
      have last := h.single k w found pending
      have last' := h.single k' w' found' (by rw [Write.pending, shown']; rfl)
      obtain rfl : k = k' := by omega
      cases found.symm.trans found'
      cases shown.symm.trans shown'
      rfl
    | idle | success | failed =>
      rw [told] at running
      cases running
  · rw [h.busy]
    exact fun busy => (Bool.and_eq_true_iff.mp busy).2

end Screen

end Truth

end ShowUp.Client

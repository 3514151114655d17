import ShowUp.Anchor.DepositScreen
import ShowUp.Anchor.PollAgreement

/-!
# What can happen on the deposit screen

An answer to a task that was called off moves nothing that counts, so that the inputs
come down to a few kinds of moves of the one live flow and the one live loop.
-/

namespace ShowUp.Anchor

set_option autoImplicit false

namespace Flow

/-- The state that the machine is kept in while the flow waits. -/
def stage : Flow → Option DepositStateName
  | discovering _ => some .discovering
  | pricing _ => some .pricing
  | signingIn .. => some .authenticating
  | quoting .. => some .quoting
  | opening .. => some .depositStarted
  | resuming _ => some .idle
  | _ => none

def amount : Flow → Option Text
  | discovering amount | pricing amount | signingIn _ amount | quoting _ amount
  | opening _ amount _ => some amount
  | _ => none

def claims : Flow → Bool
  | loadingAccount _ | signing | submitting => true
  | _ => false

end Flow

namespace DepositScreen

/-- The Anchor answers about the deposit it is asked about, and a status that ends the checks
is not short of funds; a trustline is enabled for the deposit at hand; a claim is confirmed
while it is asked for; no task of an earlier mount touches the record; the session storage can be
used; and the error of a transfer has a text. -/
def Orderly (s : DepositScreen) : ScreenInput → Prop
  | .polled j answer => ∀ loop status, s.polling.live = some (j, loop) →
      readAnswer unwrapTransactionResponse answer = .ok status →
      status.id = loop.depositId ∧
        (isTerminalDepositStatus status = true → status.treasuryLow = false)
  | .trustlineEnabled n => ∀ config depositId, s.enabling[n]? = some (config, depositId) →
      s.machine.context.depositId = some depositId
  | .claimSubmitted k (.ok _) =>
      s.flow.phase k = some .submitting → s.machine.name = .claimRequired
  | .transferSimulated _ (.error failure) => failureMessage failure ≠ ""
  | .earlierMount _ => False
  | .storage access => access = .working
  | _ => True

/-- Nothing changes but what is said beside the deposit, and what is called off. -/
structure Quiet (s t : DepositScreen) : Prop where
  address : t.address = s.address
  mounted : t.mounted = s.mounted
  machine : t.machine = s.machine
  amount : t.amount = s.amount
  recoveryTx : t.recoveryTx = s.recoveryTx
  pollWarning : t.pollWarning = s.pollWarning
  saved : t.saved = s.saved ∨ t.saved = some s.loaded
  store : t.store = s.store
  access : t.access = s.access
  polling : t.polling.live = s.polling.live
  flow : t.flow.live = s.flow.live
  flowBusy : t.flowBusy = s.flowBusy ∨ t.flowBusy = false ∧ s.flow.live = none
  requests : t.requests = s.requests

theorem optionalString_ne_empty {value : JsValue} {text : String}
    (found : optionalString value = some text) : text ≠ "" := by
  unfold optionalString at found
  split at found
  · split at found
    · rename_i nonempty
      cases found
      exact nonempty
    · cases found
  · rename_i number
    cases number with
    | safe value =>
      cases found
      cases value with
      | ofNat n => exact Nat.repr_ne_empty
      | negSucc n =>
        intro empty
        have length := congrArg String.length empty
        change ("-" ++ Nat.repr (n + 1)).length = 0 at length
        rw [String.length_append] at length
        exact absurd length (by simp)
    | other text nonempty =>
      cases found
      exact nonempty
    | nonFinite => cases found
  · cases found

theorem readAnswer_ok {α : Type} {read : JsValue → Except AnchorError α}
    {answer : Except FlowFailure JsValue} {value : α} (found : readAnswer read answer = .ok value) :
    ∃ payload, answer = .ok payload ∧ read payload = .ok value := by
  cases answer with
  | error failure => cases found
  | ok payload =>
    refine ⟨payload, rfl, ?_⟩
    simp only [readAnswer] at found
    split at found
    · cases found
    · cases found
      assumption

theorem startDeposit_id {answer : Except FlowFailure JsValue} {ticket : DepositTicket}
    (read : readAnswer startDeposit answer = .ok ticket) : ticket.id ≠ "" := by
  obtain ⟨payload, _, started⟩ := readAnswer_ok read
  unfold startDeposit at started
  obtain ⟨record, _, started⟩ := except_bind_ok.mp started
  obtain ⟨id, hasId, started⟩ := except_bind_ok.mp started
  cases started
  exact optionalString_ne_empty (requireString_ok.mp hasId)

theorem polled_claimableBalanceId {answer : Except FlowFailure JsValue} {status : DepositStatus}
    (read : readAnswer unwrapTransactionResponse answer = .ok status) :
    status.claimableBalanceId ≠ some "" := by
  obtain ⟨payload, _, unwrapped⟩ := readAnswer_ok read
  unfold unwrapTransactionResponse at unwrapped
  obtain ⟨record, _, unwrapped⟩ := except_bind_ok.mp unwrapped
  split at unwrapped
  · obtain ⟨_, _, _, _, claim⟩ := parseDepositTransaction_ok unwrapped
    rw [claim]
    exact fun empty => optionalString_ne_empty empty rfl
  · cases unwrapped

theorem Quiet.refl (s : DepositScreen) : Quiet s s := by
  constructor <;> first | rfl | exact .inl rfl

inductive Move (s : DepositScreen) (i : ScreenInput) : DepositScreen → Prop
  | quiet {t : DepositScreen} : Quiet s t → Move s i t
  | typed (amount : Text) : s.machine.name = .idle → Move s i { s with amount := amount }
  | told {a : DepositAction} :
    (∃ now, a = .quoteExpiryChecked now) ∨ (∃ id price, a = .quoteRepriced id price) →
    Move s i (s.dispatch a)
  | reprices (amount : Text) : Move s i (s.ask (.currentPrice amount))
  | storage (access : StorageAccess) : (Orderly s i → access = .working) →
    Move s i { s with access := access }
  | earlierMount (c : DepositCall String) : ¬ Orderly s i → Move s i (s.call c)
  | began : s.mounted → s.machine.name = .idle → s.flow.live = none →
    isPositiveTryAmount (Utf16.trim s.amount) →
    Move s i (({ s.beginFlow (.discovering (Utf16.trim s.amount)) with
      amountError := none }).dispatch (.start (some s.address)))
  | opens {config : AnchorConfig} : s.mounted → s.machine.name = .pricing →
    s.flow.live = none → Move s i ((s.beginFlow (.signingIn config (Utf16.trim s.amount))).dispatch
      .authenticate)
  | resumes {record : PersistedDeposit String} : s.mounted → s.machine.name = .idle →
    s.flow.live = none → s.saved = some (some record) → record.account = some s.address →
    Move s i (s.beginFlow (.resuming record))
  | simulates {depositId : String} : s.mounted → s.machine.context.ticket ≠ none →
    s.flow.live = none →
    Move s i ((s.beginFlow .simulating).ask (.bankTransfer depositId (Utf16.trim s.amount)))
  | claims {id : String} : s.mounted → s.machine.name = .claimRequired → s.flow.live = none →
    Move s i { s.beginFlow (.loadingAccount id) with recoveryTx := .running .simulating }
  | discovered {k : Nat} {amount : Text} (config : AnchorConfig) :
    s.flow.live = some (k, .discovering amount) →
    Move s i (((s.dispatch (.discovered config)).ask (.indicativePrice amount)).moveFlow k
      (.pricing amount))
  | resumed {k : Nat} {record : PersistedDeposit String} (config : AnchorConfig) :
    s.flow.live = some (k, .resuming record) → truthy record.claimableBalanceId = true →
    Move s i ((s.dispatch (.resume s.address config record.depositId
      record.claimableBalanceId)).finishFlow k)
  | resumedChecks {k : Nat} {record : PersistedDeposit String} (config : AnchorConfig) :
    s.flow.live = some (k, .resuming record) → truthy record.claimableBalanceId = false →
    Move s i (((s.dispatch (.resume s.address config record.depositId
      record.claimableBalanceId)).pollUntilStopped config record.depositId).finishFlow k)
  | priced {k : Nat} {amount : Text} (price : Price) :
    s.flow.live = some (k, .pricing amount) →
    Move s i ((s.dispatch (.priced price)).finishFlow k)
  | signedIn {k : Nat} {config : AnchorConfig} {amount : Text} :
    s.flow.live = some (k, .signingIn config amount) →
    Move s i (((s.dispatch .authenticated).ask (.firmQuote amount)).moveFlow k
      (.quoting config amount))
  | quoted {k : Nat} {config : AnchorConfig} {amount : Text} (quote : Quote) (now : Int) :
    s.flow.live = some (k, .quoting config amount) →
    Move s i (((s.dispatch (.quoted quote now)).ask (.deposit s.address amount quote.id)).moveFlow
      k (.opening config amount quote))
  | opened {k : Nat} {config : AnchorConfig} {amount : Text} {quote : Quote}
    (ticket : DepositTicket) : s.flow.live = some (k, .opening config amount quote) →
    ticket.id ≠ "" →
    Move s i (((((s.dispatch (.depositStarted ticket)).call (.save
      { depositId := ticket.id, account := some s.address, quoteId := some quote.id })).reload
        ).pollUntilStopped config ticket.id).finishFlow k)
  | failed {k : Nat} {p : Flow} (error : AnchorError) : s.flow.live = some (k, p) →
    p.stage ≠ none → Move s i (s.fail k error)
  | advanced {k : Nat} {p q : Flow} (phase : Client.TxPhase) : s.flow.live = some (k, p) →
    p.claims = true → q.claims = true →
    Move s i ({ s with recoveryTx := .running phase }.moveFlow k q)
  | ended {k : Nat} {p : Flow} {tx : RecoveryTx} {warning : Option String} :
    s.flow.live = some (k, p) → p.stage = none →
    (p.claims = true → tx.isRunning = false) → (p.claims = false → tx = s.recoveryTx) →
    (warning = s.pollWarning ∨ (Orderly s i → truthy warning = true)) →
    Move s i ({ s with recoveryTx := tx, pollWarning := warning }.finishFlow k)
  | claimed {k : Nat} (hash : String) : s.flow.phase k = some .submitting →
    (Orderly s i → s.machine.name = .claimRequired) →
    Move s i ({ ((({ s with recoveryTx := .success hash }.dispatch .claimed).call
      .clear).reload) with settled := s.settled + 1 }.finishFlow k)
  | reset : s.mounted → Move s i s.resetScreen
  | unmounted : Move s i
    { s with mounted := false, polling := s.polling.abort, flow := s.flow.abort }
  | polled {j : Nat} {loop : PollLoop} (status : DepositStatus) :
    s.polling.live = some (j, loop) → status.claimableBalanceId ≠ some "" →
    (Orderly s i → status.id = loop.depositId ∧
      (isTerminalDepositStatus status = true → status.treasuryLow = false)) →
    Move s i (s.polledStatus j loop status)
  | pollGoes {j : Nat} {loop next : PollLoop} : s.polling.live = some (j, loop) →
    next.depositId = loop.depositId → Move s i (s.movePoll j (some next))
  | pollEnds {j : Nat} {loop : PollLoop} (warning : String) : s.polling.live = some (j, loop) →
    warning ≠ "" → Move s i ({ s with pollWarning := some warning }.movePoll j none)
  | pollBegins (config : AnchorConfig) {depositId : String}
    (enabling : List (AnchorConfig × String)) :
    (Orderly s i → s.machine.context.depositId = some depositId) →
    Move s i ({ s with enabling := enabling }.pollUntilStopped config depositId)

section
variable {s : DepositScreen} {i : ScreenInput} {k : Nat}

theorem live_none_of_aborted (off : s.flow.aborted k = true) (current : s.flow.current = some k) :
    s.flow.live = none := by
  rw [Option.eq_none_iff_forall_ne_some]
  rintro ⟨j, p⟩ live
  have same := Controllers.current_of_live live
  rw [current] at same
  cases same
  rw [(Controllers.live_eq_some_iff.mp live).2] at off
  cases off

/-- A flow that was called off only comes to its end. -/
theorem quiet_finishFlow (off : s.flow.aborted k = true) : Quiet s (s.finishFlow k) := by
  constructor <;> try first | rfl | exact .inl rfl
  · exact Controllers.live_finish_aborted off
  · unfold finishFlow
    dsimp only
    split
    · rename_i current
      exact .inr ⟨rfl, live_none_of_aborted off current⟩
    · exact .inl rfl

theorem quiet_movePoll {j : Nat} (off : s.polling.aborted j = true) (next : Option PollLoop) :
    Quiet s (s.movePoll j next) := by
  constructor <;> try first | rfl | exact .inl rfl
  exact Controllers.live_move_aborted off next

/-- An answer moves the live flow, if any. -/
theorem answer_moves {go : Flow → Option DepositScreen}
    (moves : ∀ p next, s.flow.live = some (k, p) → go p = some next → Move s i next) :
    Move s i (s.answer k go) := by
  unfold answer
  cases phase : s.flow.phase k with
  | none => exact .quiet (.refl s)
  | some p =>
    rw [Option.bind_some]
    cases next : go p with
    | none => exact .quiet (.refl s)
    | some next =>
      dsimp only
      split
      · rename_i off
        exact .quiet (quiet_finishFlow off)
      · rename_i going
        have going := Bool.eq_false_iff.mpr going
        exact moves p _ (Controllers.live_of_phase phase going) (by assumption)

/-- What begins while no flow is busy begins while none is live. -/
theorem idle_of_not_busy (busy : s.mounted = true → s.flowBusy = s.flow.live.isSome)
    (mounted : s.mounted = true) (free : s.flowBusy = false) : s.flow.live = none := by
  have none_live := (busy mounted).symm.trans free
  exact Option.isNone_iff_eq_none.mp (Option.isSome_eq_false_iff.mp none_live)

theorem priceDeposit_moves (busy : s.mounted = true → s.flowBusy = s.flow.live.isSome)
    (mounted : s.mounted = true) (name : s.machine.name = .idle) : Move s i s.priceDeposit := by
  unfold priceDeposit
  split
  · exact .quiet (.refl s)
  · rename_i free
    have free := Bool.eq_false_iff.mpr free
    have live := idle_of_not_busy busy mounted free
    dsimp only
    split
    · apply Move.quiet
      constructor <;> try first | rfl | exact .inl rfl
      · rw [live]
        exact Controllers.live_finish (Controllers.live_begin ..)
      · refine .inr ⟨?_, live⟩
        exact if_pos rfl
    · rename_i positive
      exact .began mounted name live (by simpa using positive)

theorem openDeposit_moves (busy : s.mounted = true → s.flowBusy = s.flow.live.isSome)
    (mounted : s.mounted = true) (name : s.machine.name = .pricing) :
    Move s i s.openDeposit := by
  unfold openDeposit
  split
  · exact .quiet (.refl s)
  · split
    · exact .quiet (.refl s)
    · rename_i ready
      rw [not_or, Bool.not_eq_true] at ready
      exact .opens mounted name (idle_of_not_busy busy mounted ready.2)

theorem simulateTransfer_moves (busy : s.mounted = true → s.flowBusy = s.flow.live.isSome)
    (mounted : s.mounted = true) (ticket : s.machine.context.ticket ≠ none) :
    Move s i s.simulateTransfer := by
  unfold simulateTransfer
  split
  · exact .quiet (.refl s)
  · split
    · exact .quiet (.refl s)
    · rename_i ready
      simp only [not_or, Bool.not_eq_true] at ready
      exact .simulates mounted ticket (idle_of_not_busy busy mounted ready.2.2.2)

theorem claimBalance_moves (busy : s.mounted = true → s.flowBusy = s.flow.live.isSome)
    (mounted : s.mounted = true) (name : s.machine.name = .claimRequired) :
    Move s i s.claimBalance := by
  unfold claimBalance
  split
  · exact .quiet (.refl s)
  · split
    · exact .quiet (.refl s)
    · rename_i ready
      simp only [not_or, Bool.not_eq_true] at ready
      exact .claims mounted name (idle_of_not_busy busy mounted ready.2.2)

/-- The end of a flow that leaves the machine where it is. -/
theorem ended_moves {p : Flow} {tx : RecoveryTx} (live : s.flow.live = some (k, p))
    (stage : p.stage = none) (spent : p.claims = true → tx.isRunning = false)
    (kept : p.claims = false → tx = s.recoveryTx) :
    Move s i ({ s with recoveryTx := tx }.finishFlow k) :=
  @Move.ended s i k p tx s.pollWarning live stage spent kept (.inl rfl)

theorem discovered_moves (answer : Except FlowFailure AnchorConfig) :
    Move s i (s.answer k (s.discoveredBy k answer)) := by
  apply answer_moves
  intro p next live went
  unfold discoveredBy at went
  cases p with
  | discovering amount =>
    cases went
    cases answer with
    | error failure => exact .failed _ live (by simp [Flow.stage])
    | ok config => exact .discovered config live
  | resuming record =>
    cases went
    cases answer with
    | error failure => exact .failed _ live (by simp [Flow.stage])
    | ok config =>
      dsimp only
      split
      · rename_i claim
        exact .resumed config live claim
      · rename_i noClaim
        exact .resumedChecks config live (Bool.eq_false_iff.mpr noClaim)
  | _ => cases went

theorem priced_moves (answer : Except FlowFailure Price) :
    Move s i (s.answer k (s.pricedBy k answer)) := by
  apply answer_moves
  intro p next live went
  unfold pricedBy at went
  cases p with
  | pricing amount =>
    cases went
    cases answer with
    | error failure => exact .failed _ live (by simp [Flow.stage])
    | ok price => exact .priced price live
  | _ => cases went

theorem signedIn_moves (answer : Except FlowFailure Unit) :
    Move s i (s.answer k (s.signedInBy k answer)) := by
  apply answer_moves
  intro p next live went
  unfold signedInBy at went
  cases p with
  | signingIn config amount =>
    cases went
    cases answer with
    | error failure => exact .failed _ live (by simp [Flow.stage])
    | ok => exact .signedIn live
  | _ => cases went

theorem quoted_moves (answer : Except FlowFailure Quote) (now : Int) :
    Move s i (s.answer k (s.quotedBy k answer now)) := by
  apply answer_moves
  intro p next live went
  unfold quotedBy at went
  cases p with
  | quoting config amount =>
    cases went
    cases answer with
    | error failure => exact .failed _ live (by simp [Flow.stage])
    | ok quote => exact .quoted quote now live
  | _ => cases went

theorem opened_moves (answer : Except FlowFailure JsValue) :
    Move s i (s.answer k (s.openedBy k (readAnswer startDeposit answer))) := by
  apply answer_moves
  intro p next live went
  unfold openedBy at went
  cases p with
  | opening config amount quote =>
    cases went
    cases read : readAnswer startDeposit answer with
    | error failure => exact .failed _ live (by simp [Flow.stage])
    | ok ticket => exact .opened ticket live (startDeposit_id read)
  | _ => cases went

theorem loaded_moves (answer : Except FlowFailure Unit) :
    Move s i (s.answer k (s.loadedBy k answer)) := by
  apply answer_moves
  intro p next live went
  unfold loadedBy at went
  cases p with
  | loadingAccount id =>
    cases went
    cases answer with
    | error failure => exact ended_moves live rfl (fun _ => rfl) (fun h => by cases h)
    | ok =>
      dsimp only
      split
      · exact .advanced _ live rfl rfl
      · exact ended_moves live rfl (fun _ => rfl) (fun h => by cases h)
  | _ => cases went

theorem signed_moves (answer : Except FlowFailure Unit) :
    Move s i (s.answer k (s.signedBy k answer)) := by
  apply answer_moves
  intro p next live went
  unfold signedBy at went
  cases p with
  | signing =>
    cases went
    cases answer with
    | error failure => exact ended_moves live rfl (fun _ => rfl) (fun h => by cases h)
    | ok => exact .advanced _ live rfl rfl
  | _ => cases went

theorem simulated_moves (answer : Except FlowFailure Unit) :
    Move s (.transferSimulated k answer) (s.answer k (s.simulatedBy k answer)) := by
  apply answer_moves
  intro p next live went
  unfold simulatedBy at went
  cases p with
  | simulating =>
    cases went
    cases answer with
    | ok => exact ended_moves live rfl (fun h => by cases h) (fun _ => rfl)
    | error failure =>
      refine @Move.ended _ _ k _ s.recoveryTx _ live rfl (fun h => by cases h) (fun _ => rfl)
        (.inr fun orderly => ?_)
      exact decide_eq_true orderly
  | _ => cases went

theorem submitted_moves (answer : Except FlowFailure String) :
    Move s (.claimSubmitted k answer) (s.submitted k answer) := by
  unfold submitted
  split
  · rename_i phase
    cases answer with
    | ok hash => exact .claimed hash phase fun orderly => orderly phase
    | error failure =>
      dsimp only
      split
      · rename_i off
        exact .quiet (quiet_finishFlow off)
      · rename_i going
        have live := Controllers.live_of_phase phase (Bool.eq_false_iff.mpr going)
        exact ended_moves live rfl (fun _ => rfl) (fun h => by cases h)
  · exact .quiet (.refl s)

theorem polled_moves (j : Nat) (answer : Except FlowFailure JsValue) :
    Move s (.polled j answer) (s.polledBy j (readAnswer unwrapTransactionResponse answer)) := by
  unfold polledBy
  split
  · exact .quiet (.refl s)
  · rename_i loop phase
    split
    · exact .quiet (.refl s)
    · split
      · rename_i off
        exact .quiet (quiet_movePoll off none)
      · rename_i going
        have live := Controllers.live_of_phase phase (Bool.eq_false_iff.mpr going)
        cases read : readAnswer unwrapTransactionResponse answer with
        | ok status =>
          exact .polled status live (polled_claimableBalanceId read) fun orderly =>
            orderly loop status live read
        | error failure =>
          refine .pollEnds _ live fun empty => ?_
          have length := congrArg String.length empty
          rw [String.length_append] at length
          exact absurd length (by simp)

theorem woke_moves (j : Nat) : Move s i (s.wokeBy j) := by
  unfold wokeBy
  split
  · exact .quiet (.refl s)
  · rename_i loop phase
    split
    · exact .quiet (.refl s)
    · split
      · rename_i off
        exact .quiet (quiet_movePoll off none)
      · rename_i going
        have live := Controllers.live_of_phase phase (Bool.eq_false_iff.mpr going)
        split
        · exact .pollGoes live rfl
        · exact .pollEnds _ live (by decide)

theorem step_moves (busy : s.mounted = true → s.flowBusy = s.flow.live.isSome)
    (i : ScreenInput) : Move s i (s.step i) := by
  cases i with
  | typed amount =>
    simp only [step]
    split
    · rename_i here
      exact .typed amount here.2
    · exact .quiet (.refl s)
  | checkRate =>
    simp only [step]
    split
    · rename_i here
      exact priceDeposit_moves busy here.1 here.2.1
    · exact .quiet (.refl s)
  | continueWithWallet =>
    simp only [step]
    split
    · rename_i here
      exact openDeposit_moves busy here.1 here.2.1
    · exact .quiet (.refl s)
  | resume =>
    simp only [step]
    split
    · rename_i record saved
      split
      · rename_i here
        unfold resumeDeposit
        split
        · exact .quiet (.refl s)
        · rename_i ready
          simp only [not_or, Bool.not_eq_true, Decidable.not_not] at ready
          exact .resumes here.1 here.2 (idle_of_not_busy busy here.1 ready.2) saved ready.1
      · exact .quiet (.refl s)
    · exact .quiet (.refl s)
  | simulate =>
    simp only [step]
    split
    · rename_i here
      exact simulateTransfer_moves busy here.1 here.2.1
    · exact .quiet (.refl s)
  | resumeChecks =>
    simp only [step]
    split
    · rename_i config depositId _ known
      split
      · exact .pollBegins config s.enabling fun _ => known
      · exact .quiet (.refl s)
    · exact .quiet (.refl s)
  | claim =>
    simp only [step]
    split
    · rename_i here
      exact claimBalance_moves busy here.1 here.2.1
    · exact .quiet (.refl s)
  | enableUsdc =>
    simp only [step]
    split
    · split
      · apply Move.quiet
        constructor <;> first | rfl | exact .inl rfl
      · exact .quiet (.refl s)
    · exact .quiet (.refl s)
  | reset =>
    simp only [step]
    split
    · rename_i here
      exact .reset here.1
    · exact .quiet (.refl s)
  | unmount => exact .unmounted
  | wallet canTransact =>
    apply Move.quiet
    constructor <;> first | rfl | exact .inl rfl
  | storage access => exact .storage access id
  | earlierMount c => exact .earlierMount c id
  | savedRead =>
    apply Move.quiet
    constructor <;> first | rfl | exact .inl rfl | exact .inr rfl
  | quoteExpiryChecked now =>
    simp only [step]
    split
    · exact .told (.inl ⟨now, rfl⟩)
    · exact .quiet (.refl s)
  | reprices =>
    simp only [step]
    split
    · split
      · exact .reprices _
      · exact .quiet (.refl s)
    · exact .quiet (.refl s)
  | quoteRepriced id price =>
    simp only [step]
    split
    · exact .told (.inr ⟨id, price, rfl⟩)
    · exact .quiet (.refl s)
  | discovered k answer => exact discovered_moves answer
  | priced k answer => exact priced_moves answer
  | signedIn k answer => exact signedIn_moves answer
  | quoted k answer now => exact quoted_moves answer now
  | depositOpened k answer => exact opened_moves answer
  | transferSimulated k answer => exact simulated_moves answer
  | accountLoaded k answer => exact loaded_moves answer
  | claimSigned k answer => exact signed_moves answer
  | claimSubmitted k answer => exact submitted_moves answer
  | polled j answer => exact polled_moves j answer
  | woke j => exact woke_moves j
  | trustlineEnabled n =>
    simp only [step]
    split
    · rename_i config depositId known
      exact .pollBegins config _ fun orderly => orderly config depositId known
    · exact .quiet (.refl s)
  | trustlineFailed n =>
    apply Move.quiet
    constructor <;> first | rfl | exact .inl rfl

end

end DepositScreen

end ShowUp.Anchor

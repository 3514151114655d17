import ShowUp.Anchor.Types
import ShowUp.Shared.Runs

/-!
# The deposit machine

`lib/anchor/machine.ts`: a pure reducer from actions to states, with everything
learned so far carried along in one context.
-/

namespace ShowUp.Anchor

set_option autoImplicit false

inductive DepositStateName where
  | idle
  | discovering
  | pricing
  | authenticating
  | quoting
  | depositStarted
  | awaitingBankTransfer
  | anchorProcessing
  | treasuryLow
  | completed
  | claimRequired
  | error
  deriving DecidableEq

structure DepositContext where
  config : Option AnchorConfig := none
  price : Option Price := none
  quote : Option Quote := none
  quoteExpired : Bool
  expiredQuotePrice : Option Price := none
  ticket : Option DepositTicket := none
  depositId : Option String := none
  status : Option DepositStatus := none
  claimableBalanceId : Option String := none
  account : Option String := none
  error : Option AnchorError := none

structure DepositState where
  name : DepositStateName
  context : DepositContext

inductive DepositAction where
  | start (account : Option String)
  | resume (account : String) (config : AnchorConfig) (depositId : String)
      (claimableBalanceId : Option String)
  | discovered (config : AnchorConfig)
  | priced (price : Price)
  | authenticate
  | authenticated
  | quoted (quote : Quote) (nowSeconds : Int)
  | quoteExpiryChecked (nowSeconds : Int)
  | quoteRepriced (quoteId : String) (price : Price)
  | quoteSkipped
  | depositStarted (ticket : DepositTicket)
  | statusPolled (status : DepositStatus)
  | claimed
  | failed (error : AnchorError)
  | reset

def initialDepositState : DepositState where
  name := .idle
  context := { quoteExpired := false }

def shouldPoll (state : DepositState) : Bool :=
  state.name = .depositStarted ∨ state.name = .awaitingBankTransfer ∨
    state.name = .anchorProcessing ∨ state.name = .treasuryLow

def needsClaim (status : DepositStatus) : Bool :=
  if status.status = .pendingTrust then true
  else status.status = .completed && truthy status.claimableBalanceId

def stateForStatus (status : DepositStatus) : DepositStateName :=
  if status.status = .error ∨ status.status = .refunded ∨ status.status = .expired then .error
  else if status.treasuryLow then .treasuryLow
  else if needsClaim status then .claimRequired
  else if status.status = .completed then .completed
  else if status.status = .pendingUserTransferStart ∨ status.status = .incomplete then
    .awaitingBankTransfer
  else .anchorProcessing

def isQuoteExpired (quote : Quote) (nowSeconds : Int) : Bool := quote.expiresAt ≤ nowSeconds

def canAcceptPoll (state : DepositState) : Bool :=
  state.name = .awaitingBankTransfer ∨ state.name = .anchorProcessing ∨
    state.name = .treasuryLow ∨ state.name = .claimRequired

/-- Whether a poll is for the deposit at hand and comes at a time when it counts. -/
def accepts (state : DepositState) (status : DepositStatus) : Bool :=
  canAcceptPoll state && truthy state.context.depositId &&
    some status.id = state.context.depositId

def DepositContext.polled (context : DepositContext) (status : DepositStatus) : DepositContext :=
  { context with
    status := some status
    claimableBalanceId := status.claimableBalanceId <|> context.claimableBalanceId }

def depositRejected (status : DepositStatus) : AnchorError :=
  .new .serverRejected "The Anchor could not complete this deposit."
    { serverMessage := status.message, recovery := some .startFreshDeposit }

def depositReducer (state : DepositState) : DepositAction → DepositState
  | .reset => initialDepositState
  | .failed error => ⟨.error, { state.context with error := some error }⟩
  | .start account =>
      ⟨.discovering,
        { initialDepositState.context with account := account <|> state.context.account }⟩
  | .resume account config depositId claimableBalanceId =>
      ⟨if truthy claimableBalanceId then .claimRequired else .awaitingBankTransfer,
        { quoteExpired := false
          account := some account
          config := some config
          depositId := some depositId
          claimableBalanceId }⟩
  | .discovered config =>
      if state.name ≠ .discovering then state
      else ⟨.pricing, { state.context with config := some config }⟩
  | .priced price =>
      if state.name ≠ .pricing then { state with context := { state.context with price := some price } }
      else ⟨.pricing, { state.context with price := some price }⟩
  | .authenticate =>
      if state.name ≠ .pricing then state else ⟨.authenticating, state.context⟩
  | .authenticated =>
      if state.name ≠ .authenticating then state else ⟨.quoting, state.context⟩
  | .quoted quote nowSeconds =>
      if state.name ≠ .quoting then state
      else ⟨.depositStarted,
        { state.context with
          quote := some quote
          quoteExpired := isQuoteExpired quote nowSeconds
          expiredQuotePrice := none }⟩
  | .quoteExpiryChecked nowSeconds =>
      match state.context.quote with
      | none => state
      | some quote =>
        let quoteExpired := isQuoteExpired quote nowSeconds
        if quoteExpired = state.context.quoteExpired then state
        else { state with context := { state.context with quoteExpired } }
  | .quoteRepriced quoteId price =>
      if !state.context.quoteExpired ∨ state.context.quote.map Quote.id ≠ some quoteId then state
      else { state with context := { state.context with expiredQuotePrice := some price } }
  | .quoteSkipped =>
      if state.name ≠ .quoting then state else ⟨.depositStarted, state.context⟩
  | .depositStarted ticket =>
      if state.name ≠ .depositStarted ∧ state.name ≠ .quoting then state
      else ⟨.awaitingBankTransfer,
        { state.context with ticket := some ticket, depositId := some ticket.id }⟩
  | .statusPolled status =>
      if !canAcceptPoll state ∨ !truthy state.context.depositId ∨
          some status.id ≠ state.context.depositId then state
      else
        let next := stateForStatus status
        let context := state.context.polled status
        if next = .error then ⟨.error, { context with error := some (depositRejected status) }⟩
        else ⟨next, context⟩
  | .claimed =>
      if state.name ≠ .claimRequired then state
      else ⟨.completed, { state.context with claimableBalanceId := none }⟩

/-- What an accepted poll leads to, and that any other is ignored. -/
theorem statusPolled_eq (state : DepositState) (status : DepositStatus) :
    depositReducer state (.statusPolled status) =
      if accepts state status then
        if stateForStatus status = .error then
          ⟨.error, { state.context.polled status with error := some (depositRejected status) }⟩
        else ⟨stateForStatus status, state.context.polled status⟩
      else state := by
  by_cases h : accepts state status
  · have h' := h
    simp only [accepts, Bool.and_eq_true, decide_eq_true_eq] at h'
    rw [if_pos h]
    simp [depositReducer, h']
  · rw [if_neg h]
    simp only [accepts, Bool.and_eq_true, decide_eq_true_eq] at h
    simp only [depositReducer]
    rw [if_pos]
    by_contra none
    simp only [not_or, Bool.not_eq_true', Bool.not_eq_false, ne_eq, Decidable.not_not] at none
    exact h ⟨⟨none.1, none.2.1⟩, none.2.2⟩

theorem statusPolled_name {state : DepositState} {status : DepositStatus}
    (accepted : accepts state status) :
    (depositReducer state (.statusPolled status)).name = stateForStatus status := by
  rw [statusPolled_eq, if_pos accepted]
  split
  · exact Eq.symm (by assumption)
  · rfl

theorem statusPolled_claimableBalanceId {state : DepositState} {status : DepositStatus}
    (accepted : accepts state status) :
    (depositReducer state (.statusPolled status)).context.claimableBalanceId =
      (status.claimableBalanceId <|> state.context.claimableBalanceId) := by
  rw [statusPolled_eq, if_pos accepted]
  split <;> rfl

theorem statusPolled_ignored {state : DepositState} {status : DepositStatus}
    (ignored : ¬ accepts state status) :
    depositReducer state (.statusPolled status) = state := by
  rw [statusPolled_eq, if_neg ignored]

theorem accepts_depositId {s : DepositState} {status : DepositStatus}
    (accepted : accepts s status) : s.context.depositId = some status.id := by
  simp only [accepts, Bool.and_eq_true, decide_eq_true_eq] at accepted
  exact accepted.2.symm

theorem polled_fields {s : DepositState} {status : DepositStatus}
    (accepted : accepts s status) :
    (depositReducer s (.statusPolled status)).context.depositId = s.context.depositId ∧
      (depositReducer s (.statusPolled status)).context.status = some status ∧
      (depositReducer s (.statusPolled status)).context.quoteExpired = s.context.quoteExpired ∧
      (depositReducer s (.statusPolled status)).context.quote = s.context.quote := by
  rw [statusPolled_eq, if_pos accepted]
  split <;> exact ⟨rfl, rfl, rfl, rfl⟩

/-- Actions that neither open, end nor report on a deposit. -/
def DepositAction.quiet : DepositAction → Bool
  | discovered _ | priced _ | authenticate | authenticated | quoted .. | quoteExpiryChecked _
  | quoteRepriced .. | quoteSkipped | depositStarted _ => true
  | _ => false

def depositAfter (actions : List DepositAction) : DepositState :=
  Runs.run depositReducer initialDepositState actions

/-! A deposit to evaluate runs on. -/

def sampleConfig : AnchorConfig where
  homeDomain := "anchor.example"
  networkPassphrase := "Test SDF Network ; September 2015"
  signingKey := "G"
  webAuthEndpoint := "https://anchor.example/auth"
  transferServer := "https://anchor.example/sep6"
  quoteServer := "https://anchor.example/sep38"
  kycServer := none
  asset := ⟨"USDC", "G"⟩

def resumed : List DepositAction := [.resume "G" sampleConfig "dep" none]

def completedDeposit (claimableBalanceId : Option String) : DepositStatus where
  id := "dep"
  status := .completed
  rawStatus := "completed"
  pendingReason := none
  treasuryLow := false
  claimableBalanceId := claimableBalanceId
  stellarTransactionId := none
  externalTransactionId := none
  amountIn := none
  amountInAsset := none
  amountOut := none
  amountOutAsset := none
  amountFee := none
  message := none
  moreInfoUrl := none
  refunds := none
  startedAt := none
  completedAt := none

end ShowUp.Anchor

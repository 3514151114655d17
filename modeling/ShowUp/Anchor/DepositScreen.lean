import ShowUp.Anchor.DepositSession
import ShowUp.Anchor.Evidence
import ShowUp.Anchor.Sep6
import ShowUp.Client.TxStatus
import ShowUp.Client.WalletProvider
import ShowUp.Shared.Controllers
import ShowUp.Shared.Decimal

/-!
# The deposit screen

`AnchorDeposit` of `components/wallet/anchor-deposit.tsx`: the machine, the record in the
session storage, and the requests between them. At most one flow is to run at a time and
one loop of status checks beside it; either waits in the middle while the user, the wallet
and the Anchor go on. A control counts only where the screen shows it.
-/

namespace ShowUp.Anchor

set_option autoImplicit false

open Utf16

/-! What is shown of an error. -/

/-- What a flow throws. Of a value that is neither an Anchor's nor a wallet's error, what
`userFacingError` shows for it. -/
inductive FlowFailure where
  | anchor (error : AnchorError)
  | wallet (error : Client.WalletError)
  | other (shown : String)

def AnchorError.userMessage (error : AnchorError) : String :=
  match error.serverMessage with
  | some message => if trim (ofString message) ≠ [] then message else error.message
  | none => error.message

def failureMessage : FlowFailure → String
  | .anchor error => error.userMessage
  | .wallet error =>
    match error with
    | .rejected =>
      "You declined the signature. No Anchor session or transaction was created."
    | .wrongNetwork .. =>
      "Your wallet is not on Stellar Testnet. Switch networks and try again."
    | .noWallet => "Freighter is not available. Install or unlock it, then try again."
    | .mobileWalletUnconfigured =>
      "Mobile wallet connection is not configured for this deployment."
    | .notConnected => "Your wallet disconnected. Reconnect and try again."
    | .accountChanged .. =>
      "Your wallet is using a different account. Reconnect the intended account and try again."
    | .unknown => "The wallet could not complete the request. Please try again."
  | .other shown => shown

def toMachineError : FlowFailure → AnchorError
  | .anchor error => error
  | failure => .new .protocol (failureMessage failure)

inductive AnchorOperation where
  | signIn
  | quote
  | deposit

/-- `OPERATION_FAILURE` -/
def AnchorOperation.failure : AnchorOperation → String
  | signIn =>
    "The Anchor did not accept the wallet sign-in. Reconnect the same wallet account and try again."
  | quote =>
    "The Anchor could not create a firm quote. Check the amount and request a new rate."
  | deposit =>
    "The Anchor could not open the deposit. Request a new quote and try again."

def contextualizeAnchorError (error : AnchorError) (operation : AnchorOperation) : AnchorError :=
  if error.kind ≠ .serverRejected ∨ truthy error.serverMessage then error
  else .new error.kind operation.failure
    { status := error.status, serverType := error.serverType, endpoint := error.endpoint,
      recovery := some error.recovery }

/-! The amount. -/

/-- `/^(?:0|[1-9]\d*)(?:\.\d{1,2})?$/` -/
def tryAmountPattern (text : Text) : Bool :=
  let whole := text.takeWhile isDigit
  !whole.isEmpty && (whole = [zero] || whole.head? ≠ some zero) &&
    match text.dropWhile isDigit with
    | [] => true
    | u :: fraction =>
      u = point && (fraction.length = 1 || fraction.length = 2) && fraction.all isDigit

def isPositiveTryAmount (text : Text) : Bool :=
  let whole := text.takeWhile (· ≠ point)
  let fraction := (text.dropWhile (· ≠ point)).drop 1
  tryAmountPattern text && 0 < value whole * 100 + value (padEnd 2 zero fraction)

/-! The claim's transaction is built for well-formed identifiers only. -/

def isHexDigit (c : Char) : Bool :=
  c.isDigit || ('a' ≤ c && c ≤ 'f') || ('A' ≤ c && c ≤ 'F')

/-- `/^[0-9a-f]{72}$/i` -/
def claimableBalanceIdPattern (id : String) : Bool :=
  id.toList.length = 72 && id.toList.all isHexDigit

/-! The screen. -/

/-- What a flow was doing when it last went to wait, with what it goes on with. -/
inductive Flow where
  /-- `priceDeposit`: in `discover`, then in `getIndicativePrice` -/
  | discovering (amount : Text)
  | pricing (amount : Text)
  /-- `openDeposit`: in its three calls of `withFreshToken` -/
  | signingIn (config : AnchorConfig) (amount : Text)
  | quoting (config : AnchorConfig) (amount : Text)
  | opening (config : AnchorConfig) (amount : Text) (quote : Quote)
  /-- `resumeDeposit` -/
  | resuming (record : PersistedDeposit String)
  /-- `simulateTransfer` -/
  | simulating
  /-- `claimBalance` -/
  | loadingAccount (claimableBalanceId : String)
  | signing
  | submitting

/-- A run of `pollUntilStopped`, in a request or in `wait`. -/
structure PollLoop where
  config : AnchorConfig
  depositId : String
  attempt : Nat
  asleep : Bool

/-- What the flows ask the Anchor for, with the amount they ask about. -/
inductive AnchorRequest where
  | indicativePrice (amount : Text)
  /-- for a quote that has expired -/
  | currentPrice (amount : Text)
  | firmQuote (amount : Text)
  | deposit (account : String) (amount : Text) (quoteId : String)
  | bankTransfer (depositId : String) (amount : Text)

/-- `TxState`, less what it says of a failure. -/
inductive RecoveryTx where
  | idle
  | running (phase : Client.TxPhase)
  | success (hash : String)
  | failed
  deriving DecidableEq

def RecoveryTx.isRunning : RecoveryTx → Bool
  | running _ => true
  | _ => false

/-- One mounted screen, under one address. `store` is the slot of the session storage, which
`access` tells whether it can be used; `saved` is what was last read of it, unless it is being
read again. `enabling` has the trustline transactions that were begun here, each with what its
`onSuccess` will go on with. -/
structure DepositScreen where
  address : String
  demoTools : Bool
  mounted : Bool
  canTransact : Bool
  machine : DepositState
  amount : Text
  amountError : Option String
  recoveryTx : RecoveryTx
  pollWarning : Option String
  saved : Option (Option (PersistedDeposit String))
  store : Option (PersistedDeposit String)
  access : StorageAccess
  polling : Controllers PollLoop
  flow : Controllers Flow
  flowBusy : Bool
  enabling : List (AnchorConfig × String)
  /-- the newest first -/
  requests : List AnchorRequest
  settled : Nat

inductive ScreenInput where
  | typed (amount : Text)
  | checkRate
  | continueWithWallet
  | resume
  | simulate
  | resumeChecks
  | claim
  | enableUsdc
  | reset
  | unmount
  | wallet (canTransact : Bool)
  | storage (access : StorageAccess)
  /-- What a task of an earlier mount does to the record: a claim it had submitted is confirmed, or
  the checks that its trustline went on with read a status. -/
  | earlierMount (c : DepositCall String)
  | savedRead
  | quoteExpiryChecked (nowSeconds : Int)
  | reprices
  | quoteRepriced (quoteId : String) (price : Price)
  | discovered (k : Nat) (answer : Except FlowFailure AnchorConfig)
  | priced (k : Nat) (answer : Except FlowFailure Price)
  | signedIn (k : Nat) (answer : Except FlowFailure Unit)
  | quoted (k : Nat) (answer : Except FlowFailure Quote) (nowSeconds : Int)
  | depositOpened (k : Nat) (answer : Except FlowFailure JsValue)
  | transferSimulated (k : Nat) (answer : Except FlowFailure Unit)
  | accountLoaded (k : Nat) (answer : Except FlowFailure Unit)
  | claimSigned (k : Nat) (answer : Except FlowFailure Unit)
  | claimSubmitted (k : Nat) (answer : Except FlowFailure String)
  | polled (j : Nat) (answer : Except FlowFailure JsValue)
  | woke (j : Nat)
  | trustlineEnabled (n : Nat)
  | trustlineFailed (n : Nat)

/-- An answer as the function reads it that asked for it. -/
def readAnswer {α : Type} (read : JsValue → Except AnchorError α) :
    Except FlowFailure JsValue → Except FlowFailure α
  | .error failure => .error failure
  | .ok payload =>
    match read payload with
    | .error error => .error (.anchor error)
    | .ok value => .ok value

namespace DepositScreen

def mount (address : String) (demoTools canTransact : Bool)
    (store : Option (PersistedDeposit String)) : DepositScreen where
  address := address
  demoTools := demoTools
  mounted := true
  canTransact := canTransact
  machine := initialDepositState
  amount := ofString "150.00"
  amountError := none
  recoveryTx := .idle
  pollWarning := none
  saved := none
  store := store.bind PersistedDeposit.loadable
  access := .working
  polling := .initial
  flow := .initial
  flowBusy := false
  enabling := []
  requests := []
  settled := 0

section Parts
variable (s : DepositScreen)

def dispatch (a : DepositAction) : DepositScreen := { s with machine := depositReducer s.machine a }

def call (c : DepositCall String) : DepositScreen :=
  { s with store := slotStep s.access s.store c }

/-- `loadDeposit()` -/
def loaded : Option (PersistedDeposit String) :=
  if s.access.available && s.access.get then s.store else none

/-- `saved.reload()` -/
def reload : DepositScreen := { s with saved := none }

def ask (r : AnchorRequest) : DepositScreen := { s with requests := r :: s.requests }

def beginFlow (p : Flow) : DepositScreen := { s with flow := s.flow.begin p, flowBusy := true }

def moveFlow (k : Nat) (p : Flow) : DepositScreen := { s with flow := s.flow.move k (some p) }

def finishFlow (k : Nat) : DepositScreen :=
  { s with
    flow := s.flow.finish k
    flowBusy := if s.flow.current = some k then false else s.flowBusy }

def pollUntilStopped (config : AnchorConfig) (depositId : String) : DepositScreen :=
  { s with polling := s.polling.begin ⟨config, depositId, 0, false⟩, pollWarning := none }

def movePoll (j : Nat) (next : Option PollLoop) : DepositScreen :=
  { s with polling := s.polling.move j next }

/-- `dispatch({ type: "FAILED", ... })` at the end of a flow -/
def fail (k : Nat) (error : AnchorError) : DepositScreen :=
  (s.dispatch (.failed error)).finishFlow k

/-- A flow's answer: `go` tells what a flow in this phase makes of it, if it waits for it. A
flow that was aborted meanwhile only ends. -/
def answer (k : Nat) (go : Flow → Option DepositScreen) : DepositScreen :=
  match (s.flow.phase k).bind go with
  | none => s
  | some next => if s.flow.aborted k then s.finishFlow k else next

end Parts

section Handlers
variable (s : DepositScreen)

def priceDeposit : DepositScreen :=
  if s.flowBusy then s
  else
    let k := s.flow.started
    let amount := trim s.amount
    let s := s.beginFlow (.discovering amount)
    if !isPositiveTryAmount amount then
      { s with
        amountError := some "Enter a positive TRY amount with at most two decimals." }.finishFlow k
    else { s with amountError := none }.dispatch (.start (some s.address))

def openDeposit : DepositScreen :=
  match s.machine.context.config with
  | none => s
  | some config =>
    if s.machine.context.price = none ∨ s.flowBusy then s
    else (s.beginFlow (.signingIn config (trim s.amount))).dispatch .authenticate

def resumeDeposit (record : PersistedDeposit String) : DepositScreen :=
  if record.account ≠ some s.address ∨ s.flowBusy then s else s.beginFlow (.resuming record)

def simulateTransfer : DepositScreen :=
  match s.machine.context.depositId with
  | none => s
  | some depositId =>
    if s.machine.context.config = none ∨ depositId = "" ∨ trim s.amount = [] ∨ s.flowBusy then s
    else (s.beginFlow .simulating).ask (.bankTransfer depositId (trim s.amount))

def claimBalance : DepositScreen :=
  match s.machine.context.claimableBalanceId with
  | none => s
  | some id =>
    if s.machine.context.config = none ∨ id = "" ∨ s.flowBusy then s
    else { s.beginFlow (.loadingAccount id) with recoveryTx := .running .simulating }

def resetScreen : DepositScreen :=
  let s := { s with polling := s.polling.abort, flow := s.flow.abort, flowBusy := false }
  { (s.call .clear).reload with recoveryTx := .idle, pollWarning := none }.dispatch .reset

def discoveredBy (k : Nat) (answer : Except FlowFailure AnchorConfig) :
    Flow → Option DepositScreen
  | .discovering amount => some <|
    match answer with
    | .error failure => s.fail k (toMachineError failure)
    | .ok config =>
      ((s.dispatch (.discovered config)).ask (.indicativePrice amount)).moveFlow k (.pricing amount)
  | .resuming record => some <|
    match answer with
    | .error failure => s.fail k (toMachineError failure)
    | .ok config =>
      let s := s.dispatch (.resume s.address config record.depositId record.claimableBalanceId)
      let s :=
        if truthy record.claimableBalanceId then s
        else s.pollUntilStopped config record.depositId
      s.finishFlow k
  | _ => none

def pricedBy (k : Nat) (answer : Except FlowFailure Price) : Flow → Option DepositScreen
  | .pricing _ => some <|
    match answer with
    | .error failure => s.fail k (toMachineError failure)
    | .ok price => (s.dispatch (.priced price)).finishFlow k
  | _ => none

def signedInBy (k : Nat) (answer : Except FlowFailure Unit) : Flow → Option DepositScreen
  | .signingIn config amount => some <|
    match answer with
    | .error failure => s.fail k (contextualizeAnchorError (toMachineError failure) .signIn)
    | .ok () => ((s.dispatch .authenticated).ask (.firmQuote amount)).moveFlow k
        (.quoting config amount)
  | _ => none

def quotedBy (k : Nat) (answer : Except FlowFailure Quote) (nowSeconds : Int) :
    Flow → Option DepositScreen
  | .quoting config amount => some <|
    match answer with
    | .error failure => s.fail k (contextualizeAnchorError (toMachineError failure) .quote)
    | .ok quote => ((s.dispatch (.quoted quote nowSeconds)).ask
        (.deposit s.address amount quote.id)).moveFlow k (.opening config amount quote)
  | _ => none

def openedBy (k : Nat) (answer : Except FlowFailure DepositTicket) : Flow → Option DepositScreen
  | .opening config _ quote => some <|
    match answer with
    | .error failure => s.fail k (contextualizeAnchorError (toMachineError failure) .deposit)
    | .ok ticket =>
      let s := (s.dispatch (.depositStarted ticket)).call (.save
        { depositId := ticket.id, account := some s.address, quoteId := some quote.id })
      (s.reload.pollUntilStopped config ticket.id).finishFlow k
  | _ => none

def simulatedBy (k : Nat) (answer : Except FlowFailure Unit) : Flow → Option DepositScreen
  | .simulating => some <|
    match answer with
    | .error failure => { s with pollWarning := some (failureMessage failure) }.finishFlow k
    | .ok () => s.finishFlow k
  | _ => none

def loadedBy (k : Nat) (answer : Except FlowFailure Unit) : Flow → Option DepositScreen
  | .loadingAccount id => some <|
    match answer with
    | .error _ => { s with recoveryTx := .failed }.finishFlow k
    | .ok () =>
      if claimableBalanceIdPattern id then
        { s with recoveryTx := .running .awaitingSignature }.moveFlow k .signing
      else { s with recoveryTx := .failed }.finishFlow k
  | _ => none

def signedBy (k : Nat) (answer : Except FlowFailure Unit) : Flow → Option DepositScreen
  | .signing => some <|
    match answer with
    | .error _ => { s with recoveryTx := .failed }.finishFlow k
    | .ok () => { s with recoveryTx := .running .submitting }.moveFlow k .submitting
  | _ => none

/-- Once the claim is submitted the signal is not asked again, unless it fails. -/
def submitted (k : Nat) (answer : Except FlowFailure String) : DepositScreen :=
  match s.flow.phase k with
  | some .submitting =>
    match answer with
    | .ok hash =>
      let s := ({ s with recoveryTx := .success hash }.dispatch .claimed).call .clear
      { s.reload with settled := s.settled + 1 }.finishFlow k
    | .error _ =>
      if s.flow.aborted k then s.finishFlow k
      else { s with recoveryTx := .failed }.finishFlow k
  | _ => s

/-- `if (status.claimableBalanceId) updateDeposit(...)` -/
def keepBalance (status : DepositStatus) : DepositScreen :=
  { s with
    store :=
      if truthy status.claimableBalanceId then
        slotStep s.access s.store (.update { claimableBalanceId := some status.claimableBalanceId })
      else s.store }

/-- What is to be done once the checks are over. -/
def settle (status : DepositStatus) : DepositScreen :=
  let forgets : Bool := status.status ≠ .pendingTrust ∧ !truthy status.claimableBalanceId
  { s with
    store := if forgets then slotStep s.access s.store .clear else s.store
    saved := if forgets then none else s.saved
    settled :=
      if status.status = .completed ∧ !truthy status.claimableBalanceId then s.settled + 1
      else s.settled }

/-- What `pollUntilStopped` does with a status. -/
def polledStatus (j : Nat) (loop : PollLoop) (status : DepositStatus) : DepositScreen :=
  let s := (s.dispatch (.statusPolled status)).keepBalance status
  if isTerminalDepositStatus status then (s.settle status).movePoll j none
  else s.movePoll j (some { loop with asleep := true })

def polledBy (j : Nat) (answer : Except FlowFailure DepositStatus) : DepositScreen :=
  match s.polling.phase j with
  | none => s
  | some loop =>
    if loop.asleep then s
    else if s.polling.aborted j then s.movePoll j none
    else
      match answer with
      | .ok status => s.polledStatus j loop status
      | .error failure =>
        { s with
          pollWarning := some (failureMessage failure ++
            " The deposit is still tracked; resume polling to try again.") }.movePoll j none

/-- The end of `wait`, which an abort brings on. -/
def wokeBy (j : Nat) : DepositScreen :=
  match s.polling.phase j with
  | none => s
  | some loop =>
    if !loop.asleep then s
    else if s.polling.aborted j then s.movePoll j none
    else if loop.attempt + 1 < depositPollMaxAttempts then
      s.movePoll j (some { loop with attempt := loop.attempt + 1, asleep := false })
    else
      { s with
        pollWarning := some
          ("Automatic status checks paused after five minutes. The deposit is still " ++
            "tracked; resume polling when you are ready.") }.movePoll j none

end Handlers

/-- A control that is not shown does nothing. Reading the saved record and repricing happen
at any time; an enabled trustline goes on with the deposit it was begun for, also after the
screen has gone. -/
def step (s : DepositScreen) : ScreenInput → DepositScreen
  | .typed amount => if s.mounted ∧ s.machine.name = .idle then { s with amount := amount } else s
  | .checkRate =>
    if s.mounted ∧ s.machine.name = .idle ∧ s.canTransact then s.priceDeposit else s
  | .continueWithWallet =>
    if s.mounted ∧ s.machine.name = .pricing ∧ s.canTransact then s.openDeposit else s
  | .resume =>
    match s.saved with
    | some (some record) =>
      if s.mounted ∧ s.machine.name = .idle then s.resumeDeposit record else s
    | _ => s
  | .simulate =>
    if s.mounted ∧ s.machine.context.ticket ≠ none ∧ s.demoTools then s.simulateTransfer else s
  | .resumeChecks =>
    match s.machine.context.config, s.machine.context.depositId with
    | some config, some depositId =>
      if s.mounted ∧ truthy s.pollWarning ∧ depositId ≠ "" then
        s.pollUntilStopped config depositId
      else s
    | _, _ => s
  | .claim =>
    if s.mounted ∧ s.machine.name = .claimRequired ∧ !s.recoveryTx.isRunning then s.claimBalance
    else s
  | .enableUsdc =>
    match s.machine.context.config, s.machine.context.depositId with
    | some config, some depositId =>
      if s.mounted ∧ s.machine.name = .claimRequired ∧ s.canTransact ∧ depositId ≠ "" ∧
          !truthy s.machine.context.claimableBalanceId then
        { s with enabling := s.enabling ++ [(config, depositId)] }
      else s
    | _, _ => s
  | .reset =>
    if s.mounted ∧ (s.machine.name = .completed ∨ s.machine.name = .error) then s.resetScreen else s
  | .unmount =>
    { s with mounted := false, polling := s.polling.abort, flow := s.flow.abort }
  | .wallet canTransact => { s with canTransact := canTransact }
  | .storage access => { s with access := access }
  | .earlierMount c => s.call c
  | .savedRead => { s with saved := some s.loaded }
  | .quoteExpiryChecked nowSeconds =>
    if s.mounted then s.dispatch (.quoteExpiryChecked nowSeconds) else s
  | .reprices =>
    match s.machine.context.quote, s.machine.context.config with
    | some quote, some _ =>
      if s.mounted ∧ s.machine.context.quoteExpired then
        s.ask (.currentPrice (ofString quote.sellAmount))
      else s
    | _, _ => s
  | .quoteRepriced quoteId price =>
    if s.mounted then s.dispatch (.quoteRepriced quoteId price) else s
  | .discovered k answer => s.answer k (s.discoveredBy k answer)
  | .priced k answer => s.answer k (s.pricedBy k answer)
  | .signedIn k answer => s.answer k (s.signedInBy k answer)
  | .quoted k answer nowSeconds => s.answer k (s.quotedBy k answer nowSeconds)
  | .depositOpened k answer => s.answer k (s.openedBy k (readAnswer startDeposit answer))
  | .transferSimulated k answer => s.answer k (s.simulatedBy k answer)
  | .accountLoaded k answer => s.answer k (s.loadedBy k answer)
  | .claimSigned k answer => s.answer k (s.signedBy k answer)
  | .claimSubmitted k answer => s.submitted k answer
  | .polled j answer => s.polledBy j (readAnswer unwrapTransactionResponse answer)
  | .woke j => s.wokeBy j
  | .trustlineEnabled n =>
    match s.enabling[n]? with
    | some (config, depositId) =>
      { s with enabling := s.enabling.eraseIdx n }.pollUntilStopped config depositId
    | none => s
  | .trustlineFailed n => { s with enabling := s.enabling.eraseIdx n }

end DepositScreen

end ShowUp.Anchor

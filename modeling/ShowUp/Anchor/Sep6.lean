import ShowUp.Anchor.Machine

/-!
# SEP-6: reading a deposit and waiting for it

The response readers of `lib/anchor/http.ts`, `parseDepositTransaction` and the
two polling loops: `pollDepositUntilSettled` of `lib/anchor/sep6.ts` and the
deposit screen's `pollUntilStopped`. Requests are answered from outside; a loop
sees one answer per attempt.
-/

namespace ShowUp.Anchor

set_option autoImplicit false

/-- A string field, tolerating the numbers some servers emit. -/
def optionalString : JsValue → Option String
  | .string value => if value ≠ "" then some value else none
  | .number value => value.text
  | _ => none

def requireString (source : JsValue) (key context : String) : Except AnchorError String :=
  match optionalString (source.get key) with
  | none => .error (.new .protocol
      ("The Anchor's " ++ context ++ " response is missing \"" ++ key ++ "\"."))
  | some value => .ok value

def requireRecord (value : JsValue) (context : String) : Except AnchorError JsValue :=
  if !value.isObject || value.isArray then
    .error (.new .protocol ("The Anchor's " ++ context ++ " response was not an object."))
  else .ok value

def parseInstructionField (value : JsValue) : Option InstructionField :=
  if !value.isObject then none
  else (optionalString (value.get "value")).map fun text =>
    ⟨text, optionalString (value.get "description")⟩

def parseInstructions (value : JsValue) : BankInstructions :=
  let all := value.entries.filterMap fun (key, raw) =>
    (parseInstructionField raw).map fun field => (key, field)
  { bankName := all.lookup "bank_name"
    bankAccountNumber := all.lookup "bank_account_number"
    accountHolder := all.lookup "bank_account_holder" <|> all.lookup "account_holder"
    externalTransferMemo := all.lookup "external_transfer_memo"
    all }

def numberOrUndefined : JsValue → Option JsNumber
  | .number value => some value
  | _ => none

/-- What `startDeposit` makes of the answer. -/
def startDeposit (response : JsValue) : Except AnchorError DepositTicket := do
  let payload ← requireRecord response "SEP-6 deposit"
  let extraInfo := payload.get "extra_info"
  let id ← requireString payload "id" "SEP-6 deposit"
  return {
    id
    instructions := parseInstructions (payload.get "instructions")
    how := optionalString (payload.get "how")
    eta := numberOrUndefined (payload.get "eta")
    feePercent := numberOrUndefined (payload.get "fee_percent")
    moreInfoUrl := optionalString (payload.get "more_info_url")
    extraInfoMessage :=
      if extraInfo.isObject then optionalString (extraInfo.get "message") else none }

/-- `KNOWN_STATUSES` -/
def knownStatuses : List (String × DepositStatusCode) :=
  [("incomplete", .incomplete),
    ("pending_user_transfer_start", .pendingUserTransferStart),
    ("pending_user_transfer_complete", .pendingUserTransferComplete),
    ("pending_external", .pendingExternal),
    ("pending_anchor", .pendingAnchor),
    ("pending_stellar", .pendingStellar),
    ("pending_trust", .pendingTrust),
    ("pending_customer_info_update", .pendingCustomerInfoUpdate),
    ("completed", .completed),
    ("refunded", .refunded),
    ("expired", .expired),
    ("error", .error)]

def statusCode (rawStatus : String) : DepositStatusCode :=
  (knownStatuses.lookup rawStatus).getD .unknown

def parseRefunds (value : JsValue) : Option DepositRefunds :=
  if !value.isObject then none
  else some
    { amountRefunded := optionalString (value.get "amount_refunded")
      amountFee := optionalString (value.get "amount_fee")
      payments := match value.get "payments" with
        | .array items => some items
        | _ => none }

def parseDepositTransaction (value : JsValue) : Except AnchorError DepositStatus := do
  let tx ← requireRecord value "SEP-6 transaction"
  let rawStatus ← requireString tx "status" "SEP-6 transaction"
  let pendingReason := optionalString (tx.get "pending_reason")
  let id ← requireString tx "id" "SEP-6 transaction"
  return {
    id
    status := statusCode rawStatus
    rawStatus
    pendingReason
    treasuryLow := pendingReason = some "treasury_low"
    claimableBalanceId := optionalString (tx.get "claimable_balance_id")
    stellarTransactionId := optionalString (tx.get "stellar_transaction_id")
    externalTransactionId := optionalString (tx.get "external_transaction_id")
    amountIn := optionalString (tx.get "amount_in")
    amountInAsset := optionalString (tx.get "amount_in_asset")
    amountOut := optionalString (tx.get "amount_out")
    amountOutAsset := optionalString (tx.get "amount_out_asset")
    amountFee := optionalString (tx.get "amount_fee")
    message := optionalString (tx.get "message")
    moreInfoUrl := optionalString (tx.get "more_info_url")
    refunds := parseRefunds (tx.get "refunds")
    startedAt := optionalString (tx.get "started_at")
    completedAt := optionalString (tx.get "completed_at") }

def unwrapTransactionResponse (payload : JsValue) : Except AnchorError DepositStatus := do
  let record ← requireRecord payload "SEP-6 transaction"
  if record.has "transaction" then parseDepositTransaction (record.get "transaction")
  else .error (.new .protocol
    "The Anchor's transaction response has no \"transaction\" wrapper.")

def pollDeposit (response : Except AnchorError JsValue) : Except AnchorError DepositStatus :=
  response >>= unwrapTransactionResponse

def isTerminalDepositStatus (status : DepositStatus) : Bool :=
  status.status = .completed ∨ status.status = .error ∨ status.status = .refunded ∨
    status.status = .expired ∨ status.status = .pendingTrust

/-- What one attempt meets: whether the signal was aborted before it and when its answer
came, the answer, and what else was dispatched to the machine until then. -/
structure Attempt where
  abortedBefore : Bool
  abortedAfter : Bool
  response : Except AnchorError JsValue
  meanwhile : List DepositAction

inductive PollEnd where
  | terminal (status : DepositStatus)
  | waiting (latest : DepositStatus)
  | exhausted
  | stopped
  | failed (error : AnchorError)

/-- The loop of `pollDepositUntilSettled`, its `onUpdate` feeding the machine. -/
def settleLoop (attempts : Nat → Attempt) :
    Nat → Nat → Option DepositStatus → DepositState → PollEnd × DepositState
  | attempt, left + 1, latest, state =>
    if (attempts attempt).abortedBefore then (settleEnd latest, state)
    else
      let state := Runs.run depositReducer state (attempts attempt).meanwhile
      match pollDeposit (attempts attempt).response with
      | .error error => (.failed error, state)
      | .ok status =>
        let state := depositReducer state (.statusPolled status)
        if isTerminalDepositStatus status then (.terminal status, state)
        else settleLoop attempts (attempt + 1) left (some status) state
  | _, 0, latest, state => (settleEnd latest, state)
where
  settleEnd : Option DepositStatus → PollEnd
    | some latest => .waiting latest
    | none => .failed (.new .protocol "The deposit was never read.")

def pollDepositUntilSettled (attempts : Nat → Attempt) (maxAttempts : Nat)
    (state : DepositState) : PollEnd × DepositState :=
  settleLoop attempts 0 maxAttempts none state

/-- The loop of `pollUntilStopped`. -/
def stopLoop (attempts : Nat → Attempt) : Nat → Nat → DepositState → PollEnd × DepositState
  | attempt, left + 1, state =>
    if (attempts attempt).abortedBefore then (.stopped, state)
    else
      let state := Runs.run depositReducer state (attempts attempt).meanwhile
      match pollDeposit (attempts attempt).response with
      | .error error =>
        (if (attempts attempt).abortedAfter then .stopped else .failed error, state)
      | .ok status =>
        if (attempts attempt).abortedAfter then (.stopped, state)
        else
          let state := depositReducer state (.statusPolled status)
          if isTerminalDepositStatus status then (.terminal status, state)
          else stopLoop attempts (attempt + 1) left state
  | _, 0, state => (.exhausted, state)

/-- `DEPOSIT_POLL_MAX_ATTEMPTS` -/
def depositPollMaxAttempts : Nat := 100

def pollUntilStopped (attempts : Nat → Attempt) (state : DepositState) :
    PollEnd × DepositState :=
  stopLoop attempts 0 depositPollMaxAttempts state

theorem except_bind_ok {ε α β : Type} {x : Except ε α} {g : α → Except ε β} {b : β} :
    x >>= g = .ok b ↔ ∃ a, x = .ok a ∧ g a = .ok b := by
  cases x <;> simp [bind, Except.bind]

end ShowUp.Anchor

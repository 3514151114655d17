import ShowUp.Client.Listing

/-!
# What is shown of a transaction

The errors of `lib/domain/errors.ts` and the states of `components/tx/tx-status.tsx`.
A code has one text, wherever it was found; anything else goes by its kind.
-/

namespace ShowUp.Client

set_option autoImplicit false

open Utf16

def contractErrorMessage (code : Nat) : String :=
  match code with
  | 1 => "That event or reservation was not found on-chain."
  | 2 =>
    "This event has been cancelled, so it can no longer be reserved, checked in or settled."
  | 3 => "You already hold a reservation for this event."
  | 4 => "The last seat was taken while your transaction was being sent. No bond was taken, " ++
      "though a signed transaction may still have paid a network fee."
  | 5 => "This bond has already been released — it was checked in, cancelled, refunded or settled."
  | 6 => "Check-in has not opened yet for this event."
  | 7 => "The check-in window for this event has closed."
  | 8 => "The cancellation window has closed, so this reservation can no longer be cancelled."
  | 9 => "This reservation cannot be settled until the check-in deadline has passed."
  | 10 => "The organizer and community shares must add up to exactly 100%."
  | 11 => "The schedule is out of order: the cancellation deadline, check-in window and start " ++
      "time do not line up."
  | 12 => "The bond amount, capacity, title or venue is outside the range the contract accepts."
  | 13 => "The amounts in this request are too large for the contract to handle."
  | 14 => "This event is still active, so there is no cancelled-event refund to claim."
  | _ => "The contract rejected this call with error code " ++ toString code ++ "."

/-- Something thrown: a code of the contract's, or a value with the text a code is looked for
in and its `kind`. The last part is, from the value along its causes, what stands under the
keys a transaction hash is looked for. -/
inductive TxError where
  | contractError (code : Nat) (hashes : List (List Text))
  | other (text : Text) (kind : Option String) (hashes : List (List Text))
  deriving DecidableEq

/-- The reads and the decoding of results throw no value with a kind or a hash. -/
def TxError.ofReadError : ReadError → TxError
  | .contractError code => .contractError code []
  | .error text => .other text none []

/-- `translateContractError`; the value becomes the cause of what it is replaced by. -/
def TxError.translate : TxError → TxError
  | .contractError code hashes => .contractError code hashes
  | .other text kind hashes =>
    match extractContractErrorCode text with
    | some code => .contractError code ([] :: hashes)
    | none => .other text kind hashes

def userFacingError (fallback : String) : TxError → String
  | .contractError code _ => contractErrorMessage code
  | .other _ kind _ =>
    match kind with
    | some "rejected" | some "user_rejected" =>
      "You declined the signature. Nothing was changed on-chain."
    | some "wrong_network" =>
      "Your wallet is not on Stellar Testnet. Switch networks and try again."
    | some "no_wallet" => "Freighter is not available. Install or unlock it, then try again."
    | some "mobile_wallet_unconfigured" =>
      "Mobile wallet connection is not configured for this deployment."
    | some "not_connected" => "Your wallet disconnected. Reconnect and try again."
    | some "account_changed" =>
      "Your wallet is using a different account. Reconnect the intended account and try again."
    | some "restore_required" =>
      "This on-chain record needs restoration before it can be used. Refresh and try again."
    | some "timeout" =>
      "Stellar is taking longer than expected. Check the transaction link before retrying."
    | some "simulation_error" => "The contract rejected the request before signature. " ++
        "Refresh the latest state and try again."
    | some "submission_error" | some "ledger_failure" =>
      "Stellar could not confirm this transaction. Check its status before retrying."
    | _ => fallback

def isUpperHex (u : UInt16) : Bool := 65 ≤ u && u ≤ 70

def isLowerHex (u : UInt16) : Bool := 97 ≤ u && u ≤ 102

/-- `/^[0-9a-f]{64}$/i` -/
def transactionHash (text : Text) : Bool :=
  text.length = 64 && text.all fun u => isDigit u || isUpperHex u || isLowerHex u

/-- `toLowerCase` of a hash -/
def lowerHash (text : Text) : Text := text.map fun u => if isUpperHex u then u + 32 else u

def transactionHashFromError : TxError → Option Text
  | .contractError _ hashes | .other _ _ hashes =>
    (hashes.take 4).findSome? fun level => (level.find? transactionHash).map lowerHash

inductive TxPhase where
  | simulating
  | awaitingSignature
  | submitting
  | confirming
  deriving DecidableEq

inductive TxState where
  | idle
  | running (phase : TxPhase)
  | success (hash : Text) (message : String) (amount : Option (Int × String))
  | failed (message : String) (hash : Option Text)
  deriving DecidableEq

def TxState.isRunning : TxState → Bool
  | running _ => true
  | _ => false

def txFailureState (fallback : String) (error : TxError) : TxState :=
  .failed (userFacingError fallback error) (transactionHashFromError error)

end ShowUp.Client

import ShowUp.Shared.JsValue

/-!
# Data of the anchor client

The application-shaped types of `lib/anchor/types.ts` and the error type of
`lib/anchor/errors.ts`. Amounts are decimal strings, exactly as the Anchor sent
them.
-/

namespace ShowUp.Anchor

set_option autoImplicit false

inductive AnchorErrorKind where
  | unreachable
  | authenticationRequired
  | serverRejected
  | protocol
  | challengeInvalid
  | demoToolsDisabled
  deriving DecidableEq

inductive AnchorRecovery where
  | retry
  | reauthenticate
  | reprice
  | wait
  | startFreshDeposit
  | none
  deriving DecidableEq

/-- `DEFAULT_RECOVERY` -/
def AnchorErrorKind.defaultRecovery : AnchorErrorKind → AnchorRecovery
  | unreachable => .retry
  | authenticationRequired => .reauthenticate
  | serverRejected => .retry
  | protocol => .retry
  | challengeInvalid => .none
  | demoToolsDisabled => .none

structure AnchorErrorOptions where
  status : Option Nat := none
  serverMessage : Option String := none
  serverType : Option String := none
  endpoint : Option String := none
  recovery : Option AnchorRecovery := none

structure AnchorError where
  kind : AnchorErrorKind
  message : String
  status : Option Nat
  serverMessage : Option String
  serverType : Option String
  endpoint : Option String
  recovery : AnchorRecovery
  deriving DecidableEq

/-- `new AnchorError(kind, message, options)` -/
def AnchorError.new (kind : AnchorErrorKind) (message : String)
    (options : AnchorErrorOptions := {}) : AnchorError where
  kind := kind
  message := message
  status := options.status
  serverMessage := options.serverMessage
  serverType := options.serverType
  endpoint := options.endpoint
  recovery := options.recovery.getD kind.defaultRecovery

structure Asset where
  code : String
  issuer : String
  deriving DecidableEq

structure AnchorConfig where
  homeDomain : String
  networkPassphrase : String
  signingKey : String
  webAuthEndpoint : String
  transferServer : String
  quoteServer : String
  kycServer : Option String
  asset : Asset
  deriving DecidableEq

structure FeeDetail where
  name : String
  description : Option String
  amount : String
  deriving DecidableEq

structure AnchorFee where
  total : String
  asset : String
  details : Option (List FeeDetail)
  deriving DecidableEq

structure Price where
  sellAmount : String
  buyAmount : String
  price : String
  totalPrice : String
  sellAsset : String
  buyAsset : String
  fee : Option AnchorFee
  deriving DecidableEq

/-- A firm quote. `expiresAt` is in whole unix seconds. -/
structure Quote extends Price where
  id : String
  expiresAt : Int
  deriving DecidableEq

structure InstructionField where
  value : String
  description : Option String
  deriving DecidableEq

structure BankInstructions where
  bankName : Option InstructionField
  bankAccountNumber : Option InstructionField
  accountHolder : Option InstructionField
  externalTransferMemo : Option InstructionField
  all : List (String × InstructionField)
  deriving DecidableEq

structure DepositTicket where
  id : String
  instructions : BankInstructions
  how : Option String
  eta : Option JsNumber
  feePercent : Option JsNumber
  moreInfoUrl : Option String
  extraInfoMessage : Option String
  deriving DecidableEq

/-- `DepositStatusCode | "unknown"` -/
inductive DepositStatusCode where
  | incomplete
  | pendingUserTransferStart
  | pendingUserTransferComplete
  | pendingExternal
  | pendingAnchor
  | pendingStellar
  | pendingTrust
  | pendingCustomerInfoUpdate
  | completed
  | refunded
  | expired
  | error
  | unknown
  deriving DecidableEq

structure DepositRefunds where
  amountRefunded : Option String
  amountFee : Option String
  payments : Option (List JsValue)

structure DepositStatus where
  id : String
  status : DepositStatusCode
  rawStatus : String
  pendingReason : Option String
  treasuryLow : Bool
  claimableBalanceId : Option String
  stellarTransactionId : Option String
  externalTransactionId : Option String
  amountIn : Option String
  amountInAsset : Option String
  amountOut : Option String
  amountOutAsset : Option String
  amountFee : Option String
  message : Option String
  moreInfoUrl : Option String
  refunds : Option DepositRefunds
  startedAt : Option String
  completedAt : Option String

end ShowUp.Anchor

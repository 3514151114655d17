import ShowUp.Shared.Runs
import ShowUp.Contract.Solvency
import ShowUp.Contract.Seats
import ShowUp.Contract.Payouts
import ShowUp.Contract.Provenance
import ShowUp.Contract.Exits
import ShowUp.Contract.Replay
import ShowUp.Anchor.ClaimTruth
import ShowUp.Anchor.PollAgreement
import ShowUp.Client.LogComplete
import ShowUp.Client.Roster
import ShowUp.Client.Eligibility
import ShowUp.Contract.Frames
import ShowUp.Contract.Storage
import ShowUp.Contract.Atomicity
import ShowUp.Contract.Liquidity
import ShowUp.Client.Amounts
import ShowUp.Shared.Reordering
import ShowUp.Contract.Independence
import ShowUp.Anchor.Evidence
import ShowUp.Anchor.LateResults
import ShowUp.Anchor.Interference
import ShowUp.Shared.Utf16
import ShowUp.Client.Schemas
import ShowUp.Client.CreateEvent
import ShowUp.Client.AmountCodec
import ShowUp.Client.Listing
import ShowUp.Client.Calendar
import ShowUp.Client.EventForm
import ShowUp.Client.QrPayload
import ShowUp.Shared.LastWrite
import ShowUp.Shared.Bytes
import ShowUp.Anchor.TokenStore
import ShowUp.Shared.Session
import ShowUp.Anchor.Sep10
import ShowUp.Anchor.FreshToken
import ShowUp.Shared.Generations
import ShowUp.Client.Scanner
import ShowUp.Client.WalletProvider
import ShowUp.Client.AsyncData
import ShowUp.Shared.Regex
import ShowUp.Client.EventId
import ShowUp.Shared.Civil
import ShowUp.Shared.WallClock
import ShowUp.Client.EventSchedule
import ShowUp.Anchor.DepositSession
import ShowUp.Shared.Controllers
import ShowUp.Anchor.DepositScreen
import ShowUp.Anchor.DepositMoves
import ShowUp.Anchor.DepositPace
import ShowUp.Anchor.DepositTracking
import ShowUp.Anchor.DepositAmounts
import ShowUp.Anchor.DepositConfigs
import ShowUp.Shared.Replicas
import ShowUp.Client.TxStatus
import ShowUp.Client.ContractWrite
import ShowUp.Client.ActionPage
import ShowUp.Client.Pages
import ShowUp.Client.ScanPage
import ShowUp.Client.ScanTruth
import ShowUp.Client.CheckIns
import ShowUp.Client.OwnLists
import ShowUp.Client.OwnPages
import ShowUp.Client.NewEventPage
import ShowUp.Client.AccountAssets
import ShowUp.Shared.Leases
import ShowUp.Contract.Lifetimes

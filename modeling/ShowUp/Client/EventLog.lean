import ShowUp.Contract.Types
import ShowUp.Shared.JsValue

/-!
# Reading the contract's event log

`lib/contract/event-log.ts` up to `readEventLog`. The generated contract spec and
the RPC server are code outside this repository: the spec decodes events and
spells topic filters, the server answers `getHealth` and `getEvents`.
-/

namespace ShowUp.Client

set_option autoImplicit false

def eventPageSize : Nat := 100

structure EventLogMetadata where
  id : String
  ledger : Nat
  ledgerClosedAt : String
  transactionIndex : Nat
  operationIndex : Nat
  txHash : String
  deriving DecidableEq

/-- The part of `ShowUpContractEvent` that depends on its kind. -/
inductive EventBody where
  | eventCreated (eventId : Int) (organizer : String) (bondAmount : Int) (capacity : JsNumber)
  | bondLocked (eventId : Int) (participant : String) (amount : Int)
  | reservationCancelled (eventId : Int) (participant : String) (amount : Int)
  | checkedIn (eventId : Int) (participant : String) (amount : Int)
  | refundClaimed (eventId : Int) (participant : String) (amount : Int)
  | eventCancelled (eventId : Int) (organizer : String)
  | noShowSettled (eventId : Int) (participant : String) (organizerAmount communityAmount : Int)
  deriving DecidableEq

def EventBody.eventId : EventBody → Int
  | eventCreated id .. | bondLocked id .. | reservationCancelled id .. | checkedIn id ..
  | refundClaimed id .. | eventCancelled id .. | noShowSettled id .. => id

structure ShowUpContractEvent extends EventLogMetadata where
  body : EventBody
  deriving DecidableEq

structure EventLogRetention where
  oldestLedger : Nat
  latestLedger : Nat
  oldestLedgerCloseTime : String
  latestLedgerCloseTime : String
  deriving DecidableEq

structure EventLogSnapshot where
  entries : List ShowUpContractEvent
  historyComplete : Bool
  retention : EventLogRetention
  deriving DecidableEq

structure ParsedEvent where
  name : String
  data : JsValue

def requireBigInt (data : JsValue) (field : String) : Except String Int :=
  match data.get field with
  | .bigint value => .ok value
  | _ => .error ("Contract event field " ++ field ++ " is not a bigint.")

def requireNumber (data : JsValue) (field : String) : Except String JsNumber :=
  match data.get field with
  | .number value =>
    if value.isFinite then .ok value
    else .error ("Contract event field " ++ field ++ " is not a finite number.")
  | _ => .error ("Contract event field " ++ field ++ " is not a finite number.")

def requireString (data : JsValue) (field : String) : Except String String :=
  match data.get field with
  | .string value =>
    if value ≠ "" then .ok value
    else .error ("Contract event field " ++ field ++ " is not a non-empty string.")
  | _ => .error ("Contract event field " ++ field ++ " is not a non-empty string.")

/-- What the decoder of the generated spec makes of a published event. -/
def decoded : ContractEvent → ParsedEvent
  | .eventCreated id organizer bondAmount capacity =>
      ⟨"EventCreated", .object [("event_id", .bigint id.toNat),
        ("organizer", .string organizer.strkey), ("bond_amount", .bigint bondAmount.val),
        ("capacity", .number (.ofU32 capacity))]⟩
  | .bondLocked id p amount => participantEvent "BondLocked" id p amount
  | .reservationCancelled id p amount => participantEvent "ReservationCancelled" id p amount
  | .checkedIn id p amount => participantEvent "CheckedIn" id p amount
  | .eventCancelled id organizer =>
      ⟨"EventCancelled", .object [("event_id", .bigint id.toNat),
        ("organizer", .string organizer.strkey)]⟩
  | .refundClaimed id p amount => participantEvent "RefundClaimed" id p amount
  | .noShowSettled id p organizerAmount communityAmount =>
      ⟨"NoShowSettled", .object [("event_id", .bigint id.toNat),
        ("participant", .string p.strkey), ("organizer_amount", .bigint organizerAmount.val),
        ("community_amount", .bigint communityAmount.val)]⟩
where
  participantEvent (name : String) (id : UInt64) (p : Address) (amount : I128) : ParsedEvent :=
    ⟨name, .object [("event_id", .bigint id.toNat), ("participant", .string p.strkey),
      ("amount", .bigint amount.val)]⟩

/-- The generated spec: how values are spelled in topic filters, and how an event's topics
and value are decoded. `topics` and `value` are what the host makes of a published event. -/
structure EventSpec where
  Val : Type
  xdr : Val → String
  eventTopicFilter : String → UInt64 → List String
  parseEvent : List Val → Val → Option ParsedEvent
  topics : ContractEvent → List Val
  value : ContractEvent → Val
  idTopic : UInt64 → String
  filter_idTopic : ∀ id, (eventTopicFilter "BondLocked" id)[1]? = some (idTopic id)
  idTopic_ne : ∀ id, idTopic id ≠ "*"
  topics_eq : ∀ event, ∃ name address id, topics event = [name, id, address] ∧
    xdr id = idTopic event.eventId
  parse_published : ∀ event, parseEvent (topics event) (value event) = some (decoded event)

structure EventResponse (spec : EventSpec) extends EventLogMetadata where
  contractId : String
  inSuccessfulContractCall : Bool
  topic : List spec.Val
  value : spec.Val

structure EventFilter where
  contractIds : List String
  topics : List (List String)

structure GetEventsRequest where
  filters : List EventFilter
  cursor : Option String := none
  startLedger : Option Nat := none
  limit : Nat

structure GetEventsResponse (spec : EventSpec) where
  events : List (EventResponse spec)
  cursor : String
  retention : EventLogRetention

/-- An RPC server, each request knowing how many went before it. -/
structure Rpc (spec : EventSpec) where
  oldestLedger : Except String Nat
  getEvents : Nat → GetEventsRequest → Except String (GetEventsResponse spec)

variable {spec : EventSpec}

/-- `{ ...toMetadata(event), ...body }` -/
def withMetadata (event : EventResponse spec) (body : EventBody) : ShowUpContractEvent :=
  { event.toEventLogMetadata with body }

def mapEvent (event : EventResponse spec) (parsed : ParsedEvent) :
    Except String (Option ShowUpContractEvent) :=
  let data := parsed.data
  match parsed.name with
  | "EventCreated" => do
      let eventId ← requireBigInt data "event_id"
      let organizer ← requireString data "organizer"
      let bondAmount ← requireBigInt data "bond_amount"
      let capacity ← requireNumber data "capacity"
      return some (withMetadata event (.eventCreated eventId organizer bondAmount capacity))
  | "BondLocked" => participantEvent data .bondLocked
  | "ReservationCancelled" => participantEvent data .reservationCancelled
  | "CheckedIn" => participantEvent data .checkedIn
  | "EventCancelled" => do
      let eventId ← requireBigInt data "event_id"
      let organizer ← requireString data "organizer"
      return some (withMetadata event (.eventCancelled eventId organizer))
  | "RefundClaimed" => participantEvent data .refundClaimed
  | "NoShowSettled" => do
      let eventId ← requireBigInt data "event_id"
      let participant ← requireString data "participant"
      let organizerAmount ← requireBigInt data "organizer_amount"
      let communityAmount ← requireBigInt data "community_amount"
      return some (withMetadata event
        (.noShowSettled eventId participant organizerAmount communityAmount))
  | _ => .ok none
where
  participantEvent (data : JsValue) (body : Int → String → Int → EventBody) :
      Except String (Option ShowUpContractEvent) := do
    let eventId ← requireBigInt data "event_id"
    let participant ← requireString data "participant"
    let amount ← requireBigInt data "amount"
    return some (withMetadata event (body eventId participant amount))

def eventIdTopic (spec : EventSpec) (eventId : UInt64) : Except String String :=
  match (spec.eventTopicFilter "BondLocked" eventId)[1]? with
  | none => .error "The generated contract spec did not encode event_id."
  | some encodedEventId =>
    if encodedEventId = "*" then .error "The generated contract spec did not encode event_id."
    else .ok encodedEventId

def logRequest (filters : List EventFilter) (oldestLedger : Nat) (cursor : Option String) :
    GetEventsRequest :=
  if truthy cursor then { filters, cursor, limit := eventPageSize }
  else { filters, startLedger := some oldestLedger, limit := eventPageSize }

/-- The `while (true)` of `readEventLog`; `none` when the fuel is used up. -/
def readPages (rpc : Rpc spec) (filters : List EventFilter) (oldestLedger : Nat) :
    Nat → Nat → Option String → List (EventResponse spec) →
      Option (Except String (List (EventResponse spec) × EventLogRetention))
  | 0, _, _, _ => none
  | fuel + 1, n, cursor, rawEvents =>
    match rpc.getEvents n (logRequest filters oldestLedger cursor) with
    | .error message => some (.error message)
    | .ok response =>
      let rawEvents := rawEvents ++ response.events
      if response.events.length < eventPageSize then some (.ok (rawEvents, response.retention))
      else if some response.cursor = cursor then
        some (.error "Stellar RPC returned the same event cursor twice.")
      else readPages rpc filters oldestLedger fuel (n + 1) (some response.cursor) rawEvents

def toEntries (eventId : UInt64) :
    List (EventResponse spec) → Except String (List ShowUpContractEvent)
  | [] => .ok []
  | rawEvent :: rest =>
    if !rawEvent.inSuccessfulContractCall then toEntries eventId rest
    else
      match spec.parseEvent rawEvent.topic rawEvent.value with
      | none => toEntries eventId rest
      | some parsed => do
        let mapped ← mapEvent rawEvent parsed
        let entries ← toEntries eventId rest
        return match mapped with
          | some entry => if entry.body.eventId = eventId.toNat then entry :: entries else entries
          | none => entries

def isEventCreated (entry : ShowUpContractEvent) : Bool :=
  match entry.body with
  | .eventCreated .. => true
  | _ => false

def logFilters (contractId topic : String) : List EventFilter :=
  [{ contractIds := [contractId], topics := [["*", topic, "*"]] }]

def readEventLog (contractId : String) (rpc : Rpc spec) (fuel : Nat) (eventId : UInt64) :
    Option (Except String EventLogSnapshot) :=
  match rpc.oldestLedger with
  | .error message => some (.error message)
  | .ok oldestLedger =>
    match eventIdTopic spec eventId with
    | .error message => some (.error message)
    | .ok topic =>
      (readPages rpc (logFilters contractId topic) oldestLedger fuel 0 none []).map fun pages => do
        let (rawEvents, retention) ← pages
        let entries ← toEntries eventId rawEvents
        return { entries, historyComplete := entries.any isEventCreated, retention }

end ShowUp.Client

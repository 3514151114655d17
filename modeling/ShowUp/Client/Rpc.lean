import ShowUp.Client.EventLog
import ShowUp.Shared.CursorPaging

/-!
# Servers over a retained history

What `getEvents` promises: from a cursor or a start ledger on, the matching events
up to where scanning stopped, which may be anywhere ahead. Which of the events the
contract published, and as what, is carried beside what the server tells.
-/

namespace ShowUp.Client

set_option autoImplicit false

open CursorPaging

variable {spec : EventSpec} {contractId : String}

def knownNames : List String :=
  ["EventCreated", "BondLocked", "ReservationCancelled", "CheckedIn", "EventCancelled",
    "RefundClaimed", "NoShowSettled"]

def toBody : ContractEvent → EventBody
  | .eventCreated id organizer bondAmount capacity =>
      .eventCreated id.toNat organizer.strkey bondAmount.val (.ofU32 capacity)
  | .bondLocked id p amount => .bondLocked id.toNat p.strkey amount.val
  | .reservationCancelled id p amount => .reservationCancelled id.toNat p.strkey amount.val
  | .checkedIn id p amount => .checkedIn id.toNat p.strkey amount.val
  | .eventCancelled id organizer => .eventCancelled id.toNat organizer.strkey
  | .refundClaimed id p amount => .refundClaimed id.toNat p.strkey amount.val
  | .noShowSettled id p organizerAmount communityAmount =>
      .noShowSettled id.toNat p.strkey organizerAmount.val communityAmount.val

/-- An event on the ledger; `origin` is what the contract published, if it is one of the
contract's own events of a known kind. -/
structure LedgerEvent (spec : EventSpec) where
  position : Nat
  response : EventResponse spec
  origin : Option ContractEvent

/-- The event is the encoding of its origin, or none of the contract's known kinds. -/
structure LedgerEvent.Genuine (contractId : String) (e : LedgerEvent spec) : Prop where
  published : ∀ event, e.origin = some event → e.response.contractId = contractId ∧
    e.response.topic = spec.topics event ∧ e.response.value = spec.value event
  unknown : e.origin = none → e.response.contractId = contractId →
    ∀ parsed, spec.parseEvent e.response.topic e.response.value = some parsed →
      parsed.name ∉ knownNames

/-- The entry the event's successful publication with this id deserves. -/
def LedgerEvent.entry (id : UInt64) (e : LedgerEvent spec) : Option ShowUpContractEvent :=
  match e.origin with
  | some event =>
    if e.response.inSuccessfulContractCall ∧ event.eventId = id then
      some (withMetadata e.response (toBody event))
    else none
  | none => none

def topicMatches : List String → List String → Bool
  | [], [] => true
  | segment :: segments, topic :: topics =>
    (segment = "*" ∨ segment = topic) && topicMatches segments topics
  | _, _ => false

def EventFilter.matches (filter : EventFilter) (event : EventResponse spec) : Bool :=
  filter.contractIds.contains event.contractId &&
    filter.topics.any fun segments => topicMatches segments (event.topic.map spec.xdr)

/-- What the server still has, in ledger order. -/
structure RetainedHistory (spec : EventSpec) (contractId : String) where
  events : List (LedgerEvent spec)
  retention : EventLogRetention
  /-- The position at which a ledger starts. -/
  startOf : Nat → Nat
  startOf_mono : ∀ {a b}, a ≤ b → startOf a ≤ startOf b
  nonempty : retention.oldestLedger ≤ retention.latestLedger
  ordered : events.Pairwise fun a b => a.position < b.position
  retained : ∀ e ∈ events, startOf retention.oldestLedger ≤ e.position ∧
    e.position < startOf (retention.latestLedger + 1)
  genuine : ∀ e ∈ events, e.Genuine contractId

namespace RetainedHistory

def latest (history : RetainedHistory spec contractId) : Nat :=
  history.startOf (history.retention.latestLedger + 1)

def oldest (history : RetainedHistory spec contractId) : Nat :=
  history.startOf history.retention.oldestLedger

theorem oldest_le_latest (history : RetainedHistory spec contractId) :
    history.oldest ≤ history.latest :=
  history.startOf_mono (Nat.le_succ_of_le history.nonempty)

def matching (history : RetainedHistory spec contractId) (filters : List EventFilter) :
    List (LedgerEvent spec) :=
  history.events.filter fun e => filters.any fun filter => filter.matches e.response

/-- Every retained event of a known kind with the id from a successful call, once, in order. -/
def entries (history : RetainedHistory spec contractId) (id : UInt64) :
    List ShowUpContractEvent :=
  history.events.filterMap (LedgerEvent.entry id)

def start (history : RetainedHistory spec contractId) (positionOf : String → Nat)
    (request : GetEventsRequest) : Nat :=
  match request.cursor with
  | some cursor => positionOf cursor
  | none => (request.startLedger.map history.startOf).getD history.oldest

def scan (history : RetainedHistory spec contractId) (positionOf : String → Nat)
    (request : GetEventsRequest) (stop : Nat) : Page (LedgerEvent spec) where
  items := between LedgerEvent.position (history.matching request.filters)
    (history.start positionOf request) stop
  stop := stop

theorem ordered_matching (history : RetainedHistory spec contractId)
    (filters : List EventFilter) :
    Ordered LedgerEvent.position (history.matching filters) :=
  (history.ordered.imp Nat.le_of_lt).filter _

end RetainedHistory

/-- A server: how it writes positions as cursors, and where each request stops scanning,
which may depend on the requests before it. -/
structure Server (history : RetainedHistory spec contractId) where
  cursorAt : Nat → String
  positionOf : String → Nat
  stopAt : Nat → GetEventsRequest → Nat
  cursorAt_ne : ∀ p, cursorAt p ≠ ""
  positionOf_cursorAt : ∀ p, positionOf (cursorAt p) = p
  answers : ∀ n request, 0 < request.limit →
    history.start positionOf request ≤ history.latest →
    Answers LedgerEvent.position (history.matching request.filters) history.latest request.limit
      (history.start positionOf request) (history.scan positionOf request (stopAt n request))

namespace Server

variable {history : RetainedHistory spec contractId}

def answer (server : Server history) (n : Nat) (request : GetEventsRequest) :
    Page (LedgerEvent spec) :=
  history.scan server.positionOf request (server.stopAt n request)

def rpc (server : Server history) : Rpc spec where
  oldestLedger := .ok history.retention.oldestLedger
  getEvents n request := .ok
    { events := (server.answer n request).items.map LedgerEvent.response
      cursor := server.cursorAt (server.answer n request).stop
      retention := history.retention }

/-- A page below the log reader's limit has reached the end. -/
def ShortMeansEnd (server : Server history) : Prop :=
  ∀ n request, request.limit = eventPageSize →
    history.start server.positionOf request ≤ history.latest →
    (server.answer n request).items.length < eventPageSize →
    (server.answer n request).stop = history.latest

/-- Two servers for every history: one scans until a page is full, the other one position
at a time. -/
def paced (history : RetainedHistory spec contractId) (filling : Bool) : Server history where
  cursorAt p := String.ofList (List.replicate (p + 1) '.')
  positionOf cursor := cursor.length - 1
  stopAt _ request :=
    let start := history.start (fun cursor => cursor.length - 1) request
    if filling then fillingStop LedgerEvent.position (history.matching request.filters)
      history.latest request.limit start
    else min (start + 1) history.latest
  cursorAt_ne p empty := by
    have length := congrArg String.length empty
    simp at length
  positionOf_cursorAt p := by simp
  answers n request positive within := by
    cases filling with
    | true => exact (Answers.filling _ (history.ordered.filter _) positive within).1
    | false => exact .one _ (history.ordered.filter _) positive within

theorem paced_shortMeansEnd (history : RetainedHistory spec contractId) :
    (paced history true).ShortMeansEnd := by
  intro n request limit within short
  have positive : 0 < request.limit := by
    rw [limit]
    decide
  rw [← limit] at short
  exact (Answers.filling _ (history.ordered.filter _) positive within).2 short

end Server

/-! The simplest spec, and the history of a log from its beginning. -/

namespace Plain

def idTopic (id : UInt64) : String := "id " ++ toString id.toNat

/-- Topics are texts, and an event is its own encoding. -/
def plainSpec : EventSpec where
  Val := String ⊕ ContractEvent
  xdr := Sum.elim id fun _ => ""
  eventTopicFilter name id := [name, idTopic id, "*"]
  parseEvent _ value := (value.getRight?).map decoded
  topics event := [.inl (decoded event).name, .inl (idTopic event.eventId), .inl "address"]
  value := .inr
  idTopic := idTopic
  filter_idTopic _ := rfl
  idTopic_ne id wildcard := by
    have length := congrArg String.length wildcard
    have wide : "id ".length = 3 := rfl
    have narrow : "*".length = 1 := rfl
    rw [idTopic, String.length_append, wide, narrow] at length
    omega
  topics_eq event := ⟨_, _, _, rfl, rfl⟩
  parse_published _ := rfl

def eventsFrom (contractId : String) : Nat → List ContractEvent → List (LedgerEvent plainSpec)
  | _, [] => []
  | position, event :: rest =>
    { position
      response :=
        { id := ""
          ledger := position
          ledgerClosedAt := ""
          transactionIndex := 0
          operationIndex := 0
          txHash := ""
          contractId
          inSuccessfulContractCall := true
          topic := plainSpec.topics event
          value := plainSpec.value event }
      origin := some event } :: eventsFrom contractId (position + 1) rest

theorem mem_eventsFrom {contractId : String} {position : Nat} {log : List ContractEvent}
    {e : LedgerEvent plainSpec} (member : e ∈ eventsFrom contractId position log) :
    (position ≤ e.position ∧ e.position < position + log.length) ∧ e.Genuine contractId := by
  induction log generalizing position with
  | nil => cases member
  | cons event rest ih =>
    rw [List.length_cons]
    cases member with
    | head =>
      refine ⟨⟨Nat.le_refl _, by dsimp only; omega⟩, ?_, nofun⟩
      intro _ h
      cases h
      exact ⟨rfl, rfl, rfl⟩
    | tail _ member =>
      obtain ⟨within, genuine⟩ := ih member
      exact ⟨by omega, genuine⟩

theorem ordered_eventsFrom (contractId : String) (position : Nat) (log : List ContractEvent) :
    (eventsFrom contractId position log).Pairwise fun a b => a.position < b.position := by
  induction log generalizing position with
  | nil => exact .nil
  | cons event rest ih =>
    apply List.pairwise_cons.mpr ⟨?_, ih (position + 1)⟩
    intro e member
    have within := (mem_eventsFrom member).1
    dsimp only
    omega

def history (contractId : String) (log : List ContractEvent) :
    RetainedHistory plainSpec contractId where
  events := eventsFrom contractId 0 log
  retention := ⟨0, log.length, "", ""⟩
  startOf ledger := ledger
  startOf_mono := id
  nonempty := Nat.zero_le _
  ordered := ordered_eventsFrom contractId 0 log
  retained e member := by
    have within := (mem_eventsFrom member).1
    dsimp only
    omega
  genuine e member := (mem_eventsFrom member).2

end Plain

end ShowUp.Client

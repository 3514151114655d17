import ShowUp.Client.Rpc
import ShowUp.Contract.Chain

/-!
# What the log reader returns

Decoding loses nothing: from the pages it was given, `readEventLog` makes exactly
the entries they deserve. What it was given is what lies before the first page
below the limit.
-/

namespace ShowUp.Client

set_option autoImplicit false

open CursorPaging

variable {spec : EventSpec} {contractId : String}

/-- Every field a published event is decoded to passes its check. -/
theorem mapEvent_decoded (response : EventResponse spec) (event : ContractEvent) :
    mapEvent response (decoded event) = .ok (some (withMetadata response (toBody event))) := by
  cases event with
  | eventCreated id organizer =>
    simp [mapEvent, decoded, toBody, requireBigInt, requireString, requireNumber, JsValue.get,
      JsNumber.isFinite, JsNumber.ofU32, organizer.nonempty]
    rfl
  | eventCancelled id organizer =>
    simp [mapEvent, decoded, toBody, requireBigInt, requireString, JsValue.get, organizer.nonempty]
    rfl
  | bondLocked id p | reservationCancelled id p | checkedIn id p | refundClaimed id p =>
    simp [mapEvent, mapEvent.participantEvent, decoded, decoded.participantEvent, toBody,
      requireBigInt, requireString, JsValue.get, p.nonempty]
    rfl
  | noShowSettled id p =>
    simp [mapEvent, decoded, toBody, requireBigInt, requireString, JsValue.get, p.nonempty]
    rfl

theorem mapEvent_unknown (response : EventResponse spec) {parsed : ParsedEvent}
    (unknown : parsed.name ∉ knownNames) : mapEvent response parsed = .ok none := by
  simp only [knownNames, List.mem_cons, List.not_mem_nil, or_false, not_or] at unknown
  unfold mapEvent
  split <;> simp_all

theorem toBody_eventId (event : ContractEvent) :
    (toBody event).eventId = event.eventId.toNat := by
  cases event <;> rfl

theorem toEntries_cons {id : UInt64} {e : LedgerEvent spec} {rest : List (LedgerEvent spec)}
    {entries : List ShowUpContractEvent} (genuine : e.Genuine contractId)
    (own : e.response.contractId = contractId)
    (ih : toEntries id (rest.map LedgerEvent.response) = .ok entries) :
    toEntries id ((e :: rest).map LedgerEvent.response) =
      .ok ((e.entry id).toList ++ entries) := by
  rw [List.map_cons, toEntries, ih]
  unfold LedgerEvent.entry
  cases called : e.response.inSuccessfulContractCall with
  | false => cases e.origin <;> simp
  | true =>
    cases known : e.origin with
    | none =>
      cases parsing : spec.parseEvent e.response.topic e.response.value with
      | none => simp
      | some parsed =>
        have unknown := mapEvent_unknown e.response (genuine.unknown known own parsed parsing)
        simp [unknown, bind, Except.bind, pure, Except.pure]
    | some event =>
      obtain ⟨-, topic, value⟩ := genuine.published event known
      have same : (withMetadata e.response (toBody event)).body.eventId = id.toNat ↔
          event.eventId = id := by
        rw [← UInt64.toNat_inj]
        change (toBody event).eventId = _ ↔ _
        rw [toBody_eventId, Int.natCast_inj]
      rw [topic, value, spec.parse_published]
      by_cases asked : event.eventId = id <;>
        simp [mapEvent_decoded, same, asked, bind, Except.bind, pure, Except.pure]

theorem toEntries_eq {id : UInt64} {events : List (LedgerEvent spec)}
    (genuine : ∀ e ∈ events, e.Genuine contractId)
    (own : ∀ e ∈ events, e.response.contractId = contractId) :
    toEntries id (events.map LedgerEvent.response) =
      .ok (events.filterMap (LedgerEvent.entry id)) := by
  induction events with
  | nil => rfl
  | cons e rest ih =>
    obtain ⟨first, genuine⟩ := List.forall_mem_cons.mp genuine
    obtain ⟨firstOwn, own⟩ := List.forall_mem_cons.mp own
    rw [toEntries_cons first firstOwn (ih genuine own), List.filterMap_cons]
    cases e.entry id <;> rfl

theorem topicMatches_wildcards {name id address topic : String} :
    topicMatches ["*", topic, "*"] [name, id, address] = decide (topic = "*" ∨ topic = id) := by
  simp [topicMatches]

theorem matches_of_entry {id : UInt64} {e : LedgerEvent spec} (genuine : e.Genuine contractId)
    (deserves : (e.entry id).isSome) :
    (logFilters contractId (spec.idTopic id)).any
      (fun filter => filter.matches e.response) = true := by
  unfold LedgerEvent.entry at deserves
  cases known : e.origin with
  | none => simp [known] at deserves
  | some event =>
    obtain ⟨own, topic, -⟩ := genuine.published event known
    have asked : event.eventId = id := by
      rw [known] at deserves
      dsimp only at deserves
      split at deserves
      · rename_i asked
        exact asked.2
      · cases deserves
    obtain ⟨name, address, topicId, topics, encoded⟩ := spec.topics_eq event
    simp [logFilters, EventFilter.matches, own, topic, topics, topicMatches_wildcards, encoded,
      asked]

theorem contractId_of_matches {topic : String} {response : EventResponse spec}
    (through : (logFilters contractId topic).any (fun filter => filter.matches response) = true) :
    response.contractId = contractId := by
  simp only [logFilters, List.any_cons, List.any_nil, Bool.or_false, EventFilter.matches,
    Bool.and_eq_true, List.contains_iff_mem, List.mem_singleton] at through
  exact through.1

namespace RetainedHistory

variable (history : RetainedHistory spec contractId) (id : UInt64)

def relevant : List (LedgerEvent spec) :=
  history.matching (logFilters contractId (spec.idTopic id))

theorem ordered_relevant : Ordered LedgerEvent.position (history.relevant id) :=
  history.ordered_matching _

/-- The request the reader makes with a cursor, or with none. -/
def requestWith (cursor : Option String) : GetEventsRequest :=
  logRequest (logFilters contractId (spec.idTopic id)) history.retention.oldestLedger cursor

theorem requestWith_limit (cursor : Option String) :
    (history.requestWith id cursor).limit = eventPageSize := by
  simp only [requestWith, logRequest]
  split <;> rfl

theorem requestWith_filters (cursor : Option String) :
    (history.requestWith id cursor).filters = logFilters contractId (spec.idTopic id) := by
  simp only [requestWith, logRequest]
  split <;> rfl

/-- What lies before a position yields every entry exactly when none lies behind it. -/
theorem entries_before_eq_iff {stop : Nat} :
    (between LedgerEvent.position (history.relevant id) history.oldest stop).filterMap
        (LedgerEvent.entry id) = history.entries id ↔
      ∀ e ∈ history.events, (e.entry id).isSome → e.position < stop := by
  rw [between, relevant, matching, List.filter_filter, entries, filterMap_filter_eq_iff]
  refine forall₂_congr fun e member => imp_congr_right fun deserves => ?_
  have through := matches_of_entry (history.genuine e member) deserves
  have retained := (history.retained e member).1
  simp [through, oldest, retained]

end RetainedHistory

namespace Server

variable {history : RetainedHistory spec contractId} (server : Server history) (id : UInt64)

def logPage (n : Nat) (cursor : Option String) : Page (LedgerEvent spec) :=
  server.answer n (history.requestWith id cursor)

def startWith (cursor : Option String) : Nat :=
  history.start server.positionOf (history.requestWith id cursor)

def nextCursor (p : Nat) : Option String := some (server.cursorAt p)

/-- Reading for an event id ends at this position, at the first page below the limit. -/
def EndsAt (stop : Nat) : Prop :=
  ∃ items, Reads (server.logPage id) server.nextCursor eventPageSize 0 none items stop

@[simp] theorem startWith_none : server.startWith id none = history.oldest := rfl

@[simp] theorem startWith_nextCursor (p : Nat) :
    server.startWith id (server.nextCursor p) = p := by
  simp [startWith, nextCursor, RetainedHistory.requestWith, logRequest, truthy, server.cursorAt_ne,
    RetainedHistory.start, server.positionOf_cursorAt]

theorem logPage_answers (n : Nat) (cursor : Option String)
    (within : server.startWith id cursor ≤ history.latest) :
    Answers LedgerEvent.position (history.relevant id) history.latest eventPageSize
      (server.startWith id cursor) (server.logPage id n cursor) := by
  have limit := history.requestWith_limit id cursor
  have answer := server.answers n (history.requestWith id cursor) (by rw [limit]; decide) within
  rwa [limit, history.requestWith_filters] at answer

/-- The loop follows the cursors to the first page below the limit, and never sees a cursor
twice: a full page leaves less to read. -/
theorem readPages_reads (fuel n : Nat) (cursor : Option String)
    (rawEvents : List (EventResponse spec))
    (within : server.startWith id cursor ≤ history.latest)
    (enough : (between LedgerEvent.position (history.relevant id) (server.startWith id cursor)
      history.latest).length < fuel) :
    ∃ items stop, Reads (server.logPage id) server.nextCursor eventPageSize n cursor items stop ∧
      readPages server.rpc (logFilters contractId (spec.idTopic id))
          history.retention.oldestLedger fuel n cursor rawEvents =
        some (.ok (rawEvents ++ items.map LedgerEvent.response, history.retention)) := by
  induction fuel generalizing n cursor rawEvents with
  | zero => exact absurd enough (Nat.not_lt_zero _)
  | succ fuel ih =>
    have answer := server.logPage_answers id n cursor within
    have counted : ((server.logPage id n cursor).items.map LedgerEvent.response).length =
        (server.logPage id n cursor).items.length := List.length_map _
    have turn : server.rpc.getEvents n (history.requestWith id cursor) =
      .ok ⟨(server.logPage id n cursor).items.map LedgerEvent.response,
        server.cursorAt (server.logPage id n cursor).stop, history.retention⟩ := rfl
    unfold RetainedHistory.requestWith at turn
    rw [readPages, turn]
    dsimp only
    rw [counted]
    by_cases short : (server.logPage id n cursor).items.length < eventPageSize
    · rw [if_pos short]
      exact ⟨_, _, .last short, rfl⟩
    · have less := answer.remaining_lt (history.ordered_relevant id) (by decide) short
      have advanced : some (server.cursorAt (server.logPage id n cursor).stop) ≠ cursor := by
        intro same
        have stays := server.startWith_nextCursor id (server.logPage id n cursor).stop
        rw [nextCursor, same] at stays
        rw [← stays] at less
        exact absurd less (Nat.lt_irrefl _)
      rw [if_neg short, if_neg advanced]
      obtain ⟨items, stop, reads, read⟩ := ih (n + 1)
        (server.nextCursor (server.logPage id n cursor).stop)
        (rawEvents ++ (server.logPage id n cursor).items.map LedgerEvent.response)
        (by rw [startWith_nextCursor]; exact answer.stop_le)
        (by rw [startWith_nextCursor]; omega)
      refine ⟨_, stop, .more short reads, ?_⟩
      rw [nextCursor] at read
      rw [read, List.map_append, List.append_assoc]

/-- Reading ends at one position, and returns the entries that lie before it. -/
theorem readEventLog_eq {fuel : Nat} (enough : history.events.length < fuel) :
    ∃ stop items, (∀ p, server.EndsAt id p ↔ p = stop) ∧
      Reads (server.logPage id) server.nextCursor eventPageSize 0 none items stop ∧
      readEventLog contractId server.rpc fuel id = some (.ok
        { entries := items.filterMap (LedgerEvent.entry id)
          historyComplete := (items.filterMap (LedgerEvent.entry id)).any isEventCreated
          retention := history.retention }) ∧
      items = between LedgerEvent.position (history.relevant id) history.oldest stop := by
  have fits : (between LedgerEvent.position (history.relevant id) history.oldest
      history.latest).length < fuel := by
    have scanned := List.length_filter_le (fun e : LedgerEvent spec =>
      decide (history.oldest ≤ e.position ∧ e.position < history.latest)) (history.relevant id)
    have matched := List.length_filter_le (fun e : LedgerEvent spec =>
      (logFilters contractId (spec.idTopic id)).any fun filter => filter.matches e.response)
      history.events
    unfold between
    unfold RetainedHistory.relevant RetainedHistory.matching at scanned ⊢
    omega
  obtain ⟨items, stop, reads, read⟩ := server.readPages_reads id fuel 0 none []
    history.oldest_le_latest fits
  obtain ⟨items_eq, -⟩ := reads.items_eq (server.startWith_nextCursor id)
    (server.logPage_answers id) (history.ordered_relevant id) history.oldest_le_latest
  refine ⟨stop, items, fun p => ⟨?_, ?_⟩, reads, ?_, items_eq⟩
  · intro h
    rcases h with ⟨items', reads'⟩
    exact (reads'.unique reads).2
  · intro h
    subst h
    exact ⟨items, reads⟩
  · have own : ∀ e ∈ items, e ∈ history.events ∧ e.response.contractId = contractId := by
      intro e member
      rw [items_eq] at member
      have matched := List.mem_filter.mp (List.mem_of_mem_filter member)
      exact ⟨matched.1, contractId_of_matches matched.2⟩
    have decodes : toEntries id (items.map LedgerEvent.response) = _ :=
      toEntries_eq (fun e member => history.genuine e (own e member).1)
        (fun e member => (own e member).2)
    have topic : eventIdTopic spec id = .ok (spec.idTopic id) := by
      simp [eventIdTopic, spec.filter_idTopic, spec.idTopic_ne]
    simp only [readEventLog, rpc, topic]
    unfold rpc at read
    rw [read]
    simp [decodes, bind, Except.bind, pure, Except.pure]

end Server

/-- The log read is every retained event of a known kind with the id from a successful call,
once and in ledger order, exactly when none of these lies behind the first page below the
limit. -/
theorem log_complete_iff {history : RetainedHistory spec contractId} (server : Server history)
    (id : UInt64) {fuel : Nat} (enough : history.events.length < fuel) :
    ∃ stop snapshot, (∀ p, server.EndsAt id p ↔ p = stop) ∧
      readEventLog contractId server.rpc fuel id = some (.ok snapshot) ∧
      (snapshot.entries = history.entries id ↔
        ∀ e ∈ history.events, (e.entry id).isSome → e.position < stop) := by
  obtain ⟨stop, items, ends, -, read, items_eq⟩ := server.readEventLog_eq id enough
  refine ⟨stop, _, ends, read, ?_⟩
  rw [items_eq]
  exact history.entries_before_eq_iff id

def shortLog : List ContractEvent :=
  [.eventCreated 1 Scenario.organizer Scenario.args.bondAmount 1,
    .bondLocked 1 Scenario.guest Scenario.args.bondAmount]

theorem log_complete_iff_unhurried : ∃ snapshot,
    readEventLog "bond" (Server.paced (Plain.history "bond" shortLog) true).rpc 3 1 =
        some (.ok snapshot) ∧
      snapshot.entries = (Plain.history "bond" shortLog).entries 1 := by
  obtain ⟨stop, snapshot, ends, read, complete⟩ :=
    log_complete_iff (Server.paced (Plain.history "bond" shortLog) true) 1
      (by decide : (Plain.history "bond" shortLog).events.length < 3)
  have last : 3 = stop := by
    have short : ((Server.paced (Plain.history "bond" shortLog) true).logPage 1 0
      none).items.length < eventPageSize := by decide
    exact (ends 3).mp ⟨_, .last short⟩
  refine ⟨snapshot, read, complete.mpr ?_⟩
  intro e member _
  rw [← last]
  exact ((Plain.history "bond" shortLog).retained e member).2

/-- A server that scans one ledger at a time: the bond behind the first page is never read,
and the log is reported complete. -/
theorem short_page_ends_log :
    (∃ snapshot, readEventLog "bond" (Server.paced (Plain.history "bond" shortLog) false).rpc 3 1 =
        some (.ok snapshot) ∧ snapshot.historyComplete = true ∧ snapshot.entries.length = 1 ∧
      ((Plain.history "bond" shortLog).entries 1).length = 2) ∧
    ¬ ∀ (spec : EventSpec) (contractId : String) (history : RetainedHistory spec contractId)
        (server : Server history) (id : UInt64) (fuel : Nat), history.events.length < fuel →
      ∃ snapshot, readEventLog contractId server.rpc fuel id = some (.ok snapshot) ∧
        snapshot.entries = history.entries id := by
  have read : ∃ snapshot, readEventLog "bond"
      (Server.paced (Plain.history "bond" shortLog) false).rpc 3 1 = some (.ok snapshot) ∧
        snapshot.historyComplete = true ∧ snapshot.entries.length = 1 := ⟨_, rfl, rfl, rfl⟩
  obtain ⟨snapshot, read, complete, one⟩ := read
  refine ⟨⟨snapshot, read, complete, one, rfl⟩, fun all => ?_⟩
  obtain ⟨snapshot', read', same⟩ := all _ _ (Plain.history "bond" shortLog)
    (Server.paced _ false) 1 3 (by decide)
  cases read.symm.trans read'
  have both := congrArg List.length same
  rw [one] at both
  cases both

end ShowUp.Client

import ShowUp.Shared.Decimal
import ShowUp.Shared.Double
import ShowUp.Client.Eligibility

/-!
# Listing the events

`getEventCount`, `getEvent` and `listEvents` of `lib/contract/index.ts`, over
the contract's own read entry points. There is no index: the screens enumerate
the ids below the counter, newest first.
-/

namespace ShowUp

set_option autoImplicit false

/-- `get_event_count` -/
def Ledger.getEventCount {σ : Type} (l : Ledger σ) : UInt64 := l.eventCount

/-- `get_event` -/
def Ledger.getEvent {σ : Type} (l : Ledger σ) (eventId : UInt64) : Except Error Event :=
  match l.events.lookup eventId with
  | some event => .ok event
  | none => .error .notFound

namespace Client

open Utf16

/-- What the generated client's transaction of a read comes back with. A rejection is given
by the text it is turned into to look for a code. -/
inductive Read (α : Type) where
  | rejected (text : Text)
  | unsimulated
  | simulationError (error : Text)
  | restore
  | success (result : α)

/-- What a `Result` of the bindings holds when it is not ok; `code` is what the decoder of
`ScError` finds in its message. -/
structure ResultError where
  code : Option Nat
  message : Text

structure EventReads where
  getEventCount : Read UInt64
  getEvent : Int → Read (Except ResultError Event)

inductive ReadError where
  | contractError (code : Nat)
  | error (text : Text)
  deriving DecidableEq

/-- `/Error\(Contract,\s*#(\d+)\)/`, at the start of the text -/
def contractErrorAt (text : Text) : Option Nat :=
  let opening := ofString "Error(Contract,"
  if opening.isPrefixOf text then
    match (text.drop opening.length).dropWhile isSpace with
    | [] => none
    | hash :: rest =>
      let digits := rest.takeWhile isDigit
      let closed := (rest.dropWhile isDigit).head? = (ofString ")").head?
      if [hash] = ofString "#" ∧ digits ≠ [] ∧ closed then some (value digits) else none
  else none

def extractContractErrorCode (text : Text) : Option Nat := text.tails.findSome? contractErrorAt

def translateContractError : ReadError → ReadError
  | .contractError code => .contractError code
  | .error text =>
    match extractContractErrorCode text with
    | some code => .contractError code
    | none => .error text

def readSimulation {α : Type} : Read α → Except ReadError α
  | .rejected text => .error (.error text)
  | .unsimulated => .error (.error
      (ofString "The contract call was never simulated, so there is nothing to read."))
  | .simulationError error =>
    match extractContractErrorCode error with
    | some code => .error (.contractError code)
    | none => .error (.error (ofString "Contract simulation failed: " ++ error))
  | .restore => .error (.error (ofString
      "This contract entry has expired on-chain and must be restored before it can be used."))
  | .success result => .ok result

def unwrapResult {α : Type} : Except ResultError α → Except ReadError α
  | .ok value => .ok value
  | .error returned =>
    match returned.code with
    | some code => .error (.contractError code)
    | none => .error (.error (ofString "The contract returned an error: " ++ returned.message))

def isNotFound : ReadError → Bool
  | .contractError code => code = 1
  | .error _ => false

section Facade
variable (client : EventReads) (decodeText : List UInt8 → String)

/-- `Number(..)` of a 64-bit value is what `secondsToNumber` computes. -/
def getEventCount : Except ReadError Nat :=
  ((readSimulation client.getEventCount).map secondsToNumber).mapError translateContractError

def getEvent (eventId : Int) : Except ReadError EventView :=
  (((readSimulation (client.getEvent eventId)).bind unwrapResult).map
    (toEventView decodeText)).mapError translateContractError

/-- `for (let id = count; id > count - take; id -= 1)`. Below `2^53` the steps are exact. -/
def idsDown (bound id : Int) : List Int :=
  if bound < id then id :: idsDown bound (id - 1) else []
termination_by (id - bound).toNat

/-- How many events are listed, out of `count`. -/
def take (limit : Option Double) (count : Nat) : Int :=
  match limit with
  | some (.finite value) => max 0 (min ⌊value⌋ count)
  | _ => count

/-- What `listEvents` asks for, in order, and what it ends in. -/
structure Listing where
  requested : List Int
  result : Except ReadError (List EventView)

/-- One event of the list, or `null`. -/
def readListed (id : Int) : Except ReadError (Option EventView) :=
  match getEvent client decodeText id with
  | .ok event => .ok (some event)
  | .error error => if isNotFound error then .ok none else .error error

/-- `Promise.all` has every id requested before it waits. Of several rejections it ends in
one; here in the first of the list. -/
def listEvents (limit : Option Double) : Listing :=
  match getEventCount client with
  | .error error => ⟨[], .error error⟩
  | .ok count =>
    if count ≤ 0 then ⟨[], .ok []⟩
    else if take limit count = 0 then ⟨[], .ok []⟩
    else
      let ids := idsDown (count - take limit count) count
      ⟨ids, (ids.mapM (readListed client decodeText)).map fun settled => settled.filterMap id⟩

end Facade

theorem idsDown_eq (top : Int) (k : Nat) :
    idsDown (top - k) top = (List.range k).map fun i : Nat => top - i := by
  induction k generalizing top with
  | zero =>
    rw [idsDown, if_neg (by simp)]
    rfl
  | succ k ih =>
    have rest := ih (top - 1)
    have bound : top - 1 - (k : Int) = top - (k + 1 : Nat) := by omega
    rw [bound] at rest
    rw [idsDown, if_pos (by omega), rest, List.range_succ_eq_map, List.map_cons, List.map_map]
    congr 1
    · simp
    · apply List.map_congr_left
      intro i _
      simp only [Function.comp_apply, Nat.succ_eq_add_one, Nat.cast_add, Nat.cast_one]
      omega

theorem take_bounds (limit : Option Double) (count : Nat) :
    0 ≤ take limit count ∧ take limit count ≤ count := by
  unfold take
  split <;> omega

theorem mapM_ok {α β ε : Type} {f : α → Except ε β} {g : α → β} {items : List α}
    (read : ∀ item ∈ items, f item = .ok (g item)) : items.mapM f = .ok (items.map g) := by
  induction items with
  | nil => rfl
  | cons item items ih =>
    rw [List.mapM_cons, read item List.mem_cons_self,
      ih fun other h => read other (List.mem_cons_of_mem _ h)]
    rfl

theorem map_filterMap {α β γ : Type} {g : α → Option β} {f : β → γ} {label : α → γ}
    {items : List α} (found : ∀ item ∈ items, ∃ value, g item = some value ∧ f value = label item) :
    (items.filterMap g).map f = items.map label := by
  induction items with
  | nil => rfl
  | cons item items ih =>
    obtain ⟨value, h, labelled⟩ := found item List.mem_cons_self
    rw [List.filterMap_cons_some h, List.map_cons, List.map_cons, labelled,
      ih fun other h => found other (List.mem_cons_of_mem _ h)]

/-- The two early returns are what the loop would end in. -/
theorem listEvents_eq {client : EventReads} {decodeText : List UInt8 → String} {n : Nat}
    (count : getEventCount client = .ok n) (limit : Option Double) :
    listEvents client decodeText limit =
      let ids := (List.range (take limit n).toNat).map fun i : Nat => (n : Int) - i
      ⟨ids, (ids.mapM (readListed client decodeText)).map fun settled => settled.filterMap id⟩ := by
  obtain ⟨nonneg, le⟩ := take_bounds limit n
  have down := idsDown_eq n (take limit n).toNat
  rw [Int.toNat_of_nonneg nonneg] at down
  unfold listEvents
  rw [count]
  dsimp only
  by_cases nothing : take limit n = 0
  · rw [if_pos nothing, ite_self, nothing]
    rfl
  · rw [if_neg nothing, if_neg (by omega), down]

section Reads
variable {tok : Token} {contract : Address} {client : EventReads} {d : Deployment tok}
  {steps : List (Step contract)} {later : UInt64 → List (Step contract)}

/-- Every read succeeds: the counter is read at one moment, and each event at some moment
after it. -/
structure EventReads.Succeed (client : EventReads) (d : Deployment tok)
    (steps : List (Step contract)) (later : UInt64 → List (Step contract)) : Prop where
  count : client.getEventCount = .success (Chain.after d steps).ledger.getEventCount
  event : ∃ refusal : Error → ResultError, ∀ id : UInt64, client.getEvent id.toNat = .success
    (((Chain.after d (steps ++ later id)).ledger.getEvent id).mapError refusal)

/-- The view of the event stored under an id when that id is read. -/
def storedView (decodeText : List UInt8 → String) (d : Deployment tok)
    (steps : List (Step contract)) (later : UInt64 → List (Step contract)) (id : Nat) :
    Option EventView :=
  ((Chain.after d (steps ++ later (.ofNat id))).ledger.events.lookup (.ofNat id)).map
    (toEventView decodeText)

theorem storedView_isSome (decodeText : List UInt8 → String)
    (unchanged : ∀ id, (Chain.after d (steps ++ later id)).ledger.eventCount =
      (Chain.after d steps).ledger.eventCount) {id : Nat} (pos : 1 ≤ id)
    (le : id ≤ (Chain.after d steps).ledger.eventCount.toNat) :
    ∃ view, storedView decodeText d steps later id = some view ∧ view.id = id := by
  have range := (Chain.after d steps).ledger.eventCount.toNat_lt
  have toNat : (UInt64.ofNat id).toNat = id := by
    rw [UInt64.toNat_ofNat', Nat.mod_eq_of_lt (by omega)]
  have w := Chain.after_wellFormed d (steps ++ later (.ofNat id))
  have inside : UInt64.ofNat id ∈ (Chain.after d (steps ++ later (.ofNat id))).ledger.events := by
    rw [w.ids, unchanged, toNat]
    omega
  obtain ⟨event, found⟩ := Finmap.mem_iff.mp inside
  refine ⟨toEventView decodeText event, ?_, ?_⟩
  · rw [storedView, found]
    rfl
  · rw [toEventView, w.event found, toNat]

theorem readListed_eq (decodeText : List UInt8 → String) (reads : client.Succeed d steps later)
    (unchanged : ∀ id, (Chain.after d (steps ++ later id)).ledger.eventCount =
      (Chain.after d steps).ledger.eventCount) {id : Nat} (pos : 1 ≤ id)
    (le : id ≤ (Chain.after d steps).ledger.eventCount.toNat) :
    readListed client decodeText id = .ok (storedView decodeText d steps later id) := by
  obtain ⟨refusal, event⟩ := reads.event
  have range := (Chain.after d steps).ledger.eventCount.toNat_lt
  have toNat : (UInt64.ofNat id).toNat = id := by
    rw [UInt64.toNat_ofNat', Nat.mod_eq_of_lt (by omega)]
  have read := event (.ofNat id)
  rw [toNat] at read
  obtain ⟨view, stored, _⟩ := storedView_isSome decodeText unchanged pos le
  obtain ⟨e, found, viewed⟩ := Option.map_eq_some_iff.mp stored
  rw [stored, readListed, getEvent, read, Ledger.getEvent, found, ← viewed]
  rfl

/-- The listing asks for the newest ids, as many as the limit allows, and shows the events
stored under them in that order. -/
theorem lists_newest_first (decodeText : List UInt8 → String)
    (reads : client.Succeed d steps later)
    (unchanged : ∀ id, (Chain.after d (steps ++ later id)).ledger.eventCount =
      (Chain.after d steps).ledger.eventCount)
    (small : (Chain.after d steps).ledger.eventCount.toNat < 2 ^ 53) (limit : Option Double) :
    let n := (Chain.after d steps).ledger.eventCount.toNat
    let k : Nat := match limit with
      | some (.finite value) => (max 0 (min ⌊value⌋ n)).toNat
      | _ => n
    let ids := (List.range k).map fun i : Nat => (n : Int) - i
    ∃ events, listEvents client decodeText limit = ⟨ids, .ok events⟩ ∧
      events.map some = (List.range k).map (fun i => storedView decodeText d steps later (n - i)) ∧
      events.map EventView.id = ids ∧ ids.Nodup ∧ ∀ id ∈ ids, 1 ≤ id ∧ id ≤ n := by
  intro n k ids
  have taken : (take limit n).toNat = k := by
    unfold take k
    split <;> simp
  have kle : k ≤ n := by
    have := take_bounds limit n
    omega
  have stored : ∀ i ∈ List.range k, ∃ view,
      storedView decodeText d steps later (n - i) = some view ∧ view.id = (n : Int) - i := by
    intro i hi
    have := List.mem_range.mp hi
    obtain ⟨view, stored, named⟩ := storedView_isSome decodeText unchanged
      (show 1 ≤ n - i by omega) (by omega)
    exact ⟨view, stored, by omega⟩
  have count : getEventCount client = .ok n := by
    rw [getEventCount, reads.count, Ledger.getEventCount]
    exact congrArg Except.ok (secondsToNumber_exact small)
  have settled : ids.mapM (readListed client decodeText) =
      .ok ((List.range k).map fun i => storedView decodeText d steps later (n - i)) := by
    rw [List.mapM_map]
    apply mapM_ok
    intro i hi
    have := List.mem_range.mp hi
    have cast : ((n - i : Nat) : Int) = n - i := by omega
    rw [Function.comp_apply, ← cast]
    exact readListed_eq decodeText reads unchanged (by omega) (by omega)
  refine ⟨(List.range k).filterMap fun i => storedView decodeText d steps later (n - i),
    ?_, ?_, ?_, ?_, ?_⟩
  · rw [listEvents_eq count, taken]
    dsimp only
    rw [settled, Except.map, List.filterMap_map]
    rfl
  · apply map_filterMap
    intro i hi
    obtain ⟨view, stored, _⟩ := stored i hi
    exact ⟨view, stored, stored.symm⟩
  · exact map_filterMap stored
  · apply List.Nodup.map _ List.nodup_range
    intro i j same
    dsimp only at same
    omega
  · intro id h
    obtain ⟨i, hi, rfl⟩ := List.mem_map.mp h
    have := List.mem_range.mp hi
    omega

/-- A client over one chain, whose encoder refuses what is no `u64`. -/
def EventReads.ofChain (refusal : Error → ResultError) (d : Deployment tok)
    (steps : List (Step contract)) : EventReads where
  getEventCount := .success (Chain.after d steps).ledger.getEventCount
  getEvent eventId :=
    match U64.ofInt? eventId with
    | some id => .success (((Chain.after d steps).ledger.getEvent id).mapError refusal)
    | none => .rejected (ofString "expected a u64")

theorem EventReads.ofChain_getEvent {refusal : Error → ResultError} {d : Deployment tok}
    {steps : List (Step contract)} {eventId : Int} {id : UInt64}
    (encoded : U64.ofInt? eventId = some id) :
    (EventReads.ofChain refusal d steps).getEvent eventId =
      .success (((Chain.after d steps).ledger.getEvent id).mapError refusal) := by
  simp only [EventReads.ofChain, encoded]

theorem EventReads.ofChain_succeed (refusal : Error → ResultError) (d : Deployment tok)
    (steps : List (Step contract)) :
    (EventReads.ofChain refusal d steps).Succeed d steps fun _ => [] := by
  refine ⟨rfl, refusal, fun id => ?_⟩
  rw [List.append_nil]
  exact EventReads.ofChain_getEvent (U64.ofInt?_eq_some.mpr rfl)

end Reads

theorem lists_newest_first_twoEvents :
    ∃ newer older, listEvents
        (EventReads.ofChain (fun _ => ⟨some 1, []⟩) Scenario.deployment Scenario.twoEvents)
        (fun _ => "title") (some (.finite (5 / 2))) = ⟨[2, 1], .ok [newer, older]⟩ ∧
      newer.id = 2 ∧ older.id = 1 := by
  have n : (Chain.after Scenario.deployment Scenario.twoEvents).ledger.eventCount.toNat = 2 := by
    decide
  obtain ⟨events, listed, _, named, _⟩ := lists_newest_first (fun _ => "title")
    (EventReads.ofChain_succeed _ Scenario.deployment Scenario.twoEvents)
    (fun _ => by rw [List.append_nil]) (by omega) (some (.finite (5 / 2)))
  have floor : ⌊(5 / 2 : ℚ)⌋ = 2 := by norm_num
  have ids : events.map EventView.id = [2, 1] := by
    rw [named]
    simp [n, floor, List.range_succ]
  obtain ⟨newer, rest, rfl, first, remaining⟩ := List.map_eq_cons_iff.mp ids
  obtain ⟨older, rest, rfl, second, remaining⟩ := List.map_eq_cons_iff.mp remaining
  cases List.map_eq_nil_iff.mp remaining
  refine ⟨newer, older, ?_, first, second⟩
  rw [listed]
  simp [n, floor, List.range_succ]

end Client

end ShowUp

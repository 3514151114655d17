import ShowUp.Anchor.Sep6

/-!
# When polling stops

The loops stop on a terminal status, the machine waits or not by its state. Both
are functions of the polled status; they part only over a deposit that is
reported finished while the treasury is reported empty.
-/

namespace ShowUp.Anchor

set_option autoImplicit false

/-- The Anchor says both that the deposit is through and that it waits for the treasury. -/
def ThroughYetWaiting (tx : JsValue) : Prop :=
  optionalString (tx.get "pending_reason") = some "treasury_low" ∧
    (optionalString (tx.get "status") = some "completed" ∨
      optionalString (tx.get "status") = some "pending_trust")

theorem requireString_ok {source : JsValue} {key context value : String} :
    requireString source key context = .ok value ↔
      optionalString (source.get key) = some value := by
  unfold requireString
  split <;> simp_all

theorem requireRecord_ok {value record : JsValue} {context : String}
    (h : requireRecord value context = .ok record) : record = value := by
  unfold requireRecord at h
  split at h
  · cases h
  · cases h
    rfl

theorem parseDepositTransaction_ok {tx : JsValue} {status : DepositStatus}
    (h : parseDepositTransaction tx = .ok status) :
    optionalString (tx.get "status") = some status.rawStatus ∧
      status.status = statusCode status.rawStatus ∧
      optionalString (tx.get "id") = some status.id ∧
      status.treasuryLow = decide (optionalString (tx.get "pending_reason") = some "treasury_low") ∧
      status.claimableBalanceId = optionalString (tx.get "claimable_balance_id") := by
  unfold parseDepositTransaction at h
  obtain ⟨record, isRecord, h⟩ := except_bind_ok.mp h
  obtain ⟨rawStatus, hasStatus, h⟩ := except_bind_ok.mp h
  obtain ⟨id, hasId, h⟩ := except_bind_ok.mp h
  cases requireRecord_ok isRecord
  cases h
  exact ⟨requireString_ok.mp hasStatus, rfl, requireString_ok.mp hasId, rfl, rfl⟩

theorem mem_knownStatuses {raw : String} {code : DepositStatusCode} (known : code ≠ .unknown)
    (h : statusCode raw = code) : (raw, code) ∈ knownStatuses := by
  unfold statusCode at h
  cases found : knownStatuses.lookup raw with
  | none =>
    rw [found] at h
    exact absurd h.symm known
  | some code' =>
    rw [found] at h
    cases h
    obtain ⟨before, rest, split, _⟩ := List.lookup_eq_some_iff.mp found
    rw [split]
    exact List.mem_append_right before List.mem_cons_self

theorem statusCode_completed_iff {raw : String} :
    statusCode raw = .completed ↔ raw = "completed" := by
  constructor
  · intro h
    simpa [knownStatuses] using mem_knownStatuses (by decide) h
  · intro h
    subst h
    decide

theorem statusCode_pendingTrust_iff {raw : String} :
    statusCode raw = .pendingTrust ↔ raw = "pending_trust" := by
  constructor
  · intro h
    simpa [knownStatuses] using mem_knownStatuses (by decide) h
  · intro h
    subst h
    decide

theorem throughYetWaiting_iff {tx : JsValue} {status : DepositStatus}
    (parsed : parseDepositTransaction tx = .ok status) :
    ThroughYetWaiting tx ↔
      status.treasuryLow ∧ (status.status = .completed ∨ status.status = .pendingTrust) := by
  obtain ⟨rawStatus, code, _, treasury, _⟩ := parseDepositTransaction_ok parsed
  rw [ThroughYetWaiting, rawStatus, code, treasury, statusCode_completed_iff,
    statusCode_pendingTrust_iff]
  simp

def Settled (name : DepositStateName) : Prop :=
  name = .completed ∨ name = .claimRequired ∨ name = .error

/-- A polled status settles the machine when it is terminal, unless the treasury is awaited. -/
theorem settled_iff (status : DepositStatus) :
    Settled (stateForStatus status) ↔ isTerminalDepositStatus status ∧
      ¬ (status.treasuryLow ∧ (status.status = .completed ∨ status.status = .pendingTrust)) := by
  unfold stateForStatus isTerminalDepositStatus needsClaim Settled
  cases status.treasuryLow <;> cases truthy status.claimableBalanceId <;>
    cases status.status <;> decide

theorem shouldPoll_eq_false_iff (state : DepositState) (status : DepositStatus)
    (accepted : accepts state status) :
    shouldPoll (depositReducer state (.statusPolled status)) = false ↔
      Settled (stateForStatus status) := by
  have range : stateForStatus status = .error ∨ stateForStatus status = .treasuryLow ∨
      stateForStatus status = .claimRequired ∨ stateForStatus status = .completed ∨
      stateForStatus status = .awaitingBankTransfer ∨
        stateForStatus status = .anchorProcessing := by
    unfold stateForStatus
    split_ifs <;> simp
  unfold shouldPoll
  rw [statusPolled_name accepted]
  rcases range with name | name | name | name | name | name <;> simp [name, Settled]

theorem terminal_agrees_iff {tx : JsValue} {status : DepositStatus} {state : DepositState}
    (parsed : parseDepositTransaction tx = .ok status) (accepted : accepts state status) :
    (isTerminalDepositStatus status ↔
      shouldPoll (depositReducer state (.statusPolled status)) = false) ↔
    ¬ ThroughYetWaiting tx := by
  rw [shouldPoll_eq_false_iff state status accepted, settled_iff, throughYetWaiting_iff parsed]
  constructor
  · intro agree waiting
    have terminal : isTerminalDepositStatus status := by
      rcases waiting.2 with code | code <;> simp [isTerminalDepositStatus, code]
    exact (agree.mp terminal).2 waiting
  · intro notWaiting
    simp only [notWaiting, not_false_eq_true, and_true]

theorem unwrapTransactionResponse_ok {payload : JsValue} {status : DepositStatus}
    (h : unwrapTransactionResponse payload = .ok status) :
    parseDepositTransaction (payload.get "transaction") = .ok status := by
  unfold unwrapTransactionResponse at h
  obtain ⟨record, isRecord, h⟩ := except_bind_ok.mp h
  cases requireRecord_ok isRecord
  split at h
  · exact h
  · cases h

/-- What the machine is told in an attempt that ends with a status. -/
def Attempt.told (a : Attempt) : List DepositAction :=
  match pollDeposit a.response with
  | .ok status => a.meanwhile ++ [.statusPolled status]
  | .error _ => a.meanwhile

/-- What the machine is told in `n` attempts. -/
def toldFrom (attempts : Nat → Attempt) (attempt n : Nat) : List DepositAction :=
  (List.range n).flatMap fun k => (attempts (attempt + k)).told

/-- Where a loop that ended on a terminal status left the machine. -/
def EndedOn (attempts : Nat → Attempt) (attempt : Nat) (start : List DepositAction)
    (status : DepositStatus) (state : DepositState) : Prop :=
  ∃ n payload, (attempts (attempt + n)).response = .ok payload ∧
    parseDepositTransaction (payload.get "transaction") = .ok status ∧
    isTerminalDepositStatus status ∧
    state = depositReducer (depositAfter (start ++
      (toldFrom attempts attempt n ++ (attempts (attempt + n)).meanwhile))) (.statusPolled status)

theorem depositAfter_append (start actions : List DepositAction) :
    depositAfter (start ++ actions) = Runs.run depositReducer (depositAfter start) actions :=
  Runs.run_append ..

theorem depositAfter_concat (actions : List DepositAction) (a : DepositAction) :
    depositAfter (actions ++ [a]) = depositReducer (depositAfter actions) a :=
  Runs.run_concat ..

theorem pollDeposit_ok {response : Except AnchorError JsValue} {status : DepositStatus}
    (h : pollDeposit response = .ok status) :
    ∃ payload, response = .ok payload ∧
      parseDepositTransaction (payload.get "transaction") = .ok status := by
  obtain ⟨payload, answered, h⟩ := except_bind_ok.mp h
  exact ⟨payload, answered, unwrapTransactionResponse_ok h⟩

theorem toldFrom_succ (attempts : Nat → Attempt) (attempt n : Nat) :
    toldFrom attempts attempt (n + 1) =
      (attempts attempt).told ++ toldFrom attempts (attempt + 1) n := by
  rw [toldFrom, toldFrom, List.range_succ_eq_map, List.flatMap_cons, List.flatMap_map]
  congr 2
  funext k
  rw [Nat.add_assoc, Nat.add_comm 1 k]

theorem attempt_eq {a : Attempt} {status : DepositStatus}
    (polled : pollDeposit a.response = .ok status) (start : List DepositAction) :
    depositReducer (Runs.run depositReducer (depositAfter start) a.meanwhile)
        (.statusPolled status) = depositAfter (start ++ a.told) := by
  rw [Attempt.told, polled, ← depositAfter_append, ← depositAfter_concat, List.append_assoc]

section EndedOn
variable {attempts : Nat → Attempt} {attempt : Nat} {start : List DepositAction}
variable {status : DepositStatus} {state : DepositState}

theorem EndedOn.later
    (ended : EndedOn attempts (attempt + 1) (start ++ (attempts attempt).told) status state) :
    EndedOn attempts attempt start status state := by
  obtain ⟨n, payload, answered, parsed, terminal, state_eq⟩ := ended
  have next : attempt + 1 + n = attempt + (n + 1) := by omega
  refine ⟨n + 1, payload, next ▸ answered, parsed, terminal, ?_⟩
  rw [state_eq, toldFrom_succ, next]
  simp only [List.append_assoc]

theorem EndedOn.here (polled : pollDeposit (attempts attempt).response = .ok status)
    (terminal : isTerminalDepositStatus status) :
    EndedOn attempts attempt start status
      (depositReducer (Runs.run depositReducer (depositAfter start) (attempts attempt).meanwhile)
        (.statusPolled status)) := by
  obtain ⟨payload, answered, parsed⟩ := pollDeposit_ok polled
  exact ⟨0, payload, answered, parsed, terminal, by rw [← depositAfter_append]; rfl⟩

theorem stopLoop_terminal {left : Nat}
    (ended : stopLoop attempts attempt left (depositAfter start) = (.terminal status, state)) :
    EndedOn attempts attempt start status state := by
  induction left generalizing attempt start with
  | zero => cases ended
  | succ left ih =>
    rw [stopLoop] at ended
    split at ended
    · cases ended
    · dsimp only at ended
      cases polled : pollDeposit (attempts attempt).response with
      | error error =>
        rw [polled] at ended
        dsimp only at ended
        split at ended <;> cases ended
      | ok status' =>
        rw [polled] at ended
        dsimp only at ended
        split at ended
        · cases ended
        · split at ended
          · rename_i terminal
            cases ended
            exact .here polled terminal
          · rw [attempt_eq polled] at ended
            exact (ih ended).later

theorem settleLoop_terminal {left : Nat} {latest : Option DepositStatus}
    (ended : settleLoop attempts attempt left latest (depositAfter start) =
      (.terminal status, state)) : EndedOn attempts attempt start status state := by
  induction left generalizing attempt start latest with
  | zero => cases latest <;> cases ended
  | succ left ih =>
    rw [settleLoop] at ended
    split at ended
    · cases latest <;> cases ended
    · dsimp only at ended
      cases polled : pollDeposit (attempts attempt).response with
      | error error =>
        rw [polled] at ended
        cases ended
      | ok status' =>
        rw [polled] at ended
        dsimp only at ended
        split at ended
        · rename_i terminal
          cases ended
          exact .here polled terminal
        · rw [attempt_eq polled] at ended
          exact (ih ended).later

end EndedOn

/-- The classification of the loops and that of the machine agree on a polled transaction
exactly when it is not reported through and waiting at once; and a loop that ends on a
terminal status the machine took leaves it settled exactly then. -/
theorem polling_ends_with_machine (start : List DepositAction) :
    (∀ tx status, parseDepositTransaction tx = .ok status →
      accepts (depositAfter start) status →
      ((isTerminalDepositStatus status ↔
          shouldPoll (depositAfter (start ++ [.statusPolled status])) = false) ↔
        ¬ ThroughYetWaiting tx)) ∧
    ∀ attempts maxAttempts status state,
      pollDepositUntilSettled attempts maxAttempts (depositAfter start) =
          (.terminal status, state) ∨
        pollUntilStopped attempts (depositAfter start) = (.terminal status, state) →
      ∃ n payload actions, (attempts n).response = .ok payload ∧
        parseDepositTransaction (payload.get "transaction") = .ok status ∧
        actions = start ++ (toldFrom attempts 0 n ++ (attempts n).meanwhile) ∧
        state = depositAfter (actions ++ [.statusPolled status]) ∧
        (accepts (depositAfter actions) status →
          (Settled state.name ↔ ¬ ThroughYetWaiting (payload.get "transaction"))) := by
  constructor
  · intro tx status parsed accepted
    rw [depositAfter_concat]
    exact terminal_agrees_iff parsed accepted
  · intro attempts maxAttempts status state ended
    have last : EndedOn attempts 0 start status state := by
      rcases ended with ended | ended
      · exact settleLoop_terminal ended
      · exact stopLoop_terminal ended
    obtain ⟨n, payload, answered, parsed, terminal, state_eq⟩ := last
    rw [Nat.zero_add] at answered state_eq
    refine ⟨n, payload, _, answered, parsed, rfl, by rw [state_eq, depositAfter_concat], ?_⟩
    intro accepted
    rw [state_eq, statusPolled_name accepted, settled_iff, throughYetWaiting_iff parsed]
    simp only [terminal, true_and]

def transaction (status pendingReason : String) : JsValue :=
  .object [("id", .string "dep"), ("status", .string status),
    ("pending_reason", .string pendingReason)]

theorem polling_ends_with_machine_completed : ∃ status,
    parseDepositTransaction (transaction "completed" "none") = .ok status ∧
      (isTerminalDepositStatus status ↔
        shouldPoll (depositAfter (resumed ++ [.statusPolled status])) = false) :=
  ⟨_, rfl, ((polling_ends_with_machine resumed).1 (transaction "completed" "none") _ rfl
    (by decide)).mpr fun waiting => absurd waiting.1 (by decide)⟩

/-- The loop stops on a completed deposit that waits for the treasury, and the machine
keeps waiting. -/
theorem polling_stops_while_waiting :
    (∃ status, pollUntilStopped (fun _ => ⟨false, false, .ok (.object
        [("transaction", transaction "completed" "treasury_low")]), []⟩)
          (depositAfter resumed) =
        (.terminal status, depositAfter (resumed ++ [.statusPolled status])) ∧
      accepts (depositAfter resumed) status ∧
      (depositAfter (resumed ++ [.statusPolled status])).name = .treasuryLow) ∧
    ¬ ∀ actions tx status, parseDepositTransaction tx = .ok status →
      accepts (depositAfter actions) status →
      (isTerminalDepositStatus status ↔
        shouldPoll (depositAfter (actions ++ [.statusPolled status])) = false) := by
  refine ⟨⟨_, rfl, by decide, by decide⟩, fun agree => ?_⟩
  have both := agree resumed (transaction "completed" "treasury_low") _ rfl (by decide)
  exact absurd (both.mp (by decide)) (by decide)

end ShowUp.Anchor

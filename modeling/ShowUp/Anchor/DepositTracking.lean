import ShowUp.Anchor.DepositPace

/-!
# A deposit under way is never lost

While the screen tells of a deposit, the session has the record of that very deposit, so
that a reload can take it up where it was; and as long as the screen is there, something
is under way or there is something to press.
-/

namespace ShowUp.Anchor

set_option autoImplicit false

open Runs

/-- The states that tell of a deposit under way. -/
def DepositStateName.underWay : DepositStateName → Bool
  | awaitingBankTransfer | anchorProcessing | treasuryLow | claimRequired => true
  | _ => false

/-- The states that are checked for news. -/
def DepositStateName.watched : DepositStateName → Bool
  | awaitingBankTransfer | anchorProcessing | treasuryLow => true
  | _ => false

theorem DepositStateName.underWay_of_watched {name : DepositStateName}
    (watched : name.watched = true) : name.underWay = true := by
  cases name <;> first | rfl | cases watched

theorem canAcceptPoll_iff (m : DepositState) :
    canAcceptPoll m = true ↔ m.name.underWay = true := by
  unfold canAcceptPoll
  cases m.name <;> simp [DepositStateName.underWay]

theorem DepositState.Consistent.accepts_iff {m : DepositState} (h : m.Consistent)
    {status : DepositStatus} (known : m.context.depositId = some status.id) :
    accepts m status = true ↔ m.name.underWay = true := by
  have named : status.id ≠ "" := by
    intro empty
    rw [empty] at known
    exact h.identified known
  rw [← canAcceptPoll_iff]
  simp [accepts, known, truthy, named]

/-- A status after which the record is given up. -/
def DepositStatus.Forgotten (status : DepositStatus) : Prop :=
  isTerminalDepositStatus status = true ∧ status.status ≠ .pendingTrust ∧
    truthy status.claimableBalanceId = false

instance (status : DepositStatus) : Decidable status.Forgotten :=
  inferInstanceAs (Decidable (_ ∧ _ ∧ _))

theorem terminal_name {status : DepositStatus} (terminal : isTerminalDepositStatus status = true)
    (funded : status.treasuryLow = false) : ¬ (stateForStatus status).watched = true := by
  unfold isTerminalDepositStatus at terminal
  unfold stateForStatus needsClaim
  rw [funded]
  rcases of_decide_eq_true terminal with here | here | here | here | here
  · cases balance : truthy status.claimableBalanceId <;> simp [here, DepositStateName.watched]
  · simp [here, DepositStateName.watched]
  · simp [here, DepositStateName.watched]
  · simp [here, DepositStateName.watched]
  · simp [here, DepositStateName.watched]

theorem forgotten_name {status : DepositStatus} (forgotten : status.Forgotten)
    (funded : status.treasuryLow = false) : ¬ (stateForStatus status).underWay = true := by
  obtain ⟨terminal, other, noBalance⟩ := forgotten
  unfold isTerminalDepositStatus at terminal
  unfold stateForStatus needsClaim
  rw [funded, noBalance]
  rcases of_decide_eq_true terminal with here | here | here | here | here
  · simp [here, DepositStateName.underWay]
  · simp [here, DepositStateName.underWay]
  · simp [here, DepositStateName.underWay]
  · simp [here, DepositStateName.underWay]
  · exact absurd here other

theorem polled_depositId (m : DepositState) (status : DepositStatus) :
    (depositReducer m (.statusPolled status)).context.depositId = m.context.depositId := by
  rw [course_depositId]
  simp only [Course.next]
  split <;> rfl

/-! The slot. -/

theorem slotStep_stored {access : StorageAccess} {slot : Option (PersistedDeposit String)}
    (stored : ∀ r, slot = some r → r.depositId ≠ "") (c : DepositCall String)
    {r : PersistedDeposit String} (after : slotStep access slot c = some r) :
    r.depositId ≠ "" := by
  cases c with
  | save record =>
    simp only [slotStep, PersistedDeposit.loadable] at after
    split at after
    · split at after
      · cases after
      · cases after
        assumption
    · exact stored r after
  | update patch =>
    simp only [slotStep] at after
    split at after
    · exact stored r after
    · split at after
      · exact stored r after
      · split at after
        · cases after
          assumption
        · exact stored r after
  | clear =>
    simp only [slotStep] at after
    split at after
    · cases after
    · exact stored r after

theorem slotStep_save {slot : Option (PersistedDeposit String)} {record : PersistedDeposit String}
    (named : record.depositId ≠ "") : slotStep .working slot (.save record) = some record :=
  if_neg named

/-- A balance is noted in the record that is there. -/
theorem slotStep_balance {record : PersistedDeposit String} (named : record.depositId ≠ "")
    (id : Option String) :
    slotStep .working (some record) (.update { claimableBalanceId := some id }) =
      some { record with claimableBalanceId := id } := if_neg named

/-- What the user does on the screen. -/
def ScreenInput.byUser : ScreenInput → Bool
  | typed _ | checkRate | continueWithWallet | resume | simulate | resumeChecks | claim
  | enableUsdc | reset => true
  | _ => false

namespace DepositScreen

/-- Every record at hand has an id, and one that is being resumed is the wallet's own. -/
structure Kept (s : DepositScreen) : Prop where
  consistent : s.machine.Consistent
  furnished : s.machine.Furnished
  stored : ∀ r, s.store = some r → r.depositId ≠ ""
  saved : ∀ r, s.saved = some (some r) → r.depositId ≠ ""
  resuming : ∀ k r, s.flow.live = some (k, .resuming r) →
    r.depositId ≠ "" ∧ r.account = some s.address

theorem polledStatus_stored {s : DepositScreen} (stored : ∀ r, s.store = some r → r.depositId ≠ "")
    (j : Nat) (loop : PollLoop) (status : DepositStatus) (r : PersistedDeposit String)
    (after : (s.polledStatus j loop status).store = some r) : r.depositId ≠ "" := by
  have kept : ∀ r, ((s.dispatch (.statusPolled status)).keepBalance status).store = some r →
      r.depositId ≠ "" := by
    intro r after
    unfold keepBalance at after
    dsimp only at after
    split at after
    · exact slotStep_stored stored _ after
    · exact stored r after
  unfold polledStatus at after
  dsimp only at after
  split at after
  · change (if _ then _ else _) = some r at after
    split at after
    · exact slotStep_stored kept _ after
    · exact kept r after
  · exact kept r after

theorem polledStatus_saved (s : DepositScreen) (j : Nat) (loop : PollLoop)
    (status : DepositStatus) :
    (s.polledStatus j loop status).saved = s.saved ∨
      (s.polledStatus j loop status).saved = none := by
  unfold polledStatus
  dsimp only
  split
  · change (if _ then _ else _) = _ ∨ (if _ then _ else _) = _
    split
    · exact .inr rfl
    · exact .inl rfl
  · exact .inl rfl

section Moves
variable {s t : DepositScreen} {i : ScreenInput}

theorem store_of_loaded {r : PersistedDeposit String} (read : s.loaded = some r) :
    s.store = some r := by
  unfold loaded at read
  split at read
  · exact read
  · cases read

theorem Move.machine (h : s.Kept) (m : Move s i t) :
    t.machine = s.machine ∨ ∃ a : DepositAction, t.machine = depositReducer s.machine a ∧
      a.Identified := by
  cases m with
  | quiet q => exact .inl q.machine
  | typed | resumes | simulates | claims | advanced | ended | unmounted | pollGoes | pollEnds
  | pollBegins | reprices | storage | earlierMount => exact .inl rfl
  | told told =>
    right
    rcases told with ⟨now, rfl⟩ | ⟨id, price, rfl⟩
    · exact ⟨.quoteExpiryChecked now, rfl, trivial⟩
    · exact ⟨.quoteRepriced id price, rfl, trivial⟩
  | began => exact .inr ⟨.start (some s.address), rfl, trivial⟩
  | opens => exact .inr ⟨.authenticate, rfl, trivial⟩
  | discovered config => exact .inr ⟨.discovered config, rfl, trivial⟩
  | @resumed k r config live =>
    exact .inr ⟨.resume s.address config r.depositId r.claimableBalanceId, rfl,
      (h.resuming k r live).1⟩
  | @resumedChecks k r config live =>
    exact .inr ⟨.resume s.address config r.depositId r.claimableBalanceId, rfl,
      (h.resuming k r live).1⟩
  | priced price => exact .inr ⟨.priced price, rfl, trivial⟩
  | signedIn => exact .inr ⟨.authenticated, rfl, trivial⟩
  | quoted quote now => exact .inr ⟨.quoted quote now, rfl, trivial⟩
  | opened ticket live named => exact .inr ⟨.depositStarted ticket, rfl, named⟩
  | failed error => exact .inr ⟨.failed error, rfl, trivial⟩
  | claimed => exact .inr ⟨.claimed, rfl, trivial⟩
  | reset => exact .inr ⟨.reset, rfl, trivial⟩
  | @polled j loop status =>
    exact .inr ⟨.statusPolled status, polledStatus_machine s j loop status, trivial⟩

theorem Move.saved (m : Move s i t) :
    t.saved = s.saved ∨ t.saved = none ∨ t.saved = some s.loaded := by
  cases m with
  | quiet q => exact q.saved.imp_right .inr
  | opened | claimed | reset => exact .inr (.inl rfl)
  | polled => exact (polledStatus_saved ..).imp_right .inl
  | _ => exact .inl rfl

theorem Move.stored (h : s.Kept) (m : Move s i t) (r : PersistedDeposit String)
    (after : t.store = some r) : r.depositId ≠ "" := by
  cases m with
  | quiet q => exact h.stored r (q.store.symm.trans after)
  | opened => exact slotStep_stored h.stored (.save _) after
  | claimed | reset => exact slotStep_stored h.stored .clear after
  | earlierMount c => exact slotStep_stored h.stored c after
  | polled => exact polledStatus_stored h.stored _ _ _ r after
  | _ => exact h.stored r after

/-- Where a record is being resumed: it was before, or it has just been chosen. -/
theorem Move.resuming (m : Move s i t) {k : Nat} {r : PersistedDeposit String}
    (live : t.flow.live = some (k, .resuming r)) :
    s.flow.live = some (k, .resuming r) ∨
      s.saved = some (some r) ∧ r.account = some s.address ∧ s.machine.name = .idle ∧
        t = s.beginFlow (.resuming r) := by
  cases m with
  | quiet q => exact .inl (q.flow.symm.trans live)
  | typed | told | pollGoes | pollEnds | pollBegins | reprices | storage | earlierMount =>
    exact .inl live
  | began | opens | simulates | claims => cases (Controllers.live_begin ..).symm.trans live
  | resumes mounted name free saved account =>
    cases (Controllers.live_begin ..).symm.trans live
    exact .inr ⟨saved, account, name, rfl⟩
  | discovered _ before | signedIn before | quoted _ _ before =>
    cases (Controllers.live_move before (some _)).symm.trans live
  | @advanced k p q phase before claims still =>
    cases (Controllers.live_move before (some q)).symm.trans live
    cases still
  | resumed _ before | resumedChecks _ before | priced _ before | opened _ before
  | failed _ before | ended before => cases (Controllers.live_finish before).symm.trans live
  | @claimed k hash phase =>
    cases off : s.flow.aborted k with
    | true => exact .inl ((Controllers.live_finish_aborted off).symm.trans live)
    | false =>
      have before := Controllers.live_of_phase phase off
      cases (Controllers.live_finish before).symm.trans live
  | reset | unmounted => cases (Controllers.live_abort _).symm.trans live
  | @polled j loop status =>
    rw [(polledStatus_beside s j loop status).flow] at live
    exact .inl live

theorem Move.address (m : Move s i t) : t.address = s.address := by
  cases m with
  | quiet q => exact q.address
  | @polled j loop status => exact (polledStatus_beside s j loop status).address
  | _ => rfl

theorem Kept.move (h : s.Kept) (m : Move s i t) : t.Kept where
  consistent := by
    rcases m.machine h with same | ⟨a, acted, identified⟩
    · rw [same]
      exact h.consistent
    · rw [acted]
      exact h.consistent.step identified
  furnished := by
    rcases m.machine h with same | ⟨a, acted, _⟩
    · rw [same]
      exact h.furnished
    · rw [acted]
      exact h.furnished.step a
  stored := m.stored h
  saved := by
    rcases m.saved with saved | saved | saved <;> rw [saved]
    · exact h.saved
    · intro r none
      cases none
    · exact fun r known => h.stored r (store_of_loaded (Option.some.inj known))
  resuming := by
    intro k r live
    rw [m.address]
    rcases m.resuming live with before | ⟨saved, account, _⟩
    · exact h.resuming k r before
    · exact ⟨h.saved r saved, account⟩

end Moves

/-- The loop and the records are about the deposit that the machine tells of. -/
structure Tracked (s : DepositScreen) : Prop where
  access : s.access = .working
  loop : ∀ j l, s.polling.live = some (j, l) → s.machine.context.depositId = some l.depositId
  saved : s.machine.name = .idle → ∀ r, s.saved = some (some r) → s.store = some r
  resuming : ∀ k r, s.flow.live = some (k, .resuming r) → s.store = some r
  tracked : s.machine.name.underWay = true → ∃ r, s.store = some r ∧ r.account = some s.address ∧
    s.machine.context.depositId = some r.depositId ∧
    s.machine.context.claimableBalanceId = r.claimableBalanceId
  checked : s.mounted = true → s.machine.name.watched = true →
    (∃ j l, s.polling.live = some (j, l)) ∨ truthy s.pollWarning = true

section Tracked
variable {s t : DepositScreen} {i : ScreenInput}

/-- Before a deposit is opened there is nothing to check. -/
theorem Tracked.no_loop (h : s.Tracked) (kept : s.Kept)
    (unopened : s.machine.name.unopened = true) : s.polling.live = none := by
  rw [Option.eq_none_iff_forall_ne_some]
  rintro ⟨j, l⟩ live
  have known := h.loop j l live
  rw [(kept.consistent.unopened unopened).1] at known
  cases known

/-- A move that leaves the deposit and what is stored of it alone. -/
theorem Tracked.keep (h : s.Tracked) (address : t.address = s.address)
    (course : t.machine.course = s.machine.course)
    (store : t.store = s.store ∧ t.access = s.access)
    (saved : t.saved = s.saved ∨ t.saved = some s.loaded)
    (loop : ∀ j l, t.polling.live = some (j, l) →
      s.machine.context.depositId = some l.depositId)
    (checked : t.mounted = true → s.machine.name.watched = true →
      (∃ j l, t.polling.live = some (j, l)) ∨ truthy t.pollWarning = true)
    (resuming : ∀ k r, t.flow.live = some (k, .resuming r) → s.store = some r) : t.Tracked := by
  have name : t.machine.name = s.machine.name := congrArg Course.name course
  have depositId : t.machine.context.depositId = s.machine.context.depositId :=
    congrArg Course.depositId course
  have claim : t.machine.context.claimableBalanceId = s.machine.context.claimableBalanceId :=
    congrArg Course.claimableBalanceId course
  obtain ⟨store, access⟩ := store
  constructor
  · exact access.trans h.access
  · rw [depositId]
    exact loop
  · rw [name, store]
    intro idle r known
    rcases saved with same | read
    · exact h.saved idle r (same ▸ known)
    · rw [read] at known
      exact store_of_loaded (Option.some.inj known)
  · rw [store]
    exact resuming
  · rw [name, depositId, claim, store, address]
    exact h.tracked
  · rw [name]
    exact checked

theorem Tracked.same (h : s.Tracked) (address : t.address = s.address)
    (mounted : t.mounted = s.mounted) (course : t.machine.course = s.machine.course)
    (store : t.store = s.store ∧ t.access = s.access)
    (saved : t.saved = s.saved ∨ t.saved = some s.loaded)
    (polling : t.polling.live = s.polling.live)
    (warning : t.pollWarning = s.pollWarning ∨ truthy t.pollWarning = true)
    (resuming : ∀ k r, t.flow.live = some (k, .resuming r) → s.store = some r) : t.Tracked := by
  refine h.keep address course store saved ?_ ?_ resuming
  · rw [polling]
    exact h.loop
  · rw [mounted, polling]
    intro on watched
    rcases warning with same | warned
    · rw [same]
      exact h.checked on watched
    · exact .inr warned

/-- Where no deposit is under way there is nothing to lose. -/
theorem Tracked.apart {m : DepositState} (access : t.access = .working) (machine : t.machine = m)
    (name : ¬ m.name.underWay = true) (saved : m.name = .idle → t.saved = none)
    (loop : ∀ j l, t.polling.live = some (j, l) → m.context.depositId = some l.depositId)
    (resuming : ∀ k r, t.flow.live ≠ some (k, .resuming r)) : t.Tracked := by
  subst machine
  constructor
  · exact access
  · exact loop
  · intro idle r known
    rw [saved idle] at known
    cases known
  · exact fun k r live => absurd live (resuming k r)
  · exact fun underWay => absurd underWay name
  · exact fun _ watched => absurd (DepositStateName.underWay_of_watched watched) name

/-- A flow that brings the machine to another state before there is a deposit. -/
theorem Tracked.early (h : s.Tracked) (kept : s.Kept) {m : DepositState}
    (before : s.machine.name.unopened = true)
    (polling : t.polling = s.polling ∧ t.access = s.access)
    (machine : t.machine = m) (name : ¬ m.name.underWay = true) (busy : m.name ≠ .idle)
    (resuming : ∀ k r, t.flow.live ≠ some (k, .resuming r)) : t.Tracked := by
  refine Tracked.apart (polling.2.trans h.access) machine name (fun idle => absurd idle busy) ?_
    resuming
  rw [polling.1, h.no_loop kept before]
  intro j l live
  cases live

/-- The screen takes up the deposit of a record. -/
theorem Tracked.follow {m : DepositState} {r : PersistedDeposit String}
    (access : t.access = .working) (machine : t.machine = m)
    (busy : m.name ≠ .idle) (store : t.store = some r) (account : r.account = some t.address)
    (depositId : m.context.depositId = some r.depositId)
    (claim : m.context.claimableBalanceId = r.claimableBalanceId)
    (loop : ∀ j l, t.polling.live = some (j, l) → l.depositId = r.depositId)
    (checked : m.name.watched = true → ∃ j l, t.polling.live = some (j, l))
    (resuming : t.flow.live = none) : t.Tracked := by
  subst machine
  constructor
  · exact access
  · intro j l live
    rw [depositId, loop j l live]
  · exact fun idle => absurd idle busy
  · rw [resuming]
    intro k r live
    cases live
  · exact fun _ => ⟨r, store, account, depositId, claim⟩
  · exact fun _ watched => .inl (checked watched)

/-- What is stored after a status: its balance is noted, unless the deposit is over. -/
theorem polledStatus_store (s : DepositScreen) (j : Nat) (loop : PollLoop)
    (status : DepositStatus) :
    (s.polledStatus j loop status).store =
      if status.Forgotten then slotStep s.access (s.keepBalance status).store .clear
      else if truthy status.claimableBalanceId = true then
        slotStep s.access s.store
          (.update { claimableBalanceId := some status.claimableBalanceId })
      else s.store := by
  unfold polledStatus
  dsimp only
  by_cases terminal : isTerminalDepositStatus status = true
  · rw [if_pos terminal]
    change (if _ then slotStep s.access (s.keepBalance status).store .clear else _) = _
    apply if_congr _ rfl rfl
    rw [decide_eq_true_eq, Bool.not_eq_true']
    exact ⟨fun h => ⟨terminal, h⟩, And.right⟩
  · rw [if_neg terminal, if_neg fun forgotten => terminal forgotten.1]
    rfl

theorem polledStatus_loop {j : Nat} {loop : PollLoop} (live : s.polling.live = some (j, loop))
    (status : DepositStatus) :
    (s.polledStatus j loop status).polling.live =
      if isTerminalDepositStatus status = true then none
      else some (j, { loop with asleep := true }) := by
  unfold polledStatus
  dsimp only
  split
  · exact Controllers.live_move live none
  · exact Controllers.live_move live (some _)

/-- What is stored still is about the deposit the machine tells of. -/
theorem Tracked.polled_store (h : s.Tracked) (kept : s.Kept) {status : DepositStatus}
    (named : status.claimableBalanceId ≠ some "")
    (through : isTerminalDepositStatus status = true → status.treasuryLow = false)
    (before : s.machine.name.underWay = true) (j : Nat) (loop : PollLoop)
    (after : (stateForStatus status).underWay = true) :
    ∃ r, (s.polledStatus j loop status).store = some r ∧ r.account = some s.address ∧
      s.machine.context.depositId = some r.depositId ∧
      (status.claimableBalanceId <|> s.machine.context.claimableBalanceId) =
        r.claimableBalanceId := by
  obtain ⟨r, stored, account, depositId, claim⟩ := h.tracked before
  have tracked : ¬ status.Forgotten := fun forgotten =>
    forgotten_name forgotten (through forgotten.1) after
  rw [polledStatus_store, if_neg tracked, h.access, stored]
  split
  · rename_i balance
    refine ⟨_, slotStep_balance (kept.stored r stored) _, account, depositId, ?_⟩
    cases known : status.claimableBalanceId with
    | none =>
      rw [known] at balance
      cases balance
    | some id => rfl
  · rename_i noBalance
    refine ⟨r, rfl, account, depositId, ?_⟩
    cases known : status.claimableBalanceId with
    | none => exact claim
    | some id =>
      rw [known] at noBalance named
      refine absurd (decide_eq_true ?_) noBalance
      exact fun empty => named (congrArg some empty)

theorem Tracked.polled (h : s.Tracked) (kept : s.Kept) (paced : s.Paced) {j : Nat}
    {loop : PollLoop} (live : s.polling.live = some (j, loop)) {status : DepositStatus}
    (named : status.claimableBalanceId ≠ some "") (about : status.id = loop.depositId)
    (through : isTerminalDepositStatus status = true → status.treasuryLow = false) :
    (s.polledStatus j loop status).Tracked := by
  have beside := polledStatus_beside s j loop status
  have machine := polledStatus_machine s j loop status
  have known : s.machine.context.depositId = some status.id := by
    rw [h.loop j loop live, about]
  have opened : ¬ s.machine.name.unopened = true := by
    intro unopened
    rw [h.no_loop kept unopened] at live
    cases live
  have opened' : ¬ (depositReducer s.machine (.statusPolled status)).name.unopened = true := by
    rcases polled_name s.machine status with same | ⟨_, _, after⟩
    · rw [same]
      exact opened
    · exact Bool.eq_false_iff.mp after
  have hears : (depositReducer s.machine (.statusPolled status)).name.underWay = true →
      s.machine.name.underWay = true ∧ accepts s.machine status = true := by
    rw [← kept.consistent.accepts_iff known, and_self]
    intro after
    by_contra deaf
    rw [statusPolled_ignored deaf, ← kept.consistent.accepts_iff known] at after
    exact deaf after
  constructor
  · exact beside.access.trans h.access
  · intro j' l' live'
    rw [machine, polled_depositId, known, about]
    rw [polledStatus_loop live] at live'
    split at live'
    · cases live'
    · cases live'
      rfl
  · rw [machine]
    intro idle
    rw [idle] at opened'
    exact absurd rfl opened'
  · rw [beside.flow]
    intro k r flow
    have idle := paced.stage k _ _ flow rfl
    rw [idle] at opened
    exact absurd rfl opened
  · rw [machine, beside.address, polled_depositId]
    intro after
    obtain ⟨before, accepted⟩ := hears after
    rw [statusPolled_name accepted] at after
    rw [statusPolled_claimableBalanceId accepted]
    exact h.polled_store kept named through before j loop after
  · rw [machine, polledStatus_loop live]
    intro _ watched
    obtain ⟨_, accepted⟩ := hears (DepositStateName.underWay_of_watched watched)
    rw [statusPolled_name accepted] at watched
    split
    · rename_i terminal
      exact absurd watched (terminal_name terminal (through terminal))
    · exact .inl ⟨_, _, rfl⟩

theorem told_course {a : DepositAction}
    (told : (∃ now, a = .quoteExpiryChecked now) ∨ (∃ id price, a = .quoteRepriced id price))
    (m : DepositState) : (depositReducer m a).course = m.course := by
  rw [course_step]
  rcases told with ⟨now, rfl⟩ | ⟨id, price, rfl⟩ <;> rfl

theorem Tracked.move (h : s.Tracked) (kept : s.Kept) (paced : s.Paced) (m : Move s i t)
    (orderly : Orderly s i) : t.Tracked := by
  cases m with
  | quiet q =>
    refine h.same q.address q.mounted ?_ ⟨q.store, q.access⟩ q.saved q.polling
      (.inl q.pollWarning) ?_
    · rw [q.machine]
    · rw [q.flow]
      exact h.resuming
  | typed amount => exact h.same rfl rfl rfl ⟨rfl, rfl⟩ (.inl rfl) rfl (.inl rfl) h.resuming
  | told told =>
    exact h.same rfl rfl (told_course told s.machine) ⟨rfl, rfl⟩ (.inl rfl) rfl (.inl rfl)
      h.resuming
  | reprices => exact h.same rfl rfl rfl ⟨rfl, rfl⟩ (.inl rfl) rfl (.inl rfl) h.resuming
  | storage access working =>
    obtain rfl := working orderly
    exact h.same rfl rfl rfl ⟨rfl, h.access.symm⟩ (.inl rfl) rfl (.inl rfl) h.resuming
  | earlierMount _ never => exact absurd orderly never
  | began mounted name free positive =>
    refine h.early kept (by rw [name]; rfl) ⟨rfl, rfl⟩ rfl Bool.false_ne_true
      (fun idle => by cases idle) ?_
    exact fun k r live => by cases (Controllers.live_begin ..).symm.trans live
  | opens mounted name free =>
    refine h.early kept (by rw [name]; rfl) ⟨rfl, rfl⟩ (authenticate_applied name)
      Bool.false_ne_true
      (by simp) ?_
    exact fun k r live => by cases (Controllers.live_begin ..).symm.trans live
  | resumes mounted name free saved account =>
    refine h.same rfl rfl rfl ⟨rfl, rfl⟩ (.inl rfl) rfl (.inl rfl) fun k r live => ?_
    cases (Controllers.live_begin ..).symm.trans live
    exact h.saved name _ saved
  | simulates mounted ticket free =>
    refine h.same rfl rfl rfl ⟨rfl, rfl⟩ (.inl rfl) rfl (.inl rfl) fun k r live => ?_
    cases (Controllers.live_begin ..).symm.trans live
  | claims mounted name free =>
    refine h.same rfl rfl rfl ⟨rfl, rfl⟩ (.inl rfl) rfl (.inl rfl) fun k r live => ?_
    cases (Controllers.live_begin ..).symm.trans live
  | discovered config live =>
    have name := paced.stage _ _ _ live rfl
    refine h.early kept (by rw [name]; rfl) ⟨rfl, rfl⟩ (discovered_applied name config)
      Bool.false_ne_true (by simp) ?_
    exact fun k r after => by cases (Controllers.live_move live (some _)).symm.trans after
  | @resumed k r config live claim =>
    have idle := paced.stage _ _ _ live rfl
    refine Tracked.follow h.access (@resume_claims s.machine _ claim s.address config _) (by simp)
      (h.resuming k r live) (kept.resuming k r live).2 rfl rfl ?_ (fun w => by cases w)
      (Controllers.live_finish live)
    intro j l checking
    have none := h.no_loop kept (by rw [idle]; rfl)
    cases none.symm.trans checking
  | @resumedChecks k r config live noClaim =>
    refine Tracked.follow h.access (@resume_checks s.machine _ noClaim s.address config _) (by simp)
      (h.resuming k r live) (kept.resuming k r live).2 rfl rfl ?_
      (fun _ => ⟨_, _, Controllers.live_begin ..⟩) (Controllers.live_finish live)
    intro j l checking
    cases (Controllers.live_begin ..).symm.trans checking
    rfl
  | priced price live =>
    have name := paced.stage _ _ _ live rfl
    refine h.early kept (by rw [name]; rfl) ⟨rfl, rfl⟩ (priced_applied name price)
      Bool.false_ne_true (by simp) ?_
    exact fun k r after => by cases (Controllers.live_finish live).symm.trans after
  | signedIn live =>
    have name := paced.stage _ _ _ live rfl
    refine h.early kept (by rw [name]; rfl) ⟨rfl, rfl⟩ (authenticated_applied name)
      Bool.false_ne_true (by simp) ?_
    exact fun k r after => by cases (Controllers.live_move live (some _)).symm.trans after
  | quoted quote now live =>
    have name := paced.stage _ _ _ live rfl
    refine h.early kept (by rw [name]; rfl) ⟨rfl, rfl⟩ (quoted_applied name quote now)
      Bool.false_ne_true (by simp) ?_
    exact fun k r after => by cases (Controllers.live_move live (some _)).symm.trans after
  | @opened k config amount quote ticket live named =>
    have name := paced.stage _ _ _ live rfl
    have saved : slotStep s.access s.store (.save
        { depositId := ticket.id, account := some s.address, quoteId := some quote.id }) =
        some { depositId := ticket.id, account := some s.address, quoteId := some quote.id } := by
      rw [h.access]
      exact slotStep_save named
    refine Tracked.follow h.access (depositStarted_applied name ticket) (by simp) saved rfl rfl
      (kept.furnished.claim (by rw [name]; rfl)) ?_ (fun _ => ⟨_, _, Controllers.live_begin ..⟩)
      (Controllers.live_finish live)
    intro j l checking
    cases (Controllers.live_begin ..).symm.trans checking
    rfl
  | @failed k p error live stage =>
    obtain ⟨name, staged⟩ := Option.ne_none_iff_exists'.mp stage
    have unopened := Flow.stage_unopened staged
    rw [← paced.stage _ _ _ live staged] at unopened
    refine h.early kept unopened ⟨rfl, rfl⟩ rfl Bool.false_ne_true
      (fun idle => by cases idle) ?_
    exact fun k r after => by cases (Controllers.live_finish live).symm.trans after
  | @advanced k p q phase live before claims =>
    refine h.same rfl rfl rfl ⟨rfl, rfl⟩ (.inl rfl) rfl (.inl rfl) fun k r after => ?_
    cases (Controllers.live_move live (some q)).symm.trans after
    cases claims
  | ended live stage spent kept warning =>
    refine h.same rfl rfl rfl ⟨rfl, rfl⟩ (.inl rfl) rfl (warning.imp_right fun w => w orderly) ?_
    exact fun k r after => by cases (Controllers.live_finish live).symm.trans after
  | @claimed k hash phase here =>
    have name := here orderly
    have move : Move s i _ := .claimed hash phase here
    refine Tracked.apart h.access (claimed_applied name) Bool.false_ne_true
      (fun idle => by cases idle)
      h.loop fun k r live => ?_
    rcases move.resuming live with before | ⟨_, _, idle, _⟩
    · cases name.symm.trans (paced.stage _ _ _ before rfl)
    · cases name.symm.trans idle
  | reset mounted =>
    refine Tracked.apart h.access rfl Bool.false_ne_true (fun _ => rfl) ?_ ?_
    · exact fun j l live => by cases (Controllers.live_abort _).symm.trans live
    · exact fun k r live => by cases (Controllers.live_abort _).symm.trans live
  | unmounted =>
    refine h.keep rfl rfl ⟨rfl, rfl⟩ (.inl rfl) ?_ (fun off => by cases off) ?_
    · exact fun j l live => by cases (Controllers.live_abort _).symm.trans live
    · exact fun k r live => by cases (Controllers.live_abort _).symm.trans live
  | polled status live named right =>
    obtain ⟨about, through⟩ := right orderly
    exact h.polled kept paced live named about through
  | @pollGoes j loop next live same =>
    have after := Controllers.live_move live (some next)
    refine h.keep rfl rfl ⟨rfl, rfl⟩ (.inl rfl) ?_ (fun _ _ => .inl ⟨_, _, after⟩) h.resuming
    intro j' l live'
    cases after.symm.trans live'
    rw [same]
    exact h.loop j loop live
  | @pollEnds j loop warning live text =>
    have after := Controllers.live_move live none
    refine h.keep rfl rfl ⟨rfl, rfl⟩ (.inl rfl) ?_ (fun _ _ => .inr (decide_eq_true text))
      h.resuming
    exact fun j' l live' => by cases after.symm.trans live'
  | @pollBegins config depositId enabling known =>
    have after := Controllers.live_begin s.polling ⟨config, depositId, 0, false⟩
    refine h.keep rfl rfl ⟨rfl, rfl⟩ (.inl rfl) ?_ (fun _ _ => .inl ⟨_, _, after⟩) h.resuming
    intro j l live
    cases after.symm.trans live
    exact known orderly

end Tracked

/-- What holds whatever the Anchor says. -/
structure Sound (s : DepositScreen) : Prop where
  paced : s.Paced
  kept : s.Kept

theorem Sound.next {s : DepositScreen} (h : s.Sound) (i : ScreenInput) : (s.step i).Sound where
  paced := h.paced.move (step_moves h.paced.busy i)
  kept := h.kept.move (step_moves h.paced.busy i)

theorem Sound.reached {s : DepositScreen} (h : s.Sound) (inputs : List ScreenInput) :
    (run step s inputs).Sound ∧ (run step s inputs).address = s.address := by
  induction inputs generalizing s with
  | nil => exact ⟨h, rfl⟩
  | cons i inputs ih =>
    have move := step_moves h.paced.busy i
    obtain ⟨sound, address⟩ := ih (h.next i)
    exact ⟨sound, address.trans move.address⟩

theorem Tracked.reached {s : DepositScreen} (h : s.Tracked) (sound : s.Sound)
    {inputs : List ScreenInput} (orderly : Along step Orderly s inputs) :
    (run step s inputs).Tracked := by
  induction inputs generalizing s with
  | nil => exact h
  | cons i inputs ih =>
    have move := step_moves sound.paced.busy i
    exact ih (h.move sound.kept sound.paced move orderly.1) (sound.next i) orderly.2

section Mount
variable (address : String) (demoTools canTransact : Bool)
  (store : Option (PersistedDeposit String))

theorem mount_sound : (mount address demoTools canTransact store).Sound where
  paced := by
    apply Paced.of_none Controllers.live_initial <;> intro _
    · rfl
    · rfl
    · exact fun pricing => by cases pricing
    · rfl
  kept :=
    { consistent := initialDepositState_consistent
      furnished := furnished_initial
      stored := by
        intro r stored
        obtain ⟨record, _, loaded⟩ := Option.bind_eq_some_iff.mp stored
        unfold PersistedDeposit.loadable at loaded
        split at loaded
        · cases loaded
        · cases loaded
          assumption
      saved := fun r known => by cases known
      resuming := fun k r live => by cases live }

theorem mount_tracked : (mount address demoTools canTransact store).Tracked := by
  refine Tracked.apart rfl rfl Bool.false_ne_true (fun _ => rfl) ?_ ?_
  · exact fun j l live => by cases live
  · exact fun k r live => by cases live

end Mount

section Resume
variable {s : DepositScreen} {r : PersistedDeposit String}

theorem resume_begins (mounted : s.mounted = true) (idle : s.machine.name = .idle)
    (free : s.flowBusy = false) (saved : s.saved = some (some r))
    (account : r.account = some s.address) : s.step .resume = s.beginFlow (.resuming r) := by
  simp [step, resumeDeposit, mounted, idle, free, saved, account]

theorem discovered_resumes {k : Nat} (live : s.flow.live = some (k, .resuming r))
    (config : AnchorConfig) :
    let t := s.step (.discovered k (.ok config))
    t.machine =
        depositReducer s.machine (.resume s.address config r.depositId r.claimableBalanceId) ∧
      t.polling.live =
        if truthy r.claimableBalanceId = true then s.polling.live
        else some (s.polling.started, ⟨config, r.depositId, 0, false⟩) := by
  obtain ⟨waiting, going⟩ := Controllers.live_eq_some_iff.mp live
  simp only [step, answer, waiting, Option.bind_some, discoveredBy, going]
  rw [if_neg Bool.false_ne_true]
  split
  · exact ⟨rfl, rfl⟩
  · exact ⟨rfl, Controllers.live_begin ..⟩

end Resume

/-- Something is under way that will tell of itself: a request, a status check, or a trustline
whose control is on the screen. -/
def Waiting (s : DepositScreen) : Prop :=
  s.flow.live ≠ none ∨ s.polling.live ≠ none ∨
    s.machine.name = .claimRequired ∧ s.enabling ≠ []

/-- There is something to press that leads on. -/
def WayOn (s : DepositScreen) : Prop :=
  ∃ pressed : List ScreenInput, (∀ i ∈ pressed, i.byUser = true) ∧
    ((run step s pressed).Waiting ∨ (run step s pressed).machine.name ≠ s.machine.name)

section Ways
variable {s : DepositScreen}

theorem wayOn_press {i : ScreenInput} (user : i.byUser = true)
    (leads : (s.step i).Waiting ∨ (s.step i).machine.name ≠ s.machine.name) : s.WayOn :=
  ⟨[i], by simp [user], leads⟩

theorem Sound.free (h : s.Sound) (mounted : s.mounted = true) (idle : s.flow.live = none) :
    s.flowBusy = false := by
  rw [h.paced.busy mounted, idle]
  rfl

theorem wayOn_idle (h : s.Sound) (mounted : s.mounted = true) (able : s.canTransact = true)
    (free : s.flow.live = none) (name : s.machine.name = .idle) : s.WayOn := by
  refine ⟨[.typed (Utf16.ofString "1"), .checkRate], by simp [ScreenInput.byUser], .inr ?_⟩
  have positive : isPositiveTryAmount (Utf16.trim (Utf16.ofString "1")) = true := by decide
  have notBusy := h.free mounted free
  simp [step, priceDeposit, dispatch, depositReducer, beginFlow, mounted, able, name, notBusy,
    positive]

theorem wayOn_pricing (h : s.Sound) (mounted : s.mounted = true) (able : s.canTransact = true)
    (free : s.flow.live = none) (name : s.machine.name = .pricing) : s.WayOn := by
  have notBusy := h.free mounted free
  have price : s.machine.context.price ≠ none := by
    intro none
    obtain ⟨k, amount, live⟩ := h.paced.rates mounted name none
    cases free.symm.trans live
  obtain ⟨config, known⟩ := Option.ne_none_iff_exists'.mp
    (h.kept.furnished.config (by rw [name]; rfl))
  apply @wayOn_press s .continueWithWallet rfl (.inr _)
  simp [step, openDeposit, dispatch, depositReducer, beginFlow, mounted, able, name, notBusy, known,
    price]

theorem wayOn_watched (h : s.Sound) (mounted : s.mounted = true)
    (watched : s.machine.name.watched = true) (warned : truthy s.pollWarning = true) :
    s.WayOn := by
  have opened : s.machine.name.opened = true ∧ s.machine.name.acquainted = true := by
    cases name : s.machine.name <;> rw [name] at watched <;>
      first | exact ⟨rfl, rfl⟩ | cases watched
  obtain ⟨config, config_eq⟩ := Option.ne_none_iff_exists'.mp (h.kept.furnished.config opened.2)
  obtain ⟨depositId, depositId_eq⟩ :=
    Option.ne_none_iff_exists'.mp (h.kept.consistent.opened opened.1)
  have named : depositId ≠ "" := by
    rintro rfl
    exact h.kept.consistent.identified depositId_eq
  apply @wayOn_press s .resumeChecks rfl (.inl (.inr (.inl _)))
  simp [step, config_eq, depositId_eq, mounted, warned, named, pollUntilStopped]

theorem wayOn_claim (h : s.Sound) (mounted : s.mounted = true) (able : s.canTransact = true)
    (free : s.flow.live = none) (name : s.machine.name = .claimRequired) : s.WayOn := by
  obtain ⟨config, config_eq⟩ := Option.ne_none_iff_exists'.mp
    (h.kept.furnished.config (by rw [name]; rfl))
  cases claim : truthy s.machine.context.claimableBalanceId with
  | true =>
    have notBusy := h.free mounted free
    have rest := h.paced.at_rest mounted fun k p live => by cases free.symm.trans live
    obtain ⟨id, id_eq⟩ : ∃ id, s.machine.context.claimableBalanceId = some id := by
      cases known : s.machine.context.claimableBalanceId with
      | none =>
        rw [known] at claim
        cases claim
      | some id => exact ⟨id, rfl⟩
    have named : id ≠ "" := by
      rw [id_eq] at claim
      exact of_decide_eq_true claim
    apply @wayOn_press s .claim rfl (.inl (.inl _))
    simp [step, claimBalance, mounted, name, rest, id_eq, config_eq, named, notBusy, beginFlow]
  | false =>
    obtain ⟨depositId, depositId_eq⟩ :=
      Option.ne_none_iff_exists'.mp (h.kept.consistent.opened (by rw [name]; rfl))
    have named : depositId ≠ "" := by
      rintro rfl
      exact h.kept.consistent.identified depositId_eq
    apply @wayOn_press s .enableUsdc rfl (.inl (.inr (.inr _)))
    simp [step, config_eq, depositId_eq, mounted, able, name, claim, named]

theorem wayOn_finished (mounted : s.mounted = true)
    (name : s.machine.name = .completed ∨ s.machine.name = .error) : s.WayOn := by
  apply @wayOn_press s .reset rfl (.inr _)
  simp only [step, mounted, name, and_self, if_true, resetScreen]
  change DepositStateName.idle ≠ _
  rcases name with name | name <;> simp [name]

end Ways

section Results
variable {address : String} {demoTools canTransact : Bool}
  {store : Option (PersistedDeposit String)} {inputs : List ScreenInput}

/-- A reload finds the deposit that the screen told of, and takes it up where it was. -/
theorem deposit_survives_reload
    (orderly : Along step Orderly (mount address demoTools canTransact store) inputs)
    (underWay : (run step (mount address demoTools canTransact store)
      inputs).machine.name.underWay = true)
    (demoTools' canTransact' : Bool) (config : AnchorConfig) :
    let s := run step (mount address demoTools canTransact store) inputs
    let t := run step (mount address demoTools' canTransact' s.store)
      [.savedRead, .resume, .discovered 0 (.ok config)]
    ∃ id, id ≠ "" ∧ s.machine.context.depositId = some id ∧
      t.machine.context.depositId = some id ∧
      t.machine.context.claimableBalanceId = s.machine.context.claimableBalanceId ∧
      if truthy s.machine.context.claimableBalanceId = true then t.machine.name = .claimRequired
      else t.machine.name = .awaitingBankTransfer ∧
        t.polling.live = some (0, ⟨config, id, 0, false⟩) := by
  intro s t
  have sound := mount_sound address demoTools canTransact store
  obtain ⟨sound, home⟩ := sound.reached inputs
  obtain ⟨r, stored, account, depositId, claim⟩ :=
    ((mount_tracked address demoTools canTransact store).reached (mount_sound ..) orderly).tracked
      underWay
  have named := sound.kept.stored r stored
  have account : r.account = some address := account.trans (congrArg some home)
  -- what the new screen reads is the record
  have found : s.store.bind PersistedDeposit.loadable = some r := by
    change (run step _ inputs).store.bind _ = _
    rw [stored, Option.bind_some]
    exact if_neg named
  let u : DepositScreen := (mount address demoTools' canTransact' s.store).step .savedRead
  have read : u.saved = some (some r) := congrArg some found
  have begins : u.step .resume = u.beginFlow (.resuming r) := resume_begins rfl rfl rfl read account
  have live : (u.step .resume).flow.live = some (0, .resuming r) := by
    rw [begins]
    exact Controllers.live_begin ..
  obtain ⟨machine, polling⟩ := discovered_resumes live config
  have machine : t.machine = _ := machine
  have polling : t.polling.live = _ := polling
  refine ⟨r.depositId, named, depositId, ?_, ?_, ?_⟩
  · rw [machine]
    rfl
  · rw [machine]
    exact claim.symm
  · change if truthy (run step _ inputs).machine.context.claimableBalanceId = true then _ else _
    rw [claim, machine]
    split
    · rename_i balance
      exact if_pos balance
    · rename_i noBalance
      refine ⟨if_neg noBalance, ?_⟩
      rw [polling, if_neg noBalance, begins]
      rfl

/-- A saved deposit is resumed, and paid out into a claimable balance. -/
def sampleInputs : List ScreenInput :=
  [.savedRead, .resume, .discovered 0 (.ok sampleConfig), .polled 0 (.ok (.object [("transaction",
    .object [("id", .string "dep"), ("status", .string "completed"),
      ("claimable_balance_id", .string "balance")])]))]

def sampleScreen : DepositScreen :=
  mount "G" false true (some { depositId := "dep", account := some "G" })

theorem sampleInputs_orderly : Along step Orderly sampleScreen sampleInputs := by
  refine ⟨trivial, trivial, trivial, ?_, trivial⟩
  rintro loop status ⟨⟩ ⟨⟩
  exact ⟨rfl, fun _ => rfl⟩

theorem deposit_survives_reload_claimable :
    ∃ id, (run step (mount "G" false true (run step sampleScreen sampleInputs).store)
      [.savedRead, .resume, .discovered 0 (.ok sampleConfig)]).machine.context.depositId =
        some id := by
  obtain ⟨id, _, _, found, _⟩ :=
    deposit_survives_reload sampleInputs_orderly (by decide) false true sampleConfig
  exact ⟨id, found⟩

/-- As long as the screen is there and the wallet can sign, something is under way or there
is something to press that leads on. -/
theorem never_stuck
    (orderly : Along step Orderly (mount address demoTools canTransact store) inputs)
    (mounted : (run step (mount address demoTools canTransact store) inputs).mounted = true)
    (able : (run step (mount address demoTools canTransact store) inputs).canTransact = true) :
    (run step (mount address demoTools canTransact store) inputs).Waiting ∨
      (run step (mount address demoTools canTransact store) inputs).WayOn := by
  have tracked := (mount_tracked address demoTools canTransact store).reached
    (mount_sound ..) orderly
  have sound := ((mount_sound address demoTools canTransact store).reached inputs).1
  generalize run step (mount address demoTools canTransact store) inputs = s at *
  by_cases free : s.flow.live = none
  · cases name : s.machine.name with
    | idle => exact .inr (wayOn_idle sound mounted able free name)
    | pricing => exact .inr (wayOn_pricing sound mounted able free name)
    | discovering | authenticating | quoting | depositStarted =>
      obtain ⟨k, p, live, _⟩ := sound.paced.waits mounted (by rw [name]; rfl)
      cases free.symm.trans live
    | awaitingBankTransfer | anchorProcessing | treasuryLow =>
      have watched : s.machine.name.watched = true := by rw [name]; rfl
      rcases tracked.checked mounted watched with ⟨j, l, live⟩ | warned
      · refine .inl (.inr (.inl ?_))
        rw [live]
        exact Option.some_ne_none _
      · exact .inr (wayOn_watched sound mounted watched warned)
    | claimRequired => exact .inr (wayOn_claim sound mounted able free name)
    | completed => exact .inr (wayOn_finished mounted (.inl name))
    | error => exact .inr (wayOn_finished mounted (.inr name))
  · exact .inl (.inl free)

theorem never_stuck_claimable :
    (run step sampleScreen sampleInputs).Waiting ∨ (run step sampleScreen sampleInputs).WayOn :=
  never_stuck sampleInputs_orderly (by decide) (by decide)

end Results

end DepositScreen

end ShowUp.Anchor

import ShowUp.Anchor.ClaimTruth

/-!
# What a state of the machine is evidence for

The context's fields are independently optional; which of them are there is an
invariant of the states the reducer reaches. Completion in particular has one of
two causes, a poll that said so or a claim, since the deposit was opened.
-/

namespace ShowUp.Anchor

set_option autoImplicit false

/-- The states in which no deposit has been opened yet. -/
def DepositStateName.unopened : DepositStateName → Bool
  | idle | discovering | pricing | authenticating | quoting | depositStarted => true
  | _ => false

/-- The states that report on an open deposit. -/
def DepositStateName.opened : DepositStateName → Bool
  | awaitingBankTransfer | anchorProcessing | treasuryLow | claimRequired | completed => true
  | _ => false

/-- The deposit id an action brings is not empty. -/
def DepositAction.Identified : DepositAction → Prop
  | resume _ _ depositId _ => depositId ≠ ""
  | depositStarted ticket => ticket.id ≠ ""
  | _ => True

structure DepositState.Consistent (s : DepositState) : Prop where
  unopened : s.name.unopened → s.context.depositId = none ∧ s.context.status = none
  opened : s.name.opened → s.context.depositId ≠ none
  identified : s.context.depositId ≠ some ""
  polled : ∀ status, s.context.status = some status → s.context.depositId = some status.id
  expired : s.context.quoteExpired → s.context.quote ≠ none

theorem initialDepositState_consistent : initialDepositState.Consistent := by
  constructor <;> simp [initialDepositState, DepositStateName.unopened, DepositStateName.opened]

/-- Moving between two states of the same kind without touching the deposit. -/
theorem DepositState.Consistent.move {s t : DepositState} (h : s.Consistent)
    (unopened : t.name.unopened → s.name.unopened) (opened : t.name.opened → s.name.opened)
    (depositId : t.context.depositId = s.context.depositId)
    (status : t.context.status = s.context.status)
    (expired : t.context.quoteExpired → t.context.quote ≠ none) : t.Consistent where
  unopened := by
    rw [depositId, status]
    exact fun u => h.unopened (unopened u)
  opened := by
    rw [depositId]
    exact fun o => h.opened (opened o)
  identified := by
    rw [depositId]
    exact h.identified
  polled := by
    rw [depositId, status]
    exact h.polled
  expired := expired

/-- Moving on before there is a deposit. -/
theorem DepositState.Consistent.early {s t : DepositState} (h : s.Consistent)
    (here : s.name.unopened = true) (there : t.name.opened = false)
    (depositId : t.context.depositId = s.context.depositId)
    (status : t.context.status = s.context.status)
    (expired : t.context.quoteExpired → t.context.quote ≠ none) : t.Consistent := by
  refine h.move (fun _ => here) (fun o => ?_) depositId status expired
  rw [there] at o
  cases o

theorem stateForStatus_opened (status : DepositStatus) :
    (stateForStatus status).unopened = false := by
  unfold stateForStatus
  split_ifs <;> rfl

theorem DepositState.Consistent.depositStarted {s : DepositState} (h : s.Consistent)
    {ticket : DepositTicket} (identified : (DepositAction.depositStarted ticket).Identified) :
    (depositReducer s (.depositStarted ticket)).Consistent := by
  simp only [depositReducer]
  split
  · exact h
  · rename_i here
    have unopened : s.name.unopened := by
      rcases Classical.not_and_iff_not_or_not.mp here with here | here
      · rw [Decidable.not_not.mp here]
        rfl
      · rw [Decidable.not_not.mp here]
        rfl
    constructor
    · intro u
      cases u
    · intro _ missing
      cases missing
    · intro empty
      exact identified (Option.some.inj empty)
    · intro status known
      dsimp only at known
      rw [(h.unopened unopened).2] at known
      cases known
    · exact h.expired

theorem DepositState.Consistent.statusPolled {s : DepositState} (h : s.Consistent)
    (status : DepositStatus) : (depositReducer s (.statusPolled status)).Consistent := by
  by_cases accepted : accepts s status
  · have name := statusPolled_name accepted
    have known := accepts_depositId accepted
    obtain ⟨depositId, last, expired, quote⟩ := polled_fields accepted
    constructor
    · rw [name, stateForStatus_opened]
      intro u
      cases u
    · rw [depositId, known]
      intro _ missing
      cases missing
    · rw [depositId]
      exact h.identified
    · intro status' found
      cases last.symm.trans found
      exact depositId.trans known
    · rw [expired, quote]
      exact h.expired
  · rw [statusPolled_ignored accepted]
    exact h

/-- Every action keeps the context consistent. -/
theorem DepositState.Consistent.step {s : DepositState} (h : s.Consistent) {a : DepositAction}
    (identified : a.Identified) : (depositReducer s a).Consistent := by
  cases a with
  | reset => exact initialDepositState_consistent
  | failed error => exact h.move (fun u => by cases u) (fun o => by cases o) rfl rfl h.expired
  | start account =>
    constructor <;> simp [depositReducer, initialDepositState, DepositStateName.opened]
  | resume account config depositId claimableBalanceId =>
    constructor
    · intro u
      simp only [depositReducer] at u
      split at u <;> cases u
    · intro _ missing
      cases missing
    · intro empty
      exact identified (Option.some.inj empty)
    · intro status known
      cases known
    · intro expired
      cases expired
  | discovered config =>
    simp only [depositReducer]
    split
    · exact h
    · rename_i here
      have here := Decidable.not_not.mp here
      exact h.early (by rw [here]; rfl) rfl rfl rfl h.expired
  | priced price =>
    simp only [depositReducer]
    split
    · exact h.move (fun u => u) (fun o => o) rfl rfl h.expired
    · rename_i here
      have here := Decidable.not_not.mp here
      exact h.early (by rw [here]; rfl) rfl rfl rfl h.expired
  | authenticate | authenticated | quoteSkipped =>
    simp only [depositReducer]
    split
    · exact h
    · rename_i here
      have here := Decidable.not_not.mp here
      exact h.early (by rw [here]; rfl) rfl rfl rfl h.expired
  | quoted quote nowSeconds =>
    simp only [depositReducer]
    split
    · exact h
    · rename_i here
      have here := Decidable.not_not.mp here
      exact h.early (by rw [here]; rfl) rfl rfl rfl fun _ known => by cases known
  | quoteExpiryChecked nowSeconds =>
    simp only [depositReducer]
    split
    · exact h
    · rename_i quote known
      split
      · exact h
      · refine h.move (fun u => u) (fun o => o) rfl rfl fun _ => ?_
        simp [known]
  | quoteRepriced quoteId price =>
    simp only [depositReducer]
    split
    · exact h
    · exact h.move (fun u => u) (fun o => o) rfl rfl h.expired
  | depositStarted ticket => exact h.depositStarted identified
  | statusPolled status => exact h.statusPolled status
  | claimed =>
    simp only [depositReducer]
    split
    · exact h
    · rename_i here
      have here := Decidable.not_not.mp here
      exact h.move (fun u => by cases u) (fun _ => by rw [here]; rfl) rfl rfl h.expired

theorem depositAfter_consistent {actions : List DepositAction}
    (identified : ∀ a ∈ actions, a.Identified) : (depositAfter actions).Consistent := by
  induction actions using List.reverseRecOn with
  | nil => exact initialDepositState_consistent
  | append_singleton actions a ih =>
    have before := ih fun b hb => identified b (List.mem_append_left [a] hb)
    rw [depositAfter, Runs.run_concat]
    exact before.step (identified a (by simp))

/-- Where the machine polls it also listens. -/
theorem DepositState.Consistent.accepts_of_shouldPoll {s : DepositState} (h : s.Consistent)
    (polls : shouldPoll s) {status : DepositStatus}
    (known : s.context.depositId = some status.id) : accepts s status := by
  have named : truthy s.context.depositId := by
    have nonempty : status.id ≠ "" := by
      intro empty
      rw [empty] at known
      exact h.identified known
    simp [known, truthy, nonempty]
  have listens : canAcceptPoll s := by
    simp only [shouldPoll, decide_eq_true_eq] at polls
    rcases polls with name | name | name | name
    · have missing := (h.unopened (by rw [name]; rfl)).1
      rw [known] at missing
      cases missing
    · simp [canAcceptPoll, name]
    · simp [canAcceptPoll, name]
    · simp [canAcceptPoll, name]
  rw [accepts, listens, named, known]
  simp

/-- What may complete a deposit: an accepted poll that reports completion with nothing
outstanding, or the claim of what was outstanding. -/
def Completing (depositId : Option String) (s : DepositState) : DepositAction → Prop
  | .statusPolled status => accepts s status ∧ depositId = some status.id ∧
      status.status = .completed ∧ status.treasuryLow = false ∧
      truthy status.claimableBalanceId = false
  | .claimed => s.name = .claimRequired
  | _ => False

theorem stateForStatus_completed {status : DepositStatus}
    (completed : stateForStatus status = .completed) :
    status.status = .completed ∧ status.treasuryLow = false ∧
      truthy status.claimableBalanceId = false := by
  unfold stateForStatus needsClaim at completed
  split_ifs at completed <;> simp_all

theorem completed_quiet {s : DepositState} {a : DepositAction} (quiet : a.quiet)
    (completed : (depositReducer s a).name = .completed) :
    s.name = .completed ∧ (depositReducer s a).context.depositId = s.context.depositId := by
  have before : s.name = .completed := by
    obtain ⟨_, same | ⟨_, _, not_yet⟩⟩ := depositReducer_quiet quiet s
    · exact same.symm.trans completed
    · exact absurd completed not_yet
  have resting : s.course.name.resting := by
    change s.name.resting
    rw [before]
    rfl
  have going : a.restarts = false := by cases a <;> first | rfl | cases quiet
  refine ⟨before, ?_⟩
  rw [course_depositId, Course.next_resting resting going]
  split <;> rfl

/-- A state is completed because it was, or because of the last action. -/
theorem completed_step {s : DepositState} {a : DepositAction}
    (completed : (depositReducer s a).name = .completed) :
    Completing (depositReducer s a).context.depositId s a ∨
      s.name = .completed ∧ a.restarts = false ∧
        (depositReducer s a).context.depositId = s.context.depositId := by
  cases a with
  | reset | failed | start => cases completed
  | resume =>
    simp only [depositReducer] at completed
    split at completed <;> cases completed
  | statusPolled status =>
    by_cases accepted : accepts s status
    · left
      rw [statusPolled_name accepted] at completed
      obtain ⟨depositId, _⟩ := polled_fields accepted
      exact ⟨accepted, depositId.trans (accepts_depositId accepted),
        stateForStatus_completed completed⟩
    · rw [statusPolled_ignored accepted] at completed ⊢
      exact .inr ⟨completed, rfl, rfl⟩
  | claimed =>
    by_cases here : s.name = .claimRequired
    · exact .inl here
    · right
      have ignored : depositReducer s .claimed = s := if_pos here
      rw [ignored] at completed ⊢
      exact ⟨completed, rfl, rfl⟩
  | _ =>
    obtain ⟨before, depositId⟩ := completed_quiet rfl completed
    exact .inr ⟨before, rfl, depositId⟩

/-- Behind every completed state there is what completed it, with no restart since. -/
theorem completed_because {actions : List DepositAction}
    (completed : (depositAfter actions).name = .completed) :
    ∃ before a rest, actions = before ++ a :: rest ∧ (∀ b ∈ rest, b.restarts = false) ∧
      Completing (depositAfter actions).context.depositId (depositAfter before) a := by
  induction actions using List.reverseRecOn with
  | nil => cases completed
  | append_singleton actions a ih =>
    have last : depositAfter (actions ++ [a]) = depositReducer (depositAfter actions) a :=
      Runs.run_concat ..
    rw [last] at completed ⊢
    rcases completed_step completed with now | ⟨already, going, depositId⟩
    · exact ⟨actions, a, [], rfl, by simp, now⟩
    · obtain ⟨before, b, rest, split, still, cause⟩ := ih already
      refine ⟨before, b, rest ++ [a], ?_, ?_, ?_⟩
      · rw [split, List.append_assoc, List.cons_append]
      · intro c hc
        rcases List.mem_append.mp hc with hc | hc
        · exact still c hc
        · cases List.mem_singleton.mp hc
          exact going
      · rw [depositId]
        exact cause

/-- In every state the machine reaches: an open deposit has an id, the last poll is its own,
an expired quote is there, completion has a cause since the last restart, and a poll that is
waited for is not dropped. -/
theorem states_are_evidence {actions : List DepositAction}
    (identified : ∀ a ∈ actions, a.Identified) :
    let s := depositAfter actions
    (s.name = .awaitingBankTransfer ∨ s.name = .anchorProcessing ∨ s.name = .treasuryLow ∨
        s.name = .claimRequired ∨ s.name = .completed →
      ∃ depositId, s.context.depositId = some depositId) ∧
    (∀ status, s.context.status = some status → s.context.depositId = some status.id) ∧
    (s.context.quoteExpired → ∃ quote, s.context.quote = some quote) ∧
    (s.name = .completed → ∃ before a rest, actions = before ++ a :: rest ∧
      (∀ b ∈ rest, b.restarts = false) ∧
      Completing s.context.depositId (depositAfter before) a) ∧
    (shouldPoll s → ∀ status, s.context.depositId = some status.id →
      accepts s status ∧
        (depositReducer s (.statusPolled status)).context.status = some status ∧
        (depositReducer s (.statusPolled status)).name = stateForStatus status) := by
  have consistent := depositAfter_consistent identified
  refine ⟨?_, consistent.polled, ?_, completed_because, ?_⟩
  · intro name
    apply Option.ne_none_iff_exists'.mp
    apply consistent.opened
    rcases name with name | name | name | name | name <;> rw [name] <;> rfl
  · exact fun expired => Option.ne_none_iff_exists'.mp (consistent.expired expired)
  · intro polls status known
    have accepted := consistent.accepts_of_shouldPoll polls known
    exact ⟨accepted, (polled_fields accepted).2.1, statusPolled_name accepted⟩

theorem states_are_evidence_completed :
    ∃ before a rest, resumed ++ [.statusPolled (completedDeposit none)] = before ++ a :: rest ∧
      Completing (some "dep") (depositAfter before) a := by
  have identified : ∀ a ∈ resumed ++ [.statusPolled (completedDeposit none)], a.Identified := by
    simp [resumed, DepositAction.Identified]
  obtain ⟨before, a, rest, split, _, cause⟩ :=
    (states_are_evidence identified).2.2.2.1 (by decide)
  exact ⟨before, a, rest, split, cause⟩

end ShowUp.Anchor

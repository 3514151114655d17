import ShowUp.Anchor.Machine

/-!
# The course of a deposit

Where a deposit stands is decided without looking at prices, quotes or clocks:
the state name, the deposit id, the last poll and the claimable balance form a
machine of their own, which the reducer follows whatever else its context holds.
-/

namespace ShowUp.Anchor

set_option autoImplicit false

structure Course where
  name : DepositStateName
  depositId : Option String
  status : Option DepositStatus
  claimableBalanceId : Option String

def DepositState.course (s : DepositState) : Course where
  name := s.name
  depositId := s.context.depositId
  status := s.context.status
  claimableBalanceId := s.context.claimableBalanceId

namespace Course

def hears (c : Course) (status : DepositStatus) : Bool :=
  (c.name = .awaitingBankTransfer ∨ c.name = .anchorProcessing ∨ c.name = .treasuryLow ∨
    c.name = .claimRequired) && truthy c.depositId && some status.id = c.depositId

/-- A deposit as it runs when nothing is said about rates. -/
def next (c : Course) : DepositAction → Course
  | .reset => ⟨.idle, none, none, none⟩
  | .failed _ => { c with name := .error }
  | .start _ => ⟨.discovering, none, none, none⟩
  | .resume _ _ depositId claimableBalanceId =>
      ⟨if truthy claimableBalanceId then .claimRequired else .awaitingBankTransfer,
        some depositId, none, claimableBalanceId⟩
  | .discovered _ => if c.name = .discovering then { c with name := .pricing } else c
  | .authenticate => if c.name = .pricing then { c with name := .authenticating } else c
  | .authenticated => if c.name = .authenticating then { c with name := .quoting } else c
  | .quoted .. | .quoteSkipped =>
      if c.name = .quoting then { c with name := .depositStarted } else c
  | .depositStarted ticket =>
      if c.name = .depositStarted ∨ c.name = .quoting then
        { c with name := .awaitingBankTransfer, depositId := some ticket.id }
      else c
  | .statusPolled status =>
      if c.hears status then
        ⟨stateForStatus status, c.depositId, some status,
          status.claimableBalanceId <|> c.claimableBalanceId⟩
      else c
  | .claimed =>
      if c.name = .claimRequired then
        { c with name := .completed, claimableBalanceId := none }
      else c
  | .priced _ | .quoteExpiryChecked _ | .quoteRepriced .. => c

end Course

theorem hears_course (s : DepositState) (status : DepositStatus) :
    s.course.hears status = accepts s status := rfl

/-- The reducer follows the course. -/
theorem course_step (s : DepositState) (a : DepositAction) :
    (depositReducer s a).course = s.course.next a := by
  cases a with
  | reset | failed | start | resume => rfl
  | discovered | authenticate | authenticated | quoted | quoteSkipped | claimed =>
    simp only [depositReducer, Course.next]
    split
    · rename_i elsewhere
      exact (if_neg elsewhere).symm
    · rename_i here
      exact (if_pos (Decidable.not_not.mp here)).symm
  | priced =>
    simp only [depositReducer, Course.next]
    split
    · rfl
    · rename_i here
      have here := Decidable.not_not.mp here
      simp [DepositState.course, here]
  | quoteExpiryChecked =>
    simp only [depositReducer, Course.next]
    split
    · rfl
    · split <;> rfl
  | quoteRepriced =>
    simp only [depositReducer, Course.next]
    split <;> rfl
  | depositStarted ticket =>
    simp only [depositReducer, Course.next, ne_eq, ← not_or]
    split
    · rename_i elsewhere
      exact (if_neg elsewhere).symm
    · rename_i here
      exact (if_pos (Decidable.not_not.mp here)).symm
  | statusPolled status =>
    rw [statusPolled_eq, Course.next, hears_course]
    split
    · split
      · rename_i failing
        rw [failing]
        rfl
      · rfl
    · rfl

theorem course_run (s : DepositState) (actions : List DepositAction) :
    (Runs.run depositReducer s actions).course = Runs.run Course.next s.course actions := by
  induction actions generalizing s with
  | nil => rfl
  | cons a actions ih => rw [Runs.run_cons, ih, course_step, Runs.run_cons]

theorem course_name (s : DepositState) (a : DepositAction) :
    (depositReducer s a).name = (s.course.next a).name := congrArg Course.name (course_step s a)

theorem course_claimableBalanceId (s : DepositState) (a : DepositAction) :
    (depositReducer s a).context.claimableBalanceId = (s.course.next a).claimableBalanceId :=
  congrArg Course.claimableBalanceId (course_step s a)

theorem course_depositId (s : DepositState) (a : DepositAction) :
    (depositReducer s a).context.depositId = (s.course.next a).depositId :=
  congrArg Course.depositId (course_step s a)

/-! What holds of every course holds of the machine. -/

/-- A quiet action never forgets a claimable balance and never ends a deposit. -/
theorem Course.next_quiet {a : DepositAction} (quiet : a.quiet) (c : Course) :
    (c.next a).claimableBalanceId = c.claimableBalanceId ∧
      ((c.next a).name = c.name ∨
        c.name ≠ .completed ∧ c.name ≠ .error ∧ (c.next a).name ≠ .completed) := by
  cases a with
  | start | resume | statusPolled | claimed | failed | reset => cases quiet
  | priced | quoteExpiryChecked | quoteRepriced => exact ⟨rfl, .inl rfl⟩
  | discovered | authenticate | authenticated | quoted | quoteSkipped =>
    simp only [next]
    split
    · rename_i here
      exact ⟨rfl, .inr (by simp [here])⟩
    · exact ⟨rfl, .inl rfl⟩
  | depositStarted ticket =>
    simp only [next]
    split
    · rename_i here
      refine ⟨rfl, .inr ?_⟩
      rcases here with here | here <;> simp [here]
    · exact ⟨rfl, .inl rfl⟩

theorem depositReducer_quiet {a : DepositAction} (quiet : a.quiet) (state : DepositState) :
    (depositReducer state a).context.claimableBalanceId = state.context.claimableBalanceId ∧
      ((depositReducer state a).name = state.name ∨
        state.name ≠ .completed ∧ state.name ≠ .error ∧
          (depositReducer state a).name ≠ .completed) := by
  rw [course_claimableBalanceId, course_name]
  exact Course.next_quiet quiet state.course

/-- The actions that begin or give up a deposit. -/
def DepositAction.restarts : DepositAction → Bool
  | start _ | resume .. | reset => true
  | _ => false

/-- The states that only a new deposit, or a failure, can leave. -/
def DepositStateName.resting : DepositStateName → Bool
  | idle | completed | error => true
  | _ => false

def DepositAction.fails : DepositAction → Bool
  | failed _ => true
  | _ => false

theorem DepositStateName.resting_iff {name : DepositStateName} :
    name.resting ↔ name = .idle ∨ name = .completed ∨ name = .error := by
  cases name <;> simp [resting]

/-- A resting course answers whatever is no new deposit by staying where it is, except that
a failure always lands. -/
theorem Course.next_resting {c : Course} (resting : c.name.resting) {a : DepositAction}
    (going : a.restarts = false) :
    c.next a = if a.fails then { c with name := .error } else c := by
  have name := DepositStateName.resting_iff.mp resting
  cases a with
  | start | resume | reset => cases going
  | failed | priced | quoteExpiryChecked | quoteRepriced => rfl
  | statusPolled status =>
    have deaf : c.hears status = false := by
      rcases name with name | name | name <;> simp [hears, name]
    simp [next, deaf, DepositAction.fails]
  | _ => rcases name with name | name | name <;> simp [next, DepositAction.fails, name]

end ShowUp.Anchor

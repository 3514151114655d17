import ShowUp.Anchor.Course
import ShowUp.Shared.TwoRuns

/-!
# Stale polls and quotes do not interfere

A poll for another deposit changes nothing, and what is said about rates reaches
the context but not the course: two runs that differ in prices, quotes' dates
and clocks alone go through the same states.
-/

namespace ShowUp.Anchor

set_option autoImplicit false

def Quote.timeless (quote : Quote) : Quote := { quote with expiresAt := 0 }

/-- An action without the clock it was taken at and the date a quote expires. -/
def DepositAction.timeless : DepositAction → DepositAction
  | quoted quote _ => .quoted quote.timeless 0
  | quoteExpiryChecked _ => .quoteExpiryChecked 0
  | a => a

/-- Actions that only tell the rate or whether it still stands. -/
def DepositAction.aside : DepositAction → Bool
  | priced _ | quoteExpiryChecked _ | quoteRepriced .. => true
  | _ => false

theorem Course.next_timeless (c : Course) (a : DepositAction) : c.next a.timeless = c.next a := by
  cases a <;> rfl

theorem Course.next_aside (c : Course) {a : DepositAction} (aside : a.aside) : c.next a = c := by
  cases a with
  | priced | quoteExpiryChecked | quoteRepriced => rfl
  | _ => cases aside

theorem Course.next_quoted (c : Course) (quote : Quote) (nowSeconds : Int)
    (failed : (c.next (.quoted quote nowSeconds)).name = .error) : c.name = .error := by
  simp only [Course.next] at failed
  split at failed
  · cases failed
  · exact failed

/-- A poll for another deposit than the current one. -/
def stalePoll (s : DepositState) : DepositAction → Bool
  | .statusPolled status => some status.id ≠ s.context.depositId
  | _ => false

theorem stalePoll_ignored (s : DepositState) (a : DepositAction) (stale : stalePoll s a) :
    depositReducer s a = s := by
  cases a with
  | statusPolled status =>
    apply statusPolled_ignored
    intro accepted
    have current := accepts_depositId accepted
    simp [stalePoll, current] at stale
  | _ => cases stale

def withoutStalePolls (actions : List DepositAction) : List DepositAction :=
  TwoRuns.live depositReducer stalePoll initialDepositState actions

/-- Two runs that differ in rates and clocks alone, compared action by action. -/
def AlikeButForRates (edits : List (TwoRuns.Edit DepositAction)) : Prop :=
  ∀ e ∈ edits, e.Harmless (fun a b => a.timeless = b.timeless) (fun a => a.aside)

theorem course_agrees {edits : List (TwoRuns.Edit DepositAction)} (alike : AlikeButForRates edits) :
    (depositAfter (TwoRuns.Edit.lefts edits)).course =
      (depositAfter (TwoRuns.Edit.rights edits)).course := by
  unfold depositAfter
  rw [course_run, course_run]
  apply @TwoRuns.run_agrees _ _ _ Course.next id _ _ ?quiet ?together _ alike _ _ rfl
  case quiet => exact fun c a aside => c.next_aside aside
  case together =>
    intro c d a b alike same
    have same : c = d := same
    calc c.next a = c.next a.timeless := (c.next_timeless a).symm
      _ = d.next b.timeless := by rw [same, alike]
      _ = d.next b := d.next_timeless b

open TwoRuns in
/-- Stale polls can be deleted from a run, rates and clocks decide nothing about a deposit's
course, and no word about a quote makes a deposit fail. -/
theorem polls_and_quotes_do_not_interfere :
    (∀ actions, depositAfter (withoutStalePolls actions) = depositAfter actions) ∧
    (∀ edits, AlikeButForRates edits → ∀ before a b rest, edits = before ++ .common a b :: rest →
      let s := depositAfter (Edit.lefts before ++ [a])
      let t := depositAfter (Edit.rights before ++ [b])
      s.name = t.name ∧ s.context.depositId = t.context.depositId ∧
        s.context.status = t.context.status ∧
        s.context.claimableBalanceId = t.context.claimableBalanceId) ∧
    (∀ s a, a.aside → (depositReducer s a).course = s.course) ∧
    (∀ s quote nowSeconds, (depositReducer s (.quoted quote nowSeconds)).name = .error →
      s.name = .error) := by
  refine ⟨fun actions => run_live stalePoll_ignored initialDepositState actions, ?_, ?_, ?_⟩
  · intro edits alike before a b rest split
    have reached : AlikeButForRates (before ++ [.common a b]) := by
      intro e he
      apply alike e
      rw [split]
      rcases List.mem_append.mp he with he | he
      · exact List.mem_append_left _ he
      · rw [List.mem_singleton.mp he]
        exact List.mem_append_right _ (List.mem_cons_self ..)
    have same := course_agrees reached
    rw [Edit.lefts_concat, Edit.rights_concat] at same
    exact ⟨congrArg Course.name same, congrArg Course.depositId same,
      congrArg Course.status same, congrArg Course.claimableBalanceId same⟩
  · intro s a aside
    rw [course_step, s.course.next_aside aside]
  · intro s quote nowSeconds failed
    apply s.course.next_quoted quote nowSeconds
    rw [← course_step]
    exact failed

open TwoRuns in
theorem polls_and_quotes_do_not_interfere_resumed :
    (depositAfter
        (resumed ++ [.quoteExpiryChecked 5, .statusPolled (completedDeposit none)])).name =
      (depositAfter (resumed ++ [.statusPolled (completedDeposit none)])).name := by
  let before : List (Edit DepositAction) :=
    [.common (.resume "G" sampleConfig "dep" none) (.resume "G" sampleConfig "dep" none),
      .left (.quoteExpiryChecked 5)]
  have alike : AlikeButForRates
      (before ++ [.common (.statusPolled (completedDeposit none))
        (.statusPolled (completedDeposit none))]) := by
    intro e he
    simp only [before, List.cons_append, List.nil_append, List.mem_cons, List.not_mem_nil,
      or_false] at he
    rcases he with rfl | rfl | rfl <;> rfl
  exact (polls_and_quotes_do_not_interfere.2.1 _ alike before _ _ [] rfl).1

end ShowUp.Anchor

import ShowUp.Anchor.Evidence

/-!
# Results that come too late

The reducer leaves the state alone for a result that no longer applies, and
every action but one looks at the state before it moves on. `FAILED` does not:
a failure reported after the deposit was completed, or after the screen was
reset, is shown as the failure of that deposit.
-/

namespace ShowUp.Anchor

set_option autoImplicit false

theorem resting_step {s : DepositState} (resting : s.name.resting) {a : DepositAction}
    (going : a.restarts = false) :
    (depositReducer s a).name = if a.fails then .error else s.name := by
  rw [course_name, @Course.next_resting s.course resting a going]
  split <;> rfl

theorem resting_run {s : DepositState} (resting : s.name.resting) {late : List DepositAction}
    (going : ∀ a ∈ late, a.restarts = false) :
    (Runs.run depositReducer s late).name =
      if late.any DepositAction.fails then .error else s.name := by
  induction late generalizing s with
  | nil => rfl
  | cons a late ih =>
    have now := resting_step resting (going a (List.mem_cons_self ..))
    have still : (depositReducer s a).name.resting := by
      rw [now]
      split
      · rfl
      · exact resting
    have later := ih still fun b hb => going b (List.mem_cons_of_mem a hb)
    rw [Runs.run_cons, later, now, List.any_cons]
    cases a.fails with
    | true => simp
    | false => simp

theorem no_failure_iff {late : List DepositAction} :
    late.any DepositAction.fails = false ↔ ∀ error, .failed error ∉ late := by
  rw [List.any_eq_false]
  constructor
  · intro none error h
    exact none (.failed error) h rfl
  · intro none a h fails
    cases a with
    | failed error => exact none error h
    | _ => cases fails

/-- A completed or reset deposit keeps its state name through late results exactly when
none of them is a failure. -/
theorem finished_absorbs_iff {actions late : List DepositAction}
    (finished : (depositAfter actions).name = .completed ∨ (depositAfter actions).name = .idle)
    (going : ∀ a ∈ late, a.restarts = false) :
    (depositAfter (actions ++ late)).name = (depositAfter actions).name ↔
      ∀ error, .failed error ∉ late := by
  have resting : (depositAfter actions).name.resting := by
    rcases finished with name | name <;> rw [name] <;> rfl
  have moved : (depositAfter actions).name ≠ .error := by
    rcases finished with name | name <;> simp [name]
  have last := resting_run resting going
  have split : depositAfter (actions ++ late) =
    Runs.run depositReducer (depositAfter actions) late := Runs.run_append ..
  rw [split, last, ← no_failure_iff]
  cases late.any DepositAction.fails with
  | true =>
    rw [if_pos rfl]
    constructor
    · exact fun same => absurd same.symm moved
    · intro h
      cases h
  | false => simp

def completedRun : List DepositAction :=
  resumed ++ [.statusPolled (completedDeposit none)]

theorem finished_absorbs_completed :
    (depositAfter (completedRun ++ [.discovered sampleConfig, .authenticated, .claimed])).name =
      (depositAfter completedRun).name := by
  apply (finished_absorbs_iff (.inl (by decide)) (by decide)).mpr
  simp

def lateFailure : DepositAction := .failed (.new .unreachable "The Anchor did not answer." {})

theorem late_failure_overwrites :
    (depositAfter completedRun).name = .completed ∧
      (depositAfter (completedRun ++ [lateFailure])).name = .error ∧
      (depositAfter (resumed ++ [.reset])).name = .idle ∧
      (depositAfter (resumed ++ [.reset] ++ [lateFailure])).name = .error ∧
      ¬ ∀ actions late, ((depositAfter actions).name = .completed ∨
          (depositAfter actions).name = .idle ∧ .reset ∈ actions) →
        (∀ a ∈ late, a.restarts = false) →
        (depositAfter (actions ++ late)).name = (depositAfter actions).name := by
  refine ⟨by decide, by decide, by decide, by decide, fun absorbs => ?_⟩
  have same := absorbs completedRun [lateFailure] (.inl (by decide)) (by decide)
  exact absurd same (by decide)

end ShowUp.Anchor

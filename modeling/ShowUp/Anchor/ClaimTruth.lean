import ShowUp.Anchor.Course
import Mathlib.Data.List.Induction

/-!
# When a finished deposit has really been paid out

A claimable balance that was reported once is remembered, but whether a deposit
is finished is decided by the latest poll alone. The two disagree when a
completed poll comes without the identifier that an earlier one carried. Apart
from that one situation a completed deposit holds no unclaimed balance.
-/

namespace ShowUp.Anchor

set_option autoImplicit false

/-- The machine, and what has been observed of it: whether a claimable balance was carried
since the deposit was started or resumed, and whether the present completion was entered by
claiming. -/
structure Watched where
  state : DepositState
  carried : Bool
  claimed : Bool

namespace Watched

def carriedAfter (w : Watched) : DepositAction → Bool
  | .start _ | .reset => false
  | .resume _ _ _ claimableBalanceId => claimableBalanceId.isSome
  | .statusPolled status =>
      w.carried || (accepts w.state status && status.claimableBalanceId.isSome)
  | _ => w.carried

def claimedAfter (w : Watched) (a : DepositAction) : Bool :=
  if w.state.name = .completed then w.claimed
  else match a with
    | .claimed => w.state.name = .claimRequired
    | _ => false

def step (w : Watched) (a : DepositAction) : Watched where
  state := depositReducer w.state a
  carried := w.carriedAfter a
  claimed := w.claimedAfter a

/-- Completion means that nothing is left to claim. -/
def Truthful (w : Watched) : Prop :=
  w.state.name = .completed →
    (w.carried → w.claimed) ∧ w.state.context.claimableBalanceId = none

/-- A claimable balance that was carried is remembered until the deposit ends. -/
structure Sound (w : Watched) : Prop where
  truthful : w.Truthful
  remembered : w.carried → w.state.context.claimableBalanceId ≠ none ∨
    w.state.name = .completed ∨ w.state.name = .error

end Watched

def watch (actions : List DepositAction) : Watched :=
  Runs.run Watched.step ⟨initialDepositState, false, false⟩ actions

theorem watch_state (actions : List DepositAction) :
    (watch actions).state = depositAfter actions := by
  unfold watch depositAfter
  generalize hw : (⟨initialDepositState, false, false⟩ : Watched) = w
  have start : initialDepositState = w.state := by rw [← hw]
  rw [start]
  clear hw start
  induction actions generalizing w with
  | nil => rfl
  | cons a actions ih => exact ih (w.step a)

/-- A completing poll without a claim of its own, while a claimable balance is known. -/
def Overlooks (state : DepositState) : DepositAction → Prop
  | .statusPolled status => accepts state status ∧ stateForStatus status = .completed ∧
      (status.claimableBalanceId <|> state.context.claimableBalanceId) ≠ none
  | _ => False

theorem accepts_open {state : DepositState} {status : DepositStatus}
    (accepted : accepts state status) : state.name ≠ .completed ∧ state.name ≠ .error := by
  simp only [accepts, canAcceptPoll, Bool.and_eq_true, decide_eq_true_eq] at accepted
  obtain ⟨⟨name | name | name | name, _⟩, _⟩ := accepted <;> simp [name]

theorem orElse_eq_none {α : Type} {a b : Option α} : (a <|> b) = none ↔ a = none ∧ b = none := by
  cases a <;> simp

namespace Watched

theorem Sound.quiet {w : Watched} (sound : w.Sound) {a : DepositAction} (quiet : a.quiet) :
    (w.step a).Sound := by
  obtain ⟨id_eq, same | ⟨running, no_error, not_yet⟩⟩ := depositReducer_quiet quiet w.state
  · have carried : w.carriedAfter a = w.carried := by cases a <;> first | rfl | cases quiet
    constructor
    · intro completed
      change (depositReducer w.state a).name = .completed at completed
      rw [same] at completed
      have kept : w.claimedAfter a = w.claimed := if_pos completed
      simpa [step, carried, kept, id_eq] using sound.truthful completed
    · simpa [step, carried, same, id_eq] using sound.remembered
  · have carried : w.carriedAfter a = w.carried := by cases a <;> first | rfl | cases quiet
    constructor
    · exact fun completed => absurd completed not_yet
    · intro h
      change w.carriedAfter a = true at h
      rw [carried] at h
      have known := sound.remembered h
      left
      simpa [step, id_eq, running, no_error] using known

theorem Sound.statusPolled {w : Watched} (sound : w.Sound) (status : DepositStatus)
    (sees : ¬ Overlooks w.state (.statusPolled status)) :
    (w.step (.statusPolled status)).Sound := by
  by_cases accepted : accepts w.state status
  · have running := accepts_open accepted
    constructor
    · intro completed
      change (depositReducer w.state _).name = .completed at completed
      rw [statusPolled_name accepted] at completed
      have nothing : (status.claimableBalanceId <|> w.state.context.claimableBalanceId) = none := by
        by_contra known
        exact sees ⟨accepted, completed, known⟩
      obtain ⟨own, remembered⟩ := orElse_eq_none.mp nothing
      have never : w.carried = false := by
        cases h : w.carried with
        | false => rfl
        | true => simpa [remembered, running] using sound.remembered h
      refine ⟨fun carried => ?_, (statusPolled_claimableBalanceId accepted).trans nothing⟩
      simp [Watched.step, carriedAfter, never, own] at carried
    · intro carried
      left
      change (depositReducer w.state _).context.claimableBalanceId ≠ none
      rw [statusPolled_claimableBalanceId accepted, ne_eq, orElse_eq_none]
      intro h
      rcases h with ⟨own, remembered⟩
      have before : w.carried := by
        simpa [Watched.step, carriedAfter, own] using carried
      simpa [remembered, running] using sound.remembered before
  · have same : w.step (.statusPolled status) = { w with
        claimed := w.claimedAfter (.statusPolled status) } := by
      simp [Watched.step, carriedAfter, accepted, statusPolled_ignored accepted]
    rw [same]
    refine ⟨fun completed => ?_, sound.remembered⟩
    have kept : w.claimedAfter (.statusPolled status) = w.claimed := if_pos completed
    rw [kept]
    exact sound.truthful completed

/-- Every action keeps the observations sound, except an overlooked claim. -/
theorem Sound.step {w : Watched} (sound : w.Sound) {a : DepositAction}
    (sees : ¬ Overlooks w.state a) : (w.step a).Sound := by
  cases a with
  | start account => exact ⟨nofun, nofun⟩
  | reset => exact ⟨nofun, nofun⟩
  | failed error => exact ⟨nofun, fun _ => .inr (.inr rfl)⟩
  | resume account config depositId claimableBalanceId =>
    constructor
    · intro completed
      simp only [Watched.step, depositReducer] at completed
      split at completed <;> cases completed
    · intro carried
      left
      exact Option.isSome_iff_ne_none.mp carried
  | statusPolled status => exact sound.statusPolled status sees
  | claimed =>
    by_cases here : w.state.name = .claimRequired
    · refine ⟨fun _ => ⟨fun _ => ?_, ?_⟩, fun _ => .inr (.inl ?_)⟩
      all_goals simp [Watched.step, claimedAfter, depositReducer, here]
    · have ignored : depositReducer w.state .claimed = w.state := by
        simp [depositReducer, here]
      constructor
      · intro completed
        change (depositReducer w.state .claimed).name = .completed at completed
        rw [ignored] at completed
        have kept : w.claimedAfter .claimed = w.claimed := if_pos completed
        simpa [Watched.step, carriedAfter, kept, ignored] using sound.truthful completed
      · simpa [Watched.step, carriedAfter, ignored] using sound.remembered
  | _ => exact sound.quiet rfl

end Watched

theorem watch_concat (actions : List DepositAction) (a : DepositAction) :
    watch (actions ++ [a]) = (watch actions).step a := Runs.run_concat ..

theorem watch_sound {actions : List DepositAction}
    (sees : Runs.Along depositReducer (fun state a => ¬ Overlooks state a) initialDepositState
      actions) : (watch actions).Sound := by
  induction actions using List.reverseRecOn with
  | nil => exact ⟨nofun, nofun⟩
  | append_singleton actions a ih =>
    obtain ⟨before, last⟩ := (Runs.along_concat ..).mp sees
    rw [watch_concat]
    apply (ih before).step
    rw [watch_state]
    exact last

/-- An overlooked claim is exactly what makes a completion untrue. -/
theorem Overlooks.untruthful {w : Watched} {a : DepositAction} (h : Overlooks w.state a) :
    ¬ (w.step a).Truthful := by
  cases a with
  | statusPolled status =>
    obtain ⟨accepted, completes, known⟩ := h
    intro truthful
    have nothing := (truthful ((statusPolled_name accepted).trans completes)).2
    exact known ((statusPolled_claimableBalanceId accepted).symm.trans nothing)
  | _ => exact h.elim

/-- Over a whole run completion is truthful in every state reached exactly when no
accepted poll overlooked a known claimable balance. -/
theorem completed_truthful_iff (actions : List DepositAction) :
    (∀ before rest, actions = before ++ rest → (watch before).Truthful) ↔
      Runs.Along depositReducer (fun state a => ¬ Overlooks state a) initialDepositState
        actions := by
  constructor
  · intro truthful
    induction actions using List.reverseRecOn with
    | nil => trivial
    | append_singleton actions a ih =>
      apply (Runs.along_concat ..).mpr
      constructor
      · apply ih
        intro before rest split
        exact truthful before (rest ++ [a]) (by rw [split, List.append_assoc])
      · intro overlooks
        have reached : Overlooks (watch actions).state a := by
          rw [watch_state]
          exact overlooks
        have last := truthful (actions ++ [a]) [] (List.append_nil _).symm
        rw [watch_concat] at last
        exact reached.untruthful last
  · intro sees before rest split
    rw [split] at sees
    exact (watch_sound ((Runs.along_append ..).mp sees).1).truthful

def forgottenClaim : List DepositAction :=
  resumed ++ [.statusPolled (completedDeposit (some "balance")),
    .statusPolled (completedDeposit none)]

theorem forgotten_claim_completes :
    (depositAfter forgottenClaim).name = .completed ∧
      (depositAfter forgottenClaim).context.claimableBalanceId = some "balance" ∧
      ¬ ∀ actions, (watch actions).Truthful := by
  refine ⟨by decide, by decide, fun truthful => ?_⟩
  have completed : (watch forgottenClaim).state.name = .completed := by decide
  have nothing := (truthful forgottenClaim completed).2
  have known : (watch forgottenClaim).state.context.claimableBalanceId = some "balance" := by
    decide
  rw [nothing] at known
  cases known

end ShowUp.Anchor

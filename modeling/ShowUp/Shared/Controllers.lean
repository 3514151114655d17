import Mathlib.Logic.Function.Basic

/-!
# Tasks that can be called off

A reference keeps the controller of the task begun last; beginning another aborts it.
A task called off goes on to its next answer, so that tasks may be under way in any
number. Only one of them is live: neither called off nor through.
-/

namespace ShowUp

set_option autoImplicit false

universe u

/-- Tasks are numbered in the order they begin. The phase of a task is what it waits with. -/
structure Controllers (π : Type u) where
  started : Nat
  current : Option Nat
  aborted : Nat → Bool
  phase : Nat → Option π
  begun : ∀ k, current = some k → k < started
  unstarted : ∀ k, started ≤ k → aborted k = false ∧ phase k = none
  /-- what is under way and not called off has its controller kept -/
  kept : ∀ k, aborted k = false → phase k ≠ none → current = some k

namespace Controllers

variable {π : Type u}

def initial : Controllers π where
  started := 0
  current := none
  aborted := fun _ => false
  phase := fun _ => none
  begun := fun _ h => by cases h
  unstarted := fun _ _ => ⟨rfl, rfl⟩
  kept := fun _ _ h => absurd rfl h

/-- `ref.current?.abort()` -/
def abort (c : Controllers π) : Controllers π where
  started := c.started
  current := c.current
  aborted := fun k => c.aborted k || c.current = some k
  phase := c.phase
  begun := c.begun
  unstarted := by
    intro k above
    refine ⟨?_, (c.unstarted k above).2⟩
    rw [(c.unstarted k above).1, Bool.false_or]
    apply decide_eq_false
    intro current
    exact absurd (c.begun k current) (Nat.not_lt.mpr above)
  kept := by
    intro k going waiting
    exact c.kept k (Bool.or_eq_false_iff.mp going).1 waiting

/-- A new controller takes the place of the one before, which is aborted. -/
def begin (c : Controllers π) (p : π) : Controllers π where
  started := c.started + 1
  current := some c.started
  aborted := c.abort.aborted
  phase := Function.update c.phase c.started (some p)
  begun := by
    rintro k ⟨⟩
    exact Nat.lt_succ_self _
  unstarted := by
    intro k above
    have above' := Nat.le_of_succ_le above
    refine ⟨(c.abort.unstarted k above').1, ?_⟩
    rw [Function.update_of_ne (Nat.ne_of_gt above)]
    exact (c.unstarted k above').2
  kept := by
    intro k going waiting
    by_cases new : k = c.started
    · rw [new]
    · rw [Function.update_of_ne new] at waiting
      have current := c.kept k (Bool.or_eq_false_iff.mp going).1 waiting
      exact absurd current (of_decide_eq_false (Bool.or_eq_false_iff.mp going).2)

/-- The task waits again, or is through. -/
def move (c : Controllers π) (k : Nat) (next : Option π) : Controllers π where
  started := c.started
  current := c.current
  aborted := c.aborted
  phase := fun j => if j = k ∧ c.phase k ≠ none then next else c.phase j
  begun := c.begun
  unstarted := by
    intro j above
    refine ⟨(c.unstarted j above).1, ?_⟩
    rw [if_neg]
    · exact (c.unstarted j above).2
    · rintro ⟨rfl, waiting⟩
      exact waiting (c.unstarted j above).2
  kept := by
    intro j going waiting
    apply c.kept j going
    split at waiting
    · rename_i here
      rw [here.1]
      exact here.2
    · exact waiting

/-- `if (ref.current === controller) ref.current = null`, for a task that is through. -/
def drop (c : Controllers π) (k : Nat) (through : c.phase k = none) : Controllers π where
  started := c.started
  current := if c.current = some k then none else c.current
  aborted := c.aborted
  phase := c.phase
  begun := by
    intro j current
    split at current
    · cases current
    · exact c.begun j current
  unstarted := c.unstarted
  kept := by
    intro j going waiting
    have current := c.kept j going waiting
    rw [if_neg]
    · exact current
    · rintro same
      cases current.symm.trans same
      exact waiting through

theorem move_through (c : Controllers π) (k : Nat) : (c.move k none).phase k = none := by
  simp only [move, true_and]
  split
  · rfl
  · rename_i through
    exact Decidable.not_not.mp through

def finish (c : Controllers π) (k : Nat) : Controllers π :=
  (c.move k none).drop k (c.move_through k)

/-- The live task, if there is one, and what it waits with. -/
def live (c : Controllers π) : Option (Nat × π) :=
  c.current.bind fun k => if c.aborted k then none else (c.phase k).map (k, ·)

variable {c : Controllers π} {k : Nat} {p : π}

theorem live_eq_some_iff :
    c.live = some (k, p) ↔ c.phase k = some p ∧ c.aborted k = false := by
  constructor
  · intro live
    obtain ⟨j, _, live⟩ := Option.bind_eq_some_iff.mp live
    split at live
    · cases live
    · rename_i going
      obtain ⟨_, waiting, same⟩ := Option.map_eq_some_iff.mp live
      cases same
      exact ⟨waiting, Bool.eq_false_iff.mpr going⟩
  · rintro ⟨waiting, going⟩
    have current := c.kept k going (by rw [waiting]; simp)
    rw [live, current, Option.bind_some, going, waiting]
    rfl

theorem of_phase_move {j : Nat} {next : Option π} (phase : (c.move k next).phase j = some p) :
    next = some p ∨ c.phase j = some p := by
  simp only [move] at phase
  split at phase
  · exact .inl phase
  · exact .inr phase

theorem live_of_phase (waiting : c.phase k = some p) (going : c.aborted k = false) :
    c.live = some (k, p) := live_eq_some_iff.mpr ⟨waiting, going⟩

theorem current_of_live (live : c.live = some (k, p)) : c.current = some k := by
  obtain ⟨waiting, going⟩ := live_eq_some_iff.mp live
  exact c.kept k going (by rw [waiting]; simp)

@[simp] theorem live_initial : (initial : Controllers π).live = none := rfl

@[simp] theorem live_abort (c : Controllers π) : c.abort.live = none := by
  rw [Option.eq_none_iff_forall_ne_some]
  rintro ⟨k, p⟩ live
  have current := current_of_live live
  have going := (live_eq_some_iff.mp live).2
  exact absurd current (of_decide_eq_false (Bool.or_eq_false_iff.mp going).2)

@[simp] theorem live_begin (c : Controllers π) (p : π) :
    (c.begin p).live = some (c.started, p) := by
  apply live_of_phase
  · exact Function.update_self ..
  · have fresh : c.current ≠ some c.started := fun current =>
      absurd (c.begun _ current) (Nat.lt_irrefl _)
    change (c.aborted c.started || decide (c.current = some c.started)) = false
    rw [(c.unstarted _ (Nat.le_refl _)).1, decide_eq_false fresh]
    rfl

theorem live_move (live : c.live = some (k, p)) (next : Option π) :
    (c.move k next).live = next.map (k, ·) := by
  obtain ⟨waiting, going⟩ := live_eq_some_iff.mp live
  have current := current_of_live live
  have current : (c.move k next).current = some k := current
  have phase : (c.move k next).phase k = next := if_pos ⟨rfl, by rw [waiting]; simp⟩
  have still : (c.move k next).aborted k = false := going
  rw [Controllers.live, current, Option.bind_some, still, phase]
  rfl

/-- What becomes of a task called off does not touch the live one. -/
theorem live_move_aborted (off : c.aborted k = true) (next : Option π) :
    (c.move k next).live = c.live := by
  apply Option.ext
  rintro ⟨j, p⟩
  rw [live_eq_some_iff, live_eq_some_iff]
  refine and_congr_left fun going => ?_
  have other : j ≠ k := by
    rintro rfl
    rw [show c.aborted j = false from going] at off
    cases off
  exact iff_of_eq (congrArg (· = some p) (if_neg fun here => other here.1))

theorem live_drop (c : Controllers π) (k : Nat) (through : c.phase k = none) :
    (c.drop k through).live = c.live := by
  apply Option.ext
  rintro ⟨j, p⟩
  rw [live_eq_some_iff, live_eq_some_iff]
  rfl

theorem live_finish (live : c.live = some (k, p)) : (c.finish k).live = none := by
  rw [finish, live_drop, live_move live]
  rfl

theorem live_finish_aborted (off : c.aborted k = true) : (c.finish k).live = c.live := by
  rw [finish, live_drop, live_move_aborted off]

end Controllers

end ShowUp

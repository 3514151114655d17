import Mathlib.Tactic.Common

/-!
# Checks before effects

A program over state and failures, where one class of failures (`Late`) is
allowed to come after effects. Reading leaves the state alone, acting can only
fail late, and a program that reads first and acts afterwards fails early only in
the state it started in: nothing has to be undone.
-/

namespace ShowUp.Staged

set_option autoImplicit false

universe u
variable {ε σ α β : Type u}

/-- However it ends, the state is the one it was given. -/
structure Reads (m : EStateM ε σ α) : Prop where
  ok : ∀ {s a s'}, m.run s = .ok a s' → s' = s
  error : ∀ {s e s'}, m.run s = .error e s' → s' = s

variable (Late : ε → Prop)

/-- It has no failures but late ones. -/
structure Acts (m : EStateM ε σ α) : Prop where
  late : ∀ {s e s'}, m.run s = .error e s' → Late e

/-- Where it does not fail late it fails in the state it was given. -/
structure ChecksFirst (m : EStateM ε σ α) : Prop where
  late_or_clean : ∀ {s e s'}, m.run s = .error e s' → Late e ∨ s' = s

variable {Late} {m : EStateM ε σ α} {g : α → EStateM ε σ β}

theorem run_bind_ok {s s' : σ} {b : β} :
    (m >>= g).run s = .ok b s' ↔ ∃ a s₁, m.run s = .ok a s₁ ∧ (g a).run s₁ = .ok b s' := by
  rw [EStateM.run_bind]
  cases m.run s <;> simp

theorem run_bind_error {s s' : σ} {e : ε} :
    (m >>= g).run s = .error e s' ↔ m.run s = .error e s' ∨
      ∃ a s₁, m.run s = .ok a s₁ ∧ (g a).run s₁ = .error e s' := by
  rw [EStateM.run_bind]
  cases m.run s <;> simp

theorem Acts.bind (first : Acts Late m) (rest : ∀ a, Acts Late (g a)) :
    Acts Late (m >>= g) where
  late := by
    intro s e s' h
    rcases run_bind_error.mp h with failed | ⟨a, s₁, _, failed⟩
    · exact first.late failed
    · exact (rest a).late failed

theorem Acts.checksFirst (acts : Acts Late m) : ChecksFirst Late m := ⟨fun h => .inl (acts.late h)⟩

theorem Acts.pure (a : α) : Acts Late (pure a : EStateM ε σ α) where
  late := by
    intro s e s' h
    cases h

theorem Acts.modify (g : σ → σ) : Acts Late (modify g : EStateM ε σ PUnit) where
  late := by
    intro s e s' h
    cases h

/-- The rule for one more check in front. -/
theorem ChecksFirst.bind (reads : Reads m) (rest : ∀ a, ChecksFirst Late (g a)) :
    ChecksFirst Late (m >>= g) where
  late_or_clean := by
    intro s e s' h
    rcases run_bind_error.mp h with failed | ⟨a, s₁, passed, failed⟩
    · exact .inr (reads.error failed)
    · obtain rfl := reads.ok passed
      exact (rest a).late_or_clean failed

/-- What comes after may still act. -/
theorem ChecksFirst.andThen (checks : ChecksFirst Late m) (rest : ∀ a, Acts Late (g a)) :
    ChecksFirst Late (m >>= g) where
  late_or_clean := by
    intro s e s' h
    rcases run_bind_error.mp h with failed | ⟨a, s₁, _, failed⟩
    · exact checks.late_or_clean failed
    · exact .inl ((rest a).late failed)

end ShowUp.Staged

import Mathlib.Data.List.Basic
import Mathlib.Data.List.Pairwise

/-!
# A counter that outdates tasks

A task keeps the count it was started at, and every start raises the count. A
task is up to date while the count is still its own: that is the one started last
or none, and what is outdated stays outdated.
-/

namespace ShowUp

set_option autoImplicit false

structure Generations where
  count : Nat
  stamps : List Nat
  increasing : stamps.Pairwise (· < ·)
  bounded : ∀ stamp ∈ stamps, stamp ≤ count

namespace Generations

def initial : Generations where
  count := 0
  stamps := []
  increasing := .nil
  bounded := fun _ h => absurd h List.not_mem_nil

/-- How many tasks were started; they are numbered from 0. -/
def started (g : Generations) : Nat := g.stamps.length

def advance (g : Generations) : Generations where
  count := g.count + 1
  stamps := g.stamps
  increasing := g.increasing
  bounded := fun stamp h => Nat.le_succ_of_le (g.bounded stamp h)

def begin (g : Generations) : Generations where
  count := g.count + 1
  stamps := g.stamps ++ [g.count + 1]
  increasing := by
    refine List.pairwise_append.mpr ⟨g.increasing, List.pairwise_singleton _ _, ?_⟩
    intro stamp h next hnext
    rw [List.mem_singleton.mp hnext]
    exact Nat.lt_succ_of_le (g.bounded stamp h)
  bounded := by
    intro stamp h
    rcases List.mem_append.mp h with h | h
    · exact Nat.le_succ_of_le (g.bounded stamp h)
    · exact Nat.le_of_eq (List.mem_singleton.mp h)

def IsCurrent (g : Generations) (k : Nat) : Prop := g.stamps[k]? = some g.count

instance (g : Generations) (k : Nat) : Decidable (g.IsCurrent k) :=
  inferInstanceAs (Decidable (_ = _))

/-- A task that was started and has lost its say. -/
def Outdated (g : Generations) (k : Nat) : Prop := k < g.started ∧ ¬ g.IsCurrent k

variable {g : Generations} {k : Nat}

theorem IsCurrent.lt_started (h : g.IsCurrent k) : k < g.started :=
  (List.getElem?_eq_some_iff.mp h).1

theorem IsCurrent.last (h : g.IsCurrent k) : k + 1 = g.started := by
  obtain ⟨hk, stamp⟩ := List.getElem?_eq_some_iff.mp h
  by_contra apart
  have next : k + 1 < g.stamps.length := by
    unfold started at apart
    omega
  have above := List.pairwise_iff_getElem.mp g.increasing k (k + 1) hk next (Nat.lt_succ_self k)
  have below := g.bounded _ (List.getElem_mem next)
  omega

theorem IsCurrent.unique {k' : Nat} (h : g.IsCurrent k) (h' : g.IsCurrent k') : k = k' := by
  have := h.last
  have := h'.last
  omega

@[simp] theorem started_advance (g : Generations) : g.advance.started = g.started := rfl

@[simp] theorem started_begin (g : Generations) : g.begin.started = g.started + 1 :=
  List.length_append

@[simp] theorem not_isCurrent_advance (g : Generations) (k : Nat) : ¬ g.advance.IsCurrent k := by
  intro h
  have := g.bounded _ (List.mem_of_getElem? h)
  change g.count + 1 ≤ g.count at this
  omega

theorem isCurrent_begin_iff (g : Generations) (k : Nat) :
    g.begin.IsCurrent k ↔ k = g.started := by
  constructor
  · intro h
    have last := h.last
    rw [started_begin] at last
    omega
  · rintro rfl
    exact List.getElem?_concat_length

theorem Outdated.advance (h : g.Outdated k) : g.advance.Outdated k :=
  ⟨h.1, not_isCurrent_advance g k⟩

theorem Outdated.begin (h : g.Outdated k) : g.begin.Outdated k := by
  refine ⟨?_, ?_⟩
  · rw [started_begin]
    exact Nat.lt_succ_of_lt h.1
  · rw [isCurrent_begin_iff]
    exact Nat.ne_of_lt h.1

theorem outdated_advance (h : k < g.started) : g.advance.Outdated k :=
  ⟨h, not_isCurrent_advance g k⟩

theorem outdated_begin (h : k < g.started) : g.begin.Outdated k := by
  refine ⟨?_, ?_⟩
  · rw [started_begin]
    exact Nat.lt_succ_of_lt h
  · rw [isCurrent_begin_iff]
    exact Nat.ne_of_lt h

end Generations

end ShowUp

import Mathlib.Data.List.Basic

/-!
# Runs of a deterministic machine

A machine is a step function on states and inputs; a run folds the step over a
list of inputs. Safety is one induction (`run_invariant`), provenance is the
other (`exists_flip`): a property that holds at the end and not at the start was
switched on by one particular step.
-/

namespace ShowUp.Runs

set_option autoImplicit false

universe u v
variable {σ : Type u} {ι : Type v} (step : σ → ι → σ)

def run (s : σ) (is : List ι) : σ := is.foldl step s

@[simp] theorem run_nil (s : σ) : run step s [] = s := rfl

@[simp] theorem run_cons (s : σ) (i : ι) (is : List ι) :
    run step s (i :: is) = run step (step s i) is := rfl

theorem run_append (s : σ) (is js : List ι) :
    run step s (is ++ js) = run step (run step s is) js := List.foldl_append

theorem run_concat (s : σ) (is : List ι) (i : ι) :
    run step s (is ++ [i]) = step (run step s is) i := by
  rw [run_append, run_cons, run_nil]

/-- Every input of the run meets `C` in the state it is taken in. -/
def Along (C : σ → ι → Prop) (s : σ) : List ι → Prop
  | [] => True
  | i :: is => C s i ∧ Along C (step s i) is

theorem along_append (C : σ → ι → Prop) (s : σ) (is js : List ι) :
    Along step C s (is ++ js) ↔ Along step C s is ∧ Along step C (run step s is) js := by
  induction is generalizing s with
  | nil => simp [Along]
  | cons i is ih => simp only [List.cons_append, Along, ih, run_cons, and_assoc]

theorem along_concat (C : σ → ι → Prop) (s : σ) (is : List ι) (i : ι) :
    Along step C s (is ++ [i]) ↔ Along step C s is ∧ C (run step s is) i := by
  rw [along_append]
  simp [Along]

theorem along_of_forall {C : ι → Prop} {is : List ι} (h : ∀ i ∈ is, C i) (s : σ) :
    Along step (fun _ i => C i) s is := by
  induction is generalizing s with
  | nil => trivial
  | cons i is ih =>
    exact ⟨h i List.mem_cons_self, ih (fun j hj => h j (List.mem_cons_of_mem i hj)) (step s i)⟩

variable {step}

theorem Along.imp {C D : σ → ι → Prop} {s : σ} {is : List ι} (along : Along step C s is)
    (weaker : ∀ s, ∀ i ∈ is, C s i → D s i) : Along step D s is := by
  induction is generalizing s with
  | nil => trivial
  | cons i is ih =>
    exact ⟨weaker s i List.mem_cons_self along.1,
      ih along.2 fun s j member => weaker s j (List.mem_cons_of_mem i member)⟩

theorem run_invariant_along {P : σ → Prop} {C : σ → ι → Prop}
    (keep : ∀ s i, P s → C s i → P (step s i)) {s : σ} (start : P s)
    {is : List ι} (along : Along step C s is) : P (run step s is) := by
  induction is generalizing s with
  | nil => exact start
  | cons i is ih => exact ih (keep s i start along.1) along.2

/-- Where `C` is what it takes for `Q` to hold next, and `P` then goes on, a run always has `Q`
exactly when it keeps to `C`. -/
theorem always_iff_along {P Q : σ → Prop} {C : σ → ι → Prop} (has : ∀ s, P s → Q s)
    (next : ∀ s i, P s → (Q (step s i) ↔ C s i)) (keep : ∀ s i, P s → C s i → P (step s i))
    {s : σ} (start : P s) (is : List ι) :
    (∀ before after, is = before ++ after → Q (run step s before)) ↔ Along step C s is := by
  induction is generalizing s with
  | nil =>
    refine iff_of_true ?_ trivial
    rintro before after split
    obtain ⟨rfl, _⟩ := List.append_eq_nil_iff.mp split.symm
    exact has s start
  | cons i is ih =>
    constructor
    · intro always
      have now := (next s i start).mp (always [i] is rfl)
      refine ⟨now, (ih (keep s i start now)).mp ?_⟩
      rintro before after rfl
      exact always (i :: before) after rfl
    · rintro ⟨now, later⟩ before after split
      cases before with
      | nil => exact has s start
      | cons j before =>
        cases split
        exact (ih (keep s i start now)).mpr later before after rfl

theorem run_invariant {P : σ → Prop} (keep : ∀ s i, P s → P (step s i))
    {s : σ} (start : P s) (is : List ι) : P (run step s is) := by
  induction is generalizing s with
  | nil => exact start
  | cons i is ih => exact ih (keep s i start)

/-- A reflexive and transitive relation between each state and the next relates
the ends of every run. -/
theorem run_related {R : σ → σ → Prop} (refl : ∀ s, R s s)
    (trans : ∀ {a b c}, R a b → R b c → R a c) (next : ∀ s i, R s (step s i))
    (s : σ) (is : List ι) : R s (run step s is) := by
  induction is generalizing s with
  | nil => exact refl s
  | cons i is ih => exact trans (next s i) (ih (step s i))

/-- What holds at the end and not at the start became true in one step. -/
theorem exists_flip {P : σ → Prop} {s : σ} {is : List ι} (start : ¬ P s)
    (last : P (run step s is)) :
    ∃ before i after, is = before ++ i :: after ∧
      ¬ P (run step s before) ∧ P (step (run step s before) i) := by
  induction is generalizing s with
  | nil => exact absurd last start
  | cons i is ih =>
    by_cases h : P (step s i)
    · exact ⟨[], i, is, rfl, start, h⟩
    · obtain ⟨before, j, after, rfl, hn, hp⟩ := ih h last
      exact ⟨i :: before, j, after, rfl, hn, hp⟩

end ShowUp.Runs

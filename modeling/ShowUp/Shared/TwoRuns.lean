import ShowUp.Shared.Runs

/-!
# Two runs of one machine

Two input lists that are nearly the same are compared through the edits between
them: inputs the two have in common, up to a relation, and inputs only one of
them has. What no edit can influence is the same in both runs. The special case
of one run against itself without the inputs it ignores needs no edits.
-/

namespace ShowUp.TwoRuns

set_option autoImplicit false

universe u v w
variable {σ : Type u} {ι : Type v} {ω : Type w}

section Ignored
variable (step : σ → ι → σ) (stale : σ → ι → Bool)

/-- The inputs that are not stale in the state they are taken in. -/
def live (s : σ) : List ι → List ι
  | [] => []
  | i :: is => if stale s i then live (step s i) is else i :: live (step s i) is

variable {step stale}

theorem run_live (ignored : ∀ s i, stale s i → step s i = s) (s : σ) (is : List ι) :
    Runs.run step s (live step stale s is) = Runs.run step s is := by
  induction is generalizing s with
  | nil => rfl
  | cons i is ih =>
    rw [live]
    split
    · rename_i old
      rw [Runs.run_cons, ignored s i old]
      exact ih s
    · exact ih (step s i)

end Ignored

/-- One place of a comparison of two input lists. -/
inductive Edit (ι : Type v) where
  | common (left right : ι)
  | left (i : ι)
  | right (i : ι)

namespace Edit

def lefts (edits : List (Edit ι)) : List ι :=
  edits.filterMap fun
    | common i _ | left i => some i
    | right _ => none

def rights (edits : List (Edit ι)) : List ι :=
  edits.filterMap fun
    | common _ j | right j => some j
    | left _ => none

/-- The common inputs are alike and the others make no difference. -/
def Harmless (alike : ι → ι → Prop) (aside : ι → Prop) : Edit ι → Prop
  | common i j => alike i j
  | left i | right i => aside i

theorem lefts_concat (edits : List (Edit ι)) (i j : ι) :
    lefts (edits ++ [common i j]) = lefts edits ++ [i] := List.filterMap_append

theorem rights_concat (edits : List (Edit ι)) (i j : ι) :
    rights (edits ++ [common i j]) = rights edits ++ [j] := List.filterMap_append

end Edit

/-- What every alike pair moves alike, and no other input moves, is the same after both
lists of a comparison. -/
theorem run_agrees {step : σ → ι → σ} {observe : σ → ω} {alike : ι → ι → Prop}
    {aside : ι → Prop} (quiet : ∀ s i, aside i → observe (step s i) = observe s)
    (together : ∀ s t i j, alike i j → observe s = observe t →
      observe (step s i) = observe (step t j))
    {edits : List (Edit ι)} (harmless : ∀ e ∈ edits, e.Harmless alike aside) {s t : σ}
    (start : observe s = observe t) :
    observe (Runs.run step s (Edit.lefts edits)) =
      observe (Runs.run step t (Edit.rights edits)) := by
  induction edits generalizing s t with
  | nil => exact start
  | cons e edits ih =>
    have here := harmless e (List.mem_cons_self ..)
    have later : ∀ e ∈ edits, e.Harmless alike aside :=
      fun e h => harmless e (List.mem_cons_of_mem _ h)
    cases e with
    | common i j => exact ih later (together s t i j here start)
    | left i => exact ih later ((quiet s i here).trans start)
    | right j => exact ih later (start.trans (quiet t j here).symm)

end ShowUp.TwoRuns

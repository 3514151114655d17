import Mathlib.Data.List.Perm.Basic

/-!
# Reordering independent steps

A step may fail. When independent steps commute up to an equivalence, and
equivalent states have the same steps, then steps that each succeed on their own
succeed together in every order, and every order ends in the same state up to the
equivalence.
-/

namespace ShowUp.Reordering

set_option autoImplicit false

universe u v
variable {σ : Type u} {ι : Type v} (step : σ → ι → Option σ)

def runAll (s : σ) (is : List ι) : Option σ := is.foldlM step s

@[simp] theorem runAll_nil (s : σ) : runAll step s [] = some s := rfl

theorem runAll_cons {s t : σ} {i : ι} {is : List ι} :
    runAll step s (i :: is) = some t ↔ ∃ s₁, step s i = some s₁ ∧ runAll step s₁ is = some t :=
  Option.bind_eq_some_iff

theorem runAll_append {s t : σ} {is js : List ι} :
    runAll step s (is ++ js) = some t ↔
      ∃ s₁, runAll step s is = some s₁ ∧ runAll step s₁ js = some t := by
  rw [runAll, List.foldlM_append]
  exact Option.bind_eq_some_iff

structure Diamond (Good : σ → Prop) (Same : σ → σ → Prop) (Apart : ι → ι → Prop) : Prop where
  refl : ∀ s, Same s s
  trans : ∀ {a b c}, Same a b → Same b c → Same a c
  apart_symm : ∀ {i j}, Apart i j → Apart j i
  good : ∀ {s t i}, Good s → step s i = some t → Good t
  congr : ∀ {s s' t i}, Good s → Good s' → Same s s' → step s i = some t →
    ∃ t', step s' i = some t' ∧ Same t t'
  swap : ∀ {s t u i j}, Good s → Apart i j → step s i = some t → step s j = some u →
    ∃ v w, step t j = some v ∧ step u i = some w ∧ Same v w

variable {step} {Good : σ → Prop} {Same : σ → σ → Prop} {Apart : ι → ι → Prop}
  (diamond : Diamond step Good Same Apart)
include diamond

theorem Diamond.runAll_congr {s s' t : σ} {is : List ι} (good : Good s) (good' : Good s')
    (same : Same s s') (h : runAll step s is = some t) :
    ∃ t', runAll step s' is = some t' ∧ Same t t' := by
  induction is generalizing s s' with
  | nil =>
    cases h
    exact ⟨s', rfl, same⟩
  | cons i is ih =>
    obtain ⟨s₁, first, rest⟩ := (runAll_cons step).mp h
    obtain ⟨s₁', first', same₁⟩ := diamond.congr good good' same first
    obtain ⟨t', rest', same'⟩ := ih (diamond.good good first) (diamond.good good' first') same₁ rest
    exact ⟨t', (runAll_cons step).mpr ⟨s₁', first', rest'⟩, same'⟩

/-- A step blocks no step apart from it. -/
theorem Diamond.still_enabled {s t : σ} {i : ι} {is : List ι} (good : Good s)
    (apart : ∀ j ∈ is, Apart i j) (first : step s i = some t)
    (enabled : ∀ j ∈ is, ∃ u, step s j = some u) : ∀ j ∈ is, ∃ u, step t j = some u := by
  intro j hj
  obtain ⟨u, second⟩ := enabled j hj
  obtain ⟨v, _, second', _, _⟩ := diamond.swap good (apart j hj) first second
  exact ⟨v, second'⟩

theorem Diamond.runAll_succeeds {s : σ} {is : List ι} (good : Good s)
    (apart : is.Pairwise Apart) (enabled : ∀ i ∈ is, ∃ t, step s i = some t) :
    ∃ t, runAll step s is = some t := by
  induction is generalizing s with
  | nil => exact ⟨s, rfl⟩
  | cons i is ih =>
    obtain ⟨apart_i, apart_is⟩ := List.pairwise_cons.mp apart
    obtain ⟨t, first⟩ := enabled i List.mem_cons_self
    have later := diamond.still_enabled good apart_i first fun j hj =>
      enabled j (List.mem_cons_of_mem i hj)
    obtain ⟨u, rest⟩ := ih (diamond.good good first) apart_is later
    exact ⟨u, (runAll_cons step).mpr ⟨t, first, rest⟩⟩

/-- Every order of the same steps ends in the same state. -/
theorem Diamond.runAll_perm {s : σ} {is js : List ι} (perm : is.Perm js) (good : Good s)
    (apart : is.Pairwise Apart) (enabled : ∀ i ∈ is, ∃ t, step s i = some t) :
    ∃ t t', runAll step s is = some t ∧ runAll step s js = some t' ∧ Same t t' := by
  induction perm generalizing s with
  | nil => exact ⟨s, s, rfl, rfl, diamond.refl s⟩
  | cons i perm ih =>
    obtain ⟨apart_i, apart_is⟩ := List.pairwise_cons.mp apart
    obtain ⟨s₁, first⟩ := enabled i List.mem_cons_self
    have later := diamond.still_enabled good apart_i first fun j hj =>
      enabled j (List.mem_cons_of_mem i hj)
    obtain ⟨t, t', rest, rest', same⟩ := ih (diamond.good good first) apart_is later
    exact ⟨t, t', (runAll_cons step).mpr ⟨s₁, first, rest⟩,
      (runAll_cons step).mpr ⟨s₁, first, rest'⟩, same⟩
  | swap i j is =>
    obtain ⟨t, whole⟩ := diamond.runAll_succeeds good apart enabled
    obtain ⟨s₁, first, tail⟩ := (runAll_cons step).mp whole
    obtain ⟨v, second, rest⟩ := (runAll_cons step).mp tail
    obtain ⟨s₂, second'⟩ := enabled i (List.mem_cons_of_mem j List.mem_cons_self)
    have apart_ji := (List.pairwise_cons.mp apart).1 i List.mem_cons_self
    obtain ⟨v', w, second'', first', same⟩ := diamond.swap good apart_ji first second'
    cases second.symm.trans second''
    have good_v := diamond.good (diamond.good good first) second
    have good_w := diamond.good (diamond.good good second') first'
    obtain ⟨t', rest', same'⟩ := diamond.runAll_congr good_v good_w same rest
    refine ⟨t, t', whole, ?_, same'⟩
    exact (runAll_cons step).mpr ⟨s₂, second', (runAll_cons step).mpr ⟨w, first', rest'⟩⟩
  | trans perm₁ perm₂ ih₁ ih₂ =>
    obtain ⟨t, t₁, run, run₁, same₁⟩ := ih₁ good apart enabled
    obtain ⟨t₁', t₂, run₁', run₂, same₂⟩ := ih₂ good
      ((perm₁.pairwise_iff diamond.apart_symm).mp apart)
      fun i hi => enabled i (perm₁.mem_iff.mpr hi)
    cases run₁.symm.trans run₁'
    exact ⟨t, t₂, run, run₂, diamond.trans same₁ same₂⟩

end ShowUp.Reordering

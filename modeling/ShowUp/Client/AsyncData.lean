import ShowUp.Shared.Runs

/-!
# Data of a key

`useAsyncData` of `lib/hooks/use-async-data.ts`. React runs the effects of the last
render before it renders again, or earlier. A load goes by its number, and its
outcome comes when it comes. What a load is for is known from the dependencies its
effect ran with.
-/

namespace ShowUp.Client

set_option autoImplicit false

open Runs

universe u v w
variable {κ : Type u} {δ : Type v} {ε : Type w}

inductive AsyncData (δ : Type v) (ε : Type w) where
  | loading
  | ready (data : δ)
  | error (error : ε)
  deriving DecidableEq

def AsyncData.ofOutcome : Except ε δ → AsyncData δ ε
  | .ok data => ready data
  | .error thrown => error thrown

/-- The dependencies of the effect in one render -/
structure Render (κ : Type u) where
  enabled : Bool
  attempt : Nat
  deps : κ
  deriving DecidableEq

/-- One run of the effect, with what it awaits. -/
structure Load (κ : Type u) where
  deps : κ
  cancelled : Bool
  pending : Bool

def Load.cancel (load : Load κ) : Load κ := { load with cancelled := true }

/-- The await of the load is over. -/
def Load.settle (load : Load κ) : Load κ := { load with pending := false }

structure Hook (κ : Type u) (δ : Type v) (ε : Type w) where
  mounted : Bool
  state : AsyncData δ ε
  attempt : Nat
  /-- the last render -/
  rendered : Option (Render κ)
  /-- the render whose effects ran last -/
  flushed : Option (Render κ)
  loads : List (Load κ)
  /-- the load whose cleanup is still to run -/
  effect : Option Nat
  /-- what the load was for whose outcome is in the state -/
  source : Option κ

inductive HookInput (κ : Type u) (δ : Type v) (ε : Type w) where
  | render (enabled : Bool) (deps : κ)
  /-- React runs the effects of the last render. -/
  | flush
  | reload
  | unmount
  | complete (j : Nat) (outcome : Except ε δ)

namespace Hook

def initial : Hook κ δ ε where
  mounted := true
  state := .loading
  attempt := 0
  rendered := none
  flushed := none
  loads := []
  effect := none
  source := none

/-- `cancelled = true` for the effect in force -/
def cleanup (s : Hook κ δ ε) : Hook κ δ ε :=
  match s.effect with
  | none => s
  | some j => { s with loads := s.loads.modify j Load.cancel, effect := none }

def runEffect (s : Hook κ δ ε) : Hook κ δ ε :=
  match s.rendered with
  | some ⟨true, _, deps⟩ => { s with
      loads := s.loads ++ [⟨deps, false, true⟩]
      effect := some s.loads.length }
  | _ => s

def settle (s : Hook κ δ ε) (j : Nat) : Hook κ δ ε :=
  { s with loads := s.loads.modify j Load.settle }

def complete (s : Hook κ δ ε) (j : Nat) (outcome : Except ε δ) : Hook κ δ ε :=
  match s.loads[j]? with
  | some ⟨deps, false, true⟩ =>
    { s.settle j with state := .ofOutcome outcome, source := some deps }
  | _ => s.settle j

def reload (s : Hook κ δ ε) : Hook κ δ ε :=
  { s with state := .loading, attempt := s.attempt + 1 }

section Effects
variable [DecidableEq κ]

def flush (s : Hook κ δ ε) : Hook κ δ ε :=
  if s.rendered = s.flushed then s else { s.cleanup.runEffect with flushed := s.rendered }

def render (s : Hook κ δ ε) (enabled : Bool) (deps : κ) : Hook κ δ ε :=
  { s.flush with rendered := some ⟨enabled, s.attempt, deps⟩ }

def unmount (s : Hook κ δ ε) : Hook κ δ ε := { s.flush.cleanup with mounted := false }

def step (s : Hook κ δ ε) : HookInput κ δ ε → Hook κ δ ε
  | .render enabled deps => if s.mounted then s.render enabled deps else s
  | .flush => if s.mounted then s.flush else s
  | .reload => if s.mounted then s.reload else s
  | .unmount => if s.mounted then s.unmount else s
  | .complete j outcome => s.complete j outcome

end Effects

/-- The effect run that started the load was cleaned up. -/
def Superseded (s : Hook κ δ ε) (j : Nat) : Prop := j < s.loads.length ∧ s.effect ≠ some j

/-- What the hook returns to the last render is of the key of that render. -/
def Belongs (s : Hook κ δ ε) : Prop :=
  s.mounted = true → ∀ attempt deps, s.rendered = some ⟨true, attempt, deps⟩ →
    s.state ≠ .loading → s.source = some deps

/-- The key of the load that was started last -/
def lastKey (s : Hook κ δ ε) : Option κ := (s.loads.map Load.deps).getLast?

/-- The key changes under a hook that is loading, and the outcome of a load that may still
commit does not come between such a change and the effects of that render. -/
def Timely (s : Hook κ δ ε) : HookInput κ δ ε → Prop
  | .render enabled deps =>
    s.mounted = true → enabled = true → s.state ≠ .loading → s.lastKey = some deps
  | .complete j _ =>
    ∀ key, s.loads[j]? = some ⟨key, false, true⟩ →
      ∀ attempt deps, s.rendered = some ⟨true, attempt, deps⟩ → key = deps
  | _ => True

/-- Only the last load may be in force, and only while it is it may commit. -/
structure Live (s : Hook κ δ ε) : Prop where
  mounted : ∀ j, s.effect = some j → s.mounted = true
  last : ∀ j, s.effect = some j → j + 1 = s.loads.length
  inForce : ∀ j load, s.loads[j]? = some load → load.cancelled = false → s.effect = some j

section Parts
variable {s : Hook κ δ ε}

theorem cleanup_kept (s : Hook κ δ ε) :
    s.cleanup = { s with loads := s.cleanup.loads, effect := none } := by
  unfold cleanup
  split
  · rename_i idle
    rw [← idle]
  · rfl

@[simp] theorem cleanup_state (s : Hook κ δ ε) : s.cleanup.state = s.state := by
  rw [cleanup_kept]

@[simp] theorem cleanup_source (s : Hook κ δ ε) : s.cleanup.source = s.source := by
  rw [cleanup_kept]

theorem cleanup_effect_ne (s : Hook κ δ ε) (j : Nat) : s.cleanup.effect ≠ some j := by
  rw [cleanup_kept]
  intro force
  cases force

theorem cleanup_length (s : Hook κ δ ε) : s.cleanup.loads.length = s.loads.length := by
  unfold cleanup
  split
  · rfl
  · exact List.length_modify _ _ _

theorem map_deps_modify (f : Load κ → Load κ) (h : ∀ load, (f load).deps = load.deps)
    (loads : List (Load κ)) (j : Nat) :
    (loads.modify j f).map Load.deps = loads.map Load.deps := by
  induction loads generalizing j with
  | nil => rw [List.modify_nil]
  | cons load loads ih =>
    cases j with
    | zero => rw [List.modify_zero_cons, List.map_cons, List.map_cons, h]
    | succ j => rw [List.modify_succ_cons, List.map_cons, List.map_cons, ih]

@[simp] theorem cleanup_lastKey (s : Hook κ δ ε) : s.cleanup.lastKey = s.lastKey := by
  unfold cleanup
  split
  · rfl
  · exact congrArg List.getLast? (map_deps_modify Load.cancel (fun _ => rfl) s.loads _)

@[simp] theorem settle_lastKey (s : Hook κ δ ε) (j : Nat) : (s.settle j).lastKey = s.lastKey :=
  congrArg List.getLast? (map_deps_modify Load.settle (fun _ => rfl) s.loads j)

/-- After the cleanup no load can commit. -/
theorem cleanup_cancelled (live : s.Live) (j : Nat) (load : Load κ)
    (held : s.cleanup.loads[j]? = some load) : load.cancelled = true := by
  by_contra current
  rw [Bool.not_eq_true] at current
  unfold cleanup at held
  split at held
  · rename_i idle
    exact absurd (live.inForce j load held current) (by simp [idle])
  · rename_i k force
    rw [List.getElem?_modify] at held
    obtain ⟨before, old, rfl⟩ := Option.map_eq_some_iff.mp held
    split at current
    · cases current
    · rename_i other
      exact other (Option.some.inj (force.symm.trans (live.inForce j before old current)))

theorem Live.cleanup (live : s.Live) : s.cleanup.Live where
  mounted := fun j force => absurd force (s.cleanup_effect_ne j)
  last := fun j force => absurd force (s.cleanup_effect_ne j)
  inForce := by
    intro j load held current
    rw [cleanup_cancelled live j load held] at current
    cases current

theorem Live.settle (live : s.Live) (j : Nat) : (s.settle j).Live where
  mounted := live.mounted
  last := fun k force => (live.last k force).trans (List.length_modify _ _ _).symm
  inForce := by
    intro k load held current
    unfold Hook.settle at held
    rw [List.getElem?_modify] at held
    obtain ⟨old, before, rfl⟩ := Option.map_eq_some_iff.mp held
    refine live.inForce k old before ?_
    split at current <;> exact current

theorem ofOutcome_ne_loading (outcome : Except ε δ) : AsyncData.ofOutcome outcome ≠ .loading := by
  cases outcome <;> exact fun h => by cases h

theorem Live.lastKey (live : s.Live) {j : Nat} {load : Load κ} (held : s.loads[j]? = some load)
    (current : load.cancelled = false) : s.lastKey = some load.deps := by
  have last := live.last j (live.inForce j load held current)
  unfold Hook.lastKey
  rw [List.getLast?_eq_getElem?, List.length_map, ← last, Nat.add_sub_cancel, List.getElem?_map,
    held, Option.map_some]

theorem complete_kept (s : Hook κ δ ε) (j : Nat) (outcome : Except ε δ) :
    s.complete j outcome = { s.settle j with
      state := (s.complete j outcome).state, source := (s.complete j outcome).source } := by
  unfold complete
  split <;> rfl

theorem Live.complete (live : s.Live) (j : Nat) (outcome : Except ε δ) :
    (s.complete j outcome).Live := by
  rw [complete_kept]
  exact ⟨(live.settle j).mounted, (live.settle j).last, (live.settle j).inForce⟩

/-- The outcome of a superseded load changes nothing that the hook returns. -/
theorem Superseded.complete {j : Nat} (old : s.Superseded j) (live : s.Live)
    (outcome : Except ε δ) : s.complete j outcome = s.settle j := by
  unfold Hook.complete
  split
  · rename_i held
    exact absurd (live.inForce j _ held rfl) old.2
  · rfl

end Parts

section Flush
variable [DecidableEq κ]

/-- What running the effects comes to. -/
inductive Flushes (s : Hook κ δ ε) : Hook κ δ ε → Prop
  | same : Flushes s s
  | ended : Flushes s { s.cleanup with flushed := s.rendered }
  | started {attempt : Nat} {deps : κ} : s.rendered = some ⟨true, attempt, deps⟩ →
    Flushes s { s.cleanup with
      flushed := s.rendered
      loads := s.cleanup.loads ++ [⟨deps, false, true⟩]
      effect := some s.cleanup.loads.length }

theorem flush_cases (s : Hook κ δ ε) : Flushes s s.flush := by
  have rendered : s.cleanup.rendered = s.rendered := by rw [cleanup_kept]
  unfold flush
  split
  · exact .same
  · unfold runEffect
    split
    · rename_i attempt deps now
      exact .started (rendered.symm.trans now)
    · exact .ended

theorem flush_kept (s : Hook κ δ ε) :
    s.flush = { s with
      loads := s.flush.loads, effect := s.flush.effect, flushed := s.flush.flushed } := by
  have moved := s.flush_cases
  generalize s.flush = s' at moved ⊢
  cases moved with
  | same => rfl
  | ended | started => rw [cleanup_kept]

@[simp] theorem flush_mounted (s : Hook κ δ ε) : s.flush.mounted = s.mounted := by
  rw [flush_kept]

@[simp] theorem flush_state (s : Hook κ δ ε) : s.flush.state = s.state := by
  rw [flush_kept]

@[simp] theorem flush_source (s : Hook κ δ ε) : s.flush.source = s.source := by
  rw [flush_kept]

theorem Live.flush {s : Hook κ δ ε} (live : s.Live) (mounted : s.mounted = true) :
    s.flush.Live := by
  have moved := s.flush_cases
  generalize s.flush = s' at moved
  cases moved with
  | same => exact live
  | ended => exact ⟨live.cleanup.mounted, live.cleanup.last, live.cleanup.inForce⟩
  | started rendered =>
    refine ⟨fun _ _ => ?_, fun j force => ?_, fun j load held current => ?_⟩
    · rw [cleanup_kept]
      exact mounted
    · rw [← Option.some.inj force, List.length_append, List.length_singleton]
    · have bound := (List.getElem?_eq_some_iff.mp held).1
      rw [List.length_append, List.length_singleton] at bound
      rcases Nat.lt_succ_iff_lt_or_eq.mp bound with before | rfl
      · rw [List.getElem?_append_left before] at held
        rw [cleanup_cancelled live j load held] at current
        cases current
      · rfl

theorem Superseded.flush {s : Hook κ δ ε} {j : Nat} (old : s.Superseded j) :
    s.flush.Superseded j := by
  have held : j < s.cleanup.loads.length := by
    rw [cleanup_length]
    exact old.1
  have moved := s.flush_cases
  generalize s.flush = s' at moved
  cases moved with
  | same => exact old
  | ended => exact ⟨held, s.cleanup_effect_ne j⟩
  | started =>
    refine ⟨?_, fun force => Nat.ne_of_gt held (Option.some.inj force)⟩
    rw [List.length_append]
    exact Nat.lt_add_right 1 held

/-- What a step comes to. An unmounted hook only hears of its loads. -/
inductive Moves (s : Hook κ δ ε) : HookInput κ δ ε → Hook κ δ ε → Prop
  | gone {i : HookInput κ δ ε} : s.mounted = false → Moves s i s
  | rendered (enabled : Bool) (deps : κ) : s.mounted = true →
    Moves s (.render enabled deps) (s.render enabled deps)
  | flushed : s.mounted = true → Moves s .flush s.flush
  | reloaded : Moves s .reload s.reload
  | unmounted : s.mounted = true → Moves s .unmount s.unmount
  | completed (j : Nat) (outcome : Except ε δ) :
      Moves s (.complete j outcome) (s.complete j outcome)

theorem step_cases (s : Hook κ δ ε) (i : HookInput κ δ ε) : Moves s i (s.step i) := by
  unfold step
  cases mounted : s.mounted with
  | false =>
    cases i with
    | complete j outcome => exact .completed j outcome
    | _ => exact .gone mounted
  | true =>
    cases i with
    | render enabled deps => exact .rendered enabled deps mounted
    | flush => exact .flushed mounted
    | reload => exact .reloaded
    | unmount => exact .unmounted mounted
    | complete j outcome => exact .completed j outcome

theorem Superseded.step {s : Hook κ δ ε} {j : Nat} (old : s.Superseded j)
    (i : HookInput κ δ ε) : (s.step i).Superseded j := by
  have moved := s.step_cases i
  generalize s.step i = s' at moved ⊢
  cases moved with
  | gone => exact old
  | rendered => exact ⟨old.flush.1, old.flush.2⟩
  | flushed => exact old.flush
  | reloaded => exact ⟨old.1, old.2⟩
  | unmounted => exact ⟨lt_of_lt_of_eq old.flush.1 (cleanup_length _).symm, cleanup_effect_ne _ j⟩
  | completed k outcome =>
    rw [complete_kept]
    exact ⟨lt_of_lt_of_eq old.1 (List.length_modify _ _ _).symm, old.2⟩

theorem Live.step {s : Hook κ δ ε} (live : s.Live) (i : HookInput κ δ ε) : (s.step i).Live := by
  have moved := s.step_cases i
  generalize s.step i = s' at moved ⊢
  cases moved with
  | gone => exact live
  | rendered _ _ mounted =>
    have flushed := live.flush mounted
    exact ⟨flushed.mounted, flushed.last, flushed.inForce⟩
  | flushed mounted => exact live.flush mounted
  | reloaded => exact ⟨live.mounted, live.last, live.inForce⟩
  | unmounted mounted =>
    have ended := (live.flush mounted).cleanup
    exact ⟨fun j force => absurd force (cleanup_effect_ne _ j), ended.last, ended.inForce⟩
  | completed j outcome => exact live.complete j outcome

omit [DecidableEq κ] in
/-- The data come from the load for `source`. -/
theorem complete_ready {s : Hook κ δ ε} {j : Nat} {outcome : Except ε δ} {data : δ}
    (ready : (s.complete j outcome).state = .ready data) :
    s.state = .ready data ∧ (s.complete j outcome).source = s.source ∨
      outcome = .ok data ∧ ∃ key, s.loads[j]? = some ⟨key, false, true⟩ ∧
        (s.complete j outcome).source = some key := by
  unfold Hook.complete at ready ⊢
  split at ready
  · rename_i key held
    simp only [held]
    cases outcome with
    | ok value =>
      cases ready
      exact .inr ⟨rfl, key, rfl, rfl⟩
    | error thrown => cases ready
  · exact .inl ⟨ready, rfl⟩

omit [DecidableEq κ] in
theorem live_initial : (initial : Hook κ δ ε).Live where
  mounted := fun _ _ => rfl
  last := fun _ force => by cases force
  inForce := fun _ _ held => by cases held

theorem run_live (is : List (HookInput κ δ ε)) : (run step initial is).Live :=
  run_invariant (fun _ i live => live.step i) live_initial is

/-- Whatever a load for a key comes back with is `Good` for that key, and so are the data. -/
def Sourced (Good : κ → δ → Prop) (s : Hook κ δ ε) : Prop :=
  ∀ data, s.state = .ready data → ∃ key, s.source = some key ∧ Good key data

theorem Sourced.step {Good : κ → δ → Prop} {s : Hook κ δ ε} (h : s.Sourced Good)
    (i : HookInput κ δ ε) (given : ∀ j data key, i = .complete j (.ok data) →
      s.loads[j]? = some ⟨key, false, true⟩ → Good key data) : (s.step i).Sourced Good := by
  intro data ready
  have moved := s.step_cases i
  generalize s.step i = s' at moved ready ⊢
  cases moved with
  | gone => exact h data ready
  | rendered | flushed =>
    obtain ⟨key, source, good⟩ := h data (s.flush_state.symm.trans ready)
    exact ⟨key, s.flush_source.trans source, good⟩
  | reloaded => cases ready
  | unmounted =>
    have before : s.flush.cleanup.state = .ready data := ready
    rw [cleanup_state, flush_state] at before
    obtain ⟨key, source, good⟩ := h data before
    exact ⟨key, (s.flush.cleanup_source.trans s.flush_source).trans source, good⟩
  | completed j outcome =>
    rcases complete_ready ready with ⟨before, same⟩ | ⟨rfl, key, held, source⟩
    · rw [same]
      exact h data before
    · exact ⟨key, source, given j data key rfl held⟩

/-- The data are of the key of the last render, and of the last load that was started. -/
structure Consistent (s : Hook κ δ ε) : Prop where
  live : s.Live
  belongs : s.Belongs
  fresh : s.state ≠ .loading → s.source = s.lastKey

omit [DecidableEq κ] in
theorem Consistent.cleanup {s : Hook κ δ ε} (h : s.Consistent) : s.cleanup.Consistent where
  live := h.live.cleanup
  belongs := by
    rw [cleanup_kept]
    exact h.belongs
  fresh := by
    rw [cleanup_lastKey, cleanup_kept]
    exact h.fresh

theorem Consistent.flush {s : Hook κ δ ε} (h : s.Consistent) (mounted : s.mounted = true) :
    s.flush.Consistent where
  live := h.live.flush mounted
  belongs := by
    rw [flush_kept]
    exact h.belongs
  fresh := by
    intro settled
    have moved := s.flush_cases
    generalize s.flush = s' at moved settled ⊢
    cases moved with
    | same => exact h.fresh settled
    | ended => exact h.cleanup.fresh settled
    | started rendered =>
      have started := h.belongs mounted _ _ rendered
      unfold lastKey
      rw [List.map_append, List.map_singleton, List.getLast?_concat]
      rw [cleanup_kept] at settled ⊢
      exact started settled

theorem belongs_render {s : Hook κ δ ε} (h : s.Consistent) (mounted : s.mounted = true)
    (enabled : Bool) (deps : κ) :
    (s.render enabled deps).Belongs ↔
      (enabled = true → s.state ≠ .loading → s.lastKey = some deps) := by
  constructor
  · rintro belongs rfl settled
    rw [← h.fresh settled, ← s.flush_source]
    exact belongs (s.flush_mounted.trans mounted) s.attempt deps rfl
      (by rwa [← s.flush_state] at settled)
  · intro timely _ attempt key rendered settled
    cases rendered
    change s.flush.state ≠ .loading at settled
    rw [flush_state] at settled
    calc s.flush.source = s.source := s.flush_source
      _ = s.lastKey := h.fresh settled
      _ = some deps := timely rfl settled

omit [DecidableEq κ] in
theorem belongs_complete {s : Hook κ δ ε} (h : s.Consistent) (j : Nat) (outcome : Except ε δ) :
    (s.complete j outcome).Belongs ↔
      ∀ key, s.loads[j]? = some ⟨key, false, true⟩ →
        ∀ attempt deps, s.rendered = some ⟨true, attempt, deps⟩ → key = deps := by
  unfold complete
  split
  · rename_i key held
    constructor
    · intro belongs key' held' attempt deps rendered
      cases held.symm.trans held'
      have mounted := h.live.mounted j (h.live.inForce j _ held rfl)
      exact Option.some.inj (belongs mounted attempt deps rendered (ofOutcome_ne_loading outcome))
    · intro timely _ attempt deps rendered _
      exact congrArg some (timely key held attempt deps rendered)
  · rename_i past
    exact iff_of_true h.belongs fun key held => absurd held (past key)

omit [DecidableEq κ] in
/-- An unmounted hook has no load left that may commit. -/
theorem timely_of_unmounted {s : Hook κ δ ε} (live : s.Live) (absent : s.mounted = false)
    (i : HookInput κ δ ε) : s.Timely i := by
  have gone : ¬ s.mounted = true := by
    rw [absent]
    exact Bool.noConfusion
  cases i with
  | render => exact fun mounted => absurd mounted gone
  | complete j =>
    intro key held
    exact absurd (live.mounted j (live.inForce j _ held rfl)) gone
  | _ => trivial

theorem belongs_step (s : Hook κ δ ε) (i : HookInput κ δ ε) (h : s.Consistent) :
    (s.step i).Belongs ↔ s.Timely i := by
  have moved := s.step_cases i
  generalize s.step i = s' at moved ⊢
  cases moved with
  | gone absent => exact iff_of_true h.belongs (timely_of_unmounted h.live absent i)
  | rendered enabled deps mounted =>
    rw [belongs_render h mounted]
    exact ⟨fun timely _ => timely, fun timely => timely mounted⟩
  | flushed mounted => exact iff_of_true (h.flush mounted).belongs trivial
  | reloaded => exact iff_of_true (fun _ _ _ _ settled => absurd rfl settled) trivial
  | unmounted => exact iff_of_true (fun mounted => by cases mounted) trivial
  | completed j outcome => exact belongs_complete h j outcome

theorem fresh_step {s : Hook κ δ ε} (h : s.Consistent) (i : HookInput κ δ ε) :
    (s.step i).state ≠ .loading → (s.step i).source = (s.step i).lastKey := by
  have moved := s.step_cases i
  generalize s.step i = s' at moved ⊢
  cases moved with
  | gone => exact h.fresh
  | rendered _ _ mounted | flushed mounted => exact (h.flush mounted).fresh
  | reloaded => exact fun settled => absurd rfl settled
  | unmounted mounted => exact (h.flush mounted).cleanup.fresh
  | completed j outcome =>
    unfold complete
    split
    · rename_i key held
      exact fun _ => ((s.settle_lastKey j).trans (h.live.lastKey held rfl)).symm
    · exact fun settled => (h.fresh settled).trans (s.settle_lastKey j).symm

theorem consistent_step (s : Hook κ δ ε) (i : HookInput κ δ ε) (h : s.Consistent)
    (timely : s.Timely i) : (s.step i).Consistent :=
  ⟨h.live.step i, (belongs_step s i h).mpr timely, fresh_step h i⟩

end Flush

theorem consistent_initial : (initial : Hook κ δ ε).Consistent where
  live := live_initial
  belongs := fun _ _ _ rendered => by cases rendered
  fresh := fun settled => absurd rfl settled

theorem run_superseded [DecidableEq κ] {s : Hook κ δ ε} {j : Nat} (old : s.Superseded j)
    (is : List (HookInput κ δ ε)) : (run step s is).Superseded j := by
  have keep : ∀ (s : Hook κ δ ε) i, s.Superseded j → (s.step i).Superseded j :=
    fun _ i old => old.step i
  exact run_invariant keep old is

/-- Of a superseded load nothing is committed, and what the hook returns is of the key of that
render exactly when the keys change in time. -/
theorem async_data_belongs_iff [DecidableEq κ] (is : List (HookInput κ δ ε)) :
    ((∀ before j outcome after, is = before ++ .complete j outcome :: after →
        ∀ early, early <+: before → (run step initial early).Superseded j →
          run step initial (before ++ [.complete j outcome]) =
            (run step initial before).settle j) ∧
      ∀ before after, is = before ++ after → (run step initial before).Belongs) ↔
    Along step Timely initial is := by
  rw [← always_iff_along (fun _ h => h.belongs) belongs_step consistent_step consistent_initial]
  refine ⟨And.right, fun always => ⟨?_, always⟩⟩
  rintro before j outcome after - early ⟨middle, rfl⟩ old
  rw [run_concat]
  refine Superseded.complete ?_ (run_live _) outcome
  rw [run_append]
  exact run_superseded old middle

end Hook

/-- Another account is connected after the data of the first have come. -/
def switchAccount : List (HookInput String Nat Unit) :=
  [.render true "GAAZ", .flush, .complete 0 (.ok 7), .render true "GBBD", .flush]

/-- The data of the first account are returned for the second, whose load is under way. -/
theorem switchAccount_shows_first :
    (run Hook.step .initial switchAccount).state = .ready 7 ∧
      (run Hook.step .initial switchAccount).source = some "GAAZ" ∧
      (run Hook.step .initial switchAccount).rendered = some ⟨true, 0, "GBBD"⟩ ∧
      ¬ ∀ is : List (HookInput String Nat Unit), (run Hook.step .initial is).Belongs := by
  refine ⟨rfl, rfl, rfl, fun belongs => ?_⟩
  have first := belongs switchAccount rfl 0 "GBBD" rfl (by decide)
  exact absurd first (by decide)

end ShowUp.Client

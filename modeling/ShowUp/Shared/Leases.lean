import Mathlib.Logic.Function.Basic

/-!
# Leases

Entries that can be used up to some tick of a clock. Using an entry renews its lease when it
has become short; anybody may prolong a lease, also one that has run out. A lease is never cut
short, so that what a renewal has promised is kept whatever comes after it.
-/

namespace ShowUp

set_option autoImplicit false

universe u

/-- A lease is begun for `first` ticks after this one, and renewed for `extendTo` ticks once
fewer than `threshold` are left. Whether it is when just as many are left is open. -/
structure LeaseTerms where
  first : Nat
  threshold : Nat
  extendTo : Nat
  threshold_le : threshold ≤ extendTo
  renewed : Nat → Nat → Nat
  le_renewed : ∀ now until_, until_ ≤ renewed now until_
  renewed_le : ∀ now until_, renewed now until_ ≤ max until_ (now + extendTo)
  renewed_short : ∀ now until_, until_ - now < threshold → now + extendTo ≤ renewed now until_

structure Leases (κ : Type u) where
  now : Nat
  /-- the last tick at which the entry can be used -/
  ends : κ → Option Nat

namespace LeaseTerms

variable (terms : LeaseTerms)

/-- No renewal promises more than that. -/
def longest : Nat := max terms.first terms.extendTo

theorem promised_le_renewed {now until_ : Nat} (runs : now ≤ until_) :
    now + terms.threshold ≤ terms.renewed now until_ := by
  have ordered := terms.threshold_le
  have longer := terms.le_renewed now until_
  by_cases short : until_ - now < terms.threshold
  · have extended := terms.renewed_short now until_ short
    omega
  · omega

theorem renewed_le_longest {now until_ : Nat} (short : until_ ≤ now + terms.longest) :
    terms.renewed now until_ ≤ now + terms.longest := by
  have most := terms.renewed_le now until_
  unfold longest at *
  omega

end LeaseTerms

namespace Leases

variable {κ : Type u} (terms : LeaseTerms) (l : Leases κ) (k : κ)

def initial (now : Nat) : Leases κ := ⟨now, fun _ => none⟩

/-- The lease has run out. -/
def expired : Bool := (l.ends k).any (· < l.now)

def pass (ticks : Nat) : Leases κ := { l with now := l.now + ticks }

/-- Where the lease ends with which the entry is used: one that has run out begins anew. -/
def running : Nat := ((l.ends k).filter (l.now ≤ ·)).getD (l.now + terms.first)

section Moves
variable [DecidableEq κ]

def use : Leases κ :=
  { l with
    ends := Function.update l.ends k (some (terms.renewed l.now (l.running terms k))) }

def useAll (ks : List κ) : Leases κ := ks.foldl (fun l k => l.use terms k) l

/-- Somebody prolongs a lease. -/
def prolong (ticks : Nat) : Leases κ :=
  { l with ends := Function.update l.ends k ((l.ends k).map fun t => max t (l.now + ticks)) }

end Moves

/-- The clock has not gone back and no lease has been cut short. -/
structure Later (l l' : Leases κ) : Prop where
  now : l.now ≤ l'.now
  ends : ∀ k t, l.ends k = some t → ∃ t', l'.ends k = some t' ∧ t ≤ t'

/-- The entry can be used up to this tick. -/
structure Promised (tick : Nat) : Prop where
  ends : ∃ t, l.ends k = some t ∧ tick ≤ t

/-- The lease is no longer than a renewal would make it. -/
structure Short : Prop where
  ends : ∀ t, l.ends k = some t → t ≤ l.now + terms.longest

variable {terms l k}

theorem expired_eq_true : l.expired k = true ↔ ∃ t, l.ends k = some t ∧ t < l.now := by
  simp [expired, Option.any_eq_true]

theorem running_cases (terms : LeaseTerms) (l : Leases κ) (k : κ) :
    (l.ends k = some (l.running terms k) ∧ l.now ≤ l.running terms k) ∨
      (∀ t, l.ends k = some t → t < l.now) ∧ l.running terms k = l.now + terms.first := by
  unfold running
  cases ends : l.ends k with
  | none => exact .inr ⟨fun t found => (by cases found), rfl⟩
  | some t =>
    by_cases runs : l.now ≤ t
    · rw [Option.filter_some, if_pos (decide_eq_true runs)]
      exact .inl ⟨rfl, runs⟩
    · rw [Option.filter_some, if_neg (by simpa using runs)]
      refine .inr ⟨?_, rfl⟩
      rintro t' ⟨⟩
      exact Nat.lt_of_not_le runs

theorem now_le_running : l.now ≤ l.running terms k := by
  rcases running_cases terms l k with ⟨_, runs⟩ | ⟨_, anew⟩
  · exact runs
  · rw [anew]
    exact Nat.le_add_right _ _

theorem le_running {t : Nat} (ends : l.ends k = some t) : t ≤ l.running terms k := by
  rcases running_cases terms l k with ⟨same, _⟩ | ⟨lapsed, anew⟩
  · exact Nat.le_of_eq (Option.some.inj (ends.symm.trans same))
  · rw [anew]
    exact Nat.le_trans (Nat.le_of_lt (lapsed t ends)) (Nat.le_add_right _ _)

theorem Later.refl (l : Leases κ) : l.Later l :=
  ⟨Nat.le_refl _, fun _ t h => ⟨t, h, Nat.le_refl t⟩⟩

theorem Later.trans {a b c : Leases κ} (h₁ : a.Later b) (h₂ : b.Later c) : a.Later c := by
  refine ⟨Nat.le_trans h₁.now h₂.now, fun k t ends => ?_⟩
  obtain ⟨t₁, ends₁, le₁⟩ := h₁.ends k t ends
  obtain ⟨t₂, ends₂, le₂⟩ := h₂.ends k t₁ ends₁
  exact ⟨t₂, ends₂, Nat.le_trans le₁ le₂⟩

theorem later_pass (l : Leases κ) (ticks : Nat) : l.Later (l.pass ticks) :=
  ⟨Nat.le_add_right _ _, fun _ t ends => ⟨t, ends, Nat.le_refl t⟩⟩

theorem Promised.later {l' : Leases κ} {tick : Nat} (h : l.Promised k tick) (later : l.Later l') :
    l'.Promised k tick := by
  obtain ⟨t, ends, le⟩ := h.ends
  obtain ⟨t', ends', le'⟩ := later.ends k t ends
  exact ⟨t', ends', Nat.le_trans le le'⟩

theorem Promised.sooner {tick tick' : Nat} (h : l.Promised k tick) (sooner : tick' ≤ tick) :
    l.Promised k tick' := by
  obtain ⟨t, ends, le⟩ := h.ends
  exact ⟨t, ends, Nat.le_trans sooner le⟩

theorem Short.pass (h : l.Short terms k) (ticks : Nat) : (l.pass ticks).Short terms k := by
  refine ⟨fun t ends => ?_⟩
  have le := h.ends t ends
  change t ≤ l.now + ticks + terms.longest
  omega

section Moves
variable [DecidableEq κ]

theorem later_update (k : κ) {new : Option Nat}
    (longer : ∀ t, l.ends k = some t → ∃ t', new = some t' ∧ t ≤ t') :
    l.Later { l with ends := Function.update l.ends k new } := by
  refine ⟨Nat.le_refl _, fun j t ends => ?_⟩
  by_cases same : j = k
  · subst same
    obtain ⟨t', now, le⟩ := longer t ends
    exact ⟨t', (Function.update_self ..).trans now, le⟩
  · exact ⟨t, (Function.update_of_ne same ..).trans ends, Nat.le_refl t⟩

theorem later_use (terms : LeaseTerms) (l : Leases κ) (k : κ) : l.Later (l.use terms k) := by
  apply later_update
  intro t ends
  exact ⟨_, rfl, Nat.le_trans (le_running ends) (terms.le_renewed ..)⟩

theorem later_useAll (terms : LeaseTerms) (l : Leases κ) (ks : List κ) :
    l.Later (l.useAll terms ks) := by
  induction ks generalizing l with
  | nil => exact .refl l
  | cons k ks ih => exact (later_use terms l k).trans (ih (l.use terms k))

theorem later_prolong (l : Leases κ) (k : κ) (ticks : Nat) : l.Later (l.prolong k ticks) := by
  apply later_update
  intro t ends
  exact ⟨_, congrArg (Option.map _) ends, Nat.le_max_left ..⟩

theorem promised_use : (l.use terms k).Promised k (l.now + terms.threshold) :=
  ⟨_, Function.update_self .., terms.promised_le_renewed now_le_running⟩

/-- Everything that is used in one go is promised as much. -/
theorem promised_useAll {ks : List κ} (among : k ∈ ks) :
    (l.useAll terms ks).Promised k (l.now + terms.threshold) := by
  induction ks generalizing l with
  | nil => cases among
  | cons j ks ih =>
    rcases List.mem_cons.mp among with rfl | rest
    · exact promised_use.later (later_useAll terms _ ks)
    · exact @ih (l.use terms j) rest

theorem useAll_other {ks : List κ} (other : k ∉ ks) : (l.useAll terms ks).ends k = l.ends k := by
  induction ks generalizing l with
  | nil => rfl
  | cons j ks ih =>
    have apart : k ≠ j := fun same => other (same ▸ List.mem_cons_self)
    exact (ih fun member => other (List.mem_cons_of_mem j member)).trans
      (Function.update_of_ne apart ..)

theorem prolong_other {j : κ} (other : k ≠ j) (ticks : Nat) :
    (l.prolong j ticks).ends k = l.ends k := Function.update_of_ne other ..

theorem Short.use (h : l.Short terms k) (j : κ) : (l.use terms j).Short terms k := by
  refine ⟨fun t ends => ?_⟩
  by_cases same : k = j
  · subst same
    cases (Function.update_self ..).symm.trans ends
    apply terms.renewed_le_longest
    rcases running_cases terms l k with ⟨ended, _⟩ | ⟨_, anew⟩
    · exact h.ends _ ended
    · rw [anew]
      exact Nat.add_le_add_left (Nat.le_max_left ..) _
  · exact h.ends t ((Function.update_of_ne same ..).symm.trans ends)

theorem Short.useAll (h : l.Short terms k) (ks : List κ) : (l.useAll terms ks).Short terms k := by
  induction ks generalizing l with
  | nil => exact h
  | cons j ks ih => exact ih (h.use j)

theorem Short.prolong (h : l.Short terms k) {j : κ} (other : k ≠ j) (ticks : Nat) :
    (l.prolong j ticks).Short terms k :=
  ⟨fun t ends => h.ends t ((prolong_other other ticks).symm.trans ends)⟩

end Moves

end Leases

end ShowUp

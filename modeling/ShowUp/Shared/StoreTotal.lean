import Mathlib.Data.Finmap
import Mathlib.Algebra.BigOperators.Group.Finset.Basic
import Mathlib.Algebra.BigOperators.Group.Finset.Piecewise
import Mathlib.Algebra.Order.BigOperators.Group.Finset

/-!
# Totals over a keyed store

A keyed store is a finite map. `total w s` adds up a weight over its bindings;
writing one binding moves the total by the new weight against the one it
replaces, whichever key is written and whether or not the key was present.
-/

namespace ShowUp.StoreTotal

set_option autoImplicit false

universe u v w
variable {κ : Type u} {ν : Type v} {M : Type w} [DecidableEq κ]

abbrev Store (κ : Type u) (ν : Type v) := Finmap fun _ : κ => ν

/-- What one key contributes: nothing when it is absent. -/
def weightAt [AddCommMonoid M] (weight : κ → ν → M) (s : Store κ ν) (k : κ) : M :=
  (s.lookup k).elim 0 (weight k)

def total [AddCommMonoid M] (weight : κ → ν → M) (s : Store κ ν) : M :=
  ∑ k ∈ s.keys, weightAt weight s k

theorem keys_insert (k : κ) (v : ν) (s : Store κ ν) :
    (s.insert k v).keys = Insert.insert k s.keys := by
  ext a
  simp [Finmap.mem_keys]

theorem insert_lookup_self {s : Store κ ν} {k : κ} {v : ν} (h : s.lookup k = some v) :
    s.insert k v = s := by
  apply Finmap.ext_lookup
  intro a
  by_cases ha : a = k
  · subst a
    rw [Finmap.lookup_insert, h]
  · exact Finmap.lookup_insert_of_ne s ha

theorem lookup_insert_eq (s : Store κ ν) (k a : κ) (v : ν) :
    (s.insert k v).lookup a = if a = k then some v else s.lookup a := by
  split
  · subst k
    exact Finmap.lookup_insert s
  · exact Finmap.lookup_insert_of_ne s (by assumption)

section Total
variable [AddCommMonoid M] (weight : κ → ν → M)

@[simp] theorem total_empty : total weight (∅ : Store κ ν) = 0 := by
  simp [total]

theorem weightAt_of_lookup {s : Store κ ν} {k : κ} {v : ν} (h : s.lookup k = some v) :
    weightAt weight s k = weight k v := by
  simp [weightAt, h]

theorem weightAt_of_fresh {s : Store κ ν} {k : κ} (h : s.lookup k = none) :
    weightAt weight s k = 0 := by
  simp [weightAt, h]

theorem total_eq_add_erase (s : Store κ ν) (k : κ) :
    total weight s = weightAt weight s k + ∑ a ∈ s.keys.erase k, weightAt weight s a := by
  by_cases hk : k ∈ s.keys
  · exact (Finset.add_sum_erase s.keys (weightAt weight s) hk).symm
  · have h0 : weightAt weight s k = 0 :=
      weightAt_of_fresh weight (Finmap.lookup_eq_none.mpr fun h => hk (Finmap.mem_keys.mpr h))
    rw [Finset.erase_eq_of_notMem hk, h0, zero_add, total]

theorem total_insert (s : Store κ ν) (k : κ) (v : ν) :
    total weight (s.insert k v) + weightAt weight s k = total weight s + weight k v := by
  have hrest : ∑ a ∈ (s.insert k v).keys.erase k, weightAt weight (s.insert k v) a =
      ∑ a ∈ s.keys.erase k, weightAt weight s a := by
    rw [keys_insert, Finset.erase_insert_eq_erase]
    apply Finset.sum_congr rfl
    intro a ha
    have hne : a ≠ k := Finset.ne_of_mem_erase ha
    simp only [weightAt, Finmap.lookup_insert_of_ne s hne]
  rw [total_eq_add_erase weight (s.insert k v) k, total_eq_add_erase weight s k, hrest,
    weightAt_of_lookup weight (Finmap.lookup_insert s)]
  ac_rfl

theorem total_insert_fresh {s : Store κ ν} {k : κ} (h : s.lookup k = none) (v : ν) :
    total weight (s.insert k v) = total weight s + weight k v := by
  simpa [weightAt_of_fresh weight h] using total_insert weight s k v

theorem total_insert_of_lookup {s : Store κ ν} {k : κ} {u : ν} (h : s.lookup k = some u) (v : ν) :
    total weight (s.insert k v) + weight k u = total weight s + weight k v := by
  simpa [weightAt_of_lookup weight h] using total_insert weight s k v

end Total

/-- With nonnegative weights no single binding outweighs the whole. -/
theorem weight_le_total [AddCommMonoid M] [PartialOrder M] [IsOrderedAddMonoid M]
    (weight : κ → ν → M) {s : Store κ ν}
    (nonneg : ∀ k v, s.lookup k = some v → 0 ≤ weight k v) {k : κ} {v : ν}
    (h : s.lookup k = some v) : weight k v ≤ total weight s := by
  rw [← weightAt_of_lookup weight h]
  apply Finset.single_le_sum (f := weightAt weight s)
  · intro a _
    cases ha : s.lookup a with
    | none => simp [weightAt, ha]
    | some u => simpa [weightAt, ha] using nonneg a u ha
  · exact Finmap.mem_keys.mpr (Finmap.mem_of_lookup_eq_some h)

section Count
variable (p : κ → ν → Bool)

def count (s : Store κ ν) : Nat := (s.keys.filter fun k => (s.lookup k).any (p k)).card

theorem count_eq_total (s : Store κ ν) : count p s = total (fun k v => (p k v).toNat) s := by
  rw [count, Finset.card_filter, total]
  apply Finset.sum_congr rfl
  intro k _
  unfold weightAt
  cases s.lookup k with
  | none => rfl
  | some v => cases h : p k v <;> simp [h]

theorem count_insert_fresh {s : Store κ ν} {k : κ} (h : s.lookup k = none) (v : ν) :
    count p (s.insert k v) = count p s + (p k v).toNat := by
  simpa only [count_eq_total] using total_insert_fresh (fun k v => (p k v).toNat) h v

theorem count_insert_of_lookup {s : Store κ ν} {k : κ} {u : ν} (h : s.lookup k = some u) (v : ν) :
    count p (s.insert k v) + (p k u).toNat = count p s + (p k v).toNat := by
  simpa only [count_eq_total] using total_insert_of_lookup (fun k v => (p k v).toNat) h v

theorem count_pos {s : Store κ ν} {k : κ} {v : ν} (h : s.lookup k = some v) (hp : p k v) :
    0 < count p s := by
  apply Finset.card_pos.mpr
  exact ⟨k, Finset.mem_filter.mpr ⟨Finmap.mem_keys.mpr (Finmap.mem_of_lookup_eq_some h),
    by simp [h, hp]⟩⟩

theorem count_eq_zero {s : Store κ ν} (h : ∀ k v, s.lookup k = some v → p k v = false) :
    count p s = 0 := by
  apply Finset.card_eq_zero.mpr
  apply Finset.filter_eq_empty_iff.mpr
  intro k _
  cases hk : s.lookup k with
  | none => simp
  | some v => simp [h k v hk]

end Count

end ShowUp.StoreTotal

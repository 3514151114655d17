import Mathlib.Algebra.Order.Ring.Int

/-!
# Checked machine arithmetic

Rust's `checked_*` operations on the widths used on chain. Each succeeds exactly
when the mathematical result fits, and is then that result; nothing wraps.
-/

namespace ShowUp

set_option autoImplicit false

structure I128 where
  val : Int
  lower : -2 ^ 127 ≤ val
  upper : val < 2 ^ 127
  deriving DecidableEq

namespace I128

@[ext] theorem ext {a b : I128} (h : a.val = b.val) : a = b := by
  cases a
  cases b
  simp_all

/-- The `i128` with this value, if there is one. -/
def ofInt? (x : Int) : Option I128 :=
  if h : -2 ^ 127 ≤ x ∧ x < 2 ^ 127 then some ⟨x, h.1, h.2⟩ else none

theorem ofInt?_eq_some {x : Int} {a : I128} : ofInt? x = some a ↔ a.val = x := by
  unfold ofInt?
  constructor
  · intro h
    split at h
    · cases h
      rfl
    · cases h
  · intro h
    subst h
    rw [dif_pos ⟨a.lower, a.upper⟩]

/-- `i128::from(u32)`. -/
def ofU32 (n : UInt32) : I128 :=
  ⟨n.toNat, by omega, by have := n.toNat_lt; omega⟩

def checkedMul (a b : I128) : Option I128 := ofInt? (a.val * b.val)

/-- Rust divides towards zero. -/
def checkedDiv (a b : I128) : Option I128 :=
  if b.val = 0 then none else ofInt? (a.val.tdiv b.val)

def checkedSub (a b : I128) : Option I128 := ofInt? (a.val - b.val)

def lit (n : Nat) (h : n < 2 ^ 127 := by decide) : I128 := ⟨n, by omega, by omega⟩

end I128

namespace U32

def checkedAdd (a b : UInt32) : Option UInt32 :=
  if a.toNat + b.toNat < 2 ^ 32 then some (a + b) else none

def checkedSub (a b : UInt32) : Option UInt32 :=
  if b.toNat ≤ a.toNat then some (a - b) else none

theorem checkedAdd_eq_some {a b c : UInt32} :
    checkedAdd a b = some c ↔ c.toNat = a.toNat + b.toNat := by
  unfold checkedAdd
  have hc := c.toNat_lt
  split
  · rw [Option.some.injEq, ← UInt32.toNat_inj, UInt32.toNat_add]
    omega
  · simp only [reduceCtorEq, false_iff]
    omega

theorem checkedAdd_eq_none {a b : UInt32} :
    checkedAdd a b = none ↔ 2 ^ 32 ≤ a.toNat + b.toNat := by
  unfold checkedAdd
  split <;> simp <;> omega

theorem checkedSub_eq_some {a b c : UInt32} :
    checkedSub a b = some c ↔ a.toNat = c.toNat + b.toNat := by
  unfold checkedSub
  split
  · rename_i h
    rw [Option.some.injEq, ← UInt32.toNat_inj,
      UInt32.toNat_sub_of_le a b (UInt32.le_iff_toNat_le.mpr h)]
    omega
  · simp only [reduceCtorEq, false_iff]
    omega

theorem checkedSub_eq_none {a b : UInt32} :
    checkedSub a b = none ↔ a.toNat < b.toNat := by
  unfold checkedSub
  split <;> simp <;> omega

/-- The `u32` with this value, if there is one. -/
def ofInt? (x : Int) : Option UInt32 :=
  if 0 ≤ x ∧ x < 2 ^ 32 then some x.toNat.toUInt32 else none

theorem ofInt?_eq_some {x : Int} {a : UInt32} : ofInt? x = some a ↔ (a.toNat : Int) = x := by
  unfold ofInt?
  have ha := a.toNat_lt
  split
  · rw [Option.some.injEq, ← UInt32.toNat_inj, Nat.toUInt32, UInt32.toNat_ofNat']
    omega
  · simp only [reduceCtorEq, false_iff]
    omega

theorem exists_toNat {x : Int} (nonneg : 0 ≤ x) (lt : x < 2 ^ 32) :
    ∃ a : UInt32, (a.toNat : Int) = x := by
  obtain ⟨a, h⟩ : ∃ a, ofInt? x = some a := ⟨_, if_pos ⟨nonneg, lt⟩⟩
  exact ⟨a, ofInt?_eq_some.mp h⟩

end U32

namespace U64

def checkedAdd (a b : UInt64) : Option UInt64 :=
  if a.toNat + b.toNat < 2 ^ 64 then some (a + b) else none

theorem checkedAdd_eq_some {a b c : UInt64} :
    checkedAdd a b = some c ↔ c.toNat = a.toNat + b.toNat := by
  unfold checkedAdd
  have hc := c.toNat_lt
  split
  · rw [Option.some.injEq, ← UInt64.toNat_inj, UInt64.toNat_add]
    omega
  · simp only [reduceCtorEq, false_iff]
    omega

/-- The `u64` with this value, if there is one. -/
def ofInt? (x : Int) : Option UInt64 :=
  if 0 ≤ x ∧ x < 2 ^ 64 then some x.toNat.toUInt64 else none

theorem ofInt?_eq_some {x : Int} {a : UInt64} : ofInt? x = some a ↔ (a.toNat : Int) = x := by
  unfold ofInt?
  have ha := a.toNat_lt
  split
  · rw [Option.some.injEq, ← UInt64.toNat_inj, Nat.toUInt64, UInt64.toNat_ofNat']
    omega
  · simp only [reduceCtorEq, false_iff]
    omega

theorem exists_toNat {x : Int} (nonneg : 0 ≤ x) (lt : x < 2 ^ 64) :
    ∃ a : UInt64, (a.toNat : Int) = x := by
  obtain ⟨a, h⟩ : ∃ a, ofInt? x = some a := ⟨_, if_pos ⟨nonneg, lt⟩⟩
  exact ⟨a, ofInt?_eq_some.mp h⟩

end U64

end ShowUp

import ShowUp.Contract.WellFormed
import Mathlib.Tactic.Linarith

/-!
# Paying out

The no-show split in numbers, and what a sequence of payments does to the
contract's balance. Whatever the exit, its legs are nonnegative and add up to the
reservation's amount.
-/

namespace ShowUp

set_option autoImplicit false

theorem Event.Valid.bps_le {contract : Address} {e : Event} (v : e.Valid contract) :
    e.organizerBps.toNat ≤ 10000 := by
  have := v.bps
  omega

theorem splitByBps_values {e : Event} {amount o c : I128} (nonneg : 0 ≤ amount.val)
    (h : splitByBps e amount = some (o, c)) :
    o.val = amount.val * e.organizerBps.toNat / 10000 ∧ c.val = amount.val - o.val := by
  obtain ⟨product, mul, div, sub⟩ := splitByBps_eq_some.mp h
  have hmul : product.val = amount.val * e.organizerBps.toNat := I128.ofInt?_eq_some.mp mul
  have hdiv : o.val = product.val.tdiv 10000 := by
    have hne : ((tenThousand).val : Int) ≠ 0 := by decide
    rw [I128.checkedDiv, if_neg hne] at div
    exact I128.ofInt?_eq_some.mp div
  refine ⟨?_, I128.ofInt?_eq_some.mp sub⟩
  rw [hdiv, hmul, Int.tdiv_eq_ediv_of_nonneg (Int.mul_nonneg nonneg (Int.natCast_nonneg _))]

theorem share_le {amount : Int} {bps : Nat} (nonneg : 0 ≤ amount) (le : bps ≤ 10000) :
    0 ≤ amount * bps / 10000 ∧ amount * bps / 10000 ≤ amount := by
  have hle : amount * bps ≤ amount * 10000 := Int.mul_le_mul_of_nonneg_left (by omega) nonneg
  have h0 : 0 ≤ amount * bps := Int.mul_nonneg nonneg (Int.natCast_nonneg _)
  omega

/-- The split exists exactly when its product fits; the later checks never fail. -/
theorem splitByBps_isSome_iff {e : Event} {amount : I128} (nonneg : 0 ≤ amount.val)
    (le : e.organizerBps.toNat ≤ 10000) :
    (splitByBps e amount).isSome ↔ amount.val * e.organizerBps.toNat < 2 ^ 127 := by
  have upper := amount.upper
  obtain ⟨share_nonneg, share_le⟩ := share_le nonneg le
  have product_nonneg : 0 ≤ amount.val * e.organizerBps.toNat :=
    Int.mul_nonneg nonneg (Int.natCast_nonneg _)
  constructor
  · intro h
    obtain ⟨⟨o, c⟩, h⟩ := Option.isSome_iff_exists.mp h
    obtain ⟨product, mul, -, -⟩ := splitByBps_eq_some.mp h
    have value : product.val = amount.val * e.organizerBps.toNat := I128.ofInt?_eq_some.mp mul
    rw [← value]
    exact product.upper
  · intro fits
    let product : I128 := ⟨amount.val * e.organizerBps.toNat, by omega, fits⟩
    let o : I128 := ⟨amount.val * e.organizerBps.toNat / 10000, by omega, by omega⟩
    let c : I128 := ⟨amount.val - o.val, by dsimp only [o]; omega, by dsimp only [o]; omega⟩
    have h : splitByBps e amount = some (o, c) := by
      refine splitByBps_eq_some.mpr ⟨product, I128.ofInt?_eq_some.mpr rfl, ?_,
        I128.ofInt?_eq_some.mpr rfl⟩
      have hne : ((tenThousand).val : Int) ≠ 0 := by decide
      rw [I128.checkedDiv, if_neg hne]
      exact I128.ofInt?_eq_some.mpr (Int.tdiv_eq_ediv_of_nonneg product_nonneg).symm
    simp [h]

/-- Amounts up to `i64::MAX` always fit. -/
theorem split_fits {amount : Int} {bps : Nat} (le_max : amount ≤ 2 ^ 63 - 1)
    (le : bps ≤ 10000) : amount * bps < 2 ^ 127 := by
  have h : amount * bps ≤ (2 ^ 63 - 1) * bps :=
    Int.mul_le_mul_of_nonneg_right le_max (Int.natCast_nonneg _)
  omega

def legsTotal (legs : List (Address × I128)) : Int := (legs.map fun leg => leg.2.val).sum

@[simp] theorem legsTotal_nil : legsTotal [] = 0 := rfl

@[simp] theorem legsTotal_cons (leg : Address × I128) (legs : List (Address × I128)) :
    legsTotal (leg :: legs) = leg.2.val + legsTotal legs := by
  simp [legsTotal]

theorem legsTotal_append (legs legs' : List (Address × I128)) :
    legsTotal (legs ++ legs') = legsTotal legs + legsTotal legs' := by
  simp [legsTotal]

theorem legsTotal_nonneg {legs : List (Address × I128)} (h : ∀ leg ∈ legs, 0 ≤ leg.2.val) :
    0 ≤ legsTotal legs := by
  induction legs with
  | nil => exact Int.le_refl 0
  | cons leg legs ih =>
    have := h leg List.mem_cons_self
    have := ih fun l hl => h l (List.mem_cons_of_mem leg hl)
    rw [legsTotal_cons]
    omega

section Terms
variable {contract pool : Address} {x : Exit} {e : Event} {key : ReservationKey} {amount : I128}
  {terms : Terms}

theorem Exit.terms_total (v : e.Valid contract) (nonneg : 0 ≤ amount.val)
    (agreed : x.terms pool e key amount = some terms) :
    legsTotal terms.legs = amount.val ∧ ∀ leg ∈ terms.legs, 0 ≤ leg.2.val := by
  cases x with
  | cancelReservation | checkIn | claimCancelledEventRefund =>
    cases agreed
    simp [nonneg]
  | settleNoShow =>
    obtain ⟨⟨o, c⟩, shares, ⟨⟩⟩ := Option.bind_eq_some_iff.mp agreed
    obtain ⟨ho, hc⟩ := splitByBps_values nonneg shares
    obtain ⟨share_nonneg, share_le⟩ := share_le nonneg v.bps_le
    constructor
    · simp only [legsTotal_cons, legsTotal_nil]
      omega
    · intro leg hleg
      simp only [List.mem_cons, List.not_mem_nil, or_false] at hleg
      rcases hleg with rfl | rfl <;> dsimp only <;> omega

/-- Nobody is paid at the contract's address unless the pool sits there. -/
theorem Exit.terms_foreign (v : e.Valid contract) (participant_ne : key.2 ≠ contract)
    (pool_ne : pool ≠ contract) (agreed : x.terms pool e key amount = some terms) :
    ∀ leg ∈ terms.legs, leg.1 ≠ contract := by
  cases x with
  | cancelReservation | checkIn | claimCancelledEventRefund =>
    cases agreed
    simp [participant_ne]
  | settleNoShow =>
    obtain ⟨⟨o, c⟩, shares, ⟨⟩⟩ := Option.bind_eq_some_iff.mp agreed
    simp [v.organizer_ne, pool_ne]

end Terms

/-- What the legs bring to one address. -/
def legsTo (a : Address) (legs : List (Address × I128)) : Int :=
  (legs.map fun leg => if leg.1 = a then leg.2.val else 0).sum

@[simp] theorem legsTo_nil (a : Address) : legsTo a [] = 0 := rfl

@[simp] theorem legsTo_cons (a : Address) (leg : Address × I128) (legs : List (Address × I128)) :
    legsTo a (leg :: legs) = (if leg.1 = a then leg.2.val else 0) + legsTo a legs := by
  simp [legsTo]

section Balance
variable {tok : Token} {contract : Address}

/-- Paying moves every balance by the legs and by nothing else. -/
theorem payAll_credits {t t' : tok.State} {legs : List (Address × I128)}
    (paid : payAll tok contract t legs = some t') (a : Address) :
    tok.balance t' a =
      tok.balance t a + legsTo a legs - (if a = contract then legsTotal legs else 0) := by
  induction legs generalizing t with
  | nil =>
    cases paid
    simp
  | cons leg legs ih =>
    obtain ⟨t₁, paid₁, rest⟩ := Option.bind_eq_some_iff.mp paid
    have moved := tok.transfer_balance paid₁ a
    have later := ih rest
    rw [legsTo_cons, legsTotal_cons]
    simp only [eq_comm (a := leg.1)]
    by_cases here : a = contract
    · rw [if_pos here] at moved later ⊢
      omega
    · rw [if_neg here] at moved later ⊢
      omega

/-- Paying never takes more than the legs from the contract, and takes exactly
that when none of them comes back. -/
theorem payAll_balance {t t' : tok.State} {legs : List (Address × I128)}
    (paid : payAll tok contract t legs = some t') :
    tok.balance t contract - legsTotal legs ≤ tok.balance t' contract ∧
      ((∀ leg ∈ legs, leg.1 ≠ contract) →
        tok.balance t' contract = tok.balance t contract - legsTotal legs) := by
  induction legs generalizing t with
  | nil =>
    cases paid
    simp
  | cons leg legs ih =>
    obtain ⟨t₁, paid₁, rest⟩ := Option.bind_eq_some_iff.mp paid
    have moved := tok.transfer_balance paid₁ contract
    have nonneg := tok.transfer_nonneg paid₁
    obtain ⟨ge, eq⟩ := ih rest
    rw [if_pos rfl] at moved
    rw [legsTotal_cons]
    constructor
    · split at moved <;> omega
    · intro foreign
      have hne : ¬ contract = leg.1 := fun h => foreign leg List.mem_cons_self h.symm
      rw [if_neg hne] at moved
      have := eq fun l hl => foreign l (List.mem_cons_of_mem leg hl)
      omega

theorem payAll_gain {t t' : tok.State} {legs : List (Address × I128)} {a : Address}
    (other : a ≠ contract) (paid : payAll tok contract t legs = some t') :
    tok.balance t a ≤ tok.balance t' a := by
  induction legs generalizing t with
  | nil =>
    cases paid
    exact Int.le_refl _
  | cons leg legs ih =>
    obtain ⟨t₁, paid₁, rest⟩ := Option.bind_eq_some_iff.mp paid
    have moved := tok.transfer_balance paid₁ a
    have nonneg := tok.transfer_nonneg paid₁
    have := ih rest
    rw [if_neg other] at moved
    split at moved <;> omega

end Balance

end ShowUp

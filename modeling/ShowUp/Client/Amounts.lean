import ShowUp.Shared.JsValue
import ShowUp.Contract.Split

/-!
# The split as the client computes it

`splitByBps` of `lib/domain/amounts.ts`, in integer arithmetic throughout. It is
to give the two legs of `settle_no_show` wherever the contract pays them.
-/

namespace ShowUp.Client

set_option autoImplicit false

open Host StoreTotal

/-- What a client function throws. -/
inductive Thrown where
  | typeError (message : String)
  | rangeError (message : String)
  deriving DecidableEq

/-- Total basis points. -/
def totalBps : Int := 10000

/-- `Number.isInteger(value)`. Outside the safe range the finite numbers from `2^53` on are
the integers, and exactly these are printed without a fraction and without a negative
exponent. -/
def isInteger : JsNumber → Bool
  | .safe .. => true
  | .other text _ => text.contains '+' || !(text.contains '.' || text.contains 'e')
  | .nonFinite => false

structure Split where
  organizer : Int
  community : Int
  deriving DecidableEq

def splitByBps (amount : JsValue) (organizerBps : JsNumber) : Except Thrown Split :=
  match amount with
  | .bigint amount =>
    if !isInteger organizerBps then .error (.rangeError "Basis points must be an integer.")
    else
      match organizerBps with
      | .safe bps _ _ =>
        if bps < 0 ∨ bps > totalBps then
          .error (.rangeError "Basis points must be between 0 and 10000.")
        else
          let organizer := (amount * bps).tdiv totalBps
          .ok ⟨organizer, amount - organizer⟩
      -- an integer, and larger in size than every safe one
      | _ => .error (.rangeError "Basis points must be between 0 and 10000.")
  | _ => .error (.typeError "Amount must be bigint.")

theorem splitByBps_ok {amount : Int} {bps : UInt32} (nonneg : 0 ≤ amount)
    (le : bps.toNat ≤ 10000) :
    splitByBps (.bigint amount) (.ofU32 bps) =
      .ok ⟨amount * bps.toNat / 10000, amount - amount * bps.toNat / 10000⟩ := by
  have inRange : ¬ ((bps.toNat : Int) < 0 ∨ (bps.toNat : Int) > totalBps) := by
    unfold totalBps
    omega
  have product : 0 ≤ amount * bps.toNat := Int.mul_nonneg nonneg (Int.natCast_nonneg _)
  simp only [splitByBps, JsNumber.ofU32, isInteger, Bool.not_true, Bool.false_eq_true, if_false,
    if_neg inRange]
  rw [totalBps, Int.tdiv_eq_ediv_of_nonneg product]

section Agreement
variable {tok : Token} {contract : Address} {env : Env contract} {l : Ledger tok.State}
  {id : UInt64} {p : Address} {r : Reservation} {e : Event}

theorem contract_split (pos : 0 < r.amount.val) (bps_le : e.organizerBps.toNat ≤ 10000)
    (fits : r.amount.val * e.organizerBps.toNat < 2 ^ 127) :
    ∃ o c, ShowUp.splitByBps e r.amount = some (o, c) ∧
      o.val = r.amount.val * e.organizerBps.toNat / 10000 ∧ c.val = r.amount.val - o.val := by
  have nonneg := Int.le_of_lt pos
  have split := (splitByBps_isSome_iff nonneg bps_le).mpr fits
  obtain ⟨⟨o, c⟩, split⟩ := Option.isSome_iff_exists.mp split
  exact ⟨o, c, split, splitByBps_values nonneg split⟩

/-- A settlement that is due pays the floor of the share and the remainder, as the client
computes them; where the product does not fit it overflows without a trace, and the bond can
still be recovered. -/
theorem settlement_split (due : Due env l id p r e) (pos : 0 < r.amount.val)
    (bps_le : e.organizerBps.toNat ≤ 10000) :
    (r.amount.val * e.organizerBps.toNat ≤ 2 ^ 127 - 1 → ∃ o c : I128,
      o.val = r.amount.val * e.organizerBps.toNat / 10000 ∧
      0 ≤ o.val ∧ o.val ≤ r.amount.val ∧ 0 ≤ c.val ∧ c.val ≤ r.amount.val ∧
      o.val + c.val = r.amount.val ∧
      splitByBps (.bigint r.amount.val) (.ofU32 e.organizerBps) = .ok ⟨o.val, c.val⟩ ∧
      Completes tok env (.settleNoShow id p) l ∧
      ∀ f, invoke tok env (.settleNoShow id p) l = .ok () f →
        f.effects.filterMap Effect.transfer? =
          [⟨l.config.token, contract, e.organizer, o⟩,
            ⟨l.config.token, contract, l.config.communityPool, c⟩]) ∧
    (¬ r.amount.val * e.organizerBps.toNat ≤ 2 ^ 127 - 1 →
      invoke tok env (.settleNoShow id p) l = .error (.error .overflow) ⟨l, []⟩ ∧
      ∀ d steps, l = (Chain.after d steps).ledger → tok.Liquid →
        ∀ envOrganizer envAnybody : Env contract, envOrganizer.authorizes e.organizer →
        let s' := Chain.after d (steps ++ [.call envOrganizer (.cancelEvent id)] ++
          [.call envAnybody (.claimCancelledEventRefund id p)])
        s'.ledger.reservations.lookup (id, p) = some { r with status := .refunded } ∧
          tok.balance s'.ledger.token p = tok.balance l.token p + r.amount.val) ∧
    (∀ (e' : Event) (amount' : I128) o c o' c', ShowUp.splitByBps e r.amount = some (o, c) →
      ShowUp.splitByBps e' amount' = some (o', c') → r.amount.val ≤ amount'.val →
      e.organizerBps ≤ e'.organizerBps → o.val ≤ o'.val) ∧
    (r.amount.val ≤ 2 ^ 63 - 1 → ∀ (env' : Env contract) f,
      invoke tok env' (.settleNoShow id p) l ≠ .error (.error .overflow) f) := by
  have nonneg := Int.le_of_lt pos
  refine ⟨?_, ?_, ?_, ?_⟩
  · intro fits
    obtain ⟨o, c, split, ho, hc⟩ := contract_split pos bps_le (by omega)
    obtain ⟨completes, paid⟩ := due.completes split
    obtain ⟨share_nonneg, share_le⟩ := share_le nonneg bps_le
    refine ⟨o, c, ho, by omega, by omega, by omega, by omega, by omega, ?_, completes, paid⟩
    rw [splitByBps_ok nonneg bps_le, hc, ho]
  · intro unfit
    constructor
    · apply due.overflows
      rw [← Option.not_isSome_iff_eq_none, splitByBps_isSome_iff nonneg bps_le]
      omega
    · intro d steps reached liquid envOrganizer envAnybody signed
      subst reached
      exact recovered_by_cancelling liquid d steps due.held due.locked due.found due.active
        signed envAnybody
  · intro e' amount' o c o' c' split split' le_amount le_bps
    obtain ⟨ho, _⟩ := splitByBps_values nonneg split
    obtain ⟨ho', _⟩ := splitByBps_values (Int.le_trans nonneg le_amount) split'
    rw [ho, ho']
    exact share_mono nonneg le_amount (UInt32.le_iff_toNat_le.mp le_bps)
  · intro small env' f h
    have fits := (splitByBps_isSome_iff nonneg bps_le).mpr (split_fits small bps_le)
    rw [settleNoShow_overflow due.held due.found h] at fits
    cases fits

theorem settlement_split_reserved :
    let l := (Chain.after Scenario.deployment Scenario.reserved).ledger
    (∃ o c : I128, o.val = 12 ∧ c.val = 38 ∧
      splitByBps (.bigint 50) (.ofU32 2500) = .ok ⟨o.val, c.val⟩) ∧
      Completes plainToken (Scenario.env 40) (.settleNoShow 1 Scenario.guest) l := by
  intro l
  have due : Due (Scenario.env 40) l 1 Scenario.guest
      ⟨1, Scenario.guest, Scenario.args.bondAmount, 2, .locked⟩
      { Scenario.args.toEvent 1 with reservedCount := 1 } :=
    ⟨by decide, rfl, by decide, rfl, by decide⟩
  obtain ⟨o, c, ho, _, _, _, _, sum, split, completes, _⟩ :=
    (settlement_split due (by decide) (by decide)).1 (by decide)
  have organizer : o.val = 12 := ho.trans (by decide)
  have whole : o.val + c.val = 50 := sum.trans (by decide)
  exact ⟨⟨o, c, organizer, by omega, split⟩, completes⟩

end Agreement

end ShowUp.Client

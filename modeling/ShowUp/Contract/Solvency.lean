import ShowUp.Contract.Failures
import ShowUp.Contract.Settlement

/-!
# Solvency

The contract holds at least what its locked reservations add up to, and exactly
that when nobody else's tokens are mixed in. A payment out of the contract can
therefore only fail for a reason of the token's own, never for want of balance.
-/

namespace ShowUp

set_option autoImplicit false

open Host StoreTotal

def lockedWeight (_ : ReservationKey) (r : Reservation) : Int :=
  if r.status = .locked then r.amount.val else 0

def Ledger.lockedTotal {σ : Type} (l : Ledger σ) : Int := total lockedWeight l.reservations

variable {tok : Token} {contract : Address} {env : Env contract} {l : Ledger tok.State}
  {f : Frame tok.State} {call : Call}

theorem Ledger.WellFormed.lockedWeight_nonneg (w : l.WellFormed contract) (k : ReservationKey)
    (r : Reservation) (held : l.reservations.lookup k = some r) : 0 ≤ lockedWeight k r := by
  have := w.amount_pos held
  unfold lockedWeight
  split <;> omega

theorem Ledger.WellFormed.amount_le_lockedTotal (w : l.WellFormed contract) {k : ReservationKey}
    {r : Reservation} (held : l.reservations.lookup k = some r) (locked : r.status = .locked) :
    r.amount.val ≤ l.lockedTotal := by
  have h := weight_le_total lockedWeight w.lockedWeight_nonneg held
  rwa [lockedWeight, if_pos locked] at h

theorem Exit.status_ne_locked (x : Exit) : x.status ≠ .locked := by cases x <;> decide

theorem lockedTotal_exit {k : ReservationKey} {r : Reservation}
    (held : l.reservations.lookup k = some r) (locked : r.status = .locked) (x : Exit) :
    total lockedWeight (l.reservations.insert k { r with status := x.status }) + r.amount.val =
      l.lockedTotal := by
  have h := total_insert_of_lookup lockedWeight held { r with status := x.status }
  simpa [lockedWeight, locked, x.status_ne_locked, Ledger.lockedTotal] using h

/-- Every rule moves the balance with the locked total, or leaves a surplus. -/
theorem Rule.balance (w : l.WellFormed contract) (rule : Rule tok env l call f) :
    tok.balance l.token contract - l.lockedTotal ≤
        tok.balance f.ledger.token contract - f.ledger.lockedTotal ∧
      (l.config.communityPool ≠ contract →
        tok.balance f.ledger.token contract - f.ledger.lockedTotal =
          tok.balance l.token contract - l.lockedTotal) := by
  cases rule with
  | createEvent signed valid next => exact ⟨Int.le_refl _, fun _ => rfl⟩
  | cancelEvent found signed active => exact ⟨Int.le_refl _, fun _ => rfl⟩
  | @reserve id p e n t signed found active early seat fresh counted signedTransfer paid =>
    have moved := tok.transfer_balance paid contract
    rw [if_neg (Env.ne_contract signed).symm, if_pos rfl] at moved
    have added := total_insert_fresh lockedWeight fresh
      ⟨id, p, e.bondAmount, env.timestamp, .locked⟩
    rw [lockedWeight, if_pos rfl] at added
    dsimp only at added
    simp only [Ledger.lockedTotal]
    omega
  | @exit _ x id p r e e' terms t named held locked found isOpen seat agreed paid =>
    obtain ⟨e₁, b⟩ := w.backed held
    have v := w.valid found
    have amount_pos := w.amount_pos held
    obtain ⟨sum, nonneg⟩ := Exit.terms_total v (Int.le_of_lt amount_pos) agreed
    obtain ⟨ge, eq⟩ := payAll_balance paid
    have freed := lockedTotal_exit held locked x
    simp only [Ledger.lockedTotal] at freed ⊢
    constructor
    · omega
    · intro pool_ne
      have := eq (Exit.terms_foreign v b.participant_ne pool_ne agreed)
      omega

/-- A transfer out of the contract that traps is a leg of an exit. -/
theorem contract_trapped (keyed : l.Keyed) {target : Address} {n : I128}
    (h : invoke tok env call l = .error (.transferTrapped contract target n) f) :
    ∃ x id p, call = Exit.call x id p ∧
      ExitFailure tok env l x id p (.transferTrapped contract target n) f := by
  cases call with
  | createEvent args =>
    simp only [invoke, Call.perform, createEvent, Staged.run_bind_error, pure_error,
      requireAuth_error, okOr_error, returnErrIf_error, getEventCount_error, setEventCount,
      setEvent, publish, modify_error, reduceCtorEq, false_and, and_false, exists_false,
      or_false] at h
  | cancelEvent id =>
    simp only [invoke, Call.perform, cancelEvent, Staged.run_bind_error, requireAuth_error,
      okOr_error, returnErrIf_error, getEvent_error, setEvent, publish, modify_error, reduceCtorEq,
      false_and, and_false, exists_false, or_false] at h
  | reserve id p =>
    generalize hf : Failure.transferTrapped contract target n = failure at h
    cases reserve_error h with
    | trapped signed =>
      injection hf with own
      exact absurd own.symm (Env.ne_contract signed)
    | _ => cases hf
  | cancelReservation id p => exact ⟨.cancelReservation, id, p, rfl, exit_error keyed _ h⟩
  | checkIn id p => exact ⟨.checkIn, id, p, rfl, exit_error keyed _ h⟩
  | claimCancelledEventRefund id p =>
    exact ⟨.claimCancelledEventRefund, id, p, rfl, exit_error keyed _ h⟩
  | settleNoShow id p => exact ⟨.settleNoShow, id, p, rfl, exit_error keyed _ h⟩

def Chain.Gift (s : Chain tok contract) : Step contract → Prop
  | .call .. => False
  | .transfer source target amount _ => target = contract ∧ 0 < amount.val ∧
      (tok.transfer s.ledger.token source target amount).isSome

theorem lockedTotal_le_balance (d : Deployment tok) (steps : List (Step contract)) :
    (Chain.after d steps).ledger.lockedTotal ≤
      tok.balance (Chain.after d steps).ledger.token contract := by
  refine Chain.after_induction (P := fun s => s.ledger.lockedTotal ≤
    tok.balance s.ledger.token contract) ?_ ?_ ?_ steps
  · exact (total_empty lockedWeight).trans_le (tok.balance_nonneg d.state contract)
  · intro s env call f w covered rule
    have := (rule.balance w).1
    dsimp only
    omega
  · intro s source target amount t foreign covered moved
    have gained := tok.transfer_balance moved contract
    have nonneg := tok.transfer_nonneg moved
    rw [if_neg foreign.symm] at gained
    simp only [Ledger.lockedTotal] at covered ⊢
    split at gained <;> omega

theorem balance_eq_lockedTotal {d : Deployment tok} (empty : tok.balance d.state contract = 0)
    (pool_ne : d.communityPool ≠ contract) {steps : List (Step contract)}
    (ungifted : Runs.Along Chain.step (fun s i => ¬ s.Gift i) (Chain.deploy d) steps) :
    tok.balance (Chain.after d steps).ledger.token contract =
      (Chain.after d steps).ledger.lockedTotal := by
  suffices h : (Chain.after d steps).ledger.config.communityPool ≠ contract ∧
      tok.balance (Chain.after d steps).ledger.token contract =
        (Chain.after d steps).ledger.lockedTotal from h.2
  refine Chain.after_induction_along (P := fun s => s.ledger.config.communityPool ≠ contract ∧
    tok.balance s.ledger.token contract = s.ledger.lockedTotal) ⟨pool_ne, ?_⟩ ?_ ?_ ungifted
  · exact empty.trans (total_empty lockedWeight).symm
  · intro s env call f w h _ rule
    rcases h with ⟨pool_ne, exact⟩
    refine ⟨?_, ?_⟩
    · cases rule <;> exact pool_ne
    · have := (rule.balance w).2 pool_ne
      dsimp only
      omega
  · intro s source target amount t foreign h notGift moved
    rcases h with ⟨pool_ne, exact⟩
    refine ⟨pool_ne, ?_⟩
    have gained := tok.transfer_balance moved contract
    have nonneg := tok.transfer_nonneg moved
    have free : target = contract → amount.val ≤ 0 := fun here =>
      Int.not_lt.mp fun pos => notGift ⟨here, pos, by simp [moved]⟩
    rw [if_neg foreign.symm] at gained
    simp only [Ledger.lockedTotal] at exact ⊢
    split at gained
    · have := free (by simp_all)
      omega
    · omega

theorem ExitFailure.covered (w : l.WellFormed contract)
    (solvent : l.lockedTotal ≤ tok.balance l.token contract) {x : Exit} {id : UInt64}
    {p target : Address} {n : I128}
    (h : ExitFailure tok env l x id p (.transferTrapped contract target n) f) :
    n.val ≤ tok.balance f.ledger.token contract := by
  cases h with
  | refused refusal => exact refusal.elim
  | @trapped r e _ terms _ _ done rest _ held locked found isOpen seat agreed legs paid stopped =>
    have amount_pos := w.amount_pos held
    have counted := w.amount_le_lockedTotal held locked
    obtain ⟨sum, nonneg⟩ := Exit.terms_total (w.valid found) (Int.le_of_lt amount_pos) agreed
    have spent := (payAll_balance paid).1
    have left : 0 ≤ legsTotal rest := legsTotal_nonneg fun leg hleg =>
      nonneg leg (legs ▸ List.mem_append_right done (List.mem_cons_of_mem _ hleg))
    rw [legs, legsTotal_append, legsTotal_cons] at sum
    dsimp only at sum
    omega

/-- After every run the contract covers its locked reservations, exactly when nothing
was mixed in, and no payment out of it fails for want of balance. -/
theorem bonds_always_covered (d : Deployment tok) (steps : List (Step contract)) :
    (Chain.after d steps).ledger.lockedTotal ≤
      tok.balance (Chain.after d steps).ledger.token contract ∧
    (tok.balance d.state contract = 0 → d.communityPool ≠ contract →
      Runs.Along Chain.step (fun s i => ¬ s.Gift i) (Chain.deploy d) steps →
      tok.balance (Chain.after d steps).ledger.token contract =
        (Chain.after d steps).ledger.lockedTotal) ∧
    ∀ (env : Env contract) call f target n,
      invoke tok env call (Chain.after d steps).ledger =
        .error (.transferTrapped contract target n) f →
      n.val ≤ tok.balance f.ledger.token contract := by
  refine ⟨lockedTotal_le_balance d steps,
    fun empty pool_ne ungifted => balance_eq_lockedTotal empty pool_ne ungifted, ?_⟩
  intro env call f target n h
  have w := Chain.after_wellFormed d steps
  obtain ⟨x, id, p, _, failed⟩ := contract_trapped w.toKeyed h
  exact failed.covered w (lockedTotal_le_balance d steps)

theorem bonds_always_covered_reserved :
    plainToken.balance (Chain.after Scenario.deployment Scenario.reserved).ledger.token
        Scenario.bond = (Chain.after Scenario.deployment Scenario.reserved).ledger.lockedTotal ∧
      (Chain.after Scenario.deployment Scenario.reserved).ledger.lockedTotal = 50 :=
  ⟨(bonds_always_covered Scenario.deployment Scenario.reserved).2.1 (by decide) (by decide)
    ⟨id, id, trivial⟩, by decide⟩

end ShowUp

import ShowUp.Contract.EntryPoints
import ShowUp.Shared.Staged
import Mathlib.Tactic.Common

/-!
# How host operations end

For each operation, when it succeeds and with which frame, and when it fails and
with which frame. Chained by `run_bind_ok` and `run_bind_error` these turn an entry point
into the list of its checks.
-/

namespace ShowUp.Host

set_option autoImplicit false

variable {σ α β : Type} {contract : Address} {f f' : Frame σ} {u : Unit} {failure : Failure}

theorem pure_ok {a b : α} : (pure a : Host σ α).run f = .ok b f' ↔ b = a ∧ f' = f := by
  simp only [EStateM.run_pure, EStateM.Result.ok.injEq, eq_comm]

theorem pure_error {a : α} : (pure a : Host σ α).run f = .error failure f' ↔ False := by
  simp only [EStateM.run_pure, reduceCtorEq]

theorem run_throw : (throw failure : Host σ α).run f = .error failure f := rfl

theorem run_requireAuth (env : Env contract) (who : Address) :
    (requireAuth env who).run f =
      if env.authorizes who then .ok () f else .error (.unauthorized who) f := by
  unfold requireAuth
  split <;> rfl

theorem requireAuth_ok {env : Env contract} {who : Address} :
    (requireAuth env who).run f = .ok u f' ↔ env.authorizes who ∧ f' = f := by
  rw [run_requireAuth]
  split
  · simp only [EStateM.Result.ok.injEq, true_and, eq_comm, *]
  · simp only [reduceCtorEq, false_and, *]

theorem requireAuth_error {env : Env contract} {who : Address} :
    (requireAuth env who).run f = .error failure f' ↔
      ¬ env.authorizes who ∧ failure = .unauthorized who ∧ f' = f := by
  rw [run_requireAuth]
  split
  · simp only [reduceCtorEq, not_true_eq_false, false_and, *]
  · rename_i refused
    constructor
    · intro h
      cases h
      exact ⟨refused, rfl, rfl⟩
    · intro h
      rcases h with ⟨_, rfl, rfl⟩
      rfl

theorem okOr_ok {o : Option α} {code : Error} {a : α} :
    (okOr o code).run f = .ok a f' ↔ o = some a ∧ f' = f := by
  cases o with
  | none => simp only [okOr, run_throw, reduceCtorEq, false_and]
  | some b => simp only [okOr, EStateM.run_pure, EStateM.Result.ok.injEq, Option.some.injEq, eq_comm]

theorem okOr_error {o : Option α} {code : Error} :
    (okOr o code).run f = .error failure f' ↔ o = none ∧ failure = .error code ∧ f' = f := by
  cases o with
  | none => simp only [okOr, run_throw, EStateM.Result.error.injEq, true_and, eq_comm]
  | some b => simp only [okOr, EStateM.run_pure, reduceCtorEq, false_and]

theorem run_returnErrIf (c : Prop) [Decidable c] (code : Error) :
    (returnErrIf c code).run f = if c then .error (.error code) f else .ok () f := by
  unfold returnErrIf
  split <;> rfl

theorem returnErrIf_ok {c : Prop} [Decidable c] {code : Error} :
    (returnErrIf c code).run f = .ok u f' ↔ ¬ c ∧ f' = f := by
  rw [run_returnErrIf]
  split
  · simp only [reduceCtorEq, not_true_eq_false, false_and, *]
  · simp only [EStateM.Result.ok.injEq, not_false_eq_true, true_and, eq_comm, *]

theorem returnErrIf_error {c : Prop} [Decidable c] {code : Error} :
    (returnErrIf c code).run f = .error failure f' ↔ c ∧ failure = .error code ∧ f' = f := by
  rw [run_returnErrIf]
  split
  · simp only [EStateM.Result.error.injEq, true_and, eq_comm, *]
  · simp only [reduceCtorEq, false_and, *]

theorem getConfig_ok {c : Config} :
    getConfig.run f = .ok c f' ↔ c = f.ledger.config ∧ f' = f := by
  change EStateM.Result.ok f.ledger.config f = _ ↔ _
  simp only [EStateM.Result.ok.injEq, eq_comm]

theorem getConfig_error : getConfig.run f = .error failure f' ↔ False := by
  change EStateM.Result.ok f.ledger.config f = _ ↔ _
  simp only [reduceCtorEq]

theorem getEventCount_ok {n : UInt64} :
    getEventCount.run f = .ok n f' ↔ n = f.ledger.eventCount ∧ f' = f := by
  change EStateM.Result.ok f.ledger.eventCount f = _ ↔ _
  simp only [EStateM.Result.ok.injEq, eq_comm]

theorem getEventCount_error : getEventCount.run f = .error failure f' ↔ False := by
  change EStateM.Result.ok f.ledger.eventCount f = _ ↔ _
  simp only [reduceCtorEq]

theorem getEvent_ok {id : UInt64} {o : Option Event} :
    (getEvent id).run f = .ok o f' ↔ o = f.ledger.events.lookup id ∧ f' = f := by
  change EStateM.Result.ok (f.ledger.events.lookup id) f = _ ↔ _
  simp only [EStateM.Result.ok.injEq, eq_comm]

theorem getEvent_error {id : UInt64} : (getEvent id).run f = .error failure f' ↔ False := by
  change EStateM.Result.ok (f.ledger.events.lookup id) f = _ ↔ _
  simp only [reduceCtorEq]

theorem getReservation_ok {id : UInt64} {p : Address} {o : Option Reservation} :
    (getReservation id p).run f = .ok o f' ↔
      o = f.ledger.reservations.lookup (id, p) ∧ f' = f := by
  change EStateM.Result.ok (f.ledger.reservations.lookup (id, p)) f = _ ↔ _
  simp only [EStateM.Result.ok.injEq, eq_comm]

theorem getReservation_error {id : UInt64} {p : Address} :
    (getReservation id p).run f = .error failure f' ↔ False := by
  change EStateM.Result.ok (f.ledger.reservations.lookup (id, p)) f = _ ↔ _
  simp only [reduceCtorEq]

theorem modify_ok {g : Frame σ → Frame σ} :
    (modify g : Host σ Unit).run f = .ok u f' ↔ f' = g f := by
  simp only [EStateM.run_modify, EStateM.Result.ok.injEq, true_and, eq_comm]

theorem modify_error {g : Frame σ → Frame σ} :
    (modify g : Host σ Unit).run f = .error failure f' ↔ False := by
  simp only [EStateM.run_modify, reduceCtorEq]

section Transfer
variable {tok : Token} {env : Env contract} {token source target : Address} {n : I128}
  {f f' : Frame tok.State}

theorem run_tokenTransfer : (tokenTransfer tok env token source target n).run f =
    if source = contract ∨ env.authorizesTransfer source then
      match tok.transfer f.ledger.token source target n with
      | some t => .ok () ⟨{ f.ledger with token := t },
          f.effects ++ [.transferred ⟨token, source, target, n⟩]⟩
      | none => .error (.transferTrapped source target n) f
    else .error (.transferTrapped source target n) f := by
  unfold tokenTransfer
  simp only [EStateM.run_bind, EStateM.run_get]
  split
  · cases tok.transfer f.ledger.token source target n <;> rfl
  · rfl

theorem tokenTransfer_ok :
    (tokenTransfer tok env token source target n).run f = .ok u f' ↔
      (source = contract ∨ env.authorizesTransfer source) ∧
        ∃ t, tok.transfer f.ledger.token source target n = some t ∧
          ⟨{ f.ledger with token := t },
            f.effects ++ [.transferred ⟨token, source, target, n⟩]⟩ = f' := by
  rw [run_tokenTransfer]
  split
  · cases tok.transfer f.ledger.token source target n with
    | none => simp only [reduceCtorEq, false_and, exists_false, and_false]
    | some t =>
      rename_i signed
      constructor
      · intro h
        cases h
        exact ⟨signed, t, rfl, rfl⟩
      · intro h
        rcases h with ⟨_, _, ⟨⟩, rfl⟩
        rfl
  · simp only [reduceCtorEq, false_and, *]

theorem tokenTransfer_error :
    (tokenTransfer tok env token source target n).run f = .error failure f' ↔
      ((source = contract ∨ env.authorizesTransfer source) →
        tok.transfer f.ledger.token source target n = none) ∧
      failure = .transferTrapped source target n ∧ f' = f := by
  rw [run_tokenTransfer]
  split
  · cases tok.transfer f.ledger.token source target n with
    | none => simp only [EStateM.Result.error.injEq, implies_true, true_and, eq_comm]
    | some t => simp only [reduceCtorEq, forall_const, false_and, *]
  · rename_i unsigned
    constructor
    · intro h
      cases h
      exact ⟨fun h => absurd h unsigned, rfl, rfl⟩
    · intro h
      rcases h with ⟨_, rfl, rfl⟩
      rfl

end Transfer

end ShowUp.Host

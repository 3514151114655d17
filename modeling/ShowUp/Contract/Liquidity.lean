import ShowUp.Contract.Checks
import ShowUp.Contract.Solvency

/-!
# Exits of a liquid token

When transfers fail only for want of balance, what stands between a locked bond
and its exit is the exit's own conditions and nothing else: the contract always
holds enough.
-/

namespace ShowUp

set_option autoImplicit false

open Host StoreTotal

/-- A transfer fails only when the sender has not enough. -/
def Token.Liquid (tok : Token) : Prop :=
  ∀ t source target (n : I128), 0 ≤ n.val → n.val ≤ tok.balance t source →
    (tok.transfer t source target n).isSome

theorem plainToken_liquid : plainToken.Liquid := by
  intro t source target n nonneg covered
  have enough : 0 ≤ n.val ∧ n.val ≤ t source := ⟨nonneg, covered⟩
  simp [plainToken, enough]

/-- What every reachable ledger has: its storage is well formed, its seats are counted and
its bonds are covered. -/
structure Ledger.Sound (tok : Token) (contract : Address) (l : Ledger tok.State) : Prop where
  wellFormed : l.WellFormed contract
  seated : l.Seated
  covered : l.lockedTotal ≤ tok.balance l.token contract

variable {tok : Token} {contract : Address} {env : Env contract} {l : Ledger tok.State}
  {f : Frame tok.State} {id : UInt64} {p : Address} {x : Exit}

theorem Chain.after_sound (d : Deployment tok) (steps : List (Step contract)) :
    Ledger.Sound tok contract (after d steps).ledger :=
  ⟨after_wellFormed d steps, after_seated d steps, lockedTotal_le_balance d steps⟩

theorem Chain.after_call {d : Deployment tok} {steps : List (Step contract)} {call : Call}
    (h : invoke tok env call (after d steps).ledger = .ok () f) :
    (after d (steps ++ [.call env call])).ledger = f.ledger := by
  rw [after_concat]
  simp [step, h]

/-- The exit's conditions hold of the stored records. -/
structure Exit.Ready (x : Exit) (env : Env contract) (l : Ledger tok.State) (id : UInt64)
    (p : Address) (r : Reservation) (e : Event) : Prop where
  held : l.reservations.lookup (id, p) = some r
  locked : r.status = .locked
  found : l.events.lookup id = some e
  isOpen : x.Open env e p
  fits : x = .settleNoShow → r.amount.val * e.organizerBps.toNat < 2 ^ 127

theorem Exit.Ready.of_ok (sound : l.Sound tok contract)
    (h : invoke tok env (x.call id p) l = .ok () f) : ∃ r e, x.Ready env l id p r e := by
  have w := sound.wellFormed
  obtain ⟨_, e, _, _, _, _, _, found, _⟩ := Rule.exit_inv ((perform_ok_iff w.toKeyed _).mp h)
  have passes : PassesChecks tok env (x.call id p) l := by
    intro failure f' failed
    rw [h] at failed
    cases failed
  obtain ⟨r, held, locked, isOpen, fits⟩ :=
    (exit_passesChecks_iff w sound.seated found).mp passes
  exact ⟨r, e, held, locked, found, isOpen, fits⟩

/-- With a liquid token nothing else can stop an exit. -/
theorem Exit.Ready.succeeds {r : Reservation} {e : Event} (ready : x.Ready env l id p r e)
    (liquid : tok.Liquid) (sound : l.Sound tok contract) :
    ∃ f, invoke tok env (x.call id p) l = .ok () f := by
  have w := sound.wellFormed
  have enabled : Enabled tok env (x.call id p) l :=
    (enabled_iff_open w.toKeyed ready.held ready.locked ready.found).mpr ready.isOpen
  rcases completes_of_enabled w sound.seated ready.held ready.found enabled ready.fits with
    ok | ⟨target, n, f, h⟩
  · exact ok
  · have failed := exit_error w.toKeyed x h
    have enough := failed.covered w sound.covered
    cases failed with
    | refused refusal => exact refusal.elim
    | @trapped r' e' _ terms _ _ done rest _ held _ found _ _ agreed legs _ stopped =>
      obtain ⟨_, nonneg⟩ :=
        Exit.terms_total (w.valid found) (Int.le_of_lt (w.amount_pos held)) agreed
      have paid := liquid f.ledger.token contract target n
        (nonneg (target, n) (by simp [legs])) enough
      rw [stopped] at paid
      cases paid

end ShowUp

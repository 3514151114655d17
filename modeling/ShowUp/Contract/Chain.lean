import ShowUp.Contract.Refinement
import ShowUp.Shared.Runs

/-!
# Runs of the chain

A chain is the ledger together with the calls that succeeded on it. A run is any
sequence of calls, by anyone and at any time, and of token transfers by third
parties. The host rolls a failed call back: it changes nothing and leaves no
record.
-/

namespace ShowUp

set_option autoImplicit false

open StoreTotal

/-- A successful call and the effects it had, in order. -/
structure Record (contract : Address) where
  env : Env contract
  call : Call
  effects : List Effect

def Record.transfers {contract : Address} (r : Record contract) : List Transfer :=
  r.effects.filterMap Effect.transfer?

def Record.published {contract : Address} (r : Record contract) : List ContractEvent :=
  r.effects.filterMap Effect.published?

structure Chain (tok : Token) (contract : Address) where
  ledger : Ledger tok.State
  history : List (Record contract)

/-- One thing that happens on chain. Nobody but the contract spends from its address. -/
inductive Step (contract : Address) where
  | call (env : Env contract) (call : Call)
  | transfer (source target : Address) (amount : I128) (foreign : source ≠ contract)

/-- What `__constructor` is given, and the token's state at that moment. -/
structure Deployment (tok : Token) where
  token : Address
  communityPool : Address
  state : tok.State

namespace Chain

variable {tok : Token} {contract : Address}

def step (s : Chain tok contract) : Step contract → Chain tok contract
  | .call env call =>
    match invoke tok env call s.ledger with
    | .ok _ f => ⟨f.ledger, s.history ++ [⟨env, call, f.effects⟩]⟩
    | .error _ _ => s
  | .transfer source target amount _ =>
    match tok.transfer s.ledger.token source target amount with
    | some t => { s with ledger := { s.ledger with token := t } }
    | none => s

def deploy (d : Deployment tok) : Chain tok contract :=
  ⟨constructor tok d.token d.communityPool d.state, []⟩

def after (d : Deployment tok) (steps : List (Step contract)) : Chain tok contract :=
  Runs.run step (deploy d) steps

theorem after_concat (d : Deployment tok) (steps : List (Step contract)) (i : Step contract) :
    after d (steps ++ [i]) = (after d steps).step i := Runs.run_concat ..

/-- A step changes nothing, or is a successful call, or moves third-party tokens. -/
theorem step_cases {s : Chain tok contract} (keyed : s.ledger.Keyed) (i : Step contract) :
    s.step i = s ∨
    (∃ env call f, i = .call env call ∧ Rule tok env s.ledger call f ∧
      s.step i = ⟨f.ledger, s.history ++ [⟨env, call, f.effects⟩]⟩) ∨
    (∃ source target amount foreign t, i = .transfer source target amount foreign ∧
      tok.transfer s.ledger.token source target amount = some t ∧
      s.step i = { s with ledger := { s.ledger with token := t } }) := by
  cases i with
  | call env call =>
    cases h : invoke tok env call s.ledger with
    | ok _ f =>
      exact .inr (.inl ⟨env, call, f, rfl, (perform_ok_iff keyed call).mp h, by simp [step, h]⟩)
    | error _ _ => exact .inl (by simp [step, h])
  | transfer source target amount foreign =>
    cases h : tok.transfer s.ledger.token source target amount with
    | none => exact .inl (by simp [step, h])
    | some t =>
      exact .inr (.inr ⟨source, target, amount, foreign, t, rfl, h, by simp [step, h]⟩)

theorem step_call_failed {s : Chain tok contract} {env : Env contract} {call : Call}
    {failure : Failure} {f : Frame tok.State}
    (h : invoke tok env call s.ledger = .error failure f) :
    s.step (.call env call) = s := by
  simp [step, h]

end Chain

/-! A small deployment to evaluate runs on. -/

namespace Scenario

def organizer : Address := ⟨"organizer", by decide⟩
def guest : Address := ⟨"guest", by decide⟩
def pool : Address := ⟨"pool", by decide⟩
def usdc : Address := ⟨"usdc", by decide⟩
def bond : Address := ⟨"bond", by decide⟩

/-- Everybody but the contract signs. -/
def env (now : UInt64) : Env bond where
  timestamp := now
  authorizes a := a ≠ bond
  authorizesTransfer _ := true
  contract_silent := by decide

def args : CreateEventArgs where
  organizer := organizer
  title := [71]
  venue := []
  bondAmount := .lit 50
  capacity := 1
  startTime := 20
  checkinStart := 10
  checkinDeadline := 30
  cancellationDeadline := 10
  organizerBps := 2500
  communityBps := 7500

def deployment : Deployment plainToken where
  token := usdc
  communityPool := pool
  state a := if a = guest then 100 else 0

def reserved : List (Step bond) :=
  [.call (env 1) (.createEvent args), .call (env 2) (.reserve 1 guest)]

/-- A seat of each of two events. -/
def twoEvents : List (Step bond) := reserved ++
  [.call (env 3) (.createEvent args), .call (env 4) (.reserve 2 guest)]

def settled : List (Step bond) := reserved ++ [.call (env 40) (.settleNoShow 1 guest)]

end Scenario

end ShowUp

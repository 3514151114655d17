import ShowUp.Contract.Types

/-!
# The host as the contract sees it

A call runs over a frame: the ledger it may write and the effects it has had so
far, both applied immediately. A call that ends in a failure keeps the frame it
failed in, so that what happened before the failure can be spoken about; undoing
it is the host's rollback, one layer up.

The settlement token is code outside this repository. It is a parameter: some
state, balances, and a transfer that moves exactly the amount or fails.
-/

namespace ShowUp

set_option autoImplicit false

open StoreTotal

/-- A token contract: a transfer either fails or moves exactly its amount,
which is never negative, and balances are never negative. -/
structure Token where
  State : Type
  balance : State → Address → Int
  transfer : State → Address → Address → I128 → Option State
  balance_nonneg : ∀ t a, 0 ≤ balance t a
  transfer_nonneg : ∀ {t t' source target n}, transfer t source target n = some t' → 0 ≤ n.val
  transfer_balance : ∀ {t t' source target n}, transfer t source target n = some t' →
    ∀ a, balance t' a = balance t a - (if a = source then n.val else 0) +
      (if a = target then n.val else 0)

/-- The simplest token: a table of balances, and transfers that need cover. -/
def plainToken : Token where
  State := Address → Nat
  balance t a := t a
  transfer t source target n :=
    if 0 ≤ n.val ∧ n.val ≤ t source then
      let paid := Function.update t source (t source - n.val.toNat)
      some (Function.update paid target (paid target + n.val.toNat))
    else none
  balance_nonneg t a := Int.natCast_nonneg _
  transfer_nonneg := by
    intro t t' source target n h
    split at h
    · rename_i covered
      exact covered.1
    · cases h
  transfer_balance := by
    intro t t' source target n h a
    split at h
    · rename_i covered
      cases h
      simp only [Function.update_apply]
      split <;> split <;> simp_all
    · cases h

/-- Everything the contract can read: its instance and persistent storage, which
`__constructor` has filled, and the token's own state behind `TokenClient`. -/
structure Ledger (σ : Type) where
  config : Config
  eventCount : UInt64
  events : Store UInt64 Event
  reservations : Store ReservationKey Reservation
  token : σ

/-- One call's surroundings. Authorizations are entries of the signed tree: for
the call itself and, one level down, for the token transfer it makes. -/
structure Env (contract : Address) where
  timestamp : UInt64
  authorizes : Address → Bool
  authorizesTransfer : Address → Bool
  /-- The contract's own address authorizes nothing but the calls it makes. -/
  contract_silent : authorizes contract = false

structure Transfer where
  token : Address
  source : Address
  target : Address
  amount : I128
  deriving DecidableEq

inductive Effect where
  | setEventCount (count : UInt64)
  | setEvent (event : Event)
  | setReservation (reservation : Reservation)
  | transferred (transfer : Transfer)
  | published (event : ContractEvent)
  deriving DecidableEq

def Effect.transfer? : Effect → Option Transfer
  | transferred t => some t
  | _ => none

def Effect.published? : Effect → Option ContractEvent
  | published e => some e
  | _ => none

/-- How a call stops short: a returned error, a refused authorization, or a trap
in the token's transfer. -/
inductive Failure where
  | error (code : Error)
  | unauthorized (who : Address)
  | transferTrapped (source target : Address) (amount : I128)
  deriving DecidableEq

structure Frame (σ : Type) where
  ledger : Ledger σ
  effects : List Effect

abbrev Host (σ α : Type) := EStateM Failure (Frame σ) α

namespace Host

variable {σ α β : Type} {contract : Address}

def requireAuth (env : Env contract) (who : Address) : Host σ Unit :=
  if env.authorizes who then pure () else throw (.unauthorized who)

/-- `option.ok_or(code)?` -/
def okOr (o : Option α) (code : Error) : Host σ α :=
  match o with
  | some a => pure a
  | none => throw (.error code)

/-- `if c { return Err(code); }` -/
def returnErrIf (c : Prop) [Decidable c] (code : Error) : Host σ Unit :=
  if c then throw (.error code) else pure ()

def getConfig : Host σ Config := return (← get).ledger.config

def getEventCount : Host σ UInt64 := return (← get).ledger.eventCount

def setEventCount (count : UInt64) : Host σ Unit :=
  modify fun f => ⟨{ f.ledger with eventCount := count }, f.effects ++ [.setEventCount count]⟩

def getEvent (id : UInt64) : Host σ (Option Event) := return (← get).ledger.events.lookup id

def setEvent (event : Event) : Host σ Unit :=
  modify fun f => ⟨{ f.ledger with events := f.ledger.events.insert event.id event },
    f.effects ++ [.setEvent event]⟩

def getReservation (id : UInt64) (participant : Address) : Host σ (Option Reservation) :=
  return (← get).ledger.reservations.lookup (id, participant)

def setReservation (r : Reservation) : Host σ Unit :=
  modify fun f =>
    ⟨{ f.ledger with reservations := f.ledger.reservations.insert (r.eventId, r.participant) r },
      f.effects ++ [.setReservation r]⟩

def publish (event : ContractEvent) : Host σ Unit :=
  modify fun f => ⟨f.ledger, f.effects ++ [.published event]⟩

/-- `TokenClient::transfer`. The contract authorizes its own spending; anybody
else must have signed for the nested call. -/
def tokenTransfer (tok : Token) (env : Env contract) (token source target : Address)
    (amount : I128) : Host tok.State Unit := do
  let f ← get
  if source = contract ∨ env.authorizesTransfer source then
    match tok.transfer f.ledger.token source target amount with
    | some t => set (⟨{ f.ledger with token := t },
        f.effects ++ [.transferred ⟨token, source, target, amount⟩]⟩ : Frame tok.State)
    | none => throw (.transferTrapped source target amount)
  else
    throw (.transferTrapped source target amount)

end Host

end ShowUp

import ShowUp.Contract.Frames
import ShowUp.Shared.Leases

/-!
# Lifetimes of the stored entries

`storage.rs`: every write bumps the entry it writes. An entry that is not bumped in time is
archived; whether the network then takes in a call that names it, and who restores it, is not the
contract's business, nor are the entries of the token. Ledgers are counted here; the seconds on
their clocks are whatever the calls say.
-/

namespace ShowUp

set_option autoImplicit false

open StoreTotal Leases

def dayInLedgers : Nat := 17280
def bumpThreshold : Nat := 30 * dayInLedgers
def bumpTo : Nat := 90 * dayInLedgers

/-- What the network sets: how many more ledgers a new or restored entry has,
`env.storage().max_ttl()`, and what `extend_ttl` makes of a lifetime. It extends one that is
shorter than the threshold. -/
structure Network where
  minTtl : Nat
  maxTtl : Nat
  extendTtl : (threshold extendTo : Nat) → (now liveUntil : Nat) → Nat
  le_extendTtl : ∀ threshold extendTo now liveUntil,
    liveUntil ≤ extendTtl threshold extendTo now liveUntil
  extendTtl_le : ∀ threshold extendTo now liveUntil,
    extendTtl threshold extendTo now liveUntil ≤ max liveUntil (now + extendTo)
  extendTtl_short : ∀ threshold extendTo now liveUntil, liveUntil - now < threshold →
    now + extendTo ≤ extendTtl threshold extendTo now liveUntil

/-- `ttl_policy` -/
def Network.ttlPolicy (network : Network) : LeaseTerms where
  first := network.minTtl
  threshold := min bumpThreshold network.maxTtl
  extendTo := min bumpTo network.maxTtl
  threshold_le := by
    unfold bumpThreshold bumpTo
    omega
  renewed := network.extendTtl (min bumpThreshold network.maxTtl) (min bumpTo network.maxTtl)
  le_renewed := network.le_extendTtl _ _
  renewed_le := network.extendTtl_le _ _
  renewed_short := network.extendTtl_short _ _

/-- `DataKey`; `Config` and `EventCount` are both in the instance. -/
inductive LedgerEntry where
  | contractInstance
  | event (id : UInt64)
  | reservation (key : ReservationKey)
  deriving DecidableEq

/-- What an effect writes and bumps. -/
def Effect.entry? : Effect → Option LedgerEntry
  | setEventCount _ => some .contractInstance
  | setEvent event => some (.event event.id)
  | setReservation r => some (.reservation (r.eventId, r.participant))
  | transferred _ | published _ => none

/-- The entries of this contract that a call reads or writes. -/
def Call.entries {σ : Type} (l : Ledger σ) (call : Call) : List LedgerEntry :=
  .contractInstance :: .event (call.event l) :: (call.key.map .reservation).toList

/-- The entries a successful call writes, and so bumps. -/
def Call.written {σ : Type} (l : Ledger σ) : Call → List LedgerEntry
  | createEvent _ => [.contractInstance, .event (l.eventCount + 1)]
  | reserve id p | cancelReservation id p => [.event id, .reservation (id, p)]
  | checkIn id p | claimCancelledEventRefund id p | settleNoShow id p => [.reservation (id, p)]
  | cancelEvent id => [.event id]

/-- The chain, and up to which ledger its entries live. -/
structure Lived (tok : Token) (contract : Address) where
  chain : Chain tok contract
  lives : Leases LedgerEntry

inductive LivedStep (contract : Address) where
  /-- so many more ledgers are closed -/
  | close (ledgers : Nat)
  | chain (i : Step contract)
  /-- a lifetime is made longer from outside the contract: it is extended, or restored -/
  | prolong (entry : LedgerEntry) (ledgers : Nat)

namespace Lived

variable {tok : Token} {contract : Address} (network : Network)

/-- `__constructor` -/
def deploy (d : Deployment tok) (sequence : Nat) : Lived tok contract where
  chain := Chain.deploy d
  lives := (Leases.initial sequence).useAll network.ttlPolicy [.contractInstance, .contractInstance]

/-- A call that the network keeps out is no step. -/
def step (s : Lived tok contract) : LivedStep contract → Lived tok contract
  | .close ledgers => { s with lives := s.lives.pass ledgers }
  | .chain (.call env call) =>
    match invoke tok env call s.chain.ledger with
    | .ok _ f =>
      { chain := s.chain.step (.call env call)
        lives := s.lives.useAll network.ttlPolicy (f.effects.filterMap Effect.entry?) }
    | .error _ _ => s
  | .chain i => { s with chain := s.chain.step i }
  | .prolong entry ledgers => { s with lives := s.lives.prolong entry ledgers }

def after (d : Deployment tok) (sequence : Nat) (steps : List (LivedStep contract)) :
    Lived tok contract :=
  Runs.run (step network) (deploy network d sequence) steps

/-- The call does what it is for. -/
def Carries (s : Lived tok contract) (env : Env contract) (call : Call) : Prop :=
  ∃ f, invoke tok env call s.chain.ledger = .ok () f

end Lived

/-- What a step does to the chain. -/
def LivedStep.chain? {contract : Address} : LivedStep contract → Option (Step contract)
  | chain i => some i
  | _ => none

namespace Lived

section Steps
variable {tok : Token} {contract : Address} {network : Network}

theorem step_chain (s : Lived tok contract) (i : LivedStep contract) :
    (s.step network i).chain = (i.chain?.map s.chain.step).getD s.chain := by
  cases i with
  | close | prolong => rfl
  | chain j =>
    cases j with
    | transfer => rfl
    | call env call =>
      simp only [step]
      split
      · rfl
      · rename_i failed
        exact (Chain.step_call_failed failed).symm

theorem step_later (s : Lived tok contract) (i : LivedStep contract) :
    s.lives.Later (s.step network i).lives := by
  cases i with
  | close ledgers => exact later_pass ..
  | prolong entry ledgers => exact later_prolong ..
  | chain j =>
    cases j with
    | transfer => exact .refl _
    | call env call =>
      simp only [step]
      split
      · exact later_useAll ..
      · exact .refl _

variable (network) in
/-- The chain goes on as it does without lifetimes. -/
theorem after_chain (d : Deployment tok) (sequence : Nat) (steps : List (LivedStep contract)) :
    (after network d sequence steps).chain = Chain.after d (steps.filterMap LivedStep.chain?) := by
  induction steps using List.reverseRecOn with
  | nil => rfl
  | append_singleton steps i ih =>
    rw [after, Runs.run_concat, ← after, step_chain, ih, List.filterMap_append]
    cases shown : i.chain? with
    | none => simp [shown]
    | some j => simp [shown, Chain.after_concat]

variable (network) in
theorem after_wellFormed (d : Deployment tok) (sequence : Nat)
    (steps : List (LivedStep contract)) :
    (after network d sequence steps).chain.ledger.WellFormed contract := by
  rw [after_chain]
  exact Chain.after_wellFormed d _

theorem later_run (s : Lived tok contract) (steps : List (LivedStep contract)) :
    s.lives.Later (Runs.run (step network) s steps).lives :=
  Runs.run_related (R := fun a b : Lived tok contract => a.lives.Later b.lives)
    (fun _ => .refl _) Leases.Later.trans step_later s steps

end Steps

end Lived

section Bumps
variable {tok : Token} {contract : Address} {env : Env contract} {l : Ledger tok.State}
  {call : Call} {f : Frame tok.State}

theorem Rule.written_eq (w : l.WellFormed contract) (rule : Rule tok env l call f) :
    f.effects.filterMap Effect.entry? = call.written l := by
  cases rule with
  | createEvent signed valid next =>
    rw [next_id next]
    rfl
  | @reserve id p e n t signed found =>
    have key := w.event found
    subst key
    rfl
  | cancelEvent found =>
    have key := w.event found
    subst key
    rfl
  | @exit _ x id p r e e' terms t named held locked found isOpen seat =>
    subst named
    have own := w.reservation held
    have same := Exit.eventAfter_samePolicy seat
    have key : e'.id = id := (same.field Event.id fun _ _ => rfl).trans (w.event found)
    have paid : ∀ legs : List (Address × I128), (legs.map fun leg => Effect.transferred
        ⟨l.config.token, contract, leg.1, leg.2⟩).filterMap Effect.entry? = [] := by
      intro legs
      apply List.filterMap_eq_nil_iff.mpr
      intro effect among
      obtain ⟨leg, _, rfl⟩ := List.mem_map.mp among
      rfl
    rw [List.filterMap_append, List.filterMap_append, paid]
    cases x <;> simp [Exit.writes, Effect.entry?, own, key, Call.written, Exit.call]

theorem Call.instance_written (among : .contractInstance ∈ call.written l) :
    ∃ args, call = .createEvent args := by
  cases call with
  | createEvent args => exact ⟨args, rfl⟩
  | _ => simp [written] at among

end Bumps

namespace Lived

section Runs
variable {tok : Token} {contract : Address} {network : Network} {s : Lived tok contract}
  {env : Env contract} {call : Call}

theorem step_carries (w : s.chain.ledger.WellFormed contract) (carries : s.Carries env call) :
    s.step network (.chain (.call env call)) =
      { chain := s.chain.step (.call env call)
        lives := s.lives.useAll network.ttlPolicy (call.written s.chain.ledger) } := by
  obtain ⟨f, ran⟩ := carries
  have written := ((perform_ok_iff w.toKeyed call).mp ran).written_eq w
  simp only [step, ran, written]

theorem step_stopped (stopped : ¬ s.Carries env call) :
    s.step network (.chain (.call env call)) = s := by
  simp only [step]
  split
  · rename_i f ran
    exact absurd ⟨f, ran⟩ stopped
  · rfl

/-- Such a call was carried out in the run, when the ledger had this number. -/
def CarriedOut (network : Network) (d : Deployment tok) (sequence : Nat)
    (steps : List (LivedStep contract)) (call : Call) (ledger : Nat) : Prop :=
  ∃ before env rest, steps = before ++ .chain (.call env call) :: rest ∧
    (after network d sequence before).lives.now = ledger ∧
    (after network d sequence before).Carries env call

variable {d : Deployment tok} {sequence : Nat} {steps : List (LivedStep contract)}

/-- What a call has bumped lives on for the threshold at least. -/
theorem CarriedOut.promised {ledger : Nat}
    (carried : CarriedOut network d sequence steps call ledger) (entry : LedgerEntry)
    (writes : ∀ l : Ledger tok.State, entry ∈ call.written l) :
    (after network d sequence steps).lives.Promised entry
      (ledger + network.ttlPolicy.threshold) := by
  obtain ⟨before, env, rest, rfl, rfl, carries⟩ := carried
  have w := after_wellFormed network d sequence before
  rw [after, Runs.run_append, Runs.run_cons]
  apply Promised.later _ (later_run _ rest)
  rw [← after, step_carries w carries]
  exact promised_useAll (writes _)

/-- In every run: a bond reserved at one ledger, and any event created at another. Whatever comes
after, all entries of this contract that a call about the seat or its event reads or writes live
on for thirty days of ledgers, or as long as the network allows if that is less: the instance
from the event created, the others from the reservation. -/
theorem seat_lives_on (network : Network) (d : Deployment tok) (sequence : Nat)
    (steps : List (LivedStep contract)) {id : UInt64} {p : Address} {args : CreateEventArgs}
    {n m : Nat} (reserved : CarriedOut network d sequence steps (.reserve id p) n)
    (created : CarriedOut network d sequence steps (.createEvent args) m) {call : Call} :
    let s := after network d sequence steps
    call.event s.chain.ledger = id → (∀ k, call.key = some k → k = (id, p)) →
    ∀ entry ∈ call.entries s.chain.ledger, s.lives.Promised entry
      ((if entry = .contractInstance then m else n) + min bumpThreshold network.maxTtl) := by
  intro s about key entry named
  rw [Call.entries, about] at named
  rcases List.mem_cons.mp named with rfl | named
  · rw [if_pos rfl]
    exact created.promised _ fun _ => by simp [Call.written]
  · rcases List.mem_cons.mp named with rfl | named
    · rw [if_neg (by simp)]
      exact reserved.promised _ fun _ => by simp [Call.written]
    · obtain ⟨k, held, rfl⟩ := Option.map_eq_some_iff.mp (Option.mem_toList.mp named)
      rw [key k held, if_neg (by simp)]
      exact reserved.promised _ fun _ => by simp [Call.written]

end Runs

end Lived

namespace Scenario

def network : Network where
  minTtl := 120960
  maxTtl := 3110400
  extendTtl threshold extendTo now liveUntil :=
    if liveUntil - now < threshold then max liveUntil (now + extendTo) else liveUntil
  le_extendTtl threshold extendTo now liveUntil := by split <;> omega
  extendTtl_le threshold extendTo now liveUntil := by split <;> omega
  extendTtl_short threshold extendTo now liveUntil short := by
    rw [if_pos short]
    omega

def opened : List (LivedStep bond) := [.chain (.call (env 1) (.createEvent args))]

def reservedThreeWeeksLater : List (LivedStep bond) :=
  [.close (21 * dayInLedgers), .chain (.call (env 2) (.reserve 1 guest))]

end Scenario

namespace Lived

theorem seat_lives_on_reserved :
    (after Scenario.network Scenario.deployment 1000
      (Scenario.opened ++ Scenario.reservedThreeWeeksLater)).lives.Promised
      (.reservation (1, Scenario.guest)) (1000 + 51 * dayInLedgers) := by
  have reserved : CarriedOut Scenario.network Scenario.deployment 1000
      (Scenario.opened ++ Scenario.reservedThreeWeeksLater) (.reserve 1 Scenario.guest)
      (1000 + 21 * dayInLedgers) :=
    ⟨Scenario.opened ++ [.close (21 * dayInLedgers)], Scenario.env 2, [], rfl, by decide, _, rfl⟩
  have created : CarriedOut Scenario.network Scenario.deployment 1000
      (Scenario.opened ++ Scenario.reservedThreeWeeksLater) (.createEvent Scenario.args) 1000 :=
    ⟨[], Scenario.env 1, _, rfl, by decide, _, rfl⟩
  let settle : Call := .settleNoShow 1 Scenario.guest
  have about : ∀ k, settle.key = some k → k = (1, Scenario.guest) := by
    rintro _ ⟨⟩
    rfl
  have lives := seat_lives_on Scenario.network Scenario.deployment 1000 _ reserved created rfl
    about (.reservation (1, Scenario.guest)) (by decide)
  exact lives.sooner (by decide)

end Lived

/-- The life of the instance is not made longer from outside the contract. -/
def LivedStep.Unprolonged {contract : Address} : LivedStep contract → Prop
  | prolong entry _ => entry ≠ .contractInstance
  | _ => True

/-- Nor does anybody ask for a new event. -/
def LivedStep.Elsewhere {contract : Address} : LivedStep contract → Prop
  | prolong entry _ => entry ≠ .contractInstance
  | chain (.call _ call) => ∀ args, call ≠ .createEvent args
  | _ => True

namespace Lived

section Lapse
variable {tok : Token} {contract : Address} {network : Network} {s : Lived tok contract}

theorem step_short {i : LivedStep contract} (h : s.lives.Short network.ttlPolicy .contractInstance)
    (unprolonged : i.Unprolonged) :
    (s.step network i).lives.Short network.ttlPolicy .contractInstance := by
  cases i with
  | close ledgers => exact h.pass ledgers
  | prolong entry ledgers => exact h.prolong (Ne.symm unprolonged) _
  | chain j =>
    cases j with
    | transfer => exact h
    | call env call =>
      simp only [step]
      split
      · exact h.useAll _
      · exact h

theorem step_elsewhere (w : s.chain.ledger.WellFormed contract) {i : LivedStep contract}
    (elsewhere : i.Elsewhere) :
    (s.step network i).lives.ends .contractInstance = s.lives.ends .contractInstance := by
  cases i with
  | close => rfl
  | prolong entry ledgers => exact prolong_other (Ne.symm elsewhere) _
  | chain j =>
    cases j with
    | transfer => rfl
    | call env call =>
      by_cases carries : s.Carries env call
      · rw [step_carries w carries]
        apply useAll_other
        intro among
        obtain ⟨args, creates⟩ := Call.instance_written among
        exact elsewhere args creates
      · rw [step_stopped carries]

variable (network) (d : Deployment tok) (sequence : Nat)

theorem after_short {steps : List (LivedStep contract)} (unprolonged : ∀ i ∈ steps, i.Unprolonged) :
    (after network d sequence steps).lives.Short network.ttlPolicy .contractInstance := by
  have start : (deploy network d sequence : Lived tok contract).lives.Short network.ttlPolicy
      .contractInstance := Short.useAll ⟨fun t ends => by cases ends⟩ _
  exact Runs.run_invariant_along
    (P := fun s : Lived tok contract => s.lives.Short network.ttlPolicy .contractInstance)
    (fun _ i => step_short (i := i)) start (Runs.along_of_forall (step network) unprolonged _)

theorem after_elsewhere (before : List (LivedStep contract)) {quiet : List (LivedStep contract)}
    (elsewhere : ∀ i ∈ quiet, i.Elsewhere) :
    (after network d sequence (before ++ quiet)).lives.ends .contractInstance =
      (after network d sequence before).lives.ends .contractInstance := by
  induction quiet using List.reverseRecOn with
  | nil => rw [List.append_nil]
  | append_singleton quiet i ih =>
    rw [← List.append_assoc, after, Runs.run_concat, ← after]
    have w := after_wellFormed network d sequence (before ++ quiet)
    rw [step_elsewhere w (elsewhere i (by simp))]
    exact ih fun j member => elsewhere j (List.mem_append_left _ member)

theorem instance_promised (steps : List (LivedStep contract)) :
    (after network d sequence steps).lives.Promised .contractInstance
      (sequence + network.ttlPolicy.threshold) := by
  apply Promised.later _ (later_run _ steps)
  exact promised_useAll List.mem_cons_self

/-- Only the constructor and a new event bump the instance. In every run in which its life is not
made longer from outside: ninety days of ledgers after any moment since which no event was
created (or after the network's own lifetimes, if they are longer), the instance is archived,
however many bonds were reserved, cancelled, refunded and settled in the meantime. -/
theorem instance_lapses {before quiet : List (LivedStep contract)}
    (unprolonged : ∀ i ∈ before, i.Unprolonged) (elsewhere : ∀ i ∈ quiet, i.Elsewhere)
    (long : (after network d sequence before).lives.now +
        max network.minTtl (min bumpTo network.maxTtl) <
      (after network d sequence (before ++ quiet)).lives.now) :
    (after network d sequence (before ++ quiet)).lives.expired .contractInstance = true := by
  obtain ⟨t, ends, _⟩ := (instance_promised network d sequence before).ends
  have short := (after_short network d sequence unprolonged).ends t ends
  have still := (after_elsewhere network d sequence before elsewhere).trans ends
  exact expired_eq_true.mpr ⟨t, still, Nat.lt_of_le_of_lt short long⟩

end Lapse

/-- A seat is taken three weeks after its event was created; the instance is archived all the
same ninety days after the event, and before the reservation is. -/
theorem instance_lapses_reserved :
    let s := after Scenario.network Scenario.deployment 1000
      (Scenario.opened ++ (Scenario.reservedThreeWeeksLater ++ [.close (70 * dayInLedgers)]))
    s.lives.expired .contractInstance = true ∧
      s.lives.expired (.reservation (1, Scenario.guest)) = false := by
  refine ⟨instance_lapses Scenario.network Scenario.deployment 1000 ?unprolonged ?elsewhere ?long,
    by decide⟩
  case unprolonged =>
    intro i member
    cases List.mem_singleton.mp member
    trivial
  case elsewhere =>
    intro i member
    simp only [Scenario.reservedThreeWeeksLater, List.cons_append, List.nil_append,
      List.mem_cons, List.not_mem_nil, or_false] at member
    rcases member with rfl | rfl | rfl
    · trivial
    · exact fun args same => by cases same
    · trivial
  case long => decide

end Lived

end ShowUp

import ShowUp.Contract.Liquidity
import ShowUp.Shared.Reordering

/-!
# Exits do not get in each other's way

Exits share the contract's balance, and cancellations share a counter. Still an
exit of one reservation neither blocks nor changes the exit of another: taken on
their own terms they commute, so they can be executed in any order.
-/

namespace ShowUp

set_option autoImplicit false

open Host StoreTotal

/-- One exit of one reservation, with the surroundings it is called in. -/
structure ExitCall (contract : Address) where
  exit : Exit
  id : UInt64
  participant : Address
  env : Env contract

namespace ExitCall

variable {contract : Address}

def call (c : ExitCall contract) : Call := c.exit.call c.id c.participant

def key (c : ExitCall contract) : ReservationKey := (c.id, c.participant)

def step (c : ExitCall contract) : Step contract := .call c.env c.call

end ExitCall

variable {tok : Token} {contract : Address}

/-- Executing one exit, if it succeeds. -/
def takeExit (tok : Token) (l : Ledger tok.State) (c : ExitCall contract) :
    Option (Ledger tok.State) :=
  match invoke tok c.env c.call l with
  | .ok _ f => some f.ledger
  | .error .. => none

/-- Equal but for the token's own state, of which only the balances are compared. -/
structure Ledger.Same (l l' : Ledger tok.State) : Prop where
  config : l'.config = l.config
  eventCount : l'.eventCount = l.eventCount
  events : l'.events = l.events
  reservations : l'.reservations = l.reservations
  balance : ∀ a, tok.balance l'.token a = tok.balance l.token a

theorem Ledger.Same.refl (l : Ledger tok.State) : l.Same l := ⟨rfl, rfl, rfl, rfl, fun _ => rfl⟩

theorem Ledger.Same.trans {a b c : Ledger tok.State} (h₁ : a.Same b) (h₂ : b.Same c) :
    a.Same c where
  config := h₂.config.trans h₁.config
  eventCount := h₂.eventCount.trans h₁.eventCount
  events := h₂.events.trans h₁.events
  reservations := h₂.reservations.trans h₁.reservations
  balance a := (h₂.balance a).trans (h₁.balance a)

/-- What an exit's payments do to one balance. -/
def Terms.gain (contract : Address) (terms : Terms) (a : Address) : Int :=
  legsTo a terms.legs - (if a = contract then legsTotal terms.legs else 0)

/-- Everything a successful exit reads and does. -/
structure ExitCall.Taken (c : ExitCall contract) (l l' : Ledger tok.State) (r : Reservation)
    (e e' : Event) (terms : Terms) : Prop where
  ready : c.exit.Ready c.env l c.id c.participant r e
  seat : c.exit.eventAfter e = some e'
  agreed : c.exit.terms l.config.communityPool e c.key r.amount = some terms
  config : l'.config = l.config
  eventCount : l'.eventCount = l.eventCount
  events : l'.events = l.events.insert c.id e'
  reservations : l'.reservations = l.reservations.insert c.key { r with status := c.exit.status }
  balance : ∀ a, tok.balance l'.token a = tok.balance l.token a + terms.gain contract a

variable {l l' l₁ l₂ : Ledger tok.State} {c c' : ExitCall contract}

theorem takeExit_sound (sound : l.Sound tok contract) (h : takeExit tok l c = some l') :
    l'.Sound tok contract := by
  unfold takeExit at h
  split at h
  · rename_i f ok
    cases h
    have rule := (perform_ok_iff sound.wellFormed.toKeyed _).mp ok
    refine ⟨sound.wellFormed.rule rule, sound.seated.rule sound.wellFormed rule, ?_⟩
    have moved := (rule.balance sound.wellFormed).1
    have covered := sound.covered
    omega
  · cases h

theorem takeExit_taken (sound : l.Sound tok contract) (h : takeExit tok l c = some l') :
    ∃ r e e' terms, c.Taken l l' r e e' terms := by
  unfold takeExit at h
  split at h
  · rename_i f ok
    cases h
    obtain ⟨r, e, ready⟩ := Exit.Ready.of_ok sound ok
    obtain ⟨r', e₁, e', terms, t, held, _, found, _, seat, agreed, paid, rfl⟩ :=
      Rule.exit_inv ((perform_ok_iff sound.wellFormed.toKeyed _).mp ok)
    cases ready.held.symm.trans held
    cases ready.found.symm.trans found
    refine ⟨r, e, e', terms, ready, seat, agreed, rfl, rfl, rfl, rfl, ?_⟩
    intro a
    have credited := payAll_credits paid a
    dsimp only [Terms.gain]
    omega
  · cases h

theorem takeExit_succeeds (liquid : tok.Liquid) (sound : l.Sound tok contract) {r : Reservation}
    {e : Event} (ready : c.exit.Ready c.env l c.id c.participant r e) :
    ∃ l', takeExit tok l c = some l' := by
  obtain ⟨f, ok⟩ := ready.succeeds liquid sound
  refine ⟨f.ledger, ?_⟩
  have ok' : invoke tok c.env c.call l = .ok () f := ok
  simp [takeExit, ok']

/-- What is taken is determined by what is read. -/
theorem ExitCall.Taken.same {l l' : Ledger tok.State} (same : l.Same l')
    {m m' : Ledger tok.State} {r r' : Reservation} {e₁ e₂ e₁' e₂' : Event} {terms terms' : Terms}
    (h : c.Taken l m r e₁ e₁' terms) (h' : c.Taken l' m' r' e₂ e₂' terms') : m.Same m' := by
  have held := h'.ready.held
  have found := h'.ready.found
  have agreed := h'.agreed
  rw [same.reservations, h.ready.held] at held
  rw [same.events, h.ready.found] at found
  cases held
  cases found
  cases h.seat.symm.trans h'.seat
  rw [same.config, h.agreed] at agreed
  cases agreed
  constructor
  · rw [h'.config, h.config, same.config]
  · rw [h'.eventCount, h.eventCount, same.eventCount]
  · rw [h'.events, h.events, same.events]
  · rw [h'.reservations, h.reservations, same.reservations]
  · intro a
    rw [h'.balance, h.balance, same.balance]

theorem Exit.Ready.same {x : Exit} {env : Env contract} {id : UInt64} {p : Address}
    {r : Reservation} {e : Event} (same : l.Same l') (ready : x.Ready env l id p r e) :
    x.Ready env l' id p r e where
  held := by
    rw [same.reservations]
    exact ready.held
  locked := ready.locked
  found := by
    rw [same.events]
    exact ready.found
  isOpen := ready.isOpen
  fits := ready.fits

/-- Which exits are open does not depend on the seat counter. -/
theorem Exit.open_counted {x : Exit} {env : Env contract} {e : Event} {p : Address}
    (n : UInt32) : x.Open env { e with reservedCount := n } p ↔ x.Open env e p := by
  cases x <;> rfl

/-- After an exit every other exit reads what it read before, up to the seat counter of a
shared event. -/
theorem ExitCall.Taken.other_ready {r r' : Reservation} {e e' e₁ : Event} {terms : Terms}
    (taken : c.Taken l l₁ r e e' terms) (apart : c.key ≠ c'.key)
    (ready : c'.exit.Ready c'.env l c'.id c'.participant r' e₁) :
    ∃ e₂, c'.exit.Ready c'.env l₁ c'.id c'.participant r' e₂ ∧ e₁.SamePolicy e₂ ∧
      (c'.id = c.id → e₁ = e ∧ e₂ = e') ∧ (c'.id ≠ c.id → e₂ = e₁) := by
  have held : l₁.reservations.lookup (c'.id, c'.participant) = some r' := by
    rw [taken.reservations]
    exact (Finmap.lookup_insert_of_ne _ apart.symm).trans ready.held
  by_cases shared : c'.id = c.id
  · obtain rfl : e₁ = e := by
      have found := ready.found
      rw [shared, taken.ready.found] at found
      exact (Option.some.inj found).symm
    have policy := Exit.eventAfter_samePolicy taken.seat
    have counted := Exit.eventAfter_eq taken.seat
    refine ⟨e', ⟨held, ready.locked, ?_, ?_, ?_⟩, policy, fun _ => ⟨rfl, rfl⟩,
      fun other => absurd shared other⟩
    · rw [taken.events, shared]
      exact Finmap.lookup_insert _
    · rw [counted]
      exact (Exit.open_counted _).mpr ready.isOpen
    · rw [policy.field Event.organizerBps fun _ _ => rfl]
      exact ready.fits
  · refine ⟨e₁, ⟨held, ready.locked, ?_, ready.isOpen, ready.fits⟩, rfl,
      fun same => absurd same shared, fun _ => rfl⟩
    rw [taken.events, Finmap.lookup_insert_of_ne _ shared]
    exact ready.found

/-- Seats are given back in any order. -/
theorem Exit.eventAfter_comm {x y : Exit} {e e₁ e₂ e₁₂ e₂₁ : Event}
    (h₁ : x.eventAfter e = some e₁) (h₁₂ : y.eventAfter e₁ = some e₁₂)
    (h₂ : y.eventAfter e = some e₂) (h₂₁ : x.eventAfter e₂ = some e₂₁) : e₁₂ = e₂₁ := by
  cases x with
  | cancelReservation =>
    cases y with
    | cancelReservation =>
      cases h₁.symm.trans h₂
      exact Option.some.inj (h₁₂.symm.trans h₂₁)
    | checkIn | claimCancelledEventRefund | settleNoShow =>
      cases h₂
      cases h₁₂
      exact Option.some.inj (h₁.symm.trans h₂₁)
  | checkIn | claimCancelledEventRefund | settleNoShow =>
    cases h₁
    cases h₂₁
    exact Option.some.inj (h₁₂.symm.trans h₂)

theorem takeExit_swap (liquid : tok.Liquid) (sound : l.Sound tok contract)
    (apart : c.key ≠ c'.key) (h₁ : takeExit tok l c = some l₁) (h₂ : takeExit tok l c' = some l₂) :
    ∃ m m', takeExit tok l₁ c' = some m ∧ takeExit tok l₂ c = some m' ∧ m.Same m' := by
  obtain ⟨r, e, e', terms, taken⟩ := takeExit_taken sound h₁
  obtain ⟨r', d, d', terms', taken'⟩ := takeExit_taken sound h₂
  have sound₁ := takeExit_sound sound h₁
  have sound₂ := takeExit_sound sound h₂
  obtain ⟨d₁, ready', policy', shared', own'⟩ := taken.other_ready apart taken'.ready
  obtain ⟨e₁, ready, policy, shared, own⟩ := taken'.other_ready apart.symm taken.ready
  obtain ⟨m, hm⟩ := takeExit_succeeds liquid sound₁ ready'
  obtain ⟨m', hm'⟩ := takeExit_succeeds liquid sound₂ ready
  refine ⟨m, m', hm, hm', ?_⟩
  obtain ⟨_, _, d₂, _, last⟩ := takeExit_taken sound₁ hm
  obtain ⟨_, _, e₂, _, last'⟩ := takeExit_taken sound₂ hm'
  cases ready'.held.symm.trans last.ready.held
  cases ready'.found.symm.trans last.ready.found
  cases ready.held.symm.trans last'.ready.held
  cases ready.found.symm.trans last'.ready.found
  have agreed := last.agreed
  have agreed' := last'.agreed
  rw [taken.config, Exit.terms_policy policy', taken'.agreed] at agreed
  rw [taken'.config, Exit.terms_policy policy, taken.agreed] at agreed'
  cases agreed
  cases agreed'
  constructor
  · rw [last'.config, last.config, taken'.config, taken.config]
  · rw [last'.eventCount, last.eventCount, taken'.eventCount, taken.eventCount]
  · rw [last'.events, last.events, taken'.events, taken.events]
    by_cases same : c'.id = c.id
    · obtain ⟨rfl, rfl⟩ := shared' same
      obtain ⟨_, rfl⟩ := shared same.symm
      have counted := Exit.eventAfter_comm taken.seat last.seat taken'.seat last'.seat
      rw [same, Finmap.insert_insert, Finmap.insert_insert, counted]
    · obtain rfl := own' same
      obtain rfl := own (Ne.symm same)
      cases taken.seat.symm.trans last'.seat
      cases taken'.seat.symm.trans last.seat
      exact Finmap.insert_insert_of_ne _ same
  · rw [last'.reservations, last.reservations, taken'.reservations, taken.reservations]
    exact Finmap.insert_insert_of_ne _ apart.symm
  · intro a
    rw [last'.balance, last.balance, taken'.balance, taken.balance]
    omega

theorem exits_diamond (liquid : tok.Liquid) :
    Reordering.Diamond (takeExit tok) (Ledger.Sound tok contract) Ledger.Same
      (fun c c' : ExitCall contract => c.key ≠ c'.key) where
  refl := .refl
  trans := .trans
  apart_symm := Ne.symm
  good := takeExit_sound
  congr := by
    intro l l' m c sound sound' same h
    obtain ⟨_, _, _, _, taken⟩ := takeExit_taken sound h
    obtain ⟨m', h'⟩ := takeExit_succeeds liquid sound' (taken.ready.same same)
    obtain ⟨_, _, _, _, taken'⟩ := takeExit_taken sound' h'
    exact ⟨m', h', taken.same same taken'⟩
  swap := takeExit_swap liquid

theorem takeExit_ok : takeExit tok l c = some l' ↔
    ∃ f, invoke tok c.env c.call l = .ok () f ∧ f.ledger = l' := by
  unfold takeExit
  cases invoke tok c.env c.call l with
  | ok _ f => simp
  | error => simp

theorem Chain.after_exits {d : Deployment tok} {steps : List (Step contract)}
    {calls : List (ExitCall contract)}
    (h : Reordering.runAll (takeExit tok) (after d steps).ledger calls = some l') :
    (after d (steps ++ calls.map ExitCall.step)).ledger = l' := by
  induction calls generalizing steps with
  | nil =>
    cases h
    simp
  | cons c calls ih =>
    obtain ⟨l₁, first, rest⟩ := (Reordering.runAll_cons _).mp h
    obtain ⟨f, ok, same⟩ := takeExit_ok.mp first
    rw [← same, ← after_call ok] at rest
    have whole := ih rest
    rw [List.append_assoc] at whole
    exact whole

/-- Exits of different reservations that would each succeed now succeed in every order, and
every order leaves the same events, reservations and balances. -/
theorem exits_in_any_order (liquid : tok.Liquid) (d : Deployment tok)
    (steps : List (Step contract)) {calls : List (ExitCall contract)}
    (distinct : (calls.map ExitCall.key).Nodup)
    (alone : ∀ c ∈ calls, ∃ f, invoke tok c.env c.call (Chain.after d steps).ledger = .ok () f) :
    ∀ order, order.Perm calls →
      (∀ before c rest, order = before ++ c :: rest → ∃ f, invoke tok c.env c.call
        (Chain.after d (steps ++ before.map ExitCall.step)).ledger = .ok () f) ∧
      let l := (Chain.after d (steps ++ calls.map ExitCall.step)).ledger
      let l' := (Chain.after d (steps ++ order.map ExitCall.step)).ledger
      l'.events = l.events ∧ l'.reservations = l.reservations ∧
        ∀ a, tok.balance l'.token a = tok.balance l.token a := by
  intro order perm
  have apart : calls.Pairwise fun c c' => c.key ≠ c'.key := List.pairwise_map.mp distinct
  have enabled : ∀ c ∈ calls, ∃ l', takeExit tok (Chain.after d steps).ledger c = some l' := by
    intro c hc
    obtain ⟨f, ok⟩ := alone c hc
    exact ⟨f.ledger, takeExit_ok.mpr ⟨f, ok, rfl⟩⟩
  obtain ⟨l, l', run, run', same⟩ := (exits_diamond liquid).runAll_perm perm.symm
    (Chain.after_sound d steps) apart enabled
  constructor
  · intro before c rest split
    rw [split] at run'
    obtain ⟨l₁, first, tail⟩ := (Reordering.runAll_append _).mp run'
    obtain ⟨l₂, next, _⟩ := (Reordering.runAll_cons _).mp tail
    obtain ⟨f, ok, _⟩ := takeExit_ok.mp next
    rw [Chain.after_exits first]
    exact ⟨f, ok⟩
  · rw [Chain.after_exits run, Chain.after_exits run']
    exact ⟨same.events, same.reservations, same.balance⟩

/-- Two events, both reserved by the guest. -/
def Scenario.twice : List (Step bond) :=
  [.call (env 1) (.createEvent args), .call (env 1) (.createEvent args),
    .call (env 2) (.reserve 1 guest), .call (env 2) (.reserve 2 guest)]

def Scenario.exits : List (ExitCall bond) :=
  [⟨.settleNoShow, 1, guest, env 40⟩, ⟨.checkIn, 2, guest, env 20⟩]

theorem exits_in_any_order_twice :
    let l := (Chain.after Scenario.deployment
      (Scenario.twice ++ Scenario.exits.map ExitCall.step)).ledger
    let l' := (Chain.after Scenario.deployment
      (Scenario.twice ++ Scenario.exits.reverse.map ExitCall.step)).ledger
    l'.events = l.events ∧ l'.reservations = l.reservations ∧
      ∀ a, plainToken.balance l'.token a = plainToken.balance l.token a := by
  apply (exits_in_any_order plainToken_liquid Scenario.deployment Scenario.twice (by decide) ?_ _
    Scenario.exits.reverse_perm).2
  have taken : ∀ c ∈ Scenario.exits,
      (takeExit plainToken (Chain.after Scenario.deployment Scenario.twice).ledger c).isSome := by
    decide
  intro c hc
  obtain ⟨l, h⟩ := Option.isSome_iff_exists.mp (taken c hc)
  obtain ⟨f, ok, _⟩ := takeExit_ok.mp h
  exact ⟨f, ok⟩

end ShowUp

import ShowUp.Anchor.DepositMoves

/-!
# The deposit screen keeps pace with its machine

The machine waits for a flow exactly where one is live, so that a state that nothing but
an answer can leave is never left alone. What a deposit needs later is in the context by
then, and the records that are kept have an id.
-/

namespace ShowUp.Anchor

set_option autoImplicit false

/-- States in which there is nothing to press. -/
def DepositStateName.passing : DepositStateName → Bool
  | discovering | authenticating | quoting | depositStarted => true
  | _ => false

/-- States that a deposit reaches with the Anchor known. -/
def DepositStateName.acquainted : DepositStateName → Bool
  | idle | discovering | error => false
  | _ => true

theorem DepositStateName.unopened_of_passing {name : DepositStateName}
    (passing : name.passing = true) : name.unopened = true := by
  cases name <;> first | rfl | cases passing

theorem Flow.stage_unopened {p : Flow} {name : DepositStateName} (stage : p.stage = some name) :
    name.unopened = true := by
  cases p <;> cases stage <;> rfl

theorem Flow.stage_of_claims {p : Flow} (claims : p.claims = true) : p.stage = none := by
  cases p <;> first | rfl | cases claims

theorem Flow.claims_of_stage {p : Flow} (stage : p.stage ≠ none) : p.claims = false := by
  rw [← Bool.not_eq_true]
  exact fun claims => stage (stage_of_claims claims)

structure DepositState.Furnished (m : DepositState) : Prop where
  ticket : m.name.unopened = true → m.context.ticket = none
  claim : m.name.unopened = true → m.context.claimableBalanceId = none
  config : m.name.acquainted = true → m.context.config ≠ none

theorem furnished_initial : initialDepositState.Furnished where
  ticket := fun _ => rfl
  claim := fun _ => rfl
  config := fun h => by cases h

theorem DepositState.Furnished.move {m n : DepositState} (h : m.Furnished)
    (unopened : n.name.unopened = true → m.name.unopened = true)
    (acquainted : n.name.acquainted = true → m.name.acquainted = true)
    (ticket : n.context.ticket = m.context.ticket)
    (claim : n.name.unopened = true →
      n.context.claimableBalanceId = m.context.claimableBalanceId)
    (config : n.context.config = m.context.config) : n.Furnished where
  ticket := by
    rw [ticket]
    exact fun u => h.ticket (unopened u)
  claim := by
    intro u
    rw [claim u]
    exact h.claim (unopened u)
  config := by
    rw [config]
    exact fun a => h.config (acquainted a)

theorem polled_frame (m : DepositState) (status : DepositStatus) :
    (depositReducer m (.statusPolled status)).context.ticket = m.context.ticket ∧
      (depositReducer m (.statusPolled status)).context.config = m.context.config ∧
      (depositReducer m (.statusPolled status)).context.price = m.context.price := by
  rw [statusPolled_eq]
  split
  · split <;> exact ⟨rfl, rfl, rfl⟩
  · exact ⟨rfl, rfl, rfl⟩

/-- A poll that counts finds the deposit opened, and leaves it so. -/
theorem polled_name (m : DepositState) (status : DepositStatus) :
    (depositReducer m (.statusPolled status)).name = m.name ∨
      m.name.unopened = false ∧ m.name.acquainted = true ∧
        (depositReducer m (.statusPolled status)).name.unopened = false := by
  by_cases accepted : accepts m status = true
  · right
    rw [statusPolled_name accepted, stateForStatus_opened]
    simp only [accepts, canAcceptPoll, Bool.and_eq_true, decide_eq_true_eq] at accepted
    obtain ⟨⟨name | name | name | name, _⟩, _⟩ := accepted <;> rw [name] <;> exact ⟨rfl, rfl, rfl⟩
  · rw [statusPolled_ignored accepted]
    exact .inl rfl

theorem polled_claim (m : DepositState) (status : DepositStatus)
    (unopened : (depositReducer m (.statusPolled status)).name.unopened = true) :
    (depositReducer m (.statusPolled status)).context.claimableBalanceId =
      m.context.claimableBalanceId := by
  by_cases accepted : accepts m status = true
  · rw [statusPolled_name accepted, stateForStatus_opened] at unopened
    cases unopened
  · rw [statusPolled_ignored accepted]

theorem DepositState.Furnished.step {m : DepositState} (h : m.Furnished) (a : DepositAction) :
    (depositReducer m a).Furnished := by
  cases a with
  | reset => exact furnished_initial
  | failed error => exact h.move (fun u => by cases u) (fun a => by cases a) rfl (fun _ => rfl) rfl
  | start account => exact ⟨fun _ => rfl, fun _ => rfl, fun a => by cases a⟩
  | resume account config depositId claimableBalanceId =>
    refine ⟨fun _ => rfl, fun u => ?_, fun _ missing => ?_⟩
    · simp only [depositReducer] at u
      split at u <;> cases u
    · cases missing
  | discovered config =>
    simp only [depositReducer]
    split
    · exact h
    · rename_i here
      have here : m.name.unopened = true := by
        rw [Decidable.not_not.mp here]
        rfl
      refine ⟨fun _ => h.ticket here, fun _ => h.claim here, fun _ missing => ?_⟩
      cases missing
  | priced price =>
    simp only [depositReducer]
    split
    · exact h.move (fun u => u) (fun a => a) rfl (fun _ => rfl) rfl
    · rename_i here
      have here := Decidable.not_not.mp here
      exact h.move (fun _ => by rw [here]; rfl) (fun _ => by rw [here]; rfl) rfl
        (fun _ => rfl) rfl
  | authenticate | authenticated | quoted | quoteSkipped | claimed =>
    simp only [depositReducer]
    split
    · exact h
    · rename_i here
      have here := Decidable.not_not.mp here
      refine h.move (fun u => ?_) (fun _ => by rw [here]; rfl) rfl (fun u => ?_) rfl
      · first | cases u; done | (rw [here]; rfl)
      · first | cases u; done | rfl
  | quoteExpiryChecked now =>
    simp only [depositReducer]
    split
    · exact h
    · split
      · exact h
      · exact h.move (fun u => u) (fun a => a) rfl (fun _ => rfl) rfl
  | quoteRepriced id price =>
    simp only [depositReducer]
    split
    · exact h
    · exact h.move (fun u => u) (fun a => a) rfl (fun _ => rfl) rfl
  | depositStarted ticket =>
    simp only [depositReducer]
    split
    · exact h
    · rename_i here
      refine ⟨(fun u => by cases u), (fun u => by cases u), fun _ => h.config ?_⟩
      rcases Classical.not_and_iff_not_or_not.mp here with here | here
      · rw [Decidable.not_not.mp here]
        rfl
      · rw [Decidable.not_not.mp here]
        rfl
  | statusPolled status =>
    obtain ⟨ticket, config, _⟩ := polled_frame m status
    have claim := polled_claim m status
    rcases polled_name m status with same | ⟨_, before, after⟩
    · refine h.move ?_ ?_ ticket claim config <;> rw [same] <;> exact id
    · refine h.move ?_ (fun _ => before) ticket claim config
      rw [after]
      intro u
      cases u

/-! The actions where they apply. -/

section Applied
variable {m : DepositState}

theorem discovered_applied (here : m.name = .discovering) (config : AnchorConfig) :
    depositReducer m (.discovered config) =
      ⟨.pricing, { m.context with config := some config }⟩ := if_neg (not_not.mpr here)

theorem priced_applied (here : m.name = .pricing) (price : Price) :
    depositReducer m (.priced price) = ⟨.pricing, { m.context with price := some price }⟩ :=
  if_neg (not_not.mpr here)

theorem authenticate_applied (here : m.name = .pricing) :
    depositReducer m .authenticate = ⟨.authenticating, m.context⟩ := if_neg (not_not.mpr here)

theorem authenticated_applied (here : m.name = .authenticating) :
    depositReducer m .authenticated = ⟨.quoting, m.context⟩ := if_neg (not_not.mpr here)

theorem quoted_applied (here : m.name = .quoting) (quote : Quote) (now : Int) :
    depositReducer m (.quoted quote now) =
      ⟨.depositStarted,
        { m.context with
          quote := some quote
          quoteExpired := isQuoteExpired quote now
          expiredQuotePrice := none }⟩ := if_neg (not_not.mpr here)

theorem depositStarted_applied (here : m.name = .depositStarted) (ticket : DepositTicket) :
    depositReducer m (.depositStarted ticket) =
      ⟨.awaitingBankTransfer,
        { m.context with ticket := some ticket, depositId := some ticket.id }⟩ :=
  if_neg fun elsewhere => elsewhere.1 here

theorem resume_claims {claimableBalanceId : Option String}
    (claim : truthy claimableBalanceId = true) (account : String) (config : AnchorConfig)
    (depositId : String) :
    depositReducer m (.resume account config depositId claimableBalanceId) =
      ⟨.claimRequired,
        { quoteExpired := false
          account := some account
          config := some config
          depositId := some depositId
          claimableBalanceId }⟩ := by
  simp [depositReducer, claim]

theorem resume_checks {claimableBalanceId : Option String}
    (noClaim : truthy claimableBalanceId = false) (account : String) (config : AnchorConfig)
    (depositId : String) :
    depositReducer m (.resume account config depositId claimableBalanceId) =
      ⟨.awaitingBankTransfer,
        { quoteExpired := false
          account := some account
          config := some config
          depositId := some depositId
          claimableBalanceId }⟩ := by
  simp [depositReducer, noClaim]

theorem claimed_applied (here : m.name = .claimRequired) :
    depositReducer m .claimed =
      ⟨.completed, { m.context with claimableBalanceId := none }⟩ := if_neg (not_not.mpr here)

end Applied

namespace DepositScreen

structure Paced (s : DepositScreen) : Prop where
  gone : s.mounted = false → s.flow.live = none
  busy : s.mounted = true → s.flowBusy = s.flow.live.isSome
  stage : ∀ k p name, s.flow.live = some (k, p) → p.stage = some name → s.machine.name = name
  waits : s.mounted = true → s.machine.name.passing = true →
    ∃ k p, s.flow.live = some (k, p) ∧ p.stage = some s.machine.name
  rates : s.mounted = true → s.machine.name = .pricing → s.machine.context.price = none →
    ∃ k amount, s.flow.live = some (k, .pricing amount)
  recovery : s.mounted = true → s.recoveryTx.isRunning = true →
    ∃ k p, s.flow.live = some (k, p) ∧ p.claims = true

section Paced
variable {s t : DepositScreen}

/-- The flow stays what it is, and the machine where it is, or beyond all stages. -/
theorem Paced.same (h : s.Paced) (mounted : t.mounted = s.mounted)
    (live : t.flow.live = s.flow.live)
    (busy : t.flowBusy = s.flowBusy ∨ t.flowBusy = false ∧ s.flow.live = none)
    (name : t.machine.name = s.machine.name ∨
      s.machine.name.unopened = false ∧ t.machine.name.unopened = false)
    (price : t.machine.context.price = s.machine.context.price)
    (recoveryTx : t.recoveryTx.isRunning = true → s.recoveryTx.isRunning = true) : t.Paced where
  gone := by
    rw [mounted, live]
    exact h.gone
  busy := by
    rw [mounted, live]
    intro on
    rcases busy with busy | ⟨busy, free⟩
    · rw [busy, h.busy on]
    · rw [busy, free]
      rfl
  stage := by
    rw [live]
    intro k p n here stage
    have before := h.stage k p n here stage
    rcases name with same | ⟨opened, _⟩
    · rw [same, before]
    · rw [before, Flow.stage_unopened stage] at opened
      cases opened
  waits := by
    rw [mounted, live]
    intro on passing
    rcases name with same | ⟨_, opened⟩
    · rw [same] at passing ⊢
      exact h.waits on passing
    · rw [DepositStateName.unopened_of_passing passing] at opened
      cases opened
  rates := by
    rw [mounted, live, price]
    intro on pricing
    rcases name with same | ⟨_, opened⟩
    · exact h.rates on (same ▸ pricing)
    · rw [pricing] at opened
      cases opened
  recovery := by
    rw [mounted, live]
    exact fun on running => h.recovery on (recoveryTx running)

theorem Paced.of_live {k : Nat} {p : Flow} (live : t.flow.live = some (k, p))
    (mounted : t.mounted = true) (busy : t.flowBusy = true)
    (stage : ∀ name, p.stage = some name → t.machine.name = name)
    (waits : t.machine.name.passing = true → p.stage = some t.machine.name)
    (rates : t.machine.name = .pricing → t.machine.context.price = none →
      ∃ amount, p = .pricing amount)
    (recovery : t.recoveryTx.isRunning = true → p.claims = true) : t.Paced where
  gone := by
    rw [mounted]
    exact fun off => by cases off
  busy := by
    rw [live]
    exact fun _ => busy
  stage := by
    intro k' p' name live' staged
    cases live.symm.trans live'
    exact stage name staged
  waits := fun _ passing => ⟨k, p, live, waits passing⟩
  rates := by
    intro _ pricing none
    obtain ⟨amount, rfl⟩ := rates pricing none
    exact ⟨k, amount, live⟩
  recovery := fun _ running => ⟨k, p, live, recovery running⟩

theorem Paced.of_none (live : t.flow.live = none) (busy : t.mounted = true → t.flowBusy = false)
    (waits : t.mounted = true → t.machine.name.passing = false)
    (rates : t.mounted = true → t.machine.name = .pricing → t.machine.context.price ≠ none)
    (recovery : t.mounted = true → t.recoveryTx.isRunning = false) : t.Paced where
  gone := fun _ => live
  busy := by
    rw [live]
    exact busy
  stage := by
    intro k p name live'
    rw [live] at live'
    cases live'
  waits := by
    intro on passing
    rw [waits on] at passing
    cases passing
  rates := fun on pricing none => absurd none (rates on pricing)
  recovery := by
    intro on running
    rw [recovery on] at running
    cases running

/-- Where a flow is live its end sets the next one free. -/
theorem busy_finishFlow {k : Nat} {p : Flow} (live : s.flow.live = some (k, p)) :
    (s.finishFlow k).flowBusy = false := if_pos (Controllers.current_of_live live)

theorem Paced.mounted_of_live (h : s.Paced) {k : Nat} {p : Flow}
    (live : s.flow.live = some (k, p)) : s.mounted = true := by
  rw [← Bool.not_eq_false]
  intro off
  rw [h.gone off] at live
  cases live

theorem told_frame (m : DepositState) {a : DepositAction}
    (told : (∃ now, a = .quoteExpiryChecked now) ∨ (∃ id price, a = .quoteRepriced id price)) :
    (depositReducer m a).name = m.name ∧
      (depositReducer m a).context.price = m.context.price ∧
      (depositReducer m a).context.ticket = m.context.ticket := by
  rcases told with ⟨now, rfl⟩ | ⟨id, price, rfl⟩
  · simp only [depositReducer]
    split
    · exact ⟨rfl, rfl, rfl⟩
    · split <;> exact ⟨rfl, rfl, rfl⟩
  · simp only [depositReducer]
    split <;> exact ⟨rfl, rfl, rfl⟩

theorem claimed_frame (m : DepositState) :
    ((depositReducer m .claimed).name = m.name ∨
        m.name.unopened = false ∧ (depositReducer m .claimed).name.unopened = false) ∧
      (depositReducer m .claimed).context.price = m.context.price := by
  simp only [depositReducer]
  split
  · exact ⟨.inl rfl, rfl⟩
  · rename_i here
    refine ⟨.inr ⟨?_, rfl⟩, rfl⟩
    rw [Decidable.not_not.mp here]
    rfl

theorem claimed_unstaged {m : DepositState}
    (h : ¬ m.name.passing = true ∧ (m.name = .pricing → m.context.price ≠ none)) :
    ¬ (depositReducer m .claimed).name.passing = true ∧
      ((depositReducer m .claimed).name = .pricing →
        (depositReducer m .claimed).context.price ≠ none) := by
  simp only [depositReducer]
  split
  · exact h
  · exact ⟨Bool.false_ne_true, fun pricing => by cases pricing⟩

/-- No claim is running but in a flow of its own. -/
theorem Paced.at_rest (h : s.Paced) (mounted : s.mounted = true)
    (other : ∀ k p, s.flow.live = some (k, p) → p.claims = false) :
    s.recoveryTx.isRunning = false := by
  rw [← Bool.not_eq_true]
  intro running
  obtain ⟨k, p, live, claims⟩ := h.recovery mounted running
  rw [other k p live] at claims
  cases claims

theorem Paced.at_rest_beside (h : s.Paced) {k : Nat} {p : Flow} (live : s.flow.live = some (k, p))
    (other : p.claims = false) : s.recoveryTx.isRunning = false := by
  apply h.at_rest (h.mounted_of_live live)
  intro k' p' live'
  cases live.symm.trans live'
  exact other

/-- A flow begins where none is live. -/
theorem Paced.begun (h : s.Paced) {p : Flow} {m : DepositState} (on : s.mounted = true)
    (free : s.flow.live = none) (flow : t.flow = s.flow.begin p) (busy : t.flowBusy = true)
    (mounted : t.mounted = s.mounted) (machine : t.machine = m)
    (stage : ∀ name, p.stage = some name → m.name = name)
    (waits : m.name.passing = true → p.stage = some m.name)
    (rates : m.name = .pricing → m.context.price ≠ none)
    (recovery : t.recoveryTx = s.recoveryTx ∨ p.claims = true) : t.Paced := by
  subst machine
  apply @Paced.of_live t s.flow.started p
  · rw [flow]
    exact Controllers.live_begin ..
  · exact mounted.trans on
  · exact busy
  · exact stage
  · exact waits
  · exact fun pricing none => absurd none (rates pricing)
  · intro running
    rcases recovery with same | claims
    · rw [same, h.at_rest on fun k p live => by rw [free] at live; cases live] at running
      cases running
    · exact claims

/-- The live flow goes on to its next answer. -/
theorem Paced.moved (h : s.Paced) {k : Nat} {p q : Flow} {m : DepositState}
    (live : s.flow.live = some (k, p)) (flow : t.flow = s.flow.move k (some q))
    (busy : t.flowBusy = s.flowBusy) (mounted : t.mounted = s.mounted) (machine : t.machine = m)
    (stage : ∀ name, q.stage = some name → m.name = name)
    (waits : m.name.passing = true → q.stage = some m.name)
    (rates : m.name = .pricing → m.context.price = none → ∃ amount, q = .pricing amount)
    (recovery : t.recoveryTx = s.recoveryTx ∧ p.claims = false ∨ q.claims = true) : t.Paced := by
  subst machine
  have on := h.mounted_of_live live
  apply @Paced.of_live t k q
  · rw [flow]
    exact Controllers.live_move live (some q)
  · exact mounted.trans on
  · rw [busy, h.busy on, live]
    rfl
  · exact stage
  · exact waits
  · exact rates
  · intro running
    rcases recovery with ⟨same, other⟩ | claims
    · rw [same, h.at_rest_beside live other] at running
      cases running
    · exact claims

/-- The live flow ends where the machine does not wait for one. -/
theorem Paced.finished (h : s.Paced) {k : Nat} {p : Flow} {m : DepositState}
    (live : s.flow.live = some (k, p)) (flow : t.flow = s.flow.finish k)
    (busy : t.flowBusy = (s.finishFlow k).flowBusy) (machine : t.machine = m)
    (waits : ¬ m.name.passing = true) (rates : m.name = .pricing → m.context.price ≠ none)
    (recovery : t.recoveryTx = s.recoveryTx ∧ p.claims = false ∨
      t.recoveryTx.isRunning = false) : t.Paced := by
  subst machine
  apply Paced.of_none
  · rw [flow]
    exact Controllers.live_finish live
  · intro _
    rw [busy]
    exact busy_finishFlow live
  · exact fun _ => Bool.eq_false_iff.mpr waits
  · exact fun _ => rates
  · intro _
    rcases recovery with ⟨same, other⟩ | still
    · rw [same]
      exact h.at_rest_beside live other
    · exact still

/-- Without a live flow of its own the machine waits for none. -/
theorem Paced.unstaged (h : s.Paced) (mounted : s.mounted = true)
    (stage : ∀ k p, s.flow.live = some (k, p) → p.stage = none) :
    ¬ s.machine.name.passing = true ∧
      (s.machine.name = .pricing → s.machine.context.price ≠ none) := by
  constructor
  · intro passing
    obtain ⟨k, p, live, staged⟩ := h.waits mounted passing
    rw [stage k p live] at staged
    cases staged
  · intro pricing none
    obtain ⟨k, amount, live⟩ := h.rates mounted pricing none
    cases stage k _ live

theorem Paced.unstaged_beside (h : s.Paced) {k : Nat} {p : Flow}
    (live : s.flow.live = some (k, p)) (stage : p.stage = none) :
    ¬ s.machine.name.passing = true ∧
      (s.machine.name = .pricing → s.machine.context.price ≠ none) := by
  apply h.unstaged (h.mounted_of_live live)
  intro k' p' live'
  cases live.symm.trans live'
  exact stage

end Paced

/-- A status concerns the machine, the records and the loop it came to. -/
structure Beside (s t : DepositScreen) : Prop where
  address : t.address = s.address
  mounted : t.mounted = s.mounted
  amount : t.amount = s.amount
  recoveryTx : t.recoveryTx = s.recoveryTx
  pollWarning : t.pollWarning = s.pollWarning
  flow : t.flow = s.flow
  flowBusy : t.flowBusy = s.flowBusy
  requests : t.requests = s.requests
  access : t.access = s.access

theorem polledStatus_beside (s : DepositScreen) (j : Nat) (loop : PollLoop)
    (status : DepositStatus) : Beside s (s.polledStatus j loop status) := by
  unfold polledStatus
  dsimp only
  split <;> constructor <;> rfl

theorem polledStatus_machine (s : DepositScreen) (j : Nat) (loop : PollLoop)
    (status : DepositStatus) :
    (s.polledStatus j loop status).machine = depositReducer s.machine (.statusPolled status) := by
  unfold polledStatus
  dsimp only
  split <;> rfl

theorem Paced.move {s t : DepositScreen} {i : ScreenInput} (h : s.Paced) (m : Move s i t) :
    t.Paced := by
  cases m with
  | quiet q =>
    refine h.same q.mounted q.flow q.flowBusy (.inl ?_) ?_ ?_
    · rw [q.machine]
    · rw [q.machine]
    · rw [q.recoveryTx]
      exact id
  | typed amount => exact h.same rfl rfl (.inl rfl) (.inl rfl) rfl id
  | told told =>
    obtain ⟨name, price, _⟩ := told_frame s.machine told
    exact h.same rfl rfl (.inl rfl) (.inl name) price id
  | reprices | storage | earlierMount => exact h.same rfl rfl (.inl rfl) (.inl rfl) rfl id
  | began mounted name free positive =>
    refine h.begun mounted free rfl rfl rfl rfl ?_ ?_ ?_ (.inl rfl)
    · rintro name ⟨⟩
      rfl
    · exact fun _ => rfl
    · exact fun pricing => by cases pricing
  | opens mounted name free =>
    refine h.begun mounted free rfl rfl rfl (authenticate_applied name) ?_ ?_ ?_ (.inl rfl)
    · rintro name ⟨⟩
      rfl
    · exact fun _ => rfl
    · exact fun pricing => by cases pricing
  | resumes mounted name free saved account =>
    refine h.begun mounted free rfl rfl rfl rfl ?_ ?_ ?_ (.inl rfl)
    · rintro _ ⟨⟩
      exact name
    · exact fun _ => congrArg some name.symm
    · exact fun pricing => by cases name.symm.trans pricing
  | simulates mounted ticket free =>
    obtain ⟨waits, rates⟩ := h.unstaged mounted fun k p live => by rw [free] at live; cases live
    refine h.begun mounted free rfl rfl rfl rfl ?_ ?_ rates (.inl rfl)
    · rintro _ ⟨⟩
    · exact fun passing => absurd passing waits
  | claims mounted name free =>
    obtain ⟨waits, rates⟩ := h.unstaged mounted fun k p live => by rw [free] at live; cases live
    refine h.begun mounted free rfl rfl rfl rfl ?_ ?_ rates (.inr rfl)
    · rintro _ ⟨⟩
    · exact fun passing => absurd passing waits
  | discovered config live =>
    have here := discovered_applied (h.stage _ _ _ live rfl) config
    refine h.moved live rfl rfl rfl here ?_ ?_ ?_ (.inl ⟨rfl, rfl⟩)
    · rintro _ ⟨⟩
      rfl
    · exact fun _ => rfl
    · exact fun _ _ => ⟨_, rfl⟩
  | resumed config live claim =>
    refine h.finished live rfl rfl (@resume_claims s.machine _ claim s.address config _)
      Bool.false_ne_true ?_ (.inl ⟨rfl, rfl⟩)
    exact fun pricing => by cases pricing
  | resumedChecks config live noClaim =>
    refine h.finished live rfl rfl (@resume_checks s.machine _ noClaim s.address config _)
      Bool.false_ne_true ?_ (.inl ⟨rfl, rfl⟩)
    exact fun pricing => by cases pricing
  | priced price live =>
    have here := priced_applied (h.stage _ _ _ live rfl) price
    refine h.finished live rfl rfl here Bool.false_ne_true ?_ (.inl ⟨rfl, rfl⟩)
    exact fun _ none => by cases none
  | signedIn live =>
    have here := authenticated_applied (h.stage _ _ _ live rfl)
    refine h.moved live rfl rfl rfl here ?_ ?_ ?_ (.inl ⟨rfl, rfl⟩)
    · rintro _ ⟨⟩
      rfl
    · exact fun _ => rfl
    · exact fun pricing => by cases pricing
  | quoted quote now live =>
    have here := quoted_applied (h.stage _ _ _ live rfl) quote now
    refine h.moved live rfl rfl rfl here ?_ ?_ ?_ (.inl ⟨rfl, rfl⟩)
    · rintro _ ⟨⟩
      rfl
    · exact fun _ => rfl
    · exact fun pricing => by cases pricing
  | opened ticket live id =>
    have here := depositStarted_applied (h.stage _ _ _ live rfl) ticket
    refine h.finished live rfl rfl here Bool.false_ne_true ?_ (.inl ⟨rfl, rfl⟩)
    exact fun pricing => by cases pricing
  | failed error live stage =>
    refine h.finished live rfl rfl rfl Bool.false_ne_true ?_ (.inl ⟨rfl, ?_⟩)
    · exact fun pricing => by cases pricing
    · exact Flow.claims_of_stage stage
  | advanced phase live before after =>
    obtain ⟨waits, rates⟩ := h.unstaged_beside live (Flow.stage_of_claims before)
    refine h.moved live rfl rfl rfl rfl ?_ ?_ ?_ (.inr after)
    · intro name staged
      rw [Flow.stage_of_claims after] at staged
      cases staged
    · exact fun passing => absurd passing waits
    · exact fun pricing none => absurd none (rates pricing)
  | @ended k p tx warning live stage spent kept text =>
    obtain ⟨waits, rates⟩ := h.unstaged_beside live stage
    refine h.finished live rfl rfl rfl waits rates ?_
    cases claims : p.claims with
    | true => exact .inr (spent claims)
    | false => exact .inl ⟨kept claims, rfl⟩
  | @claimed k hash phase here =>
    obtain ⟨name, price⟩ := claimed_frame s.machine
    cases off : s.flow.aborted k with
    | true =>
      have quiet := quiet_finishFlow off
      exact h.same rfl quiet.flow quiet.flowBusy name price fun running => by cases running
    | false =>
      have live := Controllers.live_of_phase phase off
      obtain ⟨waits, rates⟩ := claimed_unstaged (h.unstaged_beside live rfl)
      exact h.finished live rfl rfl rfl waits rates (.inr rfl)
  | reset mounted =>
    refine Paced.of_none (Controllers.live_abort _) (fun _ => rfl) (fun _ => rfl) ?_ fun _ => rfl
    exact fun _ pricing => by cases pricing
  | unmounted =>
    apply Paced.of_none (Controllers.live_abort _) <;> exact fun off => by cases off
  | @polled j loop status live claim right =>
    have b := polledStatus_beside s j loop status
    have machine := polledStatus_machine s j loop status
    refine h.same b.mounted (by rw [b.flow]) (.inl b.flowBusy) ?_ ?_
      (by rw [b.recoveryTx]; exact id)
    · rw [machine]
      rcases polled_name s.machine status with same | ⟨before, _, after⟩
      · exact .inl same
      · exact .inr ⟨before, after⟩
    · rw [machine]
      exact (polled_frame s.machine status).2.2
  | pollGoes live same => exact h.same rfl rfl (.inl rfl) (.inl rfl) rfl id
  | pollEnds warning live text => exact h.same rfl rfl (.inl rfl) (.inl rfl) rfl id
  | pollBegins config enabling known => exact h.same rfl rfl (.inl rfl) (.inl rfl) rfl id

end DepositScreen

end ShowUp.Anchor

import ShowUp.Anchor.DepositScreen
import ShowUp.Anchor.Discovery

/-!
# Where the deposit screen talks to

The screen asks `discover` once for each flow and works with the answer from then on: in
the flow, in the checks that go on beside it, and with a trustline that is being enabled.
-/

namespace ShowUp.Anchor

set_option autoImplicit false

def Flow.config : Flow → Option AnchorConfig
  | .signingIn config _ | .quoting config _ | .opening config _ _ => some config
  | _ => none

def DepositAction.config : DepositAction → Option AnchorConfig
  | .discovered config | .resume _ config _ _ => some config
  | _ => none

theorem depositReducer_config (m : DepositState) (a : DepositAction) {config : AnchorConfig}
    (known : (depositReducer m a).context.config = some config) :
    m.context.config = some config ∨ a.config = some config := by
  cases a with
  | resume => exact .inr known
  | reset => cases known
  | start => cases known
  | failed => exact .inl known
  | statusPolled status =>
    rw [statusPolled_eq] at known
    split at known
    · split at known <;> exact .inl known
    · exact .inl known
  | discovered config' =>
    simp only [depositReducer] at known
    split at known
    · exact .inl known
    · exact .inr known
  | quoteExpiryChecked now =>
    simp only [depositReducer] at known
    split at known
    · exact .inl known
    · split at known <;> exact .inl known
  | _ =>
    simp only [depositReducer] at known
    split at known <;> exact .inl known

namespace DepositScreen

/-- Every config that is kept somewhere is one of these. -/
structure Only (ok : AnchorConfig → Prop) (s : DepositScreen) : Prop where
  machine : ∀ config, s.machine.context.config = some config → ok config
  flow : ∀ k p config, s.flow.phase k = some p → p.config = some config → ok config
  polling : ∀ j loop, s.polling.phase j = some loop → ok loop.config
  enabling : ∀ config depositId, (config, depositId) ∈ s.enabling → ok config

namespace Only

variable {ok : AnchorConfig → Prop} {s t : DepositScreen} {k : Nat}

theorem same (h : s.Only ok) (machine : t.machine = s.machine) (flow : t.flow = s.flow)
    (polling : t.polling = s.polling) (enabling : t.enabling = s.enabling) : t.Only ok where
  machine := machine ▸ h.machine
  flow := flow ▸ h.flow
  polling := polling ▸ h.polling
  enabling := enabling ▸ h.enabling

theorem dispatch (h : s.Only ok) (a : DepositAction)
    (new : ∀ config, a.config = some config → ok config) : (s.dispatch a).Only ok where
  machine config known := (depositReducer_config s.machine a known).elim (h.machine config)
    (new config)
  flow := h.flow
  polling := h.polling
  enabling := h.enabling

/-- An action that brings no config. -/
theorem dispatch_plain (h : s.Only ok) {a : DepositAction} (plain : a.config = none) :
    (s.dispatch a).Only ok :=
  h.dispatch a fun config known => by cases plain.symm.trans known

theorem beginFlow (h : s.Only ok) (p : Flow)
    (new : ∀ config, p.config = some config → ok config) : (s.beginFlow p).Only ok where
  machine := h.machine
  flow := by
    intro k q config phase known
    by_cases begun : k = s.flow.started
    · subst begun
      cases (Function.update_self ..).symm.trans phase
      exact new config known
    · exact h.flow k q config ((Function.update_of_ne begun ..).symm.trans phase) known
  polling := h.polling
  enabling := h.enabling

theorem moveFlow (h : s.Only ok) (k : Nat) (p : Flow)
    (new : ∀ config, p.config = some config → ok config) : (s.moveFlow k p).Only ok where
  machine := h.machine
  flow := by
    intro j q config phase known
    rcases Controllers.of_phase_move phase with next | before
    · cases next
      exact new config known
    · exact h.flow j q config before known
  polling := h.polling
  enabling := h.enabling

theorem finishFlow (h : s.Only ok) (k : Nat) : (s.finishFlow k).Only ok where
  machine := h.machine
  flow := by
    intro j q config phase known
    rcases Controllers.of_phase_move phase with next | before
    · cases next
    · exact h.flow j q config before known
  polling := h.polling
  enabling := h.enabling

theorem pollUntilStopped (h : s.Only ok) {config : AnchorConfig} (new : ok config)
    (depositId : String) : (s.pollUntilStopped config depositId).Only ok where
  machine := h.machine
  flow := h.flow
  polling := by
    intro j loop phase
    by_cases begun : j = s.polling.started
    · subst begun
      cases (Function.update_self ..).symm.trans phase
      exact new
    · exact h.polling j loop ((Function.update_of_ne begun ..).symm.trans phase)
  enabling := h.enabling

theorem movePoll (h : s.Only ok) (j : Nat) {next : Option PollLoop}
    (new : ∀ loop, next = some loop → ok loop.config) : (s.movePoll j next).Only ok where
  machine := h.machine
  flow := h.flow
  polling := by
    intro i loop phase
    rcases Controllers.of_phase_move phase with moved | before
    · exact new loop moved
    · exact h.polling i loop before
  enabling := h.enabling

theorem fail (h : s.Only ok) (k : Nat) (error : AnchorError) : (s.fail k error).Only ok :=
  (h.dispatch_plain rfl).finishFlow k

theorem answer (h : s.Only ok) {go : Flow → Option DepositScreen}
    (goes : ∀ p next, s.flow.phase k = some p → go p = some next → next.Only ok) :
    (s.answer k go).Only ok := by
  unfold DepositScreen.answer
  split
  · exact h
  · rename_i next found
    split
    · exact h.finishFlow k
    · obtain ⟨p, phase, found⟩ := Option.bind_eq_some_iff.mp found
      exact goes p next phase found

theorem priceDeposit (h : s.Only ok) : s.priceDeposit.Only ok := by
  have begun := h.beginFlow (.discovering (Utf16.trim s.amount)) fun _ known => by cases known
  unfold DepositScreen.priceDeposit
  split
  · exact h
  · dsimp only
    split
    · exact (begun.finishFlow _).same rfl rfl rfl rfl
    · have started := begun.dispatch_plain (a := .start (some s.address)) rfl
      exact started.same rfl rfl rfl rfl

theorem openDeposit (h : s.Only ok) : s.openDeposit.Only ok := by
  unfold DepositScreen.openDeposit
  split
  · exact h
  · rename_i config known
    split
    · exact h
    · have begun := h.beginFlow (.signingIn config (Utf16.trim s.amount))
        (by rintro _ ⟨⟩; exact h.machine config known)
      exact begun.dispatch_plain rfl

theorem resumeDeposit (h : s.Only ok) (record : PersistedDeposit String) :
    (s.resumeDeposit record).Only ok := by
  unfold DepositScreen.resumeDeposit
  split
  · exact h
  · exact h.beginFlow _ fun _ known => by cases known

theorem simulateTransfer (h : s.Only ok) : s.simulateTransfer.Only ok := by
  unfold DepositScreen.simulateTransfer
  split
  · exact h
  · split
    · exact h
    · exact (h.beginFlow .simulating fun _ known => by cases known).same rfl rfl rfl rfl

theorem claimBalance (h : s.Only ok) : s.claimBalance.Only ok := by
  unfold DepositScreen.claimBalance
  split
  · exact h
  · rename_i id _
    split
    · exact h
    · exact (h.beginFlow (.loadingAccount id) fun _ known => by cases known).same rfl rfl rfl rfl

theorem discoveredBy (h : s.Only ok) (answer : Except FlowFailure AnchorConfig)
    (new : ∀ config, answer = .ok config → ok config) {p : Flow} {next : DepositScreen}
    (found : s.discoveredBy k answer p = some next) : next.Only ok := by
  cases p with
  | discovering amount =>
    cases found
    cases answer with
    | error failure => exact h.fail ..
    | ok config =>
      have told := h.dispatch (.discovered config) (by rintro _ ⟨⟩; exact new config rfl)
      have moved := told.moveFlow k (.pricing amount) fun _ known => by cases known
      exact moved.same rfl rfl rfl rfl
  | resuming record =>
    cases found
    cases answer with
    | error failure => exact h.fail ..
    | ok config =>
      have resumed := h.dispatch
        (.resume s.address config record.depositId record.claimableBalanceId)
        (by rintro _ ⟨⟩; exact new config rfl)
      dsimp only
      split
      · exact resumed.finishFlow k
      · exact (resumed.pollUntilStopped (new config rfl) record.depositId).finishFlow k
  | _ => cases found

theorem pricedBy (h : s.Only ok) (answer : Except FlowFailure Price) {p : Flow}
    {next : DepositScreen} (found : s.pricedBy k answer p = some next) : next.Only ok := by
  cases p with
  | pricing amount =>
    cases found
    cases answer with
    | error failure => exact h.fail ..
    | ok price => exact (h.dispatch_plain rfl).finishFlow k
  | _ => cases found

theorem signedInBy (h : s.Only ok) (answer : Except FlowFailure Unit) {p : Flow}
    (known : ∀ config, p.config = some config → ok config) {next : DepositScreen}
    (found : s.signedInBy k answer p = some next) : next.Only ok := by
  cases p with
  | signingIn config amount =>
    cases found
    cases answer with
    | error failure => exact h.fail ..
    | ok _ =>
      have told := h.dispatch_plain (a := .authenticated) rfl
      exact (told.moveFlow k (.quoting config amount) known).same rfl rfl rfl rfl
  | _ => cases found

theorem quotedBy (h : s.Only ok) (answer : Except FlowFailure Quote) (now : Int) {p : Flow}
    (known : ∀ config, p.config = some config → ok config) {next : DepositScreen}
    (found : s.quotedBy k answer now p = some next) : next.Only ok := by
  cases p with
  | quoting config amount =>
    cases found
    cases answer with
    | error failure => exact h.fail ..
    | ok quote =>
      have told := h.dispatch_plain (a := .quoted quote now) rfl
      exact (told.moveFlow k (.opening config amount quote) known).same rfl rfl rfl rfl
  | _ => cases found

theorem openedBy (h : s.Only ok) (answer : Except FlowFailure DepositTicket) {p : Flow}
    (known : ∀ config, p.config = some config → ok config) {next : DepositScreen}
    (found : s.openedBy k answer p = some next) : next.Only ok := by
  cases p with
  | opening config amount quote =>
    cases found
    cases answer with
    | error failure => exact h.fail ..
    | ok ticket =>
      have told := h.dispatch_plain (a := .depositStarted ticket) rfl
      have checks := told.pollUntilStopped (known config rfl) ticket.id
      exact (checks.finishFlow k).same rfl rfl rfl rfl
  | _ => cases found

theorem simulatedBy (h : s.Only ok) (answer : Except FlowFailure Unit) {p : Flow}
    {next : DepositScreen} (found : s.simulatedBy k answer p = some next) : next.Only ok := by
  cases p with
  | simulating =>
    cases found
    cases answer with
    | error failure => exact (h.finishFlow k).same rfl rfl rfl rfl
    | ok _ => exact h.finishFlow k
  | _ => cases found

theorem loadedBy (h : s.Only ok) (answer : Except FlowFailure Unit) {p : Flow}
    {next : DepositScreen} (found : s.loadedBy k answer p = some next) : next.Only ok := by
  cases p with
  | loadingAccount id =>
    cases found
    cases answer with
    | error failure => exact (h.finishFlow k).same rfl rfl rfl rfl
    | ok _ =>
      dsimp only
      split
      · exact (h.moveFlow k .signing fun _ known => by cases known).same rfl rfl rfl rfl
      · exact (h.finishFlow k).same rfl rfl rfl rfl
  | _ => cases found

theorem signedBy (h : s.Only ok) (answer : Except FlowFailure Unit) {p : Flow}
    {next : DepositScreen} (found : s.signedBy k answer p = some next) : next.Only ok := by
  cases p with
  | signing =>
    cases found
    cases answer with
    | error failure => exact (h.finishFlow k).same rfl rfl rfl rfl
    | ok _ => exact (h.moveFlow k .submitting fun _ known => by cases known).same rfl rfl rfl rfl
  | _ => cases found

theorem submitted (h : s.Only ok) (answer : Except FlowFailure String) :
    (s.submitted k answer).Only ok := by
  unfold DepositScreen.submitted
  split
  · cases answer with
    | ok hash => exact ((h.dispatch_plain (a := .claimed) rfl).finishFlow k).same rfl rfl rfl rfl
    | error failure =>
      dsimp only
      split
      · exact h.finishFlow k
      · exact (h.finishFlow k).same rfl rfl rfl rfl
  · exact h

theorem polledBy (h : s.Only ok) (j : Nat) (answer : Except FlowFailure DepositStatus) :
    (s.polledBy j answer).Only ok := by
  unfold DepositScreen.polledBy
  split
  · exact h
  rename_i loop phase
  have ends : (s.movePoll j none).Only ok := h.movePoll j fun _ none => by cases none
  split
  · exact h
  split
  · exact ends
  cases answer with
  | error failure => exact ends.same rfl rfl rfl rfl
  | ok status =>
    have told := h.dispatch_plain (a := .statusPolled status) rfl
    dsimp only [polledStatus]
    split
    · exact (told.movePoll j fun _ none => by cases none).same rfl rfl rfl rfl
    · exact (told.movePoll j (by rintro _ ⟨⟩; exact h.polling j loop phase)).same rfl rfl rfl rfl

theorem wokeBy (h : s.Only ok) (j : Nat) : (s.wokeBy j).Only ok := by
  unfold DepositScreen.wokeBy
  split
  · exact h
  rename_i loop phase
  have ends : (s.movePoll j none).Only ok := h.movePoll j fun _ none => by cases none
  split
  · exact h
  split
  · exact ends
  split
  · exact h.movePoll j (by rintro _ ⟨⟩; exact h.polling j loop phase)
  · exact ends.same rfl rfl rfl rfl

theorem trustlineOver (h : s.Only ok) (n : Nat) :
    Only ok { s with enabling := s.enabling.eraseIdx n } :=
  ⟨h.machine, h.flow, h.polling, fun _ _ member =>
    h.enabling _ _ (List.mem_of_mem_eraseIdx member)⟩

theorem step (h : s.Only ok) (i : ScreenInput)
    (new : ∀ k config, i = .discovered k (.ok config) → ok config) : (s.step i).Only ok := by
  have known {k : Nat} {p : Flow} (phase : s.flow.phase k = some p) :
      ∀ config, p.config = some config → ok config := fun config => h.flow k p config phase
  cases i with
  | typed amount =>
    simp only [DepositScreen.step]
    split
    · exact h.same rfl rfl rfl rfl
    · exact h
  | checkRate =>
    simp only [DepositScreen.step]
    split
    · exact h.priceDeposit
    · exact h
  | continueWithWallet =>
    simp only [DepositScreen.step]
    split
    · exact h.openDeposit
    · exact h
  | resume =>
    simp only [DepositScreen.step]
    split
    · split
      · exact h.resumeDeposit _
      · exact h
    · exact h
  | simulate =>
    simp only [DepositScreen.step]
    split
    · exact h.simulateTransfer
    · exact h
  | resumeChecks =>
    simp only [DepositScreen.step]
    split
    · rename_i config depositId found _
      split
      · exact h.pollUntilStopped (h.machine config found) depositId
      · exact h
    · exact h
  | claim =>
    simp only [DepositScreen.step]
    split
    · exact h.claimBalance
    · exact h
  | enableUsdc =>
    simp only [DepositScreen.step]
    split
    · rename_i config depositId found _
      split
      · refine ⟨h.machine, h.flow, h.polling, ?_⟩
        intro config' depositId' member
        rcases List.mem_append.mp member with before | added
        · exact h.enabling _ _ before
        · cases List.mem_singleton.mp added
          exact h.machine config found
      · exact h
    · exact h
  | reset =>
    simp only [DepositScreen.step]
    split
    · refine ⟨?_, h.flow, h.polling, h.enabling⟩
      intro _ none
      cases none
    · exact h
  | unmount => exact ⟨h.machine, h.flow, h.polling, h.enabling⟩
  | wallet canTransact => exact h.same rfl rfl rfl rfl
  | storage | earlierMount | savedRead => exact h.same rfl rfl rfl rfl
  | reprices =>
    simp only [DepositScreen.step]
    split
    · split
      · exact h.same rfl rfl rfl rfl
      · exact h
    · exact h
  | quoteExpiryChecked now =>
    simp only [DepositScreen.step]
    split
    · exact h.dispatch_plain rfl
    · exact h
  | quoteRepriced quoteId price =>
    simp only [DepositScreen.step]
    split
    · exact h.dispatch_plain rfl
    · exact h
  | discovered k answer =>
    have new : ∀ config, answer = .ok config → ok config := by
      rintro config rfl
      exact new k config rfl
    exact h.answer fun p next _ found => h.discoveredBy answer new found
  | priced k answer => exact h.answer fun p next _ found => h.pricedBy answer found
  | signedIn k answer =>
    exact h.answer fun p next phase found => h.signedInBy answer (known phase) found
  | quoted k answer now =>
    exact h.answer fun p next phase found => h.quotedBy answer now (known phase) found
  | depositOpened k answer =>
    exact h.answer fun p next phase found => h.openedBy _ (known phase) found
  | transferSimulated k answer => exact h.answer fun p next _ found => h.simulatedBy answer found
  | accountLoaded k answer => exact h.answer fun p next _ found => h.loadedBy answer found
  | claimSigned k answer => exact h.answer fun p next _ found => h.signedBy answer found
  | claimSubmitted k answer => exact h.submitted answer
  | polled j answer => exact h.polledBy j _
  | woke j => exact h.wokeBy j
  | trustlineEnabled n =>
    simp only [DepositScreen.step]
    split
    · rename_i config depositId found
      have kept := h.enabling config depositId (List.mem_of_getElem? found)
      exact (h.trustlineOver n).pollUntilStopped kept depositId
    · exact h
  | trustlineFailed n => exact h.trustlineOver n

theorem imp {ok' : AnchorConfig → Prop} (h : s.Only ok)
    (weaker : ∀ config, ok config → ok' config) :
    s.Only ok' where
  machine config found := weaker config (h.machine config found)
  flow k p config phase known := weaker config (h.flow k p config phase known)
  polling j loop phase := weaker loop.config (h.polling j loop phase)
  enabling config depositId member := weaker config (h.enabling config depositId member)

theorem mount (address : String) (demoTools canTransact : Bool)
    (store : Option (PersistedDeposit String)) :
    (mount address demoTools canTransact store).Only ok where
  machine _ none := by cases none
  flow _ _ _ none := by cases none
  polling _ _ none := by cases none
  enabling _ _ none := by cases none

end Only

end DepositScreen

/-! The screen with `discover` beside it. -/

structure AnchorPage where
  discovery : Discovery
  screen : DepositScreen

inductive AnchorPageInput where
  | discovery (input : DiscoveryInput)
  | screen (input : ScreenInput)

namespace AnchorPage

def step (host : AnchorHost) (p : AnchorPage) : AnchorPageInput → AnchorPage
  | .discovery input => { p with discovery := p.discovery.step host input }
  | .screen input => { p with screen := p.screen.step input }

/-- A flow's config is what some call of `discover` has resolved to for the configured domain. -/
def Answered (homeDomain : String) (p : AnchorPage) : AnchorPageInput → Prop
  | .screen (.discovered _ (.ok config)) => (homeDomain, .ok config) ∈ p.discovery.answers
  | _ => True

structure Sound (host : AnchorHost) (homeDomain : String) (p : AnchorPage) : Prop where
  discovery : p.discovery.Sound host
  screen : p.screen.Only (p.discovery.Obtained host homeDomain)

theorem Sound.step {host : AnchorHost} {homeDomain : String} {p : AnchorPage}
    (h : p.Sound host homeDomain) (i : AnchorPageInput) (answered : p.Answered homeDomain i) :
    (p.step host i).Sound host homeDomain := by
  cases i with
  | discovery input =>
    refine ⟨h.discovery.step input, h.screen.imp fun config obtained => ?_⟩
    exact obtained.later fun _ before => Discovery.served_step before
  | screen input =>
    refine ⟨h.discovery, h.screen.step input ?_⟩
    rintro k config rfl
    exact h.discovery.answers homeDomain config answered

/-- In every run, whatever is pressed and answered in whatever order, and whoever else calls
`discover` or drops its cache: each config that a flow or the status checks work with, that the
machine has or that an enabled trustline goes on with was published by the configured domain for
Testnet and the pinned asset, and its endpoints are https. -/
theorem configs_are_vetted (host : AnchorHost) (homeDomain address : String)
    (demoTools canTransact : Bool) (store : Option (PersistedDeposit String))
    {inputs : List AnchorPageInput} (answered : Runs.Along (AnchorPage.step host)
      (Answered homeDomain) ⟨.initial, .mount address demoTools canTransact store⟩ inputs)
    {p : AnchorPage} (reached : p = Runs.run (AnchorPage.step host)
      ⟨.initial, .mount address demoTools canTransact store⟩ inputs) :
    p.screen.Only (p.discovery.Obtained host homeDomain) := by
  have start : Sound host homeDomain ⟨.initial, .mount address demoTools canTransact store⟩ :=
    ⟨Discovery.initial_sound, .mount address demoTools canTransact store⟩
  subst reached
  have keep := Runs.run_invariant_along (P := Sound host homeDomain)
    (fun _ i h answered => Sound.step h i answered) start answered
  exact keep.screen

namespace Scenario

def host : AnchorHost where
  assetCode := "USDC"
  assetIssuer := "G"
  protocol endpoint := if endpoint = "" then none else some "https:"
  issued := by decide
  protocol_empty := rfl

def toml : StellarToml where
  signingKey := some sampleConfig.signingKey
  webAuthEndpoint := some sampleConfig.webAuthEndpoint
  transferServer := some sampleConfig.transferServer
  anchorQuoteServer := some sampleConfig.quoteServer
  networkPassphrase := some sampleConfig.networkPassphrase
  kycServer := none
  currencies := [⟨some "USDC", none⟩, ⟨some "USDC", some "G"⟩]

/-- The rate is asked for with the config that was discovered before. -/
def inputs : List AnchorPageInput := [
  .discovery (.discover "anchor.example"),
  .discovery (.resolved 0 (.ok toml)),
  .screen .checkRate,
  .discovery (.discover "anchor.example"),
  .screen (.discovered 0 (.ok sampleConfig))]

end Scenario

theorem configs_are_vetted_discovered :
    ∃ p, p = Runs.run (AnchorPage.step Scenario.host) ⟨.initial, .mount "G" false true none⟩
        Scenario.inputs ∧
      p.screen.machine.context.config = some sampleConfig ∧
      p.discovery.Obtained Scenario.host "anchor.example" sampleConfig := by
  have answered : Runs.Along (AnchorPage.step Scenario.host) (Answered "anchor.example")
      ⟨.initial, .mount "G" false true none⟩ Scenario.inputs :=
    ⟨trivial, trivial, trivial, trivial, List.mem_cons_self, trivial⟩
  have only := configs_are_vetted Scenario.host "anchor.example" "G" false true none answered rfl
  have config : (Runs.run (AnchorPage.step Scenario.host)
      ⟨.initial, .mount "G" false true none⟩ Scenario.inputs).screen.machine.context.config =
      some sampleConfig := rfl
  exact ⟨_, rfl, config, only.machine sampleConfig config⟩

end AnchorPage

end ShowUp.Anchor

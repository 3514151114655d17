import ShowUp.Shared.JsValue
import ShowUp.Shared.Runs

/-!
# The wallet connection

`WalletProvider` of `lib/wallet/provider.tsx`. An action that has asked the wallet
goes on whenever the answer comes, and commits over whatever was committed since.
-/

namespace ShowUp.Client

set_option autoImplicit false

open Runs

def testnetNetworkPassphrase : String := "Test SDF Network ; September 2015"

inductive WalletError where
  | noWallet
  | mobileWalletUnconfigured
  | rejected
  | wrongNetwork (actual expected : String)
  | accountChanged (actual : Option String) (expected : String)
  | notConnected
  | unknown
  deriving DecidableEq

structure WalletSnapshot where
  address : Option String
  network : String
  error : Option WalletError := none

inductive WalletStatus where
  | disconnected
  | connecting
  | connected
  | wrongNetwork
  | error
  deriving DecidableEq

structure WalletState where
  address : Option String
  network : Option String
  status : WalletStatus
  error : Option WalletError
  notice : Option String
  deriving DecidableEq

def disconnectedState : WalletState where
  address := none
  network := none
  status := .disconnected
  error := none
  notice := none

def connectingState : WalletState := { disconnectedState with status := .connecting }

def stateFromError (error : WalletError) (address : Option String) : WalletState :=
  match error with
  | .wrongNetwork actual _ =>
    { address := address, network := some actual, status := .wrongNetwork, error := some error,
      notice := none }
  | _ =>
    { address := none, network := none,
      status := if error = .rejected then .disconnected else .error,
      error := some error, notice := none }

/-- What `applySnapshot` commits over the current state. -/
def applySnapshot (current : WalletState) (snapshot : WalletSnapshot) : WalletState :=
  match snapshot.error with
  | some error =>
    if error = .noWallet ∨ error = .notConnected then { disconnectedState with error := some error }
    else stateFromError error current.address
  | none =>
    if !truthy snapshot.address then disconnectedState
    else if truthy current.address ∧ snapshot.address ≠ current.address then
      { disconnectedState with notice := some "Wallet account changed. Reconnect to continue." }
    else if snapshot.network ≠ testnetNetworkPassphrase then
      stateFromError (.wrongNetwork snapshot.network testnetNetworkPassphrase) snapshot.address
    else
      { address := snapshot.address, network := some snapshot.network, status := .connected,
        error := none, notice := none }

/-- An action that waits for the wallet. -/
inductive Task where
  | settled
  /-- `refresh`, with the address it has read before -/
  | refreshing (address : Option String)
  | connecting
  /-- `connect`, waiting for the network -/
  | readingNetwork (address : String)
  /-- `connect`, which has failed and asks for the address -/
  | readingAddress (error : WalletError)
  | disconnecting
  deriving DecidableEq

structure Subscription where
  /-- `watchChanges` has not answered yet -/
  pending : Bool
  stopped : Bool
  deriving DecidableEq

structure Provider where
  /-- the wallet has `watchChanges` -/
  watches : Bool
  state : WalletState
  tasks : List Task
  /-- the dependencies of the watching effect when it ran last -/
  deps : Option (Option String × WalletStatus)
  /-- the subscription of the effect that ran last -/
  watching : Option Nat
  subscriptions : List Subscription
  /-- a disconnect has completed and `connect` was not called since -/
  signedOff : Bool

inductive ProviderInput where
  | connect
  | refresh
  | disconnect
  /-- React runs the watching effect for the committed state. -/
  | rendered
  | refreshed (k : Nat) (outcome : Except WalletError (Option String × String))
  | connected (k : Nat) (outcome : Except WalletError String)
  | networkRead (k : Nat) (outcome : Except WalletError String)
  | addressRead (k : Nat) (address : Option String)
  | disconnectEnded (k : Nat)
  | snapshot (j : Nat) (snapshot : WalletSnapshot)
  | watchAnswered (j : Nat)
  | watchFailed (j : Nat) (error : WalletError)
  | signFailed (error : WalletError)

namespace Provider

def initial (watches : Bool) : Provider where
  watches := watches
  state := disconnectedState
  tasks := []
  deps := none
  watching := none
  subscriptions := []
  signedOff := false

def commit (p : Provider) (state : WalletState) : Provider := { p with state := state }

def add (p : Provider) (task : Task) : Provider := { p with tasks := p.tasks ++ [task] }

def move (p : Provider) (k : Nat) (task : Task) : Provider :=
  { p with tasks := p.tasks.set k task }

def connect (p : Provider) : Provider :=
  if p.state.status = .connecting then p else (p.commit connectingState).add .connecting

def refresh (p : Provider) : Provider :=
  if p.state.status = .disconnected ∨ p.state.status = .connecting then p
  else p.add (.refreshing p.state.address)

/-- The `catch` block of `connect` -/
def connectFailed (p : Provider) (k : Nat) (error : WalletError) : Provider :=
  match error with
  | .wrongNetwork .. => p.move k (.readingAddress error)
  | _ => (p.move k .settled).commit (stateFromError error none)

/-- The cleanup of the effect that ran last. -/
def cleanup (p : Provider) : Provider :=
  match p.watching with
  | none => p
  | some j => { p with
      watching := none
      subscriptions := p.subscriptions.modify j fun s => { s with stopped := true } }

def runEffect (p : Provider) : Provider :=
  if !truthy p.state.address ∨ p.state.status = .disconnected ∨ p.state.status = .connecting ∨
    !p.watches then p
  else { p with
    watching := some p.subscriptions.length
    subscriptions := p.subscriptions ++ [⟨true, false⟩] }

def render (p : Provider) : Provider :=
  if p.deps = some (p.state.address, p.state.status) then p
  else { p with deps := some (p.state.address, p.state.status) }.cleanup.runEffect

def answer (p : Provider) (j : Nat) : Provider :=
  { p with subscriptions := p.subscriptions.modify j fun s => { s with pending := false } }

def step (p : Provider) : ProviderInput → Provider
  | .connect => { p.connect with signedOff := false }
  | .refresh => p.refresh
  | .disconnect => p.add .disconnecting
  | .rendered => p.render
  | .refreshed k outcome =>
    match p.tasks[k]? with
    | some (.refreshing address) =>
      (p.move k .settled).commit (match outcome with
        | .ok (address, network) => applySnapshot p.state { address := address, network := network }
        | .error error => stateFromError error address)
    | _ => p
  | .connected k outcome =>
    match p.tasks[k]? with
    | some .connecting =>
      match outcome with
      | .ok address => p.move k (.readingNetwork address)
      | .error error => p.connectFailed k error
    | _ => p
  | .networkRead k outcome =>
    match p.tasks[k]? with
    | some (.readingNetwork address) =>
      match outcome with
      | .ok network =>
        (p.move k .settled).commit
          (applySnapshot p.state { address := some address, network := network })
      | .error error => p.connectFailed k error
    | _ => p
  | .addressRead k address =>
    match p.tasks[k]? with
    | some (.readingAddress error) =>
      (p.move k .settled).commit (stateFromError error address)
    | _ => p
  | .disconnectEnded k =>
    match p.tasks[k]? with
    | some .disconnecting =>
      { (p.move k .settled).commit disconnectedState with signedOff := true }
    | _ => p
  | .snapshot j snapshot =>
    if j < p.subscriptions.length then p.commit (applySnapshot p.state snapshot) else p
  | .watchAnswered j => p.answer j
  | .watchFailed j error =>
    match p.subscriptions[j]? with
    | some ⟨true, false⟩ => (p.answer j).commit (stateFromError error p.state.address)
    | _ => p.answer j
  | .signFailed error =>
    match error with
    | .wrongNetwork .. | .accountChanged .. => p.commit (stateFromError error p.state.address)
    | _ => p

def canTransact (p : Provider) : Bool :=
  p.state.status = .connected ∧ p.state.network = some testnetNetworkPassphrase ∧
    truthy p.state.address

end Provider

/-- What an answer of the wallet comes to, before it is committed. -/
inductive News where
  | reading (snapshot : WalletSnapshot)
  | failure (error : WalletError) (address : Option String)

def News.state (current : WalletState) : News → WalletState
  | reading snapshot => applySnapshot current snapshot
  | failure error address => stateFromError error address

/-- News that leave a disconnected wallet disconnected: of no account, or of a rejection. -/
def News.Quiet : News → Prop
  | reading ⟨address, _, none⟩ => truthy address = false
  | reading ⟨_, _, some error⟩ => error = .noWallet ∨ error = .notConnected ∨ error = .rejected
  | failure error _ => error = .rejected

/-- A failed connect is news, unless it goes on to ask for the address. -/
def connectNews : WalletError → Option News
  | .wrongNetwork .. => none
  | error => some (.failure error none)

/-- The news an input brings, where something waits for them. -/
def Provider.news (p : Provider) : ProviderInput → Option News
  | .refreshed k outcome =>
    match p.tasks[k]? with
    | some (.refreshing address) =>
      match outcome with
      | .ok (address, network) => some (.reading { address := address, network := network })
      | .error error => some (.failure error address)
    | _ => none
  | .connected k outcome =>
    match p.tasks[k]? with
    | some .connecting =>
      match outcome with
      | .ok _ => none
      | .error error => connectNews error
    | _ => none
  | .networkRead k outcome =>
    match p.tasks[k]? with
    | some (.readingNetwork address) =>
      match outcome with
      | .ok network => some (.reading { address := some address, network := network })
      | .error error => connectNews error
    | _ => none
  | .addressRead k address =>
    match p.tasks[k]? with
    | some (.readingAddress error) => some (.failure error address)
    | _ => none
  | .snapshot j snapshot =>
    if j < p.subscriptions.length then some (.reading snapshot) else none
  | .watchFailed j error =>
    match p.subscriptions[j]? with
    | some ⟨true, false⟩ => some (.failure error p.state.address)
    | _ => none
  | .signFailed error =>
    match error with
    | .wrongNetwork .. | .accountChanged .. => some (.failure error p.state.address)
    | _ => none
  | _ => none

section States
variable {current : WalletState} {error : WalletError} {address : Option String}

theorem stateFromError_disconnected_iff :
    (stateFromError error address).status = .disconnected ↔ error = .rejected := by
  cases error <;> simp [stateFromError]

theorem stateFromError_address (h : (stateFromError error address).status = .disconnected) :
    (stateFromError error address).address = none := by
  rw [stateFromError_disconnected_iff.mp h]
  rfl

theorem applySnapshot_address {snapshot : WalletSnapshot}
    (h : (applySnapshot current snapshot).status = .disconnected) :
    (applySnapshot current snapshot).address = none := by
  revert h
  unfold applySnapshot
  split
  · split
    · exact fun _ => rfl
    · exact stateFromError_address
  · split
    · exact fun _ => rfl
    · split
      · exact fun _ => rfl
      · split
        · exact stateFromError_address
        · intro h
          cases h

/-- Whoever is disconnected has no address. -/
theorem News.address_eq_none {news : News}
    (h : (news.state current).status = .disconnected) : (news.state current).address = none := by
  cases news with
  | reading snapshot => exact applySnapshot_address h
  | failure error address => exact stateFromError_address h

theorem News.quiet_iff (offline : current.address = none) (news : News) :
    (news.state current).status = .disconnected ↔ news.Quiet := by
  cases news with
  | failure error address => exact stateFromError_disconnected_iff
  | reading snapshot =>
    obtain ⟨address, network, _ | error⟩ := snapshot
    · unfold News.state applySnapshot News.Quiet
      dsimp only
      rw [offline]
      cases known : truthy address with
      | false => exact iff_of_true rfl rfl
      | true =>
        refine iff_of_false ?_ Bool.noConfusion
        rw [if_neg (by decide), if_neg (by rintro ⟨h, _⟩; cases h)]
        split <;> exact WalletStatus.noConfusion
    · unfold News.state applySnapshot News.Quiet
      dsimp only
      split
      · rename_i absent
        exact iff_of_true rfl (absent.imp_right Or.inl)
      · rename_i present
        rw [stateFromError_disconnected_iff]
        constructor
        · exact fun h => Or.inr (Or.inr h)
        · rintro (h | h | h)
          · exact absurd (Or.inl h) present
          · exact absurd (Or.inr h) present
          · exact h

end States

/-- All that a step can do to the committed state. -/
inductive Provider.Steps (p : Provider) (i : ProviderInput) : WalletState → Bool → Prop
  | news (news : News) : p.news i = some news → Steps p i (news.state p.state) p.signedOff
  | called {state : WalletState} : i = .connect → state = p.state ∨ state = connectingState →
    Steps p i state false
  | ended : p.news i = none → Steps p i disconnectedState true
  | kept : p.news i = none → Steps p i p.state p.signedOff

namespace Provider

theorem connectFailed_steps (p : Provider) (i : ProviderInput) (k : Nat) (error : WalletError)
    (news : p.news i = connectNews error) :
    Steps p i (p.connectFailed k error).state (p.connectFailed k error).signedOff := by
  cases error with
  | wrongNetwork => exact .kept news
  | _ => exact .news (.failure _ none) news

theorem cleanup_kept (p : Provider) :
    p.cleanup.state = p.state ∧ p.cleanup.signedOff = p.signedOff := by
  unfold cleanup
  split <;> exact ⟨rfl, rfl⟩

theorem runEffect_kept (p : Provider) :
    p.runEffect.state = p.state ∧ p.runEffect.signedOff = p.signedOff := by
  unfold runEffect
  split <;> exact ⟨rfl, rfl⟩

theorem render_kept (p : Provider) :
    p.render.state = p.state ∧ p.render.signedOff = p.signedOff := by
  unfold render
  split
  · exact ⟨rfl, rfl⟩
  · rw [(runEffect_kept _).1, (runEffect_kept _).2, (cleanup_kept _).1, (cleanup_kept _).2]
    exact ⟨rfl, rfl⟩

theorem step_cases (p : Provider) (i : ProviderInput) :
    Steps p i (p.step i).state (p.step i).signedOff := by
  cases i with
  | connect =>
    unfold step connect
    dsimp only
    split
    · exact .called rfl (Or.inl rfl)
    · exact .called rfl (Or.inr rfl)
  | refresh =>
    unfold step refresh
    dsimp only
    split <;> exact .kept rfl
  | disconnect => exact .kept rfl
  | rendered =>
    unfold step
    dsimp only
    rw [p.render_kept.1, p.render_kept.2]
    exact .kept rfl
  | refreshed k outcome =>
    unfold step
    dsimp only
    split
    · rename_i address waiting
      cases outcome with
      | ok read => exact .news (.reading ⟨read.1, read.2, none⟩) (by simp [news, waiting])
      | error error => exact .news (.failure error address) (by simp [news, waiting])
    · rename_i idle
      exact .kept (by simp only [news])
  | connected k outcome =>
    unfold step
    dsimp only
    split
    · rename_i waiting
      cases outcome with
      | ok address => exact .kept (by simp [news, waiting])
      | error error => exact p.connectFailed_steps _ k error (by simp [news, waiting])
    · rename_i idle
      exact .kept (by simp only [news])
  | networkRead k outcome =>
    unfold step
    dsimp only
    split
    · rename_i address waiting
      cases outcome with
      | ok network => exact .news (.reading ⟨address, network, none⟩) (by simp [news, waiting])
      | error error => exact p.connectFailed_steps _ k error (by simp [news, waiting])
    · rename_i idle
      exact .kept (by simp only [news])
  | addressRead k address =>
    unfold step
    dsimp only
    split
    · rename_i error waiting
      exact .news (.failure error address) (by simp [news, waiting])
    · exact .kept (by simp only [news])
  | disconnectEnded k =>
    unfold step
    dsimp only
    split
    · exact .ended rfl
    · exact .kept rfl
  | snapshot j snapshot =>
    unfold step
    dsimp only
    split
    · rename_i held
      exact .news (.reading snapshot) (if_pos held)
    · rename_i none
      exact .kept (if_neg none)
  | watchAnswered j => exact .kept rfl
  | watchFailed j error =>
    unfold step
    dsimp only
    split
    · rename_i waiting
      exact .news (.failure error p.state.address) (by simp [news, waiting])
    · exact .kept (by simp only [news])
  | signFailed error =>
    cases error with
    | wrongNetwork actual expected =>
      exact .news (.failure (.wrongNetwork actual expected) p.state.address) rfl
    | accountChanged actual expected =>
      exact .news (.failure (.accountChanged actual expected) p.state.address) rfl
    | _ => exact .kept rfl

/-- Who is disconnected has no address. -/
def Offline (p : Provider) : Prop := p.state.status = .disconnected → p.state.address = none

theorem offline_step (p : Provider) (i : ProviderInput) (h : p.Offline) : (p.step i).Offline := by
  have moved := p.step_cases i
  unfold Offline
  generalize (p.step i).state = state, (p.step i).signedOff = off at moved
  cases moved with
  | news news _ => exact News.address_eq_none
  | called _ same =>
    rcases same with rfl | rfl
    · exact h
    · exact fun _ => rfl
  | ended => exact fun _ => rfl
  | kept => exact h

theorem run_offline (watches : Bool) (is : List ProviderInput) :
    (run step (initial watches) is).Offline :=
  run_invariant offline_step (fun _ => rfl) is

/-- Who is disconnected has no address, and who has signed off is disconnected. -/
structure Rested (p : Provider) : Prop where
  offline : p.Offline
  off : p.signedOff = true → p.state.status = .disconnected

/-- Nothing but quiet news reaches a wallet that has signed off. -/
def Undisturbed (p : Provider) (i : ProviderInput) : Prop :=
  p.signedOff = true → ∀ news, p.news i = some news → news.Quiet

theorem rested_step (p : Provider) (i : ProviderInput) (h : p.Rested) :
    (p.step i).Rested ↔ p.Undisturbed i := by
  have moved := p.step_cases i
  constructor
  · intro next off news told
    have same : (p.step i).state = news.state p.state ∧
        (p.step i).signedOff = p.signedOff := by
      generalize (p.step i).state = state, (p.step i).signedOff = off' at moved
      cases moved with
      | news news' told' =>
        cases told.symm.trans told'
        exact ⟨rfl, rfl⟩
      | called call =>
        subst call
        cases told
      | ended none | kept none =>
        rw [none] at told
        cases told
    rw [← news.quiet_iff (h.offline (h.off off)), ← same.1]
    exact next.off (same.2.trans off)
  · intro quiet
    refine ⟨p.offline_step i h.offline, ?_⟩
    generalize (p.step i).state = state, (p.step i).signedOff = off' at moved ⊢
    cases moved with
    | news news told =>
      intro off
      exact (news.quiet_iff (h.offline (h.off off))).mpr (quiet off news told)
    | called =>
      intro off
      cases off
    | ended => exact fun _ => rfl
    | kept => exact h.off

theorem canTransact_iff (p : Provider) :
    p.canTransact = true ↔ p.state.status = .connected ∧
      p.state.network = some testnetNetworkPassphrase ∧ truthy p.state.address = true :=
  decide_eq_true_iff

end Provider

open Provider in
/-- Transactions want a connected wallet on Testnet, and a wallet that has signed off stays
so exactly when nothing that is still on its way brings an account or a failure. -/
theorem stays_disconnected_iff (watches : Bool) (is : List ProviderInput) :
    (∀ before after, is = before ++ after →
      ((run step (initial watches) before).canTransact = true →
        (run step (initial watches) before).state.status = .connected ∧
        (run step (initial watches) before).state.network = some testnetNetworkPassphrase ∧
        (run step (initial watches) before).state.address ≠ none) ∧
      ((run step (initial watches) before).signedOff = true →
        (run step (initial watches) before).state.status = .disconnected)) ↔
    Along step Undisturbed (initial watches) is := by
  rw [← always_iff_along (fun _ => id) rested_step (fun p i h => (rested_step p i h).mpr)
    ⟨fun _ => rfl, fun off => by cases off⟩]
  constructor
  · intro always before after split
    exact ⟨run_offline watches before, (always before after split).2⟩
  · intro rested before after split
    refine ⟨fun can => ?_, (rested before after split).off⟩
    obtain ⟨status, network, known⟩ := (canTransact_iff _).mp can
    refine ⟨status, network, fun none => ?_⟩
    rw [none] at known
    cases known

def holder : String := "GAAZI4TCR3TY5OJHCTJC2A4QSY6CJWJH5IAJTGKIN2ER7LBNVKOCCWN7"

/-- Connect to Testnet, ask for a refresh and disconnect before the answer. -/
def hastyDisconnect : List ProviderInput :=
  [.connect, .connected 0 (.ok holder), .networkRead 0 (.ok testnetNetworkPassphrase), .refresh,
    .disconnect, .disconnectEnded 2]

/-- The same with an answer that finds no account. -/
theorem stays_disconnected_hasty :
    ∀ before after, hastyDisconnect ++ [.refreshed 1 (.ok (none, testnetNetworkPassphrase))] =
      before ++ after →
      ((run Provider.step (.initial true) before).signedOff = true →
        (run Provider.step (.initial true) before).state.status = .disconnected) := by
  have undisturbed : Along Provider.step Provider.Undisturbed (.initial true)
      (hastyDisconnect ++ [.refreshed 1 (.ok (none, testnetNetworkPassphrase))]) := by
    have before : ∀ {p : Provider} {i : ProviderInput}, p.signedOff = false → p.Undisturbed i := by
      intro p i on off
      rw [on] at off
      cases off
    refine ⟨before rfl, before rfl, before rfl, before rfl, before rfl, before rfl, ?_, trivial⟩
    intro _ news told
    cases told
    rfl
  intro before after split
  exact ((stays_disconnected_iff true _).mpr undisturbed before after split).2

/-- The answer finds the account, and the wallet is connected again. -/
theorem refresh_reconnects :
    (run Provider.step (.initial true) hastyDisconnect).state = disconnectedState ∧
      (run Provider.step (.initial true) (hastyDisconnect ++
        [.refreshed 1 (.ok (some holder, testnetNetworkPassphrase))])).canTransact = true ∧
      ¬ ∀ watches is, (run Provider.step (.initial watches) is).signedOff = true →
        (run Provider.step (.initial watches) is).state.status = .disconnected := by
  refine ⟨by decide, by decide, fun stays => ?_⟩
  have last := stays true (hastyDisconnect ++
    [.refreshed 1 (.ok (some holder, testnetNetworkPassphrase))]) (by decide)
  exact absurd last (by decide)

end ShowUp.Client

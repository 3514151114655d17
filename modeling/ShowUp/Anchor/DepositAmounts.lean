import ShowUp.Anchor.DepositTracking

/-!
# One amount from the rate to the transfer

The amount is read from the text field anew for every request. The field is there only
before a deposit begins, so that what is quoted, deposited and transferred is what the
rate was shown for. A quote that has expired is priced again, for the amount it is about itself.
-/

namespace ShowUp.Anchor

set_option autoImplicit false

namespace AnchorRequest

def amount : AnchorRequest → Text
  | indicativePrice amount | currentPrice amount | firmQuote amount | deposit _ amount _
  | bankTransfer _ amount => amount

/-- The amount that `priceDeposit` last asked a rate for; the newest request comes first. -/
def lastPriced : List AnchorRequest → Option Text
  | [] => none
  | indicativePrice amount :: _ => some amount
  | _ :: earlier => lastPriced earlier

/-- Whether a request may follow those before it. -/
def Follows (r : AnchorRequest) (earlier : List AnchorRequest) : Prop :=
  match r with
  | currentPrice _ => True
  | indicativePrice amount => isPositiveTryAmount amount = true
  | r => isPositiveTryAmount r.amount = true ∧ lastPriced earlier = some r.amount

def Agreed : List AnchorRequest → Prop
  | [] => True
  | r :: earlier => r.Follows earlier ∧ Agreed earlier

end AnchorRequest

/-- The states in which a rate is at hand. -/
def DepositStateName.priced : DepositStateName → Bool
  | pricing | authenticating | quoting | depositStarted => true
  | _ => false

theorem DepositStateName.unopened_of_priced {name : DepositStateName}
    (priced : name.priced = true) : name.unopened = true := by
  cases name <;> first | rfl | cases priced

theorem Flow.stage_of_amount {p : Flow} {amount : Text} (known : p.amount = some amount) :
    ∃ name, p.stage = some name ∧ name ≠ .idle := by
  cases p <;> cases known <;> exact ⟨_, rfl, by simp⟩

theorem polled_priced (m : DepositState) (status : DepositStatus)
    (priced : (depositReducer m (.statusPolled status)).name.priced = true) :
    m.name.priced = true := by
  rcases polled_name m status with same | ⟨_, _, opened⟩
  · exact same ▸ priced
  · rw [DepositStateName.unopened_of_priced priced] at opened
    cases opened

theorem claimed_priced (m : DepositState) :
    ((depositReducer m .claimed).name.priced = true → m.name.priced = true) ∧
      (depositReducer m .claimed).context.ticket = m.context.ticket := by
  simp only [depositReducer]
  split
  · exact ⟨id, rfl⟩
  · refine ⟨fun priced => ?_, rfl⟩
    cases priced

namespace DepositScreen

open AnchorRequest Runs

/-- A rate was shown for what is in the field. -/
def Rated (s : DepositScreen) : Prop :=
  lastPriced s.requests = some (Utf16.trim s.amount) ∧
    isPositiveTryAmount (Utf16.trim s.amount) = true

structure Priced (s : DepositScreen) : Prop where
  agreed : Agreed s.requests
  flow : ∀ k p amount, s.flow.live = some (k, p) → p.amount = some amount →
    amount = Utf16.trim s.amount ∧ isPositiveTryAmount amount = true
  rated : s.machine.name.priced = true ∨ s.machine.context.ticket ≠ none → s.Rated

variable {s t : DepositScreen} {i : ScreenInput}

theorem Priced.same (h : s.Priced) (amount : t.amount = s.amount)
    (requests : t.requests = s.requests)
    (flow : ∀ k p a, t.flow.live = some (k, p) → p.amount = some a →
      a = Utf16.trim s.amount ∧ isPositiveTryAmount a = true)
    (rated : t.machine.name.priced = true ∨ t.machine.context.ticket ≠ none →
      s.machine.name.priced = true ∨ s.machine.context.ticket ≠ none) : t.Priced where
  agreed := by
    rw [requests]
    exact h.agreed
  flow := by
    rw [amount]
    exact flow
  rated := by
    unfold Rated
    rw [amount, requests]
    exact fun t => h.rated (rated t)

/-- A request for the amount that the rate was shown for. -/
theorem Priced.ask (h : s.Priced) (r : AnchorRequest) (rated : s.Rated)
    (amount : t.amount = s.amount) (requests : t.requests = r :: s.requests)
    (asked : r.amount = Utf16.trim s.amount)
    (follows : isPositiveTryAmount r.amount = true → lastPriced s.requests = some r.amount →
      r.Follows s.requests ∧ lastPriced (r :: s.requests) = lastPriced s.requests)
    (flow : ∀ k p a, t.flow.live = some (k, p) → p.amount = some a →
      a = Utf16.trim s.amount ∧ isPositiveTryAmount a = true) : t.Priced := by
  obtain ⟨last, positive⟩ := rated
  obtain ⟨follows, still⟩ := follows (by rw [asked, positive]) (by rw [asked, last])
  constructor
  · rw [requests]
    exact ⟨follows, h.agreed⟩
  · rw [amount]
    exact flow
  · intro _
    unfold Rated
    rw [amount, requests, still]
    exact ⟨last, positive⟩

theorem Priced.move (h : s.Priced) (kept : s.Kept) (paced : s.Paced) (m : Move s i t) :
    t.Priced := by
  cases m with
  | quiet q =>
    refine h.same q.amount q.requests ?_ ?_
    · rw [q.flow]
      exact h.flow
    · rw [q.machine]
      exact id
  | typed amount idle =>
    refine ⟨h.agreed, ?_, ?_⟩
    · intro k p a live known
      obtain ⟨name, staged, busy⟩ := Flow.stage_of_amount known
      exact absurd ((paced.stage k p name live staged).symm.trans idle) busy
    · rintro (priced | ticket)
      · change s.machine.name.priced = true at priced
        rw [idle] at priced
        cases priced
      · exact absurd (kept.furnished.ticket (by rw [idle]; rfl)) ticket
  | told told =>
    obtain ⟨name, price, ticket⟩ := told_frame s.machine told
    refine h.same rfl rfl h.flow ?_
    change (depositReducer s.machine _).name.priced = true ∨
      (depositReducer s.machine _).context.ticket ≠ none → _
    rw [name, ticket]
    exact id
  | reprices amount => exact ⟨⟨trivial, h.agreed⟩, h.flow, h.rated⟩
  | storage | earlierMount => exact h.same rfl rfl h.flow id
  | began mounted name free positive =>
    refine h.same rfl rfl ?_ ?_
    · intro k p a live known
      cases (Controllers.live_begin ..).symm.trans live
      cases known
      exact ⟨rfl, positive⟩
    · rintro (priced | ticket)
      · cases priced
      · exact absurd rfl ticket
  | opens mounted name free =>
    have rated := h.rated (.inl (by rw [name]; rfl))
    refine h.same rfl rfl ?_ (fun _ => .inl (by rw [name]; rfl))
    intro k p a live known
    cases (Controllers.live_begin ..).symm.trans live
    cases known
    exact ⟨rfl, rated.2⟩
  | resumes mounted name free saved account =>
    refine h.same rfl rfl ?_ id
    intro k p a live known
    cases (Controllers.live_begin ..).symm.trans live
    cases known
  | simulates mounted ticket free =>
    refine h.ask (.bankTransfer _ _) (h.rated (.inr ticket)) rfl rfl rfl
      (fun positive last => ⟨⟨positive, last⟩, rfl⟩) ?_
    intro k p a live known
    cases (Controllers.live_begin ..).symm.trans live
    cases known
  | claims mounted name free =>
    refine h.same rfl rfl ?_ id
    intro k p a live known
    cases (Controllers.live_begin ..).symm.trans live
    cases known
  | discovered config live =>
    obtain ⟨asked, positive⟩ := h.flow _ _ _ live rfl
    refine ⟨⟨positive, h.agreed⟩, ?_, ?_⟩
    · intro k p a after known
      cases (Controllers.live_move live (some _)).symm.trans after
      cases known
      exact ⟨asked, positive⟩
    · intro _
      refine ⟨congrArg some asked, ?_⟩
      rw [asked] at positive
      exact positive
  | @resumed k r config live claim =>
    have here := @resume_claims s.machine _ claim s.address config r.depositId
    refine h.same rfl rfl ?_ ?_
    · exact fun k p a after _ => by cases (Controllers.live_finish live).symm.trans after
    · change (depositReducer s.machine _).name.priced = true ∨
        (depositReducer s.machine _).context.ticket ≠ none → _
      rw [here]
      rintro (priced | ticket)
      · cases priced
      · exact absurd rfl ticket
  | @resumedChecks k r config live noClaim =>
    have here := @resume_checks s.machine _ noClaim s.address config r.depositId
    refine h.same rfl rfl ?_ ?_
    · exact fun k p a after _ => by cases (Controllers.live_finish live).symm.trans after
    · change (depositReducer s.machine _).name.priced = true ∨
        (depositReducer s.machine _).context.ticket ≠ none → _
      rw [here]
      rintro (priced | ticket)
      · cases priced
      · exact absurd rfl ticket
  | priced price live =>
    have name := paced.stage _ _ _ live rfl
    refine h.same rfl rfl ?_ (fun _ => .inl (by rw [name]; rfl))
    exact fun k p a after _ => by cases (Controllers.live_finish live).symm.trans after
  | signedIn live =>
    have name := paced.stage _ _ _ live rfl
    obtain ⟨asked, positive⟩ := h.flow _ _ _ live rfl
    refine h.ask (.firmQuote _) (h.rated (.inl (by rw [name]; rfl))) rfl rfl asked
      (fun positive last => ⟨⟨positive, last⟩, rfl⟩) ?_
    intro k p a after known
    cases (Controllers.live_move live (some _)).symm.trans after
    cases known
    exact ⟨asked, positive⟩
  | quoted quote now live =>
    have name := paced.stage _ _ _ live rfl
    obtain ⟨asked, positive⟩ := h.flow _ _ _ live rfl
    refine h.ask (.deposit _ _ _) (h.rated (.inl (by rw [name]; rfl))) rfl rfl asked
      (fun positive last => ⟨⟨positive, last⟩, rfl⟩) ?_
    intro k p a after known
    cases (Controllers.live_move live (some _)).symm.trans after
    cases known
    exact ⟨asked, positive⟩
  | opened ticket live named =>
    have name := paced.stage _ _ _ live rfl
    refine h.same rfl rfl ?_ (fun _ => .inl (by rw [name]; rfl))
    exact fun k p a after _ => by cases (Controllers.live_finish live).symm.trans after
  | failed error live stage =>
    refine h.same rfl rfl ?_ ?_
    · exact fun k p a after _ => by cases (Controllers.live_finish live).symm.trans after
    · rintro (priced | ticket)
      · cases priced
      · exact .inr ticket
  | @advanced k p q phase live before claims =>
    refine h.same rfl rfl ?_ id
    intro k p a after known
    cases (Controllers.live_move live (some q)).symm.trans after
    cases q <;> first | cases claims; done | cases known
  | ended live stage spent kept warning =>
    refine h.same rfl rfl ?_ id
    exact fun k p a after _ => by cases (Controllers.live_finish live).symm.trans after
  | @claimed k hash phase here =>
    obtain ⟨name, ticket⟩ := claimed_priced s.machine
    refine h.same rfl rfl ?_ ?_
    · cases off : s.flow.aborted k with
      | true =>
        have still := Controllers.live_finish_aborted off
        exact fun k p a after => h.flow k p a (still.symm.trans after)
      | false =>
        have live := Controllers.live_of_phase phase off
        exact fun k p a after _ => by cases (Controllers.live_finish live).symm.trans after
    · change (depositReducer s.machine _).name.priced = true ∨
        (depositReducer s.machine _).context.ticket ≠ none → _
      rw [ticket]
      exact Or.imp_left name
  | reset mounted =>
    refine h.same rfl rfl ?_ ?_
    · exact fun k p a after _ => by cases (Controllers.live_abort _).symm.trans after
    · rintro (priced | ticket)
      · cases priced
      · exact absurd rfl ticket
  | unmounted =>
    refine h.same rfl rfl ?_ id
    exact fun k p a after _ => by cases (Controllers.live_abort _).symm.trans after
  | @polled j loop status live named right =>
    have b := polledStatus_beside s j loop status
    refine h.same b.amount b.requests ?_ ?_
    · rw [b.flow]
      exact h.flow
    · rw [polledStatus_machine, (polled_frame s.machine status).1]
      exact Or.imp_left (polled_priced s.machine status)
  | pollGoes | pollEnds | pollBegins => exact h.same rfl rfl h.flow id

theorem mount_priced (address : String) (demoTools canTransact : Bool)
    (store : Option (PersistedDeposit String)) :
    (mount address demoTools canTransact store).Priced where
  agreed := trivial
  flow := fun k p a live => by cases live
  rated := by
    rintro (priced | ticket)
    · cases priced
    · exact absurd rfl ticket

/-- Whatever is typed and pressed and whatever the answers are: a rate is checked for a positive
amount, and every quote, deposit and transfer is for the one that was checked last. -/
theorem requests_agree (address : String) (demoTools canTransact : Bool)
    (store : Option (PersistedDeposit String)) (inputs : List ScreenInput) :
    Agreed (run step (mount address demoTools canTransact store) inputs).requests := by
  have keep : ∀ (s : DepositScreen) i, s.Sound ∧ s.Priced →
      (step s i).Sound ∧ (step s i).Priced := by
    rintro s i ⟨sound, priced⟩
    have move := step_moves sound.paced.busy i
    exact ⟨sound.next i, priced.move sound.kept sound.paced move⟩
  have start := And.intro (mount_sound address demoTools canTransact store)
    (mount_priced address demoTools canTransact store)
  have reached := run_invariant (P := fun s : DepositScreen => s.Sound ∧ s.Priced) keep start inputs
  exact reached.2.agreed

end DepositScreen

end ShowUp.Anchor

import ShowUp.Contract.Lifeline

/-!
# Exactly one payout

What a bond's outgoing transfers have to be is a function of its status alone
(`owed`). They come from one call, made once, and there are no others.
-/

namespace ShowUp

set_option autoImplicit false

open StoreTotal

/-- Who is to be paid how much out of a bond in this status. -/
def owed (pool : Address) (e : Event) (participant : Address) :
    ReservationStatus → List (Address × Int)
  | .locked => []
  | .attended | .cancelled | .refunded => [(participant, e.bondAmount.val)]
  | .noShowSettled =>
      let organizerAmount := e.bondAmount.val * e.organizerBps.toNat / 10000
      [(e.organizer, organizerAmount), (pool, e.bondAmount.val - organizerAmount)]

section Owed
variable {contract pool : Address} {e : Event} {k : ReservationKey}

theorem owed_total {status : ReservationStatus} (unlocked : status ≠ .locked) (participant : Address) :
    ((owed pool e participant status).map Prod.snd).sum = e.bondAmount.val := by
  cases status with
  | locked => exact absurd rfl unlocked
  | attended | cancelled | refunded => simp [owed]
  | noShowSettled =>
    simp only [owed, List.map_cons, List.map_nil, List.sum_cons, List.sum_nil]
    omega

theorem Exit.terms_owed {x : Exit} {terms : Terms} (v : e.Valid contract)
    (agreed : x.terms pool e k e.bondAmount = some terms) :
    terms.legs.map (fun leg => (leg.1, leg.2.val)) = owed pool e k.2 x.status := by
  cases x with
  | cancelReservation | checkIn | claimCancelledEventRefund =>
    cases agreed
    rfl
  | settleNoShow =>
    obtain ⟨⟨o, c⟩, shares, ⟨⟩⟩ := Option.bind_eq_some_iff.mp agreed
    obtain ⟨ho, hc⟩ := splitByBps_values (Int.le_of_lt v.bond_pos) shares
    simp [owed, Exit.status, ho, hc]

end Owed

namespace Chain
variable {tok : Token} {contract : Address}

theorem after_config (d : Deployment tok) (steps : List (Step contract)) :
    (after d steps).ledger.config = ⟨d.token, d.communityPool⟩ :=
  after_induction (P := fun s => s.ledger.config = ⟨d.token, d.communityPool⟩) rfl
    (fun _ same rule => rule.config_eq.trans same) (fun _ same _ => same) steps

/-- A stored reservation's history, with the amounts spelled out. -/
theorem paid_as_owed {s : Chain tok contract} (w : s.ledger.WellFormed contract) (lived : s.Lived)
    {k : ReservationKey} {r : Reservation} (held : s.ledger.reservations.lookup k = some r) :
    ∃ e, s.ledger.events.lookup k.1 = some e ∧ r.amount = e.bondAmount ∧
      ∃ opening, opening.transfers = [⟨s.ledger.config.token, k.2, contract, e.bondAmount⟩] ∧
        ((r.status = .locked ∧ s.callsFor k = [opening]) ∨
          (r.status ≠ .locked ∧ ∃ closing, s.callsFor k = [opening, closing] ∧
            closing.transfers.map (fun t => (t.token, t.source, t.target, t.amount.val)) =
              (owed s.ledger.config.communityPool e k.2 r.status).map
                fun (who, n) => (s.ledger.config.token, contract, who, n))) := by
  obtain ⟨e, b⟩ := w.backed held
  refine ⟨e, b.found, b.amount_eq, ?_⟩
  have life := lived.stored k r held
  generalize s.callsFor k = calls at life
  cases life with
  | @locked opening status opens =>
    exact ⟨opening, b.amount_eq ▸ opens.transfers_eq, .inl ⟨status, rfl⟩⟩
  | @ended opening closing x e₁ terms status opens found agreed closes =>
    obtain rfl : e₁ = e := Option.some.inj (found.symm.trans b.found)
    refine ⟨opening, b.amount_eq ▸ opens.transfers_eq, .inr ⟨?_, closing, rfl, ?_⟩⟩
    · rw [status]
      cases x <;> decide
    · rw [b.amount_eq] at agreed
      rw [status, ← Exit.terms_owed (w.valid found) agreed, closes.transfers_eq]
      simp

end Chain

section Claims
variable {tok : Token} {contract : Address}

/-- In every run the transfers made for a pair are none, the bond in, or the bond in and
then once out to whom it is owed; and nothing else ever leaves the contract. -/
theorem each_bond_paid_once (d : Deployment tok) (steps : List (Step contract)) :
    (∀ k, (Chain.after d steps).ledger.reservations.lookup k = none →
      (Chain.after d steps).transfersFor k = []) ∧
    (∀ k r, (Chain.after d steps).ledger.reservations.lookup k = some r →
      ∃ e, (Chain.after d steps).ledger.events.lookup k.1 = some e ∧
        ((r.status = .locked ∧
            (Chain.after d steps).transfersFor k = [⟨d.token, k.2, contract, e.bondAmount⟩]) ∨
          (r.status ≠ .locked ∧ ∃ opening closing,
            (Chain.after d steps).callsFor k = [opening, closing] ∧
            opening.transfers = [⟨d.token, k.2, contract, e.bondAmount⟩] ∧
            closing.transfers.map (fun t => (t.token, t.source, t.target, t.amount.val)) =
              (owed d.communityPool e k.2 r.status).map
                (fun (who, n) => (d.token, contract, who, n)) ∧
            (closing.transfers.map fun t => t.amount.val).sum = e.bondAmount.val))) ∧
    ∀ rec ∈ (Chain.after d steps).history, ∀ t ∈ rec.transfers, t.source = contract →
      ∃ k r opening, (Chain.after d steps).ledger.reservations.lookup k = some r ∧
        r.status ≠ .locked ∧ (Chain.after d steps).callsFor k = [opening, rec] := by
  have w := Chain.after_wellFormed d steps
  have lived := Chain.after_lived d steps
  have config := Chain.after_config d steps
  refine ⟨?_, ?_, ?_⟩
  · intro k gone
    rw [Chain.transfersFor, lived.absent k gone, List.flatMap_nil]
  · intro k r held
    obtain ⟨e, found, _, opening, inbound, h⟩ := Chain.paid_as_owed w lived held
    rw [config] at inbound h
    refine ⟨e, found, ?_⟩
    rcases h with ⟨locked, calls⟩ | ⟨unlocked, closing, calls, outgoing⟩
    · exact .inl ⟨locked, by simp [Chain.transfersFor, calls, inbound]⟩
    · refine .inr ⟨unlocked, opening, closing, calls, inbound, outgoing, ?_⟩
      have amounts := congrArg (List.map fun t => t.2.2.2) outgoing
      simp only [List.map_map, Function.comp_def] at amounts
      rw [amounts]
      exact owed_total unlocked k.2
  · intro rec hrec t ht out
    cases named : rec.call.key with
    | none =>
      rw [lived.keyless rec hrec named] at ht
      cases ht
    | some k =>
      have mine : rec ∈ (Chain.after d steps).callsFor k :=
        List.mem_filter.mpr ⟨hrec, by simp [named]⟩
      cases held : (Chain.after d steps).ledger.reservations.lookup k with
      | none =>
        rw [lived.absent k held] at mine
        cases mine
      | some r =>
        obtain ⟨e, b⟩ := w.backed held
        obtain ⟨_, _, _, opening, inbound, h⟩ := Chain.paid_as_owed w lived held
        have incoming : rec ≠ opening := by
          intro h
          subst h
          rw [inbound] at ht
          cases List.mem_singleton.mp ht
          exact b.participant_ne out
        rcases h with ⟨_, calls⟩ | ⟨unlocked, closing, calls, _⟩
        · rw [calls] at mine
          exact absurd (List.mem_singleton.mp mine) incoming
        · rw [calls] at mine
          rcases List.mem_cons.mp mine with same | mine
          · exact absurd same incoming
          · cases List.mem_singleton.mp mine
            exact ⟨k, r, opening, held, unlocked, calls⟩

theorem each_bond_paid_once_settled : ∃ opening closing,
    (Chain.after Scenario.deployment Scenario.settled).callsFor (1, Scenario.guest) =
      [opening, closing] ∧
    closing.transfers.map (fun t => (t.target, t.amount.val)) =
      [(Scenario.organizer, 12), (Scenario.pool, 38)] := by
  have held : (Chain.after Scenario.deployment Scenario.settled).ledger.reservations.lookup
      (1, Scenario.guest) = some ⟨1, Scenario.guest, .lit 50, 2, .noShowSettled⟩ := by decide
  obtain ⟨e, found, ⟨locked, _⟩ | ⟨_, opening, closing, calls, _, outgoing, _⟩⟩ :=
    (each_bond_paid_once Scenario.deployment Scenario.settled).2.1 _ _ held
  · cases locked
  · have stored : e = { Scenario.args.toEvent 1 with reservedCount := 1 } :=
      Option.some.inj (found.symm.trans (by decide))
    have paid := congrArg (List.map fun t => t.2.2) outgoing
    refine ⟨opening, closing, calls, ?_⟩
    simp only [List.map_map, Function.comp_def] at paid
    rw [paid, stored]
    decide

end Claims

end ShowUp

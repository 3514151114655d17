import ShowUp.Client.TxStatus
import ShowUp.Contract.Frames
import ShowUp.Contract.Lifeline
import ShowUp.Shared.Replicas

/-!
# Writes to the contract

`executeVoidWrite` and `createEvent` of `lib/contract/index.ts`, from one await to the next,
and what becomes of the transaction. A signed call is out of the client's hands: some ledger takes
it in or none does, whether or not the client still waits. The kit reports a result only
for a call a ledger has taken in and carried out.
-/

namespace ShowUp.Client

set_option autoImplicit false

open Utf16 Replicas

/-- What a write awaits, or what it ended in. -/
inductive WriteStage (ρ : Type) where
  | simulating
  | awaitingSignature
  | submitting
  | confirming
  | settled (outcome : Except TxError ρ)

def WriteStage.phase? {ρ : Type} : WriteStage ρ → Option TxPhase
  | simulating => some .simulating
  | awaitingSignature => some .awaitingSignature
  | submitting => some .submitting
  | confirming => some .confirming
  | settled _ => none

/-- What `tx.send` resolves to; `signedHash` is `toHex(tx.signed.hash())`. -/
structure SentTransaction (α : Type) where
  result : Except ResultError α
  responseHash : Option Text
  signedHash : Option Text

/-- `α` is what the contract returns. -/
inductive WriteAnswer (α : Type) where
  | built (read : Read (Except ResultError α))
  | signed (answer : Except TxError Unit)
  | submitted
  | sent (answer : Except TxError (SentTransaction α))

/-- `unwrapResult(readSimulation(tx))` -/
def simulated {α : Type} (read : Read (Except ResultError α)) : Except TxError α :=
  ((readSimulation read).bind unwrapResult).mapError fun e => (TxError.ofReadError e).translate

def SentTransaction.hash {α : Type} (sent : SentTransaction α) : Text :=
  (sent.responseHash <|> sent.signedHash).getD []

/-- There is no hash to be shown. -/
def unnamed : TxError :=
  (TxError.other (ofString "The transaction was confirmed without a transaction hash.")
    none []).translate

/-- The last await of `executeVoidWrite` -/
def confirmed : Except TxError (SentTransaction Unit) → Except TxError Text
  | .error thrown => .error thrown.translate
  | .ok sent =>
    match unwrapResult sent.result with
    | .error error => .error (TxError.ofReadError error).translate
    | .ok () => if sent.hash = [] then .error unnamed else .ok sent.hash

/-- The last await of `createEvent`, which looks at the hash first. -/
def created : Except TxError (SentTransaction UInt64) → Except TxError (UInt64 × Text)
  | .error thrown => .error thrown.translate
  | .ok sent =>
    if sent.hash = [] then .error unnamed
    else
      match unwrapResult sent.result with
      | .error error => .error (TxError.ofReadError error).translate
      | .ok eventId => .ok (eventId, sent.hash)

theorem unwrapResult_ok {α : Type} {result : Except ResultError α} {value : α}
    (h : unwrapResult result = .ok value) : result = .ok value := by
  cases result with
  | ok value =>
    cases h
    rfl
  | error returned =>
    cases code : returned.code <;> simp [unwrapResult, code] at h

theorem confirmed_ok {answer : Except TxError (SentTransaction Unit)} {hash : Text}
    (h : confirmed answer = .ok hash) : ∃ sent, answer = .ok sent ∧ sent.result = .ok () := by
  cases answer with
  | error thrown => cases h
  | ok sent =>
    refine ⟨sent, rfl, ?_⟩
    unfold confirmed at h
    cases unwrapped : unwrapResult sent.result with
    | error error =>
      simp only [unwrapped] at h
      cases h
    | ok value => exact unwrapResult_ok unwrapped

theorem created_ok {answer : Except TxError (SentTransaction UInt64)} {outcome : UInt64 × Text}
    (h : created answer = .ok outcome) :
    ∃ sent, answer = .ok sent ∧ sent.result = .ok outcome.1 := by
  cases answer with
  | error thrown => cases h
  | ok sent =>
    refine ⟨sent, rfl, ?_⟩
    simp only [created] at h
    split at h
    · cases h
    · cases unwrapped : unwrapResult sent.result with
      | error error =>
        rw [unwrapped] at h
        cases h
      | ok eventId =>
        rw [unwrapped] at h
        cases h
        exact unwrapResult_ok unwrapped

/-- What the two functions differ in. -/
structure WriteMethod (α ρ : Type) where
  finish : Except TxError (SentTransaction α) → Except TxError ρ
  value : ρ → α
  /-- the contract returns this where its call leaves so many events -/
  returns : α → UInt64 → Bool
  finish_ok : ∀ {answer : Except TxError (SentTransaction α)} {outcome : ρ},
    finish answer = .ok outcome → ∃ sent, answer = .ok sent ∧ sent.result = .ok (value outcome)

def executeVoidWrite : WriteMethod Unit Text where
  finish := confirmed
  value _ := ()
  returns _ _ := true
  finish_ok := confirmed_ok

def createEvent : WriteMethod UInt64 (UInt64 × Text) where
  finish := created
  value := Prod.fst
  returns eventId count := eventId = count
  finish_ok := created_ok

/-- How an answer takes a write on; none, if it is not the one awaited. -/
def WriteMethod.next {α ρ : Type} (m : WriteMethod α ρ) :
    WriteStage ρ → WriteAnswer α → Option (WriteStage ρ)
  | .simulating, .built read =>
    some (match simulated read with
      | .error thrown => .settled (.error thrown)
      | .ok _ => .awaitingSignature)
  | .awaitingSignature, .signed answer =>
    some (match answer with
      | .error thrown => .settled (.error thrown.translate)
      | .ok () => .submitting)
  | .submitting, .submitted => some .confirming
  | .submitting, .sent answer | .confirming, .sent answer => some (.settled (m.finish answer))
  | _, _ => none

/-- Where the signed call of a write is. -/
inductive Fate where
  | unsigned
  | out
  /-- with so many events then, which is what `create_event` returns -/
  | landed (count : UInt64)
  | refused
  deriving DecidableEq

/-- `about` is what the caller's closure keeps. -/
structure Write (γ ρ : Type) where
  about : γ
  call : Call
  signer : Address
  stage : WriteStage ρ
  fate : Fate

def Write.pending {γ ρ : Type} (w : Write γ ρ) : Bool := w.stage.phase?.isSome

/-- One write at two times, with the same stage. -/
structure Write.Same {γ ρ : Type} (w' w : Write γ ρ) : Prop where
  about : w'.about = w.about
  call : w'.call = w.call
  signer : w'.signer = w.signer
  stage : w'.stage = w.stage

theorem Write.Same.refl {γ ρ : Type} (w : Write γ ρ) : w.Same w := ⟨rfl, rfl, rfl, rfl⟩

theorem Write.Same.pending {γ ρ : Type} {w' w : Write γ ρ} (same : w'.Same w) :
    w'.pending = w.pending := by
  unfold Write.pending
  rw [same.stage]

/-- One signature, for the call and for what it does inside. -/
def signedBy (contract : Address) (timestamp : UInt64) (signer : Address) : Env contract where
  timestamp := timestamp
  authorizes a := a = signer ∧ a ≠ contract
  authorizesTransfer a := a = signer
  contract_silent := by simp

/-- The chain, nodes of which may be behind, and the writes of one page, in order. -/
structure Wire (tok : Token) (contract : Address) (γ : Type) {α ρ : Type}
    (m : WriteMethod α ρ) where
  chain : Replicas (Chain tok contract)
  writes : List (Write γ ρ)

/-- What the page does not do itself: somebody's step on the chain, or a ledger taking in
the call of one of the writes. -/
inductive Outside (contract : Address) where
  | others (i : Step contract)
  | takesIn (k : Nat) (timestamp : UInt64)

namespace Wire

variable {tok : Token} {contract : Address} {γ α ρ : Type} {m : WriteMethod α ρ}
  (w : Wire tok contract γ m)

def initial (s : Chain tok contract) : Wire tok contract γ m := ⟨.initial s, []⟩

def now : Chain tok contract := w.chain.now

/-- The ledger a node shows that is so many moves behind. -/
def ledgerAt (lag : Nat) : Ledger tok.State := (w.chain.seen lag).ledger

/-- A ledger takes in the call of the write. -/
def takenIn (k : Nat) (write : Write γ ρ) (env : Env contract) : Wire tok contract γ m where
  chain := w.chain.advance (w.now.step (.call env write.call))
  writes := w.writes.set k { write with
    fate := match invoke tok env write.call w.now.ledger with
      | .ok _ f => .landed f.ledger.eventCount
      | .error _ _ => .refused }

def outside : Outside contract → Wire tok contract γ m
  | .others i => { w with chain := w.chain.advance (w.now.step i) }
  | .takesIn k timestamp =>
    match w.writes[k]? with
    | none => w
    | some write =>
      if write.fate = .out then w.takenIn k write (signedBy contract timestamp write.signer)
      else w

def post (about : γ) (call : Call) (signer : Address) : Wire tok contract γ m :=
  { w with writes := w.writes ++ [⟨about, call, signer, .simulating, .unsigned⟩] }

/-- Only a call that was carried out has a result, and it is what the contract returned. -/
def believable (m : WriteMethod α ρ) : Fate → WriteAnswer α → Bool
  | .landed count, .sent (.ok sent) => sent.result.toOption.all fun value => m.returns value count
  | _, .sent (.ok sent) => !sent.result.toBool
  | _, _ => true

def fateAfter (fate : Fate) : WriteAnswer α → Fate
  | .signed (.ok ()) => .out
  | _ => fate

/-- An answer reaches the write: what its caller goes on with, and the wire. -/
def answer (k : Nat) (a : WriteAnswer α) : Option (Write γ ρ × Wire tok contract γ m) := do
  let write ← w.writes[k]?
  let stage ← m.next write.stage a
  if believable m write.fate a then
    let write' := { write with stage, fate := fateAfter write.fate a }
    return (write', { w with writes := w.writes.set k write' })
  else none

end Wire

end ShowUp.Client

namespace ShowUp.Chain

variable {tok : Token} {contract : Address} {a b c s : Chain tok contract}

/-- The second is the first after more steps, as far as a reader can tell. -/
structure Before (s s' : Chain tok contract) : Prop where
  ledger : s.ledger.Later s'.ledger
  history : s.history <+: s'.history

theorem Before.refl (s : Chain tok contract) : s.Before s := ⟨.refl _, List.prefix_refl _⟩

theorem Before.trans (h₁ : a.Before b) (h₂ : b.Before c) : a.Before c :=
  ⟨h₁.ledger.trans h₂.ledger, h₁.history.trans h₂.history⟩

theorem before_step (w : s.ledger.WellFormed contract) (i : Step contract) :
    s.Before (s.step i) := by
  rcases step_cases w.toKeyed i with h | ⟨env, call, f, _, rule, h⟩ | ⟨_, _, _, _, t, _, _, h⟩
  · rw [h]
    exact .refl s
  · rw [h]
    exact ⟨rule.later w, List.prefix_append _ _⟩
  · rw [h]
    exact ⟨⟨rfl, fun _ e found => ⟨e, found, .refl e⟩, fun _ r held => ⟨r, held, .refl r⟩⟩,
      List.prefix_refl _⟩

end ShowUp.Chain

namespace ShowUp.Client

open Utf16 Replicas

section Wires
variable {tok : Token} {contract : Address} {γ α ρ : Type} {m : WriteMethod α ρ}

/-- The call was carried out, on well-formed storage and with the signer's signature alone, and
left so many events. -/
def Landed (call : Call) (signer : Address) (count : UInt64) (s : Chain tok contract) : Prop :=
  ∃ (l : Ledger tok.State) (timestamp : UInt64) (f : Frame tok.State), l.WellFormed contract ∧
    Rule tok (signedBy contract timestamp signer) l call f ∧
    ⟨signedBy contract timestamp signer, call, f.effects⟩ ∈ s.history ∧
    f.ledger.Later s.ledger ∧ f.ledger.eventCount = count

theorem Landed.later {call : Call} {signer : Address} {count : UInt64}
    {s s' : Chain tok contract} (landed : Landed call signer count s) (before : s.Before s') :
    Landed call signer count s' := by
  obtain ⟨l, timestamp, f, wellFormed, rule, recorded, later, counted⟩ := landed
  exact ⟨l, timestamp, f, wellFormed, rule, before.history.subset recorded,
    later.trans before.ledger, counted⟩

theorem landed_step {s : Chain tok contract} (w : s.ledger.WellFormed contract)
    {call : Call} {signer : Address} {timestamp : UInt64} {f : Frame tok.State}
    (ran : invoke tok (signedBy contract timestamp signer) call s.ledger = .ok () f) :
    Landed call signer f.ledger.eventCount
      (s.step (.call (signedBy contract timestamp signer) call)) := by
  have next : s.step (.call (signedBy contract timestamp signer) call) =
      ⟨f.ledger, s.history ++ [⟨signedBy contract timestamp signer, call, f.effects⟩]⟩ := by
    simp only [Chain.step, ran]
  rw [next]
  exact ⟨s.ledger, timestamp, f, w, (perform_ok_iff w.toKeyed call).mp ran,
    List.mem_append_right _ List.mem_cons_self, .refl _, rfl⟩

/-- What a landed reservation has left behind. -/
theorem Landed.reserve {s : Chain tok contract} {id count : UInt64} {p signer : Address}
    (landed : Landed (.reserve id p) signer count s) : p = signer ∧ ∃ r e rec timestamp,
      s.ledger.reservations.lookup (id, p) = some r ∧
      s.ledger.events.lookup id = some e ∧ r.amount = e.bondAmount ∧
      rec ∈ s.history ∧ rec.env = signedBy contract timestamp signer ∧
      rec.Opens s.ledger.config (id, p) r.amount := by
  obtain ⟨l, timestamp, f, _, rule, recorded, later, _⟩ := landed
  cases rule with
  | @reserve _ _ event count t signed found active early seat fresh counted tree paid =>
    obtain ⟨r, held, kept⟩ := later.reservation (id, p) _ (Finmap.lookup_insert _)
    obtain ⟨e, stored, same⟩ := later.event id _ (Finmap.lookup_insert _)
    have amount : r.amount = event.bondAmount := by rw [kept.kept]
    refine ⟨(of_decide_eq_true signed).1, r, e, _, timestamp, held, stored, ?_, recorded, rfl,
      rfl, ?_, ?_⟩
    · rw [amount]
      exact (same.policy.field Event.bondAmount fun _ _ => rfl).symm
    · rw [amount, later.config]
      rfl
    · rw [amount]
      rfl
  | @exit _ x _ _ _ _ _ _ _ named => cases x <;> cases named

/-- What a landed exit has left behind; `e₀` is the event as the call found it. -/
theorem Landed.exit {s : Chain tok contract} {x : Exit} {id count : UInt64} {p signer : Address}
    (landed : Landed (x.call id p) signer count s) : ∃ r e terms rec timestamp e₀,
      s.ledger.reservations.lookup (id, p) = some r ∧ r.status = x.status ∧
      s.ledger.events.lookup id = some e ∧
      x.terms s.ledger.config.communityPool e (id, p) r.amount = some terms ∧
      rec ∈ s.history ∧ rec.env = signedBy contract timestamp signer ∧
      rec.Closes s.ledger.config (id, p) x terms ∧
      Event.SamePolicy e₀ e ∧ x.Open rec.env e₀ p := by
  obtain ⟨l, timestamp, f, _, rule, recorded, later, _⟩ := landed
  obtain ⟨r₀, e₀, e₁, terms, t, held₀, _, _, isOpen, seat, agreed, _, rfl⟩ := rule.exit_inv
  obtain ⟨r, held, kept⟩ := later.reservation (id, p) _ (Finmap.lookup_insert _)
  obtain ⟨e, stored, same⟩ := later.event id _ (Finmap.lookup_insert _)
  have policy : Event.SamePolicy e₀ e := (Exit.eventAfter_samePolicy seat).trans same.policy
  have amount : r.amount = r₀.amount := by rw [kept.kept]
  have status : r.status = x.status := kept.ended (by cases x <;> exact fun h => by cases h)
  refine ⟨r, e, terms, _, timestamp, e₀, held, status, stored, ?_, recorded, rfl, ?_, policy,
    isOpen⟩
  · rw [amount, later.config]
    exact (Exit.terms_policy policy ..).trans agreed
  · rw [later.config]
    exact Exit.closes x _ l.config id p e₁ _ terms

/-- What a landed creation has left behind, under the number that it returned. -/
theorem Landed.createEvent {s : Chain tok contract} {args : CreateEventArgs} {count : UInt64}
    {signer : Address} (landed : Landed (.createEvent args) signer count s) :
    args.organizer = signer ∧ ∃ e rec timestamp, s.ledger.events.lookup count = some e ∧
      Event.SamePolicy (args.toEvent count) e ∧ rec ∈ s.history ∧
      rec.env = signedBy contract timestamp signer ∧ rec.call = .createEvent args := by
  obtain ⟨l, timestamp, f, _, rule, recorded, later, counted⟩ := landed
  cases rule with
  | @createEvent _ id signed valid next =>
    cases counted
    obtain ⟨e, stored, same⟩ := later.event id _ (Finmap.lookup_insert _)
    exact ⟨(of_decide_eq_true signed).1, e, _, timestamp, stored, same.policy, recorded, rfl, rfl⟩
  | @exit _ x _ _ _ _ _ _ _ named => cases x <;> cases named

theorem Landed.cancelEvent {s : Chain tok contract} {id count : UInt64} {signer : Address}
    (landed : Landed (.cancelEvent id) signer count s) :
    ∃ e, s.ledger.events.lookup id = some e ∧ e.status = .cancelled ∧ e.organizer = signer := by
  obtain ⟨l, timestamp, f, _, rule, _, later, _⟩ := landed
  cases rule with
  | @cancelEvent _ event found signed active =>
    obtain ⟨e, stored, same⟩ := later.event id _ (Finmap.lookup_insert _)
    refine ⟨e, stored, same.cancelled rfl, ?_⟩
    rw [same.policy.field Event.organizer fun _ _ => rfl]
    exact (of_decide_eq_true signed).1
  | @exit _ x _ _ _ _ _ _ _ named => cases x <;> cases named

/-- A write ends well only with what the contract returned. -/
theorem settles_well {stage : WriteStage ρ} {a : WriteAnswer α} {outcome : ρ}
    (h : m.next stage a = some (.settled (.ok outcome))) :
    ∃ sent, a = .sent (.ok sent) ∧ sent.result = .ok (m.value outcome) := by
  cases stage with
  | simulating =>
    cases a with
    | built read =>
      cases built : simulated read <;> simp [WriteMethod.next, built] at h
    | signed | submitted | sent => cases h
  | awaitingSignature =>
    cases a with
    | signed answer => cases answer <;> cases h
    | built | submitted | sent => cases h
  | submitting | confirming =>
    cases a with
    | sent answer =>
      obtain ⟨sent, rfl, result⟩ := m.finish_ok (WriteStage.settled.inj (Option.some.inj h))
      exact ⟨sent, rfl, result⟩
    | built | signed => cases h
    | submitted => cases h
  | settled => cases h

namespace Wire

variable {w w' : Wire tok contract γ m} {write : Write γ ρ} {k : Nat}

structure Sound (w : Wire tok contract γ m) : Prop where
  wellFormed : w.now.ledger.WellFormed contract
  forward : w.chain.Forward Chain.Before
  landed : ∀ write ∈ w.writes, ∀ count, write.fate = .landed count →
    Landed write.call write.signer count w.now
  /-- an outcome is only named for a call that was carried out -/
  proven : ∀ write ∈ w.writes, ∀ outcome, write.stage = .settled (.ok outcome) →
    ∃ count, write.fate = .landed count ∧ m.returns (m.value outcome) count = true

def Idle (w : Wire tok contract γ m) : Prop := ∀ write ∈ w.writes, write.pending = false

/-- Only the last write may not have come to its end. -/
def Single (w : Wire tok contract γ m) : Prop :=
  ∀ (k : Nat) (write : Write γ ρ), w.writes[k]? = some write → write.pending = true →
    k + 1 = w.writes.length

theorem Sound.initial {s : Chain tok contract} (wellFormed : s.ledger.WellFormed contract) :
    (initial s : Wire tok contract γ m).Sound :=
  ⟨wellFormed, .initial _ s, fun _ h => (by cases h), fun _ h => (by cases h)⟩

/-- A write that ended well has left what its call leaves. -/
theorem Sound.carriedOut (sound : w.Sound) (member : write ∈ w.writes) {outcome : ρ}
    (settled : write.stage = .settled (.ok outcome)) :
    ∃ count, m.returns (m.value outcome) count = true ∧
      Landed write.call write.signer count w.now := by
  obtain ⟨count, fate, returned⟩ := sound.proven write member outcome settled
  exact ⟨count, returned, sound.landed write member count fate⟩

theorem Sound.before (sound : w.Sound) (lag : Nat) : (w.chain.seen lag).Before w.now :=
  sound.forward.seen Chain.Before.refl lag

theorem getElem?_set_cases {α : Type} {l : List α} {k j : Nat} {a b c : α}
    (here : l[k]? = some a) (found : (l.set k b)[j]? = some c) :
    (j = k ∧ c = b) ∨ (j ≠ k ∧ l[j]? = some c) := by
  by_cases same : k = j
  · subst same
    rw [List.getElem?_set_self (List.getElem?_eq_some_iff.mp here).1] at found
    exact .inl ⟨rfl, (Option.some.inj found).symm⟩
  · rw [List.getElem?_set_ne same] at found
    exact .inr ⟨fun other => same other.symm, found⟩

/-- Every write is as it was, up to how far it has come. -/
structure Goes (w w' : Wire tok contract γ m) : Prop where
  before : w.now.Before w'.now
  same : ∀ write' ∈ w'.writes, ∃ write ∈ w.writes, write'.about = write.about ∧
    write'.call = write.call ∧ write'.signer = write.signer

theorem Goes.refl (w : Wire tok contract γ m) : w.Goes w :=
  ⟨.refl _, fun write' member => ⟨write', member, rfl, rfl, rfl⟩⟩

theorem Goes.set {chain : Replicas (Chain tok contract)} {write' : Write γ ρ}
    (before : w.now.Before chain.now) (here : w.writes[k]? = some write)
    (same : write'.about = write.about ∧ write'.call = write.call ∧
      write'.signer = write.signer) : w.Goes ⟨chain, w.writes.set k write'⟩ := by
  refine ⟨before, ?_⟩
  intro other member
  rcases List.mem_or_eq_of_mem_set member with older | rfl
  · exact ⟨other, older, rfl, rfl, rfl⟩
  · exact ⟨write, List.mem_of_getElem? here, same⟩

theorem Sound.takenIn (sound : w.Sound) (here : w.writes[k]? = some write)
    (out : write.fate = .out) (timestamp : UInt64) :
    (w.takenIn k write (signedBy contract timestamp write.signer)).Sound ∧
      w.Goes (w.takenIn k write (signedBy contract timestamp write.signer)) := by
  let step : Step contract := .call (signedBy contract timestamp write.signer) write.call
  have next := Chain.before_step sound.wellFormed step
  refine ⟨⟨Chain.step_wellFormed sound.wellFormed step,
    sound.forward.advance Chain.Before.trans next, ?_, ?_⟩, Goes.set next here ⟨rfl, rfl, rfl⟩⟩
  · intro other member count fate
    rcases List.mem_or_eq_of_mem_set member with older | rfl
    · exact (sound.landed other older count fate).later next
    · cases ran : invoke tok (signedBy contract timestamp write.signer) write.call
        w.now.ledger with
      | ok value f =>
        simp only [ran] at fate
        cases fate
        exact landed_step sound.wellFormed ran
      | error failure f => simp [ran] at fate
  · intro other member hash settled
    rcases List.mem_or_eq_of_mem_set member with older | rfl
    · exact sound.proven other older hash settled
    · obtain ⟨count, fate, _⟩ := sound.proven write (List.mem_of_getElem? here) hash settled
      cases out.symm.trans fate

theorem outside_cases (w : Wire tok contract γ m) (o : Outside contract) :
    w.outside o = w ∨
    (∃ i, w.outside o = { w with chain := w.chain.advance (w.now.step i) }) ∨
    ∃ k write timestamp, w.writes[k]? = some write ∧ write.fate = .out ∧
      w.outside o = w.takenIn k write (signedBy contract timestamp write.signer) := by
  cases o with
  | others i => exact .inr (.inl ⟨i, rfl⟩)
  | takesIn k timestamp =>
    cases here : w.writes[k]? with
    | none => exact .inl (by simp only [Wire.outside, here])
    | some write =>
      by_cases out : write.fate = .out
      · exact .inr (.inr ⟨k, write, timestamp, here, out,
          by simp only [Wire.outside, here, out, if_true]⟩)
      · exact .inl (by simp only [Wire.outside, here, out, if_false])

/-- Whatever others do, and whatever becomes of calls that are out. -/
theorem Sound.outside (sound : w.Sound) (o : Outside contract) :
    (w.outside o).Sound ∧ w.Goes (w.outside o) := by
  rcases outside_cases w o with h | ⟨i, h⟩ | ⟨k, write, timestamp, here, out, h⟩
  · rw [h]
    exact ⟨sound, .refl w⟩
  · rw [h]
    have next := Chain.before_step sound.wellFormed i
    refine ⟨⟨Chain.step_wellFormed sound.wellFormed i, ?_, ?_, sound.proven⟩,
      ⟨next, fun write' member => ⟨write', member, rfl, rfl, rfl⟩⟩⟩
    · exact sound.forward.advance Chain.Before.trans next
    · exact fun write member count fate => (sound.landed write member count fate).later next
  · rw [h]
    exact sound.takenIn here out timestamp

theorem Sound.post (sound : w.Sound) (about : γ) (call : Call) (signer : Address) :
    (w.post about call signer).Sound := by
  refine ⟨sound.wellFormed, sound.forward, ?_, ?_⟩
  · intro write member count fate
    rcases List.mem_append.mp member with older | new
    · exact sound.landed write older count fate
    · cases List.mem_singleton.mp new
      cases fate
  · intro write member hash settled
    rcases List.mem_append.mp member with older | new
    · exact sound.proven write older hash settled
    · cases List.mem_singleton.mp new
      cases settled

/-- What an answer that is listened to does. -/
theorem answer_cases {a : WriteAnswer α} {write' : Write γ ρ}
    (h : w.answer k a = some (write', w')) :
    ∃ (write : Write γ ρ) (stage : WriteStage ρ), w.writes[k]? = some write ∧
      m.next write.stage a = some stage ∧ believable m write.fate a = true ∧
      write' = { write with stage, fate := fateAfter write.fate a } ∧
      w' = { w with writes := w.writes.set k write' } := by
  unfold Wire.answer at h
  obtain ⟨write, here, h⟩ := Option.bind_eq_some_iff.mp h
  obtain ⟨stage, next, h⟩ := Option.bind_eq_some_iff.mp h
  split at h
  · rename_i believed
    cases h
    exact ⟨write, stage, here, next, believed, rfl, rfl⟩
  · cases h

theorem landed_of_believed {fate : Fate} {sent : SentTransaction α} {value : α}
    (believed : believable m fate (.sent (.ok sent)) = true) (result : sent.result = .ok value) :
    ∃ count, fate = .landed count ∧ m.returns value count = true := by
  cases fate with
  | landed count =>
    refine ⟨count, rfl, ?_⟩
    simpa [believable, result, Except.toOption] using believed
  | unsigned | out | refused => simp [believable, result, Except.toBool] at believed

theorem Sound.answer (sound : w.Sound) {a : WriteAnswer α} {write' : Write γ ρ}
    (h : w.answer k a = some (write', w')) : w'.Sound ∧ w.Goes w' := by
  obtain ⟨write, stage, here, next, believed, rfl, rfl⟩ := answer_cases h
  have member := List.mem_of_getElem? here
  refine ⟨⟨sound.wellFormed, sound.forward, ?_, ?_⟩,
    Goes.set (.refl _) here ⟨rfl, rfl, rfl⟩⟩
  · intro other among count fate
    rcases List.mem_or_eq_of_mem_set among with older | rfl
    · exact sound.landed other older count fate
    · refine sound.landed write member count ?_
      revert fate
      unfold fateAfter
      split
      · intro fate
        cases fate
      · exact id
  · intro other among hash settled
    rcases List.mem_or_eq_of_mem_set among with older | rfl
    · exact sound.proven other older hash settled
    · dsimp only at settled ⊢
      rw [settled] at next
      obtain ⟨sent, rfl, result⟩ := settles_well next
      exact landed_of_believed believed result

theorem pending_of_next {stage stage' : WriteStage ρ} {a : WriteAnswer α}
    (next : m.next stage a = some stage') : stage.phase?.isSome = true := by
  cases stage with
  | settled => cases next
  | simulating | awaitingSignature | submitting | confirming => rfl

theorem answer_back {a : WriteAnswer α} {write' other : Write γ ρ} {j : Nat}
    (h : w.answer k a = some (write', w')) (found : w'.writes[j]? = some other) :
    ∃ older : Write γ ρ, w.writes[j]? = some older ∧ other.about = older.about ∧
      (other.pending = true → older.pending = true) := by
  obtain ⟨write, stage, here, next, _, rfl, rfl⟩ := answer_cases h
  rcases getElem?_set_cases here found with ⟨rfl, rfl⟩ | ⟨_, older⟩
  · exact ⟨write, here, rfl, fun _ => pending_of_next next⟩
  · exact ⟨other, older, rfl, id⟩

theorem answer_forth {a : WriteAnswer α} {write' other : Write γ ρ} {j : Nat}
    (h : w.answer k a = some (write', w')) (found : w.writes[j]? = some other)
    (ended : other.pending = false) : w'.writes[j]? = some other := by
  obtain ⟨write, stage, here, next, _, rfl, rfl⟩ := answer_cases h
  by_cases same : k = j
  · subst same
    cases here.symm.trans found
    exact absurd (pending_of_next next) (Bool.eq_false_iff.mp ended)
  · exact (List.getElem?_set_ne same).trans found

theorem answer_self {a : WriteAnswer α} {write' : Write γ ρ}
    (h : w.answer k a = some (write', w')) : w'.writes[k]? = some write' := by
  obtain ⟨write, stage, here, _, _, rfl, rfl⟩ := answer_cases h
  exact List.getElem?_set_self (List.getElem?_eq_some_iff.mp here).1

/-- Nothing from outside touches what the page knows of its writes. -/
theorem outside_back {o : Outside contract} {write' : Write γ ρ}
    (found : (w.outside o).writes[k]? = some write') :
    ∃ write : Write γ ρ, w.writes[k]? = some write ∧ write'.Same write := by
  rcases outside_cases w o with h | ⟨i, h⟩ | ⟨j, write, timestamp, here, out, h⟩
  · rw [h] at found
    exact ⟨write', found, .refl write'⟩
  · rw [h] at found
    exact ⟨write', found, .refl write'⟩
  · rw [h] at found
    rcases getElem?_set_cases here found with ⟨rfl, rfl⟩ | ⟨_, older⟩
    · exact ⟨write, here, rfl, rfl, rfl, rfl⟩
    · exact ⟨write', older, .refl write'⟩

theorem outside_forth (o : Outside contract) (found : w.writes[k]? = some write) :
    ∃ write' : Write γ ρ, (w.outside o).writes[k]? = some write' ∧ write'.Same write := by
  rcases outside_cases w o with h | ⟨i, h⟩ | ⟨j, taken, timestamp, here, _, h⟩
  · rw [h]
    exact ⟨write, found, .refl write⟩
  · rw [h]
    exact ⟨write, found, .refl write⟩
  · rw [h]
    by_cases same : j = k
    · subst same
      cases here.symm.trans found
      exact ⟨_, List.getElem?_set_self (List.getElem?_eq_some_iff.mp here).1, rfl, rfl, rfl, rfl⟩
    · exact ⟨write, (List.getElem?_set_ne same).trans found, .refl write⟩

theorem outside_kept (o : Outside contract) (member : write ∈ w.writes) :
    ∃ write' ∈ (w.outside o).writes, write'.Same write := by
  obtain ⟨k, found⟩ := List.mem_iff_getElem?.mp member
  obtain ⟨write', found', same⟩ := outside_forth o found
  exact ⟨write', List.mem_of_getElem? found', same⟩

theorem outside_length (o : Outside contract) :
    (w.outside o).writes.length = w.writes.length := by
  rcases outside_cases w o with h | ⟨i, h⟩ | ⟨k, write, timestamp, _, _, h⟩
  · rw [h]
  · rw [h]
  · rw [h]
    exact List.length_set

theorem outside_keeps (o : Outside contract) : w.chain.Keeps (w.outside o).chain := by
  rcases outside_cases w o with h | ⟨i, h⟩ | ⟨k, write, timestamp, _, _, h⟩
  · rw [h]
    exact .refl w.chain
  · rw [h]
    exact .advance w.chain _
  · rw [h]
    exact .advance w.chain _

theorem answer_length {a : WriteAnswer α} {write' : Write γ ρ}
    (h : w.answer k a = some (write', w')) : w'.writes.length = w.writes.length := by
  obtain ⟨_, _, _, _, _, _, rfl⟩ := answer_cases h
  exact List.length_set

theorem answer_chain {a : WriteAnswer α} {write' : Write γ ρ}
    (h : w.answer k a = some (write', w')) : w'.chain = w.chain := by
  obtain ⟨_, _, _, _, _, _, rfl⟩ := answer_cases h
  rfl

/-- Every write is still in its place. -/
def Kept (w w' : Wire tok contract γ m) : Prop :=
  ∀ (k : Nat) (write : Write γ ρ), w.writes[k]? = some write → ∃ write' : Write γ ρ,
    w'.writes[k]? = some write' ∧ write'.about = write.about ∧ write'.call = write.call ∧
    write'.signer = write.signer

theorem Kept.refl (w : Wire tok contract γ m) : w.Kept w :=
  fun _ write found => ⟨write, found, rfl, rfl, rfl⟩

theorem Kept.trans {w'' : Wire tok contract γ m} (first : w.Kept w') (second : w'.Kept w'') :
    w.Kept w'' := by
  intro k write found
  obtain ⟨write', found', about, call, signer⟩ := first k write found
  obtain ⟨write'', found'', about', call', signer'⟩ := second k write' found'
  exact ⟨write'', found'', about'.trans about, call'.trans call, signer'.trans signer⟩

theorem Kept.outside (w : Wire tok contract γ m) (o : Outside contract) :
    w.Kept (w.outside o) := by
  intro k write found
  obtain ⟨write', found', same⟩ := outside_forth o found
  exact ⟨write', found', same.about, same.call, same.signer⟩

theorem Kept.post (w : Wire tok contract γ m) (about : γ) (call : Call) (signer : Address) :
    w.Kept (w.post about call signer) := by
  intro k write found
  refine ⟨write, ?_, rfl, rfl, rfl⟩
  rw [Wire.post, List.getElem?_append_left (List.getElem?_eq_some_iff.mp found).1]
  exact found

theorem Kept.answer {a : WriteAnswer α} {write' : Write γ ρ}
    (h : w.answer k a = some (write', w')) : w.Kept w' := by
  obtain ⟨older, stage, here, _, _, rfl, rfl⟩ := answer_cases h
  intro j write found
  by_cases same : k = j
  · subst same
    cases here.symm.trans found
    exact ⟨_, List.getElem?_set_self (List.getElem?_eq_some_iff.mp here).1, rfl, rfl, rfl⟩
  · exact ⟨write, (List.getElem?_set_ne same).trans found, rfl, rfl, rfl⟩

theorem Idle.outside (idle : w.Idle) (o : Outside contract) : (w.outside o).Idle := by
  intro write' member
  obtain ⟨k, found⟩ := List.mem_iff_getElem?.mp member
  obtain ⟨write, here, same⟩ := outside_back found
  rw [same.pending]
  exact idle write (List.mem_of_getElem? here)

theorem Single.outside (single : w.Single) (o : Outside contract) : (w.outside o).Single := by
  intro k write' found pending
  obtain ⟨write, here, same⟩ := outside_back found
  rw [same.pending] at pending
  rw [outside_length]
  exact single k write here pending

theorem Single.post (idle : w.Idle) (about : γ) (call : Call) (signer : Address) :
    (w.post about call signer).Single := by
  intro k write found pending
  have within := (List.getElem?_eq_some_iff.mp found).1
  rw [Wire.post, List.length_append, List.length_singleton] at within
  rw [Wire.post, List.length_append, List.length_singleton]
  by_cases older : k < w.writes.length
  · rw [Wire.post, List.getElem?_append_left older] at found
    rw [idle write (List.mem_of_getElem? found)] at pending
    cases pending
  · omega

/-- An answer goes to the write that is under way, and may bring it to its end. -/
theorem Single.answer (single : w.Single) {a : WriteAnswer α} {write' : Write γ ρ}
    (h : w.answer k a = some (write', w')) :
    w'.Single ∧ (write'.pending = false → w'.Idle) := by
  obtain ⟨write, stage, here, next, _, rfl, rfl⟩ := answer_cases h
  have last := single k write here (pending_of_next next)
  have others : ∀ j other, j ≠ k → w.writes[j]? = some other → other.pending = false := by
    intro j other apart found
    by_contra pending
    have also := single j other found (Bool.not_eq_false _ ▸ pending)
    omega
  constructor
  · intro j other found pending
    rw [List.length_set]
    rcases getElem?_set_cases here found with ⟨rfl, _⟩ | ⟨apart, older⟩
    · exact last
    · rw [others j other apart older] at pending
      cases pending
  · intro ended other member
    obtain ⟨j, found⟩ := List.mem_iff_getElem?.mp member
    rcases getElem?_set_cases here found with ⟨_, rfl⟩ | ⟨apart, older⟩
    · exact ended
    · exact others j other apart older

end Wire

end Wires

end ShowUp.Client

import ShowUp.Client.AmountCodec
import ShowUp.Client.Pages

/-!
# What an account can spend

`lib/stellar/horizon.ts` and `lib/stellar/xlm-reserve.ts`: Horizon's answers about an account,
read into stroops. Below the code stands the network's own rule: an account keeps a reserve for
each of its entries and what its offers have promised, and may spend the rest.
-/

namespace ShowUp.Client

set_option autoImplicit false

open Utf16

structure XlmReserveInput where
  balance : Int
  baseReserve : Int
  subentryCount : JsNumber
  numSponsoring : JsNumber
  numSponsored : JsNumber
  sellingLiabilities : Int

structure XlmReservePosition where
  minimumBalance : Int
  reserveEntryCount : Int
  reserveShortfall : Int
  spendable : Int
  deriving DecidableEq

/-- `assertNonNegativeInteger` -/
def assertNonNegativeInteger (label : String) : JsNumber → Except String Int
  | .safe value .. =>
    if value < 0 then .error (label ++ " must be a non-negative safe integer.") else .ok value
  | _ => .error (label ++ " must be a non-negative safe integer.")

/-- What a sum or difference of safe integers is rounded to; it is below `2^54`. -/
def nearestDouble (n : Int) : Int :=
  if n ≤ 2 ^ 53 ∨ n % 2 = 0 then n else if n % 4 = 1 then n - 1 else n + 1

def calculateXlmReservePosition (input : XlmReserveInput) : Except String XlmReservePosition := do
  if input.balance < 0 then throw "balance must not be negative."
  if input.baseReserve < 0 then throw "baseReserve must not be negative."
  if input.sellingLiabilities < 0 then throw "sellingLiabilities must not be negative."
  let subentryCount ← assertNonNegativeInteger "subentryCount" input.subentryCount
  let numSponsoring ← assertNonNegativeInteger "numSponsoring" input.numSponsoring
  let numSponsored ← assertNonNegativeInteger "numSponsored" input.numSponsored
  let reserveEntryCount :=
    nearestDouble (nearestDouble (nearestDouble (2 + subentryCount) + numSponsoring) - numSponsored)
  if reserveEntryCount < 0 then throw "Sponsorship data produced a negative reserve entry count."
  let minimumBalance := input.baseReserve * reserveEntryCount
  let unavailable := minimumBalance + input.sellingLiabilities
  return {
    minimumBalance, reserveEntryCount
    reserveShortfall := if unavailable > input.balance then unavailable - input.balance else 0
    spendable := if input.balance > unavailable then input.balance - unavailable else 0 }

def requiredForNewSubentry (baseReserve transactionFee : Int) : Except String Int :=
  if baseReserve < 0 ∨ transactionFee < 0 then .error "Reserve and fee must not be negative."
  else .ok (baseReserve + transactionFee)

/-- One of `account.balances` -/
inductive BalanceLine where
  | native (balance sellingLiabilities : Text)
  /-- `credit_alphanum4` or `credit_alphanum12` -/
  | credit (code issuer balance : Text)
  | poolShare

structure AccountResponse where
  balances : List BalanceLine
  subentryCount : JsNumber
  numSponsoring : JsNumber
  numSponsored : JsNumber

/-- How `loadAccount` ends. -/
inductive AccountAnswer where
  | account (response : AccountResponse)
  | notFound
  | failed (thrown : Text)

inductive AssetsError where
  | amount (error : AmountError)
  | error (message : String)
  /-- what `BigInt` throws -/
  | notAnInteger
  | thrown (error : Text)

/-- All of `AccountAssets` -/
structure AccountReading extends AccountAssets where
  xlm : Int
  baseReserve : Int
  minimumBalance : Int
  nativeSellingLiabilities : Int
  deriving DecidableEq

def emptyAccount : AccountReading where
  accountExists := false
  xlm := 0
  baseReserve := 0
  minimumBalance := 0
  nativeSellingLiabilities := 0
  spendableXlm := 0
  usdc := 0
  hasUsdcTrustline := false

/-- The variables of the loop over the lines. -/
structure Balances where
  xlm : Int
  nativeSellingLiabilities : Int
  usdc : Int
  hasUsdcTrustline : Bool

/-- `USDC_CODE` and `USDC_ISSUER`, the SDK's `BASE_FEE`, and what `BigInt` makes of a number beyond
the safe ones -/
structure AssetsHost where
  usdcCode : Text
  usdcIssuer : Text
  baseFee : Nat
  baseFee_pos : 0 < baseFee
  large : String → Option Int

section Definitions
variable (host : AssetsHost)

def readLine (seen : Balances) : BalanceLine → Except AmountError Balances
  | .native balance sellingLiabilities => do
    let xlm ← toStroops (.text balance)
    let nativeSellingLiabilities ← toStroops (.text sellingLiabilities)
    return { seen with xlm, nativeSellingLiabilities }
  | .credit code issuer balance =>
    if code = host.usdcCode ∧ issuer = host.usdcIssuer then do
      let usdc ← toStroops (.text balance)
      return { seen with usdc, hasUsdcTrustline := true }
    else return seen
  | .poolShare => return seen

def readLines (lines : List BalanceLine) : Except AmountError Balances :=
  lines.foldlM (readLine host) ⟨0, 0, 0, false⟩

def bigInt : JsNumber → Except AssetsError Int
  | .safe value .. => .ok value
  | .other text _ => ((host.large text).map .ok).getD (.error .notAnInteger)
  | .nonFinite => .error .notAnInteger

/-- `ledgers` is the base reserve of each record of the latest ledgers. -/
def getAccountAssets (account : AccountAnswer) (ledgers : Except Text (List JsNumber)) :
    Except AssetsError AccountReading :=
  match account with
  | .notFound => .ok emptyAccount
  | .failed thrown => .error (.thrown thrown)
  | .account response => do
    let lines ← (readLines host response.balances).mapError .amount
    match ← ledgers.mapError .thrown with
    | [] => .error (.error "Horizon did not return a latest ledger.")
    | latestLedger :: _ =>
      let baseReserve ← bigInt host latestLedger
      let position ← (calculateXlmReservePosition {
        balance := lines.xlm
        baseReserve
        subentryCount := response.subentryCount
        numSponsoring := response.numSponsoring
        numSponsored := response.numSponsored
        sellingLiabilities := lines.nativeSellingLiabilities }).mapError .error
      return {
        accountExists := true
        xlm := lines.xlm
        baseReserve
        minimumBalance := position.minimumBalance
        nativeSellingLiabilities := lines.nativeSellingLiabilities
        spendableXlm := position.spendable
        usdc := lines.usdc
        hasUsdcTrustline := lines.hasUsdcTrustline }

/-- `CHANGE_TRUST_FEE_STROOPS` -/
def changeTrustFeeStroops : Int := host.baseFee

/-- `insufficientXlm` of `EnableUsdcAction` -/
def insufficientForTrustline (assets : Option AccountReading) : Except String Bool :=
  match assets with
  | none => .ok false
  | some assets =>
    (requiredForNewSubentry assets.baseReserve (changeTrustFeeStroops host)).map fun xlmRequired =>
      assets.accountExists && !assets.hasUsdcTrustline && assets.spendableXlm < xlmRequired

end Definitions

/-! The account on the network, in stroops. -/

structure Account where
  native : Nat
  sellingLiabilities : Nat
  subentries : UInt32
  sponsoring : UInt32
  sponsored : UInt32
  /-- the balance of the trustline to an asset, where there is one -/
  trustline : Text → Text → Option Nat
  sponsored_le : sponsored.toNat ≤ 2 + subentries.toNat + sponsoring.toNat

namespace Account

variable (a : Account) (base : Nat)

/-- The entries it keeps a reserve for. -/
def entries : Nat := 2 + a.subentries.toNat + a.sponsoring.toNat - a.sponsored.toNat

/-- It can spend so much. -/
def Spends (n : Nat) : Prop := a.entries * base + a.sellingLiabilities + n ≤ a.native

/-- It can pay so high a fee for one entry more. -/
def AffordsEntry (fee : Nat) : Prop :=
  (a.entries + 1) * base + a.sellingLiabilities + fee ≤ a.native

end Account

/-- The text is a decimal literal of so many stroops. -/
def Denotes (text : Text) (n : Nat) : Prop := ∃ l, Writes text l ∧ l.number * 10 ^ 7 = n

/-- What Horizon answers about the account. -/
structure AccountResponse.Describes (r : AccountResponse) (a : Account) : Prop where
  funded : ∃ balance liabilities, .native balance liabilities ∈ r.balances
  native : ∀ balance liabilities, .native balance liabilities ∈ r.balances →
    Denotes balance a.native ∧ Denotes liabilities a.sellingLiabilities
  credit : ∀ code issuer balance, .credit code issuer balance ∈ r.balances →
    ∃ n, a.trustline code issuer = some n ∧ Denotes balance n
  trusted : ∀ code issuer n, a.trustline code issuer = some n →
    ∃ balance, .credit code issuer balance ∈ r.balances
  subentryCount : r.subentryCount = .ofU32 a.subentries
  numSponsoring : r.numSponsoring = .ofU32 a.sponsoring
  numSponsored : r.numSponsored = .ofU32 a.sponsored

section Reading
variable {host : AssetsHost} {a : Account}

theorem Denotes.read {text : Text} {n : Nat} (h : Denotes text n) :
    toStroops (.text text) = .ok n := by
  obtain ⟨l, writes, number⟩ := h
  have same : (stroops l : ℚ) = (n : Int) := (stroops_eq writes.2).trans (by exact_mod_cast number)
  rw [toStroops_writes writes, Int.cast_inj.mp same]

/-- What has been read of the lines seen so far. -/
structure Right (host : AssetsHost) (a : Account) (seen : List BalanceLine) (st : Balances) :
    Prop where
  native : ∀ balance liabilities, .native balance liabilities ∈ seen →
    st.xlm = a.native ∧ st.nativeSellingLiabilities = a.sellingLiabilities
  trusted : ∀ balance, .credit host.usdcCode host.usdcIssuer balance ∈ seen →
    (a.trustline host.usdcCode host.usdcIssuer).map Nat.cast = some st.usdc ∧
      st.hasUsdcTrustline = true
  untrusted : (∀ balance, .credit host.usdcCode host.usdcIssuer balance ∉ seen) →
    st.usdc = 0 ∧ st.hasUsdcTrustline = false

theorem Right.nil : Right host a [] ⟨0, 0, 0, false⟩ where
  native _ _ member := by cases member
  trusted _ member := by cases member
  untrusted _ := ⟨rfl, rfl⟩

theorem Right.native_line {seen : List BalanceLine} {st : Balances} (h : Right host a seen st)
    {balance liabilities : Text} (amount : Denotes balance a.native)
    (promised : Denotes liabilities a.sellingLiabilities) :
    ∃ st', readLine host st (.native balance liabilities) = .ok st' ∧
      Right host a (seen ++ [.native balance liabilities]) st' := by
  refine ⟨{ st with xlm := a.native, nativeSellingLiabilities := a.sellingLiabilities }, ?_,
    fun _ _ _ => ⟨rfl, rfl⟩, ?_, ?_⟩
  · simp only [readLine, amount.read, promised.read, bind, Except.bind, pure, Except.pure]
  · intro balance' member
    rcases List.mem_append.mp member with older | new
    · exact h.trusted balance' older
    · cases List.mem_singleton.mp new
  · intro none
    exact h.untrusted fun balance' older => none balance' (List.mem_append_left _ older)

theorem Right.other_line {seen : List BalanceLine} {st : Balances} (h : Right host a seen st)
    {line : BalanceLine} (plain : ∀ balance liabilities, line ≠ .native balance liabilities)
    (other : ∀ balance, line ≠ .credit host.usdcCode host.usdcIssuer balance) :
    Right host a (seen ++ [line]) st := by
  refine ⟨?_, ?_, ?_⟩
  · intro balance liabilities member
    rcases List.mem_append.mp member with older | new
    · exact h.native balance liabilities older
    · exact absurd (List.mem_singleton.mp new).symm (plain balance liabilities)
  · intro balance member
    rcases List.mem_append.mp member with older | new
    · exact h.trusted balance older
    · exact absurd (List.mem_singleton.mp new).symm (other balance)
  · intro none
    exact h.untrusted fun balance older => none balance (List.mem_append_left _ older)

theorem Right.credit_line {seen : List BalanceLine} {st : Balances} (h : Right host a seen st)
    {balance : Text} {n : Nat} (held : a.trustline host.usdcCode host.usdcIssuer = some n)
    (amount : Denotes balance n) :
    ∃ st', readLine host st (.credit host.usdcCode host.usdcIssuer balance) = .ok st' ∧
      Right host a (seen ++ [.credit host.usdcCode host.usdcIssuer balance]) st' := by
  refine ⟨{ st with usdc := n, hasUsdcTrustline := true }, ?_, ?_, ?_, ?_⟩
  · simp only [readLine, and_self, if_true, amount.read, bind, Except.bind, pure, Except.pure]
  · intro balance' liabilities member
    rcases List.mem_append.mp member with older | new
    · exact h.native balance' liabilities older
    · cases List.mem_singleton.mp new
  · intro _ _
    rw [held]
    exact ⟨rfl, rfl⟩
  · intro none
    exact absurd (List.mem_append_right seen List.mem_cons_self) (none balance)

/-- One line of a response that describes the account. -/
theorem Right.next {seen : List BalanceLine} {st : Balances} (h : Right host a seen st)
    {r : AccountResponse} (describes : r.Describes a) {line : BalanceLine}
    (among : line ∈ r.balances) :
    ∃ st', readLine host st line = .ok st' ∧ Right host a (seen ++ [line]) st' := by
  cases line with
  | native balance liabilities =>
    obtain ⟨amount, promised⟩ := describes.native balance liabilities among
    exact h.native_line amount promised
  | poolShare =>
    exact ⟨st, rfl, h.other_line (fun _ _ same => by cases same) (fun _ same => by cases same)⟩
  | credit code issuer balance =>
    by_cases settles : code = host.usdcCode ∧ issuer = host.usdcIssuer
    · obtain ⟨rfl, rfl⟩ := settles
      obtain ⟨n, held, amount⟩ := describes.credit _ _ balance among
      exact h.credit_line held amount
    · refine ⟨st, ?_, h.other_line (fun _ _ same => by cases same) fun _ same => ?_⟩
      · rw [readLine, if_neg settles]
        rfl
      · cases same
        exact settles ⟨rfl, rfl⟩

theorem Right.run {r : AccountResponse} (describes : r.Describes a) {rest seen : List BalanceLine}
    {st : Balances} (h : Right host a seen st) (among : ∀ line ∈ rest, line ∈ r.balances) :
    ∃ st', rest.foldlM (readLine host) st = .ok st' ∧ Right host a (seen ++ rest) st' := by
  induction rest generalizing seen st with
  | nil =>
    rw [List.append_nil]
    exact ⟨st, rfl, h⟩
  | cons line rest ih =>
    obtain ⟨st₁, read, h₁⟩ := h.next describes (among line List.mem_cons_self)
    obtain ⟨st₂, rest_read, h₂⟩ :=
      ih h₁ fun other member => among other (List.mem_cons_of_mem _ member)
    refine ⟨st₂, ?_, ?_⟩
    · rw [List.foldlM_cons, read]
      exact rest_read
    · rw [List.append_assoc] at h₂
      exact h₂

/-- The lines are read as the network has the account. -/
theorem readLines_eq {r : AccountResponse} (describes : r.Describes a) :
    readLines host r.balances = .ok {
      xlm := a.native
      nativeSellingLiabilities := a.sellingLiabilities
      usdc := (a.trustline host.usdcCode host.usdcIssuer).getD 0
      hasUsdcTrustline := (a.trustline host.usdcCode host.usdcIssuer).isSome } := by
  obtain ⟨st, read, h⟩ := Right.run describes (@Right.nil host a) fun _ member => member
  rw [List.nil_append] at h
  rw [readLines, read]
  obtain ⟨balance, liabilities, line⟩ := describes.funded
  obtain ⟨xlm, promised⟩ := h.native balance liabilities line
  congr 1
  cases held : a.trustline host.usdcCode host.usdcIssuer with
  | some n =>
    obtain ⟨credited, line⟩ := describes.trusted _ _ n held
    obtain ⟨usdc, trusts⟩ := h.trusted credited line
    rw [held] at usdc
    cases st
    cases xlm
    cases promised
    cases trusts
    cases usdc
    rfl
  | none =>
    have absent : ∀ credited, .credit host.usdcCode host.usdcIssuer credited ∉ r.balances := by
      intro credited line
      obtain ⟨n, held', _⟩ := describes.credit _ _ credited line
      cases held.symm.trans held'
    obtain ⟨usdc, untrusted⟩ := h.untrusted absent
    cases st
    cases xlm
    cases promised
    cases usdc
    cases untrusted
    rfl

end Reading

theorem assertNonNegativeInteger_ofU32 (label : String) (n : UInt32) :
    assertNonNegativeInteger label (.ofU32 n) = .ok n.toNat := by
  rw [JsNumber.ofU32, assertNonNegativeInteger, if_neg (by omega)]

theorem nearestDouble_eq {n : Int} (small : n ≤ 2 ^ 53) : nearestDouble n = n :=
  if_pos (.inl small)

section Position
variable (a : Account) (base : Nat)

/-- The code's arithmetic on the network's numbers. -/
theorem reservePosition_eq :
    calculateXlmReservePosition {
        balance := a.native
        baseReserve := base
        subentryCount := .ofU32 a.subentries
        numSponsoring := .ofU32 a.sponsoring
        numSponsored := .ofU32 a.sponsored
        sellingLiabilities := a.sellingLiabilities } = .ok {
      minimumBalance := base * a.entries
      reserveEntryCount := a.entries
      reserveShortfall := ((base * a.entries + a.sellingLiabilities - a.native : Nat) : Int)
      spendable := ((a.native - (base * a.entries + a.sellingLiabilities) : Nat) : Int) } := by
  have subentries := a.subentries.toNat_lt
  have sponsoring := a.sponsoring.toNat_lt
  have within := a.sponsored_le
  have count : nearestDouble (nearestDouble (nearestDouble (2 + (a.subentries.toNat : Int)) +
      a.sponsoring.toNat) - a.sponsored.toNat) = a.entries := by
    rw [nearestDouble_eq (n := 2 + (a.subentries.toNat : Int)) (by omega),
      nearestDouble_eq (n := 2 + (a.subentries.toNat : Int) + a.sponsoring.toNat) (by omega),
      nearestDouble_eq (by omega)]
    unfold Account.entries
    omega
  have natural : ∀ n : Nat, ¬ (n : Int) < 0 := fun n => by omega
  have product : (base : Int) * a.entries = (base * a.entries : Nat) := (Nat.cast_mul ..).symm
  simp only [calculateXlmReservePosition, natural, if_false, assertNonNegativeInteger_ofU32, count,
    product, bind, Except.bind, pure, Except.pure]
  congr 2
  · split <;> omega
  · split <;> omega

/-- The account as the client should have it. -/
def Account.reading (host : AssetsHost) : AccountReading where
  accountExists := true
  xlm := a.native
  baseReserve := base
  minimumBalance := base * a.entries
  nativeSellingLiabilities := a.sellingLiabilities
  spendableXlm := ((a.native - (base * a.entries + a.sellingLiabilities) : Nat) : Int)
  usdc := (a.trustline host.usdcCode host.usdcIssuer).getD 0
  hasUsdcTrustline := (a.trustline host.usdcCode host.usdcIssuer).isSome

variable {host : AssetsHost} {a : Account} {base : Nat}

theorem getAccountAssets_eq {r : AccountResponse} (describes : r.Describes a)
    (small : (base : Int) ≤ 2 ^ 53 - 1) (older : List JsNumber) :
    getAccountAssets host (.account r) (.ok (.safe base (by omega) small :: older)) =
      .ok (a.reading base host) := by
  have position := reservePosition_eq a base
  rw [← describes.subentryCount, ← describes.numSponsoring, ← describes.numSponsored] at position
  simp only [getAccountAssets, readLines_eq describes, bigInt, position, Except.mapError, bind,
    Except.bind, pure, Except.pure]
  rfl

theorem spends_iff {n : Nat} (positive : 0 < n) :
    a.Spends base n ↔ n ≤ (a.reading base host).spendableXlm := by
  change _ ↔ (n : Int) ≤ (a.native - (base * a.entries + a.sellingLiabilities) : Nat)
  unfold Account.Spends
  rw [Nat.mul_comm a.entries base]
  omega

theorem insufficient_iff (untrusted : a.trustline host.usdcCode host.usdcIssuer = none) :
    insufficientForTrustline host (some (a.reading base host)) = .ok true ↔
      ¬ a.AffordsEntry base host.baseFee := by
  have required : requiredForNewSubentry base (changeTrustFeeStroops host) =
      .ok (base + host.baseFee) := if_neg (by unfold changeTrustFeeStroops; omega)
  have charged := host.baseFee_pos
  simp only [insufficientForTrustline, Account.reading, required, Except.map, untrusted,
    Option.isSome_none, Bool.not_false, Bool.true_and, Except.ok.injEq, decide_eq_true_eq]
  unfold Account.AffordsEntry
  rw [Nat.add_mul, Nat.one_mul, Nat.mul_comm a.entries base]
  omega

end Position

/-- Whatever Horizon answers about an account in the network's terms is read exactly: the amounts,
whether the account trusts the settlement asset, and as spendable just what the network lets it
spend. The notice about missing XLM stands exactly where the network would refuse the trustline. -/
theorem account_assets_are_exact (host : AssetsHost) (a : Account) {r : AccountResponse}
    (describes : r.Describes a) {base : Nat} (small : (base : Int) ≤ 2 ^ 53 - 1)
    (older : List JsNumber) :
    ∃ assets, getAccountAssets host (.account r)
        (.ok (.safe base (by omega) small :: older)) = .ok assets ∧
      assets.accountExists = true ∧ assets.xlm = a.native ∧
      assets.usdc = (a.trustline host.usdcCode host.usdcIssuer).getD 0 ∧
      assets.hasUsdcTrustline = (a.trustline host.usdcCode host.usdcIssuer).isSome ∧
      (∀ n : Nat, 0 < n → (a.Spends base n ↔ n ≤ assets.spendableXlm)) ∧
      (a.trustline host.usdcCode host.usdcIssuer = none →
        (insufficientForTrustline host (some assets) = .ok true ↔
          ¬ a.AffordsEntry base host.baseFee)) :=
  ⟨a.reading base host, getAccountAssets_eq describes small older, rfl, rfl, rfl, rfl,
    fun _ => spends_iff, insufficient_iff⟩

namespace Scenario

def assetsHost : AssetsHost where
  usdcCode := ofString "USDC"
  usdcIssuer := ofString "issuer"
  baseFee := 100
  baseFee_pos := by decide
  large _ := none

/-- Ten XLM and twenty-five of the settlement asset. -/
def trusting : Account where
  native := 100000000
  sellingLiabilities := 0
  subentries := 1
  sponsoring := 0
  sponsored := 0
  trustline code issuer :=
    if code = ofString "USDC" ∧ issuer = ofString "issuer" then some 250000000 else none
  sponsored_le := by decide

def horizonResponse : AccountResponse where
  balances := [
    .credit (ofString "USDC") (ofString "issuer") (literal 250000000).spelling,
    .native (literal 100000000).spelling (literal 0).spelling]
  subentryCount := .ofU32 1
  numSponsoring := .ofU32 0
  numSponsored := .ofU32 0

end Scenario

theorem denotes_literal (n : Nat) : Denotes (literal n).spelling n :=
  ⟨literal n, writes_literal n, by exact_mod_cast literal_number n⟩

theorem account_assets_are_exact_trusting :
    ∃ assets, getAccountAssets Scenario.assetsHost
        (.account Scenario.horizonResponse)
        (.ok [.safe (5000000 : Nat) (by decide) (by decide)]) = .ok assets ∧
      assets.usdc = 250000000 ∧ ((85000000 : Nat) : Int) ≤ assets.spendableXlm := by
  have describes : Scenario.horizonResponse.Describes Scenario.trusting := by
    refine ⟨⟨_, _, List.mem_cons_of_mem _ List.mem_cons_self⟩, ?_, ?_, ?_, rfl, rfl, rfl⟩
    · intro balance liabilities member
      rcases List.mem_cons.mp member with other | member
      · cases other
      · cases List.mem_singleton.mp member
        exact ⟨denotes_literal 100000000, denotes_literal 0⟩
    · intro code issuer balance member
      rcases List.mem_cons.mp member with same | member
      · cases same
        exact ⟨250000000, by decide, denotes_literal 250000000⟩
      · cases List.mem_singleton.mp member
    · intro code issuer n held
      by_cases settles : code = ofString "USDC" ∧ issuer = ofString "issuer"
      · obtain ⟨rfl, rfl⟩ := settles
        exact ⟨_, List.mem_cons_self⟩
      · cases (if_neg settles).symm.trans held
  have small : ((5000000 : Nat) : Int) ≤ 2 ^ 53 - 1 := by decide
  obtain ⟨assets, read, _, _, usdc, _, spends, _⟩ := account_assets_are_exact
    Scenario.assetsHost Scenario.trusting describes small []
  refine ⟨assets, read, usdc.trans ?_, (spends 85000000 (by decide)).mp ?_⟩
  · rfl
  · unfold Account.Spends
    decide

end ShowUp.Client

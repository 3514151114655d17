import Mathlib.Data.List.AList
import ShowUp.Anchor.Types
import ShowUp.Shared.Bytes
import ShowUp.Shared.Json
import ShowUp.Shared.LastWrite

/-!
# The token store

`lib/anchor/token-store.ts`. One `Map` holds the tokens of all accounts, under the
account and the home domain joined by a NUL. Over it stands what the store is for:
a cell for each account and domain, written by what was called last for it.
-/

namespace ShowUp.Anchor

set_option autoImplicit false

open Utf16 Runs

structure StoredToken where
  token : Text
  expiresAt : Double

/-- The module's `Map` -/
abbrev Tokens := AList fun _ : Text => StoredToken

def jwtExpirySkewSeconds : Double := .finite 30

def tokenKeySeparator : Text := [0]

def tokenKey (address homeDomain : Text) : Text := address ++ tokenKeySeparator ++ homeDomain

/-- Where the runtime has `atob`; nothing where `atob` throws. -/
def decodeBase64Url (segment : Text) : Option Text :=
  let base64 := segment.map fun u => if u = 0x2D then 0x2B else if u = 0x5F then 0x2F else u
  let padded := padEnd ((base64.length + 3) / 4 * 4) 0x3D base64
  (Base64.atob padded).map Utf8.decode

/-- `claims?.exp` -/
def expClaim : Json → Option Json
  | .object fields => fields.lookup (ofString "exp")
  | _ => none

def readTokenExpiry (token : Text) : Except AnchorError Double :=
  match token.splitOn 0x2E with
  | [_, claims, _] =>
    match (decodeBase64Url claims).bind Json.parse with
    | none => .error (.new .protocol "The SEP-10 token's claims could not be read.")
    | some claims =>
      match expClaim claims with
      | some (.number (.finite exp)) => .ok (Double.finite exp).floor
      | _ => .error (.new .protocol "The SEP-10 token has no usable `exp` claim.")
  | _ => .error (.new .protocol "The Anchor returned a malformed SEP-10 token.")

def storeToken (address homeDomain token : Text) (tokens : Tokens) :
    Except AnchorError StoredToken × Tokens :=
  match readTokenExpiry token with
  | .error e => (.error e, tokens)
  | .ok expiresAt =>
    (.ok ⟨token, expiresAt⟩, tokens.insert (tokenKey address homeDomain) ⟨token, expiresAt⟩)

def getCachedToken (address homeDomain : Text) (nowSeconds : Double) (tokens : Tokens) :
    Option Text × Tokens :=
  match tokens.lookup (tokenKey address homeDomain) with
  | none => (none, tokens)
  | some entry =>
    if (entry.expiresAt.sub jwtExpirySkewSeconds).le nowSeconds then
      (none, tokens.erase (tokenKey address homeDomain))
    else (some entry.token, tokens)

def clearToken (address homeDomain : Option Text) (tokens : Tokens) : Tokens :=
  match address, homeDomain with
  | none, _ => ∅
  | some address, some homeDomain => tokens.erase (tokenKey address homeDomain)
  | some address, none =>
    let accountPrefix := address ++ tokenKeySeparator
    -- a key that is deleted during the iteration has already been visited
    tokens.keys.foldl (fun tokens key =>
      if accountPrefix.isPrefixOf key then tokens.erase key else tokens) tokens

section Keys
variable {address address' homeDomain homeDomain' : Text}

theorem tokenKey_inj (plain : 0 ∉ address) (plain' : 0 ∉ address') :
    tokenKey address homeDomain = tokenKey address' homeDomain' ↔
      address = address' ∧ homeDomain = homeDomain' := by
  constructor
  · intro h
    induction address generalizing address' with
    | nil =>
      cases address' with
      | nil => exact ⟨rfl, (List.cons.inj h).2⟩
      | cons u rest => exact absurd ((List.cons.inj h).1 ▸ List.mem_cons_self) plain'
    | cons u rest ih =>
      cases address' with
      | nil => exact absurd ((List.cons.inj h).1 ▸ List.mem_cons_self) plain
      | cons v rest' =>
        obtain ⟨rfl, tails⟩ := List.cons.inj h
        obtain ⟨rfl, same⟩ := ih (fun m => plain (List.mem_cons_of_mem _ m))
          (fun m => plain' (List.mem_cons_of_mem _ m)) tails
        exact ⟨rfl, same⟩
  · rintro ⟨rfl, rfl⟩
    rfl

theorem prefix_tokenKey_iff (plain : 0 ∉ address) (plain' : 0 ∉ address') :
    (address ++ tokenKeySeparator).isPrefixOf (tokenKey address' homeDomain) = true ↔
      address = address' := by
  rw [List.isPrefixOf_iff_prefix]
  constructor
  · rintro ⟨rest, h⟩
    exact ((tokenKey_inj plain plain').mp h).1
  · rintro rfl
    exact List.prefix_append _ _

end Keys

theorem lookup_foldl_erase (doomed : Text → Bool) (key : Text) (keys : List Text)
    (tokens : Tokens) :
    (keys.foldl (fun tokens key => if doomed key then tokens.erase key else tokens)
      tokens).lookup key =
        if key ∈ keys ∧ doomed key then none else tokens.lookup key := by
  induction keys generalizing tokens with
  | nil => simp
  | cons k keys ih =>
    rw [List.foldl_cons, ih]
    by_cases later : key ∈ keys ∧ doomed key
    · rw [if_pos later, if_pos ⟨List.mem_cons_of_mem k later.1, later.2⟩]
    · rw [if_neg later]
      by_cases same : key = k
      · subst same
        by_cases h : doomed key
        · rw [if_pos h, if_pos ⟨List.mem_cons_self, h⟩, AList.lookup_erase]
        · rw [if_neg h, if_neg (fun both => h both.2)]
      · have apart : ¬ (key ∈ k :: keys ∧ doomed key) := fun both =>
          later ⟨(List.mem_cons.mp both.1).resolve_left same, both.2⟩
        rw [if_neg apart]
        split
        · exact AList.lookup_erase_ne same
        · rfl

/-- Clearing an account takes every domain from it and nothing from another account. -/
theorem lookup_clear_account {address address' : Text} (plain : 0 ∉ address)
    (plain' : 0 ∉ address') (homeDomain : Text) (tokens : Tokens) :
    (clearToken (some address) none tokens).lookup (tokenKey address' homeDomain) =
      if address = address' then none else tokens.lookup (tokenKey address' homeDomain) := by
  unfold clearToken
  rw [lookup_foldl_erase]
  by_cases same : address = address'
  · rw [if_pos same]
    split
    · rfl
    · rename_i kept
      rw [AList.lookup_eq_none]
      intro held
      exact kept ⟨held, (prefix_tokenKey_iff plain plain').mpr same⟩
  · rw [if_neg same, if_neg]
    exact fun both => same ((prefix_tokenKey_iff plain plain').mp both.2)

inductive TokenCall where
  | storeToken (address homeDomain token : Text)
  | getCachedToken (address homeDomain : Text) (nowSeconds : Double)
  | clearToken (address homeDomain : Option Text)

namespace TokenCall

def step (tokens : Tokens) : TokenCall → Tokens
  | storeToken address homeDomain token => (Anchor.storeToken address homeDomain token tokens).2
  | getCachedToken address homeDomain nowSeconds =>
    (Anchor.getCachedToken address homeDomain nowSeconds tokens).2
  | clearToken address homeDomain => Anchor.clearToken address homeDomain tokens

/-- The address of the call has no NUL in it. -/
def Plain : TokenCall → Prop
  | storeToken address _ _ => 0 ∉ address
  | getCachedToken address _ _ => 0 ∉ address
  | clearToken (some address) _ => 0 ∉ address
  | clearToken none _ => True

instance : DecidablePred Plain
  | storeToken address _ _ => inferInstanceAs (Decidable (0 ∉ address))
  | getCachedToken address _ _ => inferInstanceAs (Decidable (0 ∉ address))
  | clearToken (some address) _ => inferInstanceAs (Decidable (0 ∉ address))
  | clearToken none _ => inferInstanceAs (Decidable True)

def clock : TokenCall → Option Double
  | getCachedToken _ _ nowSeconds => some nowSeconds
  | _ => none

/-- A successful store for the account and domain. -/
def Stores (address homeDomain token : Text) (expiresAt : Double) (call : TokenCall) : Prop :=
  call = storeToken address homeDomain token ∧ readTokenExpiry token = .ok expiresAt

/-- A clearing that reaches the account and domain. -/
def Covers (address homeDomain : Text) : TokenCall → Prop
  | clearToken none _ => True
  | clearToken (some address') none => address' = address
  | clearToken (some address') (some homeDomain') =>
    address' = address ∧ homeDomain' = homeDomain
  | _ => False

instance (address homeDomain : Text) : DecidablePred (Covers address homeDomain)
  | clearToken none _ => inferInstanceAs (Decidable True)
  | clearToken (some _) none => inferInstanceAs (Decidable (_ = _))
  | clearToken (some _) (some _) => inferInstanceAs (Decidable (_ ∧ _))
  | storeToken _ _ _ => inferInstanceAs (Decidable False)
  | getCachedToken _ _ _ => inferInstanceAs (Decidable False)

/-- What the call writes to the cell of an account and domain. -/
def effect (address homeDomain : Text) : TokenCall → Option (Option StoredToken)
  | storeToken address' homeDomain' token =>
    if address' = address ∧ homeDomain' = homeDomain then
      match readTokenExpiry token with
      | .ok expiresAt => some (some ⟨token, expiresAt⟩)
      | .error _ => none
    else none
  | call => if call.Covers address homeDomain then some none else none

theorem effect_eq_none_iff {address homeDomain : Text} {call : TokenCall} :
    call.effect address homeDomain = none ↔
      (∀ token expiresAt, ¬ call.Stores address homeDomain token expiresAt) ∧
        ¬ call.Covers address homeDomain := by
  cases call with
  | storeToken address' homeDomain' token' =>
    simp only [effect, Stores, Covers, storeToken.injEq, not_false_eq_true, and_true]
    constructor
    · rintro h token expiresAt ⟨⟨rfl, rfl, rfl⟩, read⟩
      rw [if_pos ⟨rfl, rfl⟩, read] at h
      cases h
    · intro h
      split
      · rename_i here
        split
        · rename_i expiresAt read
          exact absurd ⟨⟨here.1, here.2, rfl⟩, read⟩ (h token' expiresAt)
        · rfl
      · rfl
  | getCachedToken => simp [effect, Stores, Covers]
  | clearToken => simp [effect, Stores]

end TokenCall

/-- What a clearing leaves: the entries it does not cover, as they were. -/
theorem lookup_clear {address homeDomain : Option Text} {address' : Text}
    (plain : (TokenCall.clearToken address homeDomain).Plain) (plain' : 0 ∉ address')
    (homeDomain' : Text) (tokens : Tokens) :
    (clearToken address homeDomain tokens).lookup (tokenKey address' homeDomain') =
      if (TokenCall.clearToken address homeDomain).Covers address' homeDomain' then none
      else tokens.lookup (tokenKey address' homeDomain') := by
  cases address with
  | none => exact (AList.lookup_empty _).trans (if_pos trivial).symm
  | some address =>
    cases homeDomain with
    | none => exact lookup_clear_account plain plain' homeDomain' tokens
    | some homeDomain =>
      simp only [clearToken, TokenCall.Covers, ← tokenKey_inj plain plain']
      split
      · rename_i same
        rw [same, AList.lookup_erase]
      · rename_i apart
        exact AList.lookup_erase_ne (Ne.symm apart)

def expired (entry : StoredToken) (nowSeconds : Double) : Prop :=
  (entry.expiresAt.sub jwtExpirySkewSeconds).le nowSeconds = true

/-- The map holds what is in the cell, or has dropped it after it had expired. -/
def Refines (address homeDomain : Text) (tokens : Tokens) (cell : Option StoredToken)
    (clocks : List Double) : Prop :=
  tokens.lookup (tokenKey address homeDomain) = cell ∨
    tokens.lookup (tokenKey address homeDomain) = none ∧
      ∃ entry, cell = some entry ∧ ∃ now ∈ clocks, expired entry now

section Refinement
variable {address homeDomain : Text} {tokens tokens' : Tokens} {cell : Option StoredToken}
variable {clocks later : List Double}

theorem Refines.mono (h : Refines address homeDomain tokens cell clocks)
    (same : tokens'.lookup (tokenKey address homeDomain) =
      tokens.lookup (tokenKey address homeDomain)) :
    Refines address homeDomain tokens' cell (clocks ++ later) := by
  unfold Refines
  rw [same]
  rcases h with h | ⟨h, entry, held, now, past, dead⟩
  · exact Or.inl h
  · exact Or.inr ⟨h, entry, held, now, List.mem_append_left _ past, dead⟩

theorem Refines.step (plain : 0 ∉ address) {call : TokenCall} (plainCall : call.Plain)
    (h : Refines address homeDomain tokens cell clocks) :
    Refines address homeDomain (call.step tokens)
      (LastWrite.write (TokenCall.effect address homeDomain) cell call)
      (clocks ++ call.clock.toList) := by
  cases call with
  | storeToken address' homeDomain' token =>
    simp only [TokenCall.step, storeToken, LastWrite.write, TokenCall.effect]
    cases readTokenExpiry token with
    | error e =>
      simp only [ite_self, Option.getD_none]
      exact h.mono rfl
    | ok expiresAt =>
      dsimp only
      split
      · rename_i here
        obtain ⟨rfl, rfl⟩ := here
        exact Or.inl (AList.lookup_insert _)
      · rename_i apart
        have keys := mt (tokenKey_inj plainCall plain).mp apart
        exact h.mono (AList.lookup_insert_ne (Ne.symm keys))
  | getCachedToken address' homeDomain' now =>
    have idle : TokenCall.effect address homeDomain
        (.getCachedToken address' homeDomain' now) = none :=
      TokenCall.effect_eq_none_iff.mpr ⟨fun _ _ stored => (by cases stored.1), id⟩
    rw [LastWrite.write_of_none idle]
    simp only [TokenCall.step, getCachedToken]
    split
    · exact h.mono rfl
    · rename_i entry found
      split
      · rename_i dead
        by_cases same : tokenKey address homeDomain = tokenKey address' homeDomain'
        · rcases h with h | ⟨h, _⟩
          · refine Or.inr ⟨same ▸ AList.lookup_erase _ _, entry, ?_, now, ?_, dead⟩
            · rw [← h, same, found]
            · exact List.mem_append_right _ (List.mem_singleton.mpr rfl)
          · rw [same, found] at h
            cases h
        · exact h.mono (AList.lookup_erase_ne same)
      · exact h.mono rfl
  | clearToken address' homeDomain' =>
    have cleared := lookup_clear plainCall plain homeDomain tokens
    simp only [TokenCall.step, LastWrite.write, TokenCall.effect]
    split
    · rename_i covered
      rw [if_pos covered] at cleared
      exact Or.inl cleared
    · rename_i apart
      rw [if_neg apart] at cleared
      exact h.mono cleared

/-- A read gives what is in the cell unless it has expired. -/
theorem Refines.read (h : Refines address homeDomain tokens cell clocks) {now : Double}
    (past : ∀ before ∈ clocks, before.le now = true) (token : Text) :
    (getCachedToken address homeDomain now tokens).1 = some token ↔
      ∃ expiresAt, cell = some ⟨token, expiresAt⟩ ∧ ¬ expired ⟨token, expiresAt⟩ now := by
  unfold getCachedToken
  rcases h with h | ⟨h, entry, rfl, before, earlier, dead⟩
  · subst h
    cases tokens.lookup (tokenKey address homeDomain) with
    | none => simp
    | some entry =>
      dsimp only
      split
      · rename_i dead
        refine iff_of_false (fun h => by cases h) ?_
        rintro ⟨expiresAt, same, alive⟩
        cases same
        exact alive dead
      · rename_i alive
        constructor
        · intro h
          cases h
          exact ⟨entry.expiresAt, rfl, alive⟩
        · rintro ⟨expiresAt, same, _⟩
          cases same
          rfl
  · rw [h]
    refine iff_of_false (fun h => by cases h) ?_
    rintro ⟨expiresAt, same, alive⟩
    cases same
    exact alive (Double.le_trans dead (past before earlier))

end Refinement

end ShowUp.Anchor

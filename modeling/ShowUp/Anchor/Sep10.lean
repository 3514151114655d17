import ShowUp.Anchor.Sep6
import ShowUp.Anchor.TokenStore
import ShowUp.Shared.Session

/-!
# SEP-10: challenge, signature, token

`lib/anchor/sep10.ts`. The server, the wallet and the call that wants a token
answer as they like, and whatever else runs may use the token store meanwhile.
-/

namespace ShowUp.Anchor

set_option autoImplicit false

open Utf16 Session

/-- What JavaScript code throws: an `AnchorError`, another `Error`, or any value. -/
inductive Thrown where
  | anchorError (error : AnchorError)
  | otherError (message : String)
  | value (text : String)
  deriving DecidableEq

/-- `cause instanceof Error ? cause.message : String(cause)` -/
def Thrown.text : Thrown → String
  | anchorError error => error.message
  | otherError message => message
  | value text => text

structure Url where
  host : String
  text : String

structure ChallengeResponse where
  transaction : String
  networkPassphrase : String

structure ValidatedChallenge where
  xdr : String
  clientAccountId : Text
  matchedHomeDomain : String

/-- What `WebAuth.readChallengeTx` reads off a challenge. -/
structure ReadChallenge where
  clientAccountID : Text
  matchedHomeDomain : String

structure ChallengeSigner where
  address : Text

structure AuthenticateOptions where
  config : Option AnchorConfig := none
  nowSeconds : Option Double := none
  forceRefresh : Bool := false
  clientDomain : Option Text := none

/-- A question to the environment with its answer. -/
inductive AuthEvent (α : Type) where
  | discover (answer : Except Thrown AnchorConfig)
  | challenge (url : Url) (answer : Except Thrown JsValue)
  | sign (xdr : String) (answer : Except Thrown JsValue)
  | exchange (url : Url) (signedXdr : String) (answer : Except Thrown JsValue)
  | call (token : Text) (answer : Except Thrown α)

/-- All that is not this program. Its answers may depend on everything that happened. -/
structure World (α : Type) where
  discover : List (AuthEvent α) → Except Thrown AnchorConfig
  get : Url → List (AuthEvent α) → Except Thrown JsValue
  post : Url → String → List (AuthEvent α) → Except Thrown JsValue
  signTransaction : String → List (AuthEvent α) → Except Thrown JsValue
  call : Text → List (AuthEvent α) → Except Thrown α
  /-- `Math.floor(Date.now() / 1000)` -/
  clock : List (AuthEvent α) → Double
  meanwhile : List (AuthEvent α) → Tokens → Tokens
  newUrl : String → Except Thrown Url
  withParam : Url → String → Text → Url
  readChallengeTx : String → String → String → List String → String → Except Thrown ReadChallenge

abbrev Auth (α β : Type) := Session Thrown Tokens (AuthEvent α) β

variable {α : Type} (w : World α)

def anchorThrown {β : Type} : Except AnchorError β → Except Thrown β
  | .error e => .error (.anchorError e)
  | .ok b => .ok b

def buildUrl (base : String) (query : List (String × Option Text)) : Except Thrown Url :=
  let trimmedBase := String.ofList (base.toList.rdropWhile (· = '/'))
  (w.newUrl trimmedBase).map fun url =>
    query.foldl (fun url param =>
      match param.2 with
      | none | some [] => url
      | some value => w.withParam url param.1 value) url

def challengeOf (config : AnchorConfig) (answer : JsValue) : Except Thrown ChallengeResponse := do
  let payload ← anchorThrown (requireRecord answer "SEP-10 challenge")
  let transaction ← anchorThrown (requireString payload "transaction" "SEP-10 challenge")
  return ⟨transaction, match payload.get "network_passphrase" with
    | .string networkPassphrase => networkPassphrase
    | _ => config.networkPassphrase⟩

def requestChallenge (config : AnchorConfig) (account : Text) (clientDomain memo : Option Text) :
    Auth α ChallengeResponse := do
  let url ← lift (buildUrl w config.webAuthEndpoint
    [("account", some account), ("memo", memo), ("client_domain", clientDomain)])
  let answer ← ask (w.get url) (.challenge url) w.meanwhile
  lift (challengeOf config answer)

def validateChallenge (challenge : ChallengeResponse) (config : AnchorConfig)
    (expectedClientAccount : Text) : Except Thrown ValidatedChallenge :=
  if challenge.networkPassphrase ≠ config.networkPassphrase then
    .error (.anchorError (.new .challengeInvalid
      "The SEP-10 challenge is for a different Stellar network."))
  else do
    let webAuthDomain := (← w.newUrl config.webAuthEndpoint).host
    match w.readChallengeTx challenge.transaction config.signingKey config.networkPassphrase
      [config.homeDomain] webAuthDomain with
    | .error cause =>
      .error (.anchorError (.new .challengeInvalid
        ("The SEP-10 challenge failed validation: " ++ cause.text)))
    | .ok read =>
      if read.clientAccountID ≠ expectedClientAccount then
        .error (.anchorError (.new .challengeInvalid
          "The SEP-10 challenge was issued for a different account."))
      else .ok ⟨challenge.transaction, read.clientAccountID, read.matchedHomeDomain⟩

/-- What a challenge that has passed the check says: whose it is, and for which server. -/
theorem validateChallenge_ok_iff (challenge : ChallengeResponse) (config : AnchorConfig)
    (account : Text) (validated : ValidatedChallenge) :
    validateChallenge w challenge config account = .ok validated ↔
      challenge.networkPassphrase = config.networkPassphrase ∧
      ∃ url read, w.newUrl config.webAuthEndpoint = .ok url ∧
        w.readChallengeTx challenge.transaction config.signingKey config.networkPassphrase
          [config.homeDomain] url.host = .ok read ∧
        read.clientAccountID = account ∧
        validated = ⟨challenge.transaction, account, read.matchedHomeDomain⟩ := by
  unfold validateChallenge
  constructor
  · intro valid
    split at valid
    · cases valid
    · rename_i network
      refine ⟨Decidable.not_not.mp network, ?_⟩
      cases url : w.newUrl config.webAuthEndpoint with
      | error e =>
        rw [url] at valid
        cases valid
      | ok url' =>
        rw [url] at valid
        dsimp only [bind, Except.bind] at valid
        split at valid
        · cases valid
        · rename_i read challenged
          split at valid
          · cases valid
          · rename_i account'
            cases valid
            have same := Decidable.not_not.mp account'
            exact ⟨url', read, rfl, challenged, same, by rw [same]⟩
  · rintro ⟨network, url, read, found, challenged, rfl, rfl⟩
    rw [if_neg (not_not_intro network), found]
    dsimp only [bind, Except.bind]
    rw [challenged]
    exact if_neg (not_not_intro rfl)

def signedOf : JsValue → Except Thrown String
  | .string signedXdr =>
    if signedXdr = "" then
      .error (.anchorError (.new .challengeInvalid
        "The wallet did not return a signed challenge."))
    else .ok signedXdr
  | _ => .error (.anchorError (.new .challengeInvalid
      "The wallet did not return a signed challenge."))

def tokenOf (answer : JsValue) : Except Thrown Text := do
  let payload ← anchorThrown (requireRecord answer "SEP-10 token")
  let token ← anchorThrown (requireString payload "token" "SEP-10 token")
  return ofString token

def exchangeChallenge (config : AnchorConfig) (signedXdr : String) : Auth α Text := do
  let url ← lift (buildUrl w config.webAuthEndpoint [])
  let answer ← ask (w.post url signedXdr) (.exchange url signedXdr) w.meanwhile
  lift (tokenOf answer)

/-- `options.config ?? (await discover())` -/
def resolveConfig (options : AuthenticateOptions) : Auth α AnchorConfig :=
  match options.config with
  | some config => pure config
  | none => ask w.discover .discover w.meanwhile

/-- What `authenticate` does without a cached token. -/
def freshToken (signer : ChallengeSigner) (config : AnchorConfig)
    (options : AuthenticateOptions) : Auth α Text := do
  let homeDomain := ofString config.homeDomain
  onStore fun tokens => ((), clearToken (some signer.address) (some homeDomain) tokens)
  let challenge ← requestChallenge w config signer.address options.clientDomain none
  let validated ← lift (validateChallenge w challenge config signer.address)
  let signed ← ask (w.signTransaction validated.xdr) (.sign validated.xdr) w.meanwhile
  let signedXdr ← lift (signedOf signed)
  let token ← exchangeChallenge w config signedXdr
  let stored ← onStore (storeToken signer.address homeDomain token)
  let _ ← lift (anchorThrown stored)
  return token

def authenticate (signer : ChallengeSigner) (options : AuthenticateOptions) : Auth α Text := do
  let config ← resolveConfig w options
  let clock ← look w.clock
  let now := options.nowSeconds.getD clock
  let cachedToken ←
    if options.forceRefresh then pure none
    else onStore (getCachedToken signer.address (ofString config.homeDomain) now)
  match cachedToken with
  | none | some [] => freshToken w signer config options
  | some token => return token

end ShowUp.Anchor

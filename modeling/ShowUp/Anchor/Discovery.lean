import ShowUp.Anchor.PollAgreement
import ShowUp.Client.WalletProvider

/-!
# Discovery

`lib/anchor/sep1.ts`. What the Anchor publishes in its `stellar.toml` is checked once,
and what has passed is kept until another domain's takes its place.
-/

namespace ShowUp.Anchor

set_option autoImplicit false

open Client (testnetNetworkPassphrase)

/-- `ANCHOR_ASSET_CODE` and `ANCHOR_ASSET_ISSUER`, and the protocol of `new URL(text)` -/
structure AnchorHost where
  assetCode : String
  assetIssuer : String
  protocol : String → Option String
  issued : assetIssuer ≠ ""
  /-- an empty text is no URL -/
  protocol_empty : protocol "" = none

/-- An entry of `CURRENCIES`, the issuer where it is a string. -/
structure CurrencyEntry where
  code : Option String
  issuer : Option String

/-- `currencies` is empty where `CURRENCIES` is no array. -/
structure StellarToml where
  signingKey : Option String
  webAuthEndpoint : Option String
  transferServer : Option String
  anchorQuoteServer : Option String
  networkPassphrase : Option String
  kycServer : Option String
  currencies : List CurrencyEntry

def StellarToml.missing (toml : StellarToml) : List String :=
  ([("SIGNING_KEY", toml.signingKey), ("WEB_AUTH_ENDPOINT", toml.webAuthEndpoint),
    ("TRANSFER_SERVER", toml.transferServer), ("ANCHOR_QUOTE_SERVER", toml.anchorQuoteServer),
    ("NETWORK_PASSPHRASE", toml.networkPassphrase)].filter fun field => !truthy field.2).map
      Prod.fst

section Definitions
variable (host : AnchorHost)

/-- The issuer of the first entry for the asset that has one. -/
def StellarToml.issuer (toml : StellarToml) : Option String :=
  (toml.currencies.find? fun entry =>
    entry.code = some host.assetCode && entry.issuer.isSome).bind CurrencyEntry.issuer

def requireHttps (label endpoint : String) : Except AnchorError Unit :=
  match host.protocol endpoint with
  | none => .error (.new .protocol ("The Anchor's " ++ label ++ " is not a valid URL."))
  | some protocol =>
    if protocol ≠ "https:" then
      .error (.new .protocol ("The Anchor's " ++ label ++
        " is not https. ShowUp will not send an authenticated request over plain http."))
    else .ok ()

def parseStellarToml (toml : StellarToml) (homeDomain : String) :
    Except AnchorError AnchorConfig :=
  if toml.missing ≠ [] then
    .error (.new .protocol
      ("The Anchor's stellar.toml is missing " ++ ", ".intercalate toml.missing ++ "."))
  else if toml.networkPassphrase ≠ some testnetNetworkPassphrase then
    .error (.new .protocol ("The Anchor is on \"" ++ toml.networkPassphrase.getD "" ++
      "\". ShowUp is Testnet only."))
  else if !truthy (toml.issuer host) then
    .error (.new .protocol
      ("The Anchor's stellar.toml does not publish a " ++ host.assetCode ++ " issuer."))
  else if toml.issuer host ≠ some host.assetIssuer then
    .error (.new .protocol
      ("The Anchor publishes " ++ host.assetCode ++ " from an unexpected issuer."))
  else do
    let webAuthEndpoint := toml.webAuthEndpoint.getD ""
    let transferServer := toml.transferServer.getD ""
    let quoteServer := toml.anchorQuoteServer.getD ""
    requireHttps host "WEB_AUTH_ENDPOINT" webAuthEndpoint
    requireHttps host "TRANSFER_SERVER" transferServer
    requireHttps host "ANCHOR_QUOTE_SERVER" quoteServer
    return {
      homeDomain
      networkPassphrase := toml.networkPassphrase.getD ""
      signingKey := toml.signingKey.getD ""
      webAuthEndpoint
      transferServer
      quoteServer
      kycServer := toml.kycServer
      asset := ⟨host.assetCode, host.assetIssuer⟩ }

/-- What a config has to be like before anything is sent to the Anchor. -/
structure AnchorConfig.Vetted (config : AnchorConfig) : Prop where
  networkPassphrase : config.networkPassphrase = testnetNetworkPassphrase
  asset : config.asset = ⟨host.assetCode, host.assetIssuer⟩
  signingKey : config.signingKey ≠ ""
  webAuthEndpoint : host.protocol config.webAuthEndpoint = some "https:"
  transferServer : host.protocol config.transferServer = some "https:"
  quoteServer : host.protocol config.quoteServer = some "https:"

/-- The `stellar.toml` has what is in the config. -/
structure StellarToml.Publishes (toml : StellarToml) (config : AnchorConfig) : Prop where
  signingKey : toml.signingKey = some config.signingKey
  webAuthEndpoint : toml.webAuthEndpoint = some config.webAuthEndpoint
  transferServer : toml.transferServer = some config.transferServer
  quoteServer : toml.anchorQuoteServer = some config.quoteServer
  networkPassphrase : toml.networkPassphrase = some config.networkPassphrase
  kycServer : toml.kycServer = config.kycServer
  issuer : toml.issuer host = some config.asset.issuer

end Definitions

section Parse
variable {host : AnchorHost} {toml : StellarToml} {homeDomain : String} {config : AnchorConfig}

theorem truthy_iff {value : Option String} :
    truthy value = true ↔ ∃ text ≠ "", value = some text := by
  cases value with
  | none => exact iff_of_false Bool.noConfusion fun ⟨_, _, absent⟩ => by cases absent
  | some text =>
    refine decide_eq_true_iff.trans ⟨fun filled => ⟨text, filled, rfl⟩, ?_⟩
    rintro ⟨_, filled, same⟩
    cases same
    exact filled

theorem StellarToml.missing_eq_nil_iff :
    toml.missing = [] ↔ truthy toml.signingKey = true ∧ truthy toml.webAuthEndpoint = true ∧
      truthy toml.transferServer = true ∧ truthy toml.anchorQuoteServer = true ∧
      truthy toml.networkPassphrase = true := by
  rw [StellarToml.missing, List.map_eq_nil_iff, List.filter_eq_nil_iff]
  simp

theorem requireHttps_ok_iff {label endpoint : String} :
    requireHttps host label endpoint = .ok () ↔ host.protocol endpoint = some "https:" := by
  unfold requireHttps
  cases host.protocol endpoint with
  | none => exact iff_of_false (fun h => by cases h) fun h => by cases h
  | some protocol =>
    by_cases secure : protocol = "https:"
    · simp [secure]
    · simp [secure]

theorem AnchorHost.ne_empty {endpoint : String} (secure : host.protocol endpoint = some "https:") :
    endpoint ≠ "" := by
  rintro rfl
  cases host.protocol_empty.symm.trans secure

theorem parseStellarToml_accepts (publishes : toml.Publishes host config)
    (vetted : config.Vetted host) (named : config.homeDomain = homeDomain) :
    parseStellarToml host toml homeDomain = .ok config := by
  have network : toml.networkPassphrase = some testnetNetworkPassphrase := by
    rw [publishes.networkPassphrase, vetted.networkPassphrase]
  have issuer : toml.issuer host = some host.assetIssuer := by
    rw [publishes.issuer, vetted.asset]
  have missing : toml.missing = [] := StellarToml.missing_eq_nil_iff.mpr
    ⟨truthy_iff.mpr ⟨_, vetted.signingKey, publishes.signingKey⟩,
      truthy_iff.mpr ⟨_, host.ne_empty vetted.webAuthEndpoint, publishes.webAuthEndpoint⟩,
      truthy_iff.mpr ⟨_, host.ne_empty vetted.transferServer, publishes.transferServer⟩,
      truthy_iff.mpr ⟨_, host.ne_empty vetted.quoteServer, publishes.quoteServer⟩,
      truthy_iff.mpr ⟨_, by decide, network⟩⟩
  have published : truthy (toml.issuer host) = true := truthy_iff.mpr ⟨_, host.issued, issuer⟩
  unfold parseStellarToml
  rw [if_neg (not_not.mpr missing), if_neg (not_not.mpr network), published, if_neg (by decide),
    if_neg (not_not.mpr issuer), publishes.webAuthEndpoint, publishes.transferServer,
    publishes.quoteServer, publishes.networkPassphrase, publishes.signingKey, publishes.kycServer]
  simp only [Option.getD_some, requireHttps_ok_iff.mpr vetted.webAuthEndpoint,
    requireHttps_ok_iff.mpr vetted.transferServer, requireHttps_ok_iff.mpr vetted.quoteServer,
    bind, Except.bind, pure, Except.pure, ← vetted.asset]
  rw [← named]

theorem parseStellarToml_accepted (accepted : parseStellarToml host toml homeDomain = .ok config) :
    config.homeDomain = homeDomain ∧ toml.Publishes host config ∧ config.Vetted host := by
  unfold parseStellarToml at accepted
  split at accepted
  · cases accepted
  rename_i missing
  split at accepted
  · cases accepted
  rename_i network
  split at accepted
  · cases accepted
  split at accepted
  · cases accepted
  rename_i issuer
  obtain ⟨signingKey, webAuth, transfer, quote, _⟩ :=
    StellarToml.missing_eq_nil_iff.mp (not_not.mp missing)
  obtain ⟨_, signs, signingKey⟩ := truthy_iff.mp signingKey
  obtain ⟨_, _, webAuth⟩ := truthy_iff.mp webAuth
  obtain ⟨_, _, transfer⟩ := truthy_iff.mp transfer
  obtain ⟨_, _, quote⟩ := truthy_iff.mp quote
  dsimp only at accepted
  rw [signingKey, webAuth, transfer, quote, not_not.mp network] at accepted
  simp only [Option.getD_some] at accepted
  obtain ⟨_, secureWebAuth, accepted⟩ := except_bind_ok.mp accepted
  obtain ⟨_, secureTransfer, accepted⟩ := except_bind_ok.mp accepted
  obtain ⟨_, secureQuote, accepted⟩ := except_bind_ok.mp accepted
  cases accepted
  refine ⟨rfl, ⟨signingKey, webAuth, transfer, quote, not_not.mp network, rfl, not_not.mp issuer⟩,
    ⟨rfl, rfl, signs, ?_, ?_, ?_⟩⟩
  · exact requireHttps_ok_iff.mp secureWebAuth
  · exact requireHttps_ok_iff.mp secureTransfer
  · exact requireHttps_ok_iff.mp secureQuote

/-- A `stellar.toml` passes exactly when what it publishes is a config to be used. -/
theorem parseStellarToml_ok_iff :
    parseStellarToml host toml homeDomain = .ok config ↔
      config.homeDomain = homeDomain ∧ toml.Publishes host config ∧ config.Vetted host :=
  ⟨parseStellarToml_accepted,
    fun ⟨named, publishes, vetted⟩ => parseStellarToml_accepts publishes vetted named⟩

end Parse

/-! The calls. -/

/-- `waiting` has the calls in the order they came, each with the domain whose `stellar.toml` it
waits for; `served` what the domains have answered, and `answers` what the calls resolved to. -/
structure Discovery where
  cached : Option (String × AnchorConfig)
  waiting : List (Option String)
  served : List (String × StellarToml)
  answers : List (String × Except AnchorError AnchorConfig)

/-- What the resolver throws is passed on where it is an `AnchorError`. -/
inductive DiscoveryInput where
  | discover (homeDomain : String)
  | resolved (k : Nat) (answer : Except (Option AnchorError) StellarToml)
  | resetDiscoveryCache

namespace Discovery

def initial : Discovery where
  cached := none
  waiting := []
  served := []
  answers := []

section Steps
variable (d : Discovery)

def answer (homeDomain : String) (outcome : Except AnchorError AnchorConfig) : Discovery :=
  { d with answers := (homeDomain, outcome) :: d.answers }

def wait (homeDomain : String) : Discovery :=
  { d with waiting := d.waiting ++ [some homeDomain] }

def discover (homeDomain : String) : Discovery :=
  match d.cached with
  | some cached =>
    if cached.1 = homeDomain then d.answer homeDomain (.ok cached.2) else d.wait homeDomain
  | none => d.wait homeDomain

def unreachable (homeDomain : String) : AnchorError :=
  .new .unreachable
    "Funding is temporarily unavailable — the Anchor's stellar.toml could not be read."
    { endpoint := some ("https://" ++ homeDomain ++ "/.well-known/stellar.toml") }

variable (host : AnchorHost)

def resolved (homeDomain : String) : Except (Option AnchorError) StellarToml → Discovery
  | .error cause => d.answer homeDomain (.error (cause.getD (unreachable homeDomain)))
  | .ok toml =>
    let d := { d with served := (homeDomain, toml) :: d.served }
    match parseStellarToml host toml homeDomain with
    | .error error => d.answer homeDomain (.error error)
    | .ok config => { d with cached := some (homeDomain, config) }.answer homeDomain (.ok config)

def step (d : Discovery) : DiscoveryInput → Discovery
  | .discover homeDomain => d.discover homeDomain
  | .resolved k answer =>
    match d.waiting[k]? with
    | some (some homeDomain) =>
      { d with waiting := d.waiting.set k none }.resolved host homeDomain answer
    | _ => d
  | .resetDiscoveryCache => { d with cached := none }

end Steps

section Invariant
variable (host : AnchorHost)

/-- The domain has published the config, and it has passed. -/
def Obtained (d : Discovery) (homeDomain : String) (config : AnchorConfig) : Prop :=
  config.homeDomain = homeDomain ∧ config.Vetted host ∧
    ∃ toml, (homeDomain, toml) ∈ d.served ∧ toml.Publishes host config

/-- What is kept and what was answered are configs of the domains they stand for. -/
structure Sound (d : Discovery) : Prop where
  cached : ∀ homeDomain config, d.cached = some (homeDomain, config) →
    d.Obtained host homeDomain config
  answers : ∀ homeDomain config, (homeDomain, .ok config) ∈ d.answers →
    d.Obtained host homeDomain config

variable {host} {d d' : Discovery}

theorem Obtained.later {homeDomain : String} {config : AnchorConfig}
    (h : d.Obtained host homeDomain config) (kept : ∀ served ∈ d.served, served ∈ d'.served) :
    d'.Obtained host homeDomain config := by
  obtain ⟨named, vetted, toml, served, publishes⟩ := h
  exact ⟨named, vetted, toml, kept _ served, publishes⟩

theorem served_step {served : String × StellarToml} {i : DiscoveryInput}
    (before : served ∈ d.served) : served ∈ (d.step host i).served := by
  cases i with
  | discover homeDomain =>
    simp only [Discovery.step, Discovery.discover]
    split
    · split <;> exact before
    · exact before
  | resolved k answer =>
    simp only [Discovery.step]
    split
    · cases answer with
      | error cause => exact before
      | ok toml =>
        simp only [Discovery.resolved]
        split <;> exact List.mem_cons_of_mem _ before
    · exact before
  | resetDiscoveryCache => exact before

theorem initial_sound : initial.Sound host where
  cached _ _ h := by cases h
  answers _ _ h := by cases h

theorem Sound.later (h : d.Sound host) (cached : d'.cached = d.cached)
    (answers : d'.answers = d.answers) (kept : ∀ served ∈ d.served, served ∈ d'.served) :
    d'.Sound host where
  cached _ _ known := (h.cached _ _ (cached ▸ known)).later kept
  answers _ _ known := (h.answers _ _ (answers ▸ known)).later kept

theorem Sound.failed (h : d.Sound host) (homeDomain : String) (error : AnchorError) :
    (d.answer homeDomain (.error error)).Sound host where
  cached := h.cached
  answers homeDomain' config answered := by
    rcases List.mem_cons.mp answered with new | older
    · cases new
    · exact h.answers _ _ older

theorem Sound.answered (h : d.Sound host) {homeDomain : String} {config : AnchorConfig}
    (obtained : d.Obtained host homeDomain config) :
    (d.answer homeDomain (.ok config)).Sound host where
  cached := h.cached
  answers homeDomain' config' answered := by
    rcases List.mem_cons.mp answered with new | older
    · cases new
      exact obtained
    · exact h.answers _ _ older

theorem Sound.served (h : d.Sound host) (homeDomain : String) (toml : StellarToml) :
    Discovery.Sound host { d with served := (homeDomain, toml) :: d.served } :=
  h.later rfl rfl fun _ => List.mem_cons_of_mem _

/-- A config that was obtained is kept, and the call answered with it. -/
theorem Sound.kept (h : d.Sound host) {homeDomain : String} {config : AnchorConfig}
    (obtained : d.Obtained host homeDomain config) :
    ({ d with cached := some (homeDomain, config) }.answer homeDomain (.ok config)).Sound host where
  cached := by
    rintro _ _ ⟨⟩
    exact obtained
  answers := (h.answered obtained).answers

theorem Sound.discover (h : d.Sound host) (homeDomain : String) :
    (d.discover homeDomain).Sound host := by
  have waits : (d.wait homeDomain).Sound host := h.later rfl rfl fun _ => id
  unfold Discovery.discover
  split
  · rename_i cached known
    split
    · rename_i same
      apply h.answered
      rw [← same]
      exact h.cached _ _ known
    · exact waits
  · exact waits

theorem Sound.resolved (h : d.Sound host) (homeDomain : String)
    (answer : Except (Option AnchorError) StellarToml) :
    (d.resolved host homeDomain answer).Sound host := by
  cases answer with
  | error cause => exact h.failed ..
  | ok toml =>
    unfold Discovery.resolved
    dsimp only
    have h := h.served homeDomain toml
    split
    · exact h.failed ..
    · rename_i config accepted
      obtain ⟨named, publishes, vetted⟩ := parseStellarToml_ok_iff.mp accepted
      exact h.kept ⟨named, vetted, toml, List.mem_cons_self, publishes⟩

theorem Sound.step (h : d.Sound host) (i : DiscoveryInput) : (d.step host i).Sound host := by
  cases i with
  | discover homeDomain => exact h.discover homeDomain
  | resolved k answer =>
    unfold Discovery.step
    dsimp only
    split
    · have called : Discovery.Sound host { d with waiting := d.waiting.set k none } :=
        h.later rfl rfl fun _ => id
      exact called.resolved ..
    · exact h
  | resetDiscoveryCache =>
    refine ⟨?_, h.answers⟩
    intro _ _ none
    cases none

end Invariant

end Discovery

end ShowUp.Anchor

import ShowUp.Anchor.Sep10

/-!
# A fresh token, once

What `withFreshToken` leaves behind is described first as a grammar of events:
`AuthLog` for one authentication and `CallLog` for the whole. The guarantees are
read off the grammar.
-/

namespace ShowUp.Anchor

set_option autoImplicit false

open Utf16 Session

variable {α : Type} (w : World α)

/-- What is made of the answer to a challenge request. -/
def safeChallenge (config : AnchorConfig) (address : Text) (answer : Except Thrown JsValue) :
    Except Thrown ValidatedChallenge := do
  let payload ← answer
  let challenge ← challengeOf config payload
  validateChallenge w challenge config address

/-- The token that an answer to the signed challenge issues, if it can be stored. -/
def issuedToken (answer : Except Thrown JsValue) : Except Thrown Text := do
  let payload ← answer
  let token ← tokenOf payload
  let _ ← anchorThrown (readTokenExpiry token)
  return token

def UrlThrows (e : Thrown) : Prop := ∃ base query, buildUrl w base query = .error e

/-- One authentication: its events and its end. -/
inductive AuthLog (config : AnchorConfig) (address : Text) (forced : Bool) :
    List (AuthEvent α) → Except Thrown Text → Prop
  | cached {token : Text} : forced = false → AuthLog config address forced [] (.ok token)
  | noUrl {e : Thrown} : UrlThrows w e → AuthLog config address forced [] (.error e)
  | refused {url : Url} {answer : Except Thrown JsValue} {e : Thrown} :
    safeChallenge w config address answer = .error e →
    AuthLog config address forced [.challenge url answer] (.error e)
  | unsigned {url : Url} {answer signed : Except Thrown JsValue} {validated : ValidatedChallenge}
    {e : Thrown} :
    safeChallenge w config address answer = .ok validated → signed >>= signedOf = .error e →
    AuthLog config address forced [.challenge url answer, .sign validated.xdr signed] (.error e)
  | unsent {url : Url} {answer signed : Except Thrown JsValue} {validated : ValidatedChallenge}
    {signedXdr : String} {e : Thrown} :
    safeChallenge w config address answer = .ok validated →
    signed >>= signedOf = .ok signedXdr → UrlThrows w e →
    AuthLog config address forced [.challenge url answer, .sign validated.xdr signed] (.error e)
  | exchanged {url url' : Url} {answer signed reply : Except Thrown JsValue}
    {validated : ValidatedChallenge} {signedXdr : String} :
    safeChallenge w config address answer = .ok validated →
    signed >>= signedOf = .ok signedXdr →
    AuthLog config address forced
      [.challenge url answer, .sign validated.xdr signed, .exchange url' signedXdr reply]
      (issuedToken reply)

section Leaves
variable {w}

theorem safeChallenge_eq (config : AnchorConfig) (address : Text)
    (answer : Except Thrown JsValue) :
    safeChallenge w config address answer = (answer >>= challengeOf config) >>= fun challenge =>
      validateChallenge w challenge config address := by
  cases answer <;> rfl

/-- The call failed for want of authentication. -/
def AuthRequired (r : Except Thrown α) : Prop :=
  ∃ error, r = .error (.anchorError error) ∧ error.kind = .authenticationRequired

/-- Where the configuration comes from. -/
inductive Resolved (options : AuthenticateOptions) :
    List (AuthEvent α) → AnchorConfig → Prop
  | given {config : AnchorConfig} : options.config = some config → Resolved options [] config
  | asked {config : AnchorConfig} : options.config = none →
    Resolved options [.discover (.ok config)] config

variable (w) in
/-- An authenticated call: its events and its end. -/
inductive CallLog (address : Text) (options : AuthenticateOptions) :
    List (AuthEvent α) → Except Thrown α → Prop
  | undiscovered {e : Thrown} : options.config = none →
    CallLog address options [.discover (.error e)] (.error e)
  | unauthenticated {head es : List (AuthEvent α)} {config : AnchorConfig} {e : Thrown} :
    Resolved options head config → AuthLog w config address options.forceRefresh es (.error e) →
    CallLog address options (head ++ es) (.error e)
  | once {head es : List (AuthEvent α)} {config : AnchorConfig} {token : Text}
    {r : Except Thrown α} :
    Resolved options head config → AuthLog w config address options.forceRefresh es (.ok token) →
    ¬ AuthRequired r → CallLog address options (head ++ (es ++ [.call token r])) r
  | again {head es es' : List (AuthEvent α)} {config : AnchorConfig} {token : Text}
    {r : Except Thrown α} {e : Thrown} :
    Resolved options head config → AuthLog w config address options.forceRefresh es (.ok token) →
    AuthRequired r → AuthLog w config address true es' (.error e) →
    CallLog address options (head ++ (es ++ .call token r :: es')) (.error e)
  | twice {head es es' : List (AuthEvent α)} {config : AnchorConfig} {token fresh : Text}
    {r r' : Except Thrown α} :
    Resolved options head config → AuthLog w config address options.forceRefresh es (.ok token) →
    AuthRequired r → AuthLog w config address true es' (.ok fresh) →
    CallLog address options (head ++ (es ++ .call token r :: (es' ++ [.call fresh r']))) r'

end Leaves

/-- The runs of the call, each with its token and its end. -/
def runs (es : List (AuthEvent α)) : List (Text × Except Thrown α) :=
  es.filterMap fun
    | .call token r => some (token, r)
    | _ => none

/-- What the wallet was asked to sign. -/
def signatures (es : List (AuthEvent α)) : List String :=
  es.filterMap fun
    | .sign xdr _ => some xdr
    | _ => none

/-- The configuration of the run: the given one, or else the discovered one. -/
def discovered (options : AuthenticateOptions) (es : List (AuthEvent α)) : Option AnchorConfig :=
  options.config.or (es.findSome? fun
    | .discover (.ok config) => some config
    | _ => none)

/-- The answer of the event fails, or does not pass what is checked of it. -/
def Refuses (config : Option AnchorConfig) (address : Text) : AuthEvent α → Thrown → Prop
  | .discover answer, e => answer = .error e
  | .challenge _ answer, e => ∃ known, config = some known ∧
    safeChallenge w known address answer = .error e
  | .sign _ answer, e => answer >>= signedOf = .error e
  | .exchange _ _ answer, e => issuedToken answer = .error e
  | .call _ answer, e => answer = .error e

def Smooth (config : Option AnchorConfig) (address : Text) (es : List (AuthEvent α)) : Prop :=
  ∀ event ∈ es, ∀ e, ¬ Refuses w config address event e

/-- Nothing was refused, or the last event was and that is how it ended; or there was no
address to send the next request to. -/
inductive Ends {β : Type} (config : Option AnchorConfig) (address : Text) :
    List (AuthEvent α) → Except Thrown β → Prop
  | returned {es : List (AuthEvent α)} {b : β} :
    Smooth w config address es → Ends config address es (.ok b)
  | noUrl {es : List (AuthEvent α)} {e : Thrown} :
    Smooth w config address es → UrlThrows w e → Ends config address es (.error e)
  | refused {before : List (AuthEvent α)} {event : AuthEvent α} {e : Thrown} :
    Smooth w config address before → Refuses w config address event e →
    Ends config address (before ++ [event]) (.error e)

section Ends
variable {w} {config : Option AnchorConfig} {address : Text} {β : Type}

theorem Refuses.unique {event : AuthEvent α} {e e' : Thrown}
    (h : Refuses w config address event e) (h' : Refuses w config address event e') : e = e' := by
  have same : ∀ {γ : Type} {x : Except Thrown γ}, x = .error e → x = .error e' → e = e' :=
    fun l r => Except.error.inj (l.symm.trans r)
  cases event with
  | challenge url answer =>
    obtain ⟨known, rfl, refused⟩ := h
    obtain ⟨_, known', refused'⟩ := h'
    cases known'
    exact same refused refused'
  | discover | sign | exchange | call => exact same h h'

theorem smooth_nil : Smooth w config address [] := fun _ h => absurd h List.not_mem_nil

theorem smooth_append {es es' : List (AuthEvent α)} (h : Smooth w config address es)
    (h' : Smooth w config address es') : Smooth w config address (es ++ es') :=
  List.forall_mem_append.mpr ⟨h, h'⟩

theorem smooth_of_ok {event : AuthEvent α} {γ : Type} {x : Except Thrown γ} {c : γ}
    (ok : x = .ok c) (reads : ∀ e, Refuses w config address event e → x = .error e) :
    Smooth w config address [event] := by
  refine List.forall_mem_singleton.mpr fun e refuses => ?_
  have failed := reads e refuses
  rw [ok] at failed
  cases failed

theorem Ends.append {pre es : List (AuthEvent α)} {r : Except Thrown β}
    (smooth : Smooth w config address pre) (h : Ends w config address es r) :
    Ends w config address (pre ++ es) r := by
  cases h with
  | returned h => exact .returned (smooth_append smooth h)
  | noUrl h throws => exact .noUrl (smooth_append smooth h) throws
  | refused h refuses =>
    rw [← List.append_assoc]
    exact .refused (smooth_append smooth h) refuses

theorem Ends.smooth_of_returned {es : List (AuthEvent α)} {b : β}
    (h : Ends w config address es (.ok b)) : Smooth w config address es := by
  cases h with
  | returned smooth => exact smooth

/-- A failure is thrown on as it is. -/
theorem Ends.rethrown {γ : Type} {es : List (AuthEvent α)} {e : Thrown}
    (h : Ends w config address es (.error e : Except Thrown β)) :
    Ends w config address es (.error e : Except Thrown γ) := by
  cases h with
  | noUrl smooth throws => exact .noUrl smooth throws
  | refused smooth refuses => exact .refused smooth refuses

/-- What is refused is the end. -/
theorem Ends.last {before after : List (AuthEvent α)} {event : AuthEvent α} {e : Thrown}
    {r : Except Thrown β} (h : Ends w config address (before ++ event :: after) r)
    (refuses : Refuses w config address event e) : after = [] ∧ r = .error e := by
  have mem : event ∈ before ++ event :: after :=
    List.mem_append_right before List.mem_cons_self
  generalize whole : before ++ event :: after = es at h mem
  cases h with
  | returned smooth => exact absurd refuses (smooth event mem e)
  | noUrl smooth => exact absurd refuses (smooth event mem e)
  | @refused before' event' e' smooth refuses' =>
    rcases List.eq_nil_or_concat after with rfl | ⟨after', last, rfl⟩
    · obtain ⟨rfl, tails⟩ := List.append_inj' whole rfl
      cases tails
      exact ⟨rfl, by rw [refuses.unique refuses']⟩
    · rw [List.concat_eq_append, ← List.cons_append, ← List.append_assoc] at whole
      obtain ⟨rfl, _⟩ := List.append_inj' whole rfl
      exact absurd refuses (smooth event (List.mem_append_right _ List.mem_cons_self) e)

end Ends

theorem runs_append (es es' : List (AuthEvent α)) : runs (es ++ es') = runs es ++ runs es' :=
  List.filterMap_append

theorem signatures_append (es es' : List (AuthEvent α)) :
    signatures (es ++ es') = signatures es ++ signatures es' := List.filterMap_append

/-- The server's answer is the challenge `xdr`, for the network of the config. The SDK has read it
as signed with the key of the config, for its home domain and the host of its endpoint, and read
off it the account of the signer. -/
structure SafeToSign (config : AnchorConfig) (address : Text) (answer : Except Thrown JsValue)
    (xdr : String) : Prop where
  answered : ∃ payload challenge, answer = .ok payload ∧
    challengeOf config payload = .ok challenge ∧ challenge.transaction = xdr ∧
    challenge.networkPassphrase = config.networkPassphrase
  checked : ∃ url read, w.newUrl config.webAuthEndpoint = .ok url ∧
    w.readChallengeTx xdr config.signingKey config.networkPassphrase [config.homeDomain]
      url.host = .ok read ∧ read.clientAccountID = address

/-- What is to be signed is the challenge that was answered right before it. -/
def Guarded (config : AnchorConfig) (address : Text) (es : List (AuthEvent α)) : Prop :=
  ∀ before xdr signed after, es = before ++ .sign xdr signed :: after →
    ∃ earlier url answer, before = earlier ++ [.challenge url answer] ∧
      SafeToSign w config address answer xdr

section Guarded
variable {w} {config : AnchorConfig} {address : Text}

theorem safeChallenge_safe {answer : Except Thrown JsValue} {validated : ValidatedChallenge}
    (safe : safeChallenge w config address answer = .ok validated) :
    SafeToSign w config address answer validated.xdr := by
  rw [safeChallenge_eq] at safe
  obtain ⟨challenge, answered, valid⟩ := except_bind_ok.mp safe
  obtain ⟨payload, rfl, challenged⟩ := except_bind_ok.mp answered
  obtain ⟨network, url, read, found, checked, account, rfl⟩ :=
    (validateChallenge_ok_iff w challenge config address validated).mp valid
  exact ⟨⟨payload, challenge, rfl, challenged, rfl, network⟩, ⟨url, read, found, checked, account⟩⟩

theorem guarded_of_silent {es : List (AuthEvent α)} (silent : signatures es = []) :
    Guarded w config address es := by
  rintro before xdr signed after rfl
  have sign : signatures (before ++ .sign xdr signed :: after) =
      signatures before ++ xdr :: signatures after := signatures_append _ _
  rw [sign] at silent
  exact absurd silent (List.append_ne_nil_of_right_ne_nil _ (List.cons_ne_nil _ _))

theorem guarded_sign {url : Url} {answer signed : Except Thrown JsValue} {xdr : String}
    (safe : SafeToSign w config address answer xdr) :
    Guarded w config address [(.challenge url answer : AuthEvent α), .sign xdr signed] := by
  intro before xdr' signed' after split
  match before with
  | [] => cases split
  | [_] =>
    cases split
    exact ⟨[], url, answer, rfl, safe⟩
  | [_, _] => cases split
  | _ :: _ :: _ :: _ => cases split

theorem guarded_append {es es' : List (AuthEvent α)} (h : Guarded w config address es)
    (h' : Guarded w config address es') : Guarded w config address (es ++ es') := by
  intro before xdr signed after split
  rcases List.append_eq_append_iff.mp split with ⟨mid, rfl, tail⟩ | ⟨mid, rfl, tail⟩
  · obtain ⟨earlier, url, answer, rfl, safe⟩ := h' mid xdr signed after tail
    exact ⟨es ++ earlier, url, answer, (List.append_assoc ..).symm, safe⟩
  · cases mid with
    | nil =>
      obtain ⟨earlier, url, answer, none, safe⟩ := h' [] xdr signed after tail.symm
      exact absurd none.symm (List.append_ne_nil_of_right_ne_nil _ (List.cons_ne_nil _ _))
    | cons event mid =>
      cases tail
      exact h before xdr signed mid rfl

theorem guarded_call {token : Text} {r : Except Thrown α} {es : List (AuthEvent α)}
    (h : Guarded w config address es) : Guarded w config address (.call token r :: es) :=
  guarded_append (guarded_of_silent (show signatures [.call token r] = [] from rfl)) h

end Guarded

namespace AuthLog
variable {w} {config : AnchorConfig} {address : Text} {forced : Bool}
variable {es : List (AuthEvent α)} {r : Except Thrown Text}

theorem runs_eq (h : AuthLog w config address forced es r) : runs es = [] := by
  cases h <;> rfl

/-- Nothing reaches the wallet that was not checked. -/
theorem guarded (h : AuthLog w config address forced es r) : Guarded w config address es := by
  have sealed : ∀ {url answer validated signed}, safeChallenge w config address answer =
      .ok validated →
        Guarded w config address [.challenge url answer, .sign validated.xdr signed] :=
    fun safe => guarded_sign (safeChallenge_safe safe)
  cases h with
  | cached | noUrl | refused => exact guarded_of_silent rfl
  | unsigned safe _ => exact sealed safe
  | unsent safe _ _ => exact sealed safe
  | exchanged safe _ => exact guarded_append (sealed safe) (guarded_of_silent rfl)

theorem ends (h : AuthLog w config address forced es r) :
    Ends w (some config) address es r := by
  have challenged : ∀ url {answer validated},
      safeChallenge w config address answer = .ok validated →
      Smooth w (some config) address [.challenge url answer] := fun _ _ _ safe =>
    smooth_of_ok safe fun e ⟨known, same, failed⟩ => Option.some.inj same ▸ failed
  have signed : ∀ xdr {answer signedXdr}, answer >>= signedOf = .ok signedXdr →
      Smooth w (some config) address [.sign xdr answer] := fun _ _ _ signature =>
    smooth_of_ok signature fun e failed => failed
  cases h with
  | cached => exact .returned smooth_nil
  | noUrl throws => exact .noUrl smooth_nil throws
  | refused refused => exact .refused smooth_nil ⟨config, rfl, refused⟩
  | unsigned safe unsigned => exact .refused (challenged _ safe) unsigned
  | unsent safe signature throws =>
    exact .noUrl (smooth_append (challenged _ safe) (signed _ signature)) throws
  | @exchanged url url' _ _ reply validated signedXdr safe signature =>
    have smooth := smooth_append (challenged url safe) (signed validated.xdr signature)
    cases issued : issuedToken reply with
    | error e => exact .refused smooth issued
    | ok token =>
      have sent : Smooth w (some config) address [.exchange url' signedXdr reply] :=
        smooth_of_ok issued fun e failed => failed
      exact .returned (smooth_append smooth sent)

theorem renewed (h : AuthLog w config address true es r) (fresh : Text) :
    r = .ok fresh ↔ ∃ url signedXdr answer, .exchange url signedXdr answer ∈ es ∧
      issuedToken answer = .ok fresh := by
  cases h with
  | cached h => cases h
  | noUrl | refused | unsigned | unsent => simp
  | exchanged => simp

end AuthLog

namespace Resolved
variable {w} {options : AuthenticateOptions} {head : List (AuthEvent α)} {config : AnchorConfig}

theorem runs_eq (h : Resolved options head config) : runs head = [] := by
  cases h <;> rfl

theorem noRun {address : Text} {forced : Bool} {es : List (AuthEvent α)} {r : Except Thrown Text}
    (h : Resolved options head config) (authenticated : AuthLog w config address forced es r) :
    runs (head ++ es) = [] := by
  rw [runs_append, h.runs_eq, authenticated.runs_eq]
  rfl

theorem signatures_eq (h : Resolved options head config) : signatures head = [] := by
  cases h <;> rfl

theorem guarded (h : Resolved options head config) (address : Text) :
    Guarded w config address head :=
  guarded_of_silent h.signatures_eq

theorem discovered_eq (h : Resolved options head config) (rest : List (AuthEvent α)) :
    discovered options (head ++ rest) = some config := by
  cases h with
  | given h => rw [discovered, h, Option.some_or]
  | asked h => rw [discovered, h, Option.none_or]; rfl

theorem smooth (h : Resolved options head config) (address : Text) :
    Smooth w (some config) address head := by
  cases h with
  | given => exact smooth_nil
  | asked => exact smooth_of_ok (x := Except.ok config) rfl fun e failed => failed

end Resolved

namespace CallLog
variable {w} {address : Text} {options : AuthenticateOptions} {es : List (AuthEvent α)}
variable {r : Except Thrown α}

/-- Whatever is to be signed was checked against the configuration of the run. -/
theorem signed (h : CallLog w address options es r) {before after : List (AuthEvent α)}
    {xdr : String} {answer : Except Thrown JsValue}
    (split : es = before ++ .sign xdr answer :: after) :
    ∃ config, discovered options es = some config ∧ Guarded w config address es := by
  cases h with
  | undiscovered =>
    cases before with
    | nil => cases split
    | cons _ before => cases before <;> cases split
  | unauthenticated resolved failed =>
    exact ⟨_, resolved.discovered_eq _, guarded_append (resolved.guarded _) failed.guarded⟩
  | once resolved authenticated =>
    exact ⟨_, resolved.discovered_eq _, guarded_append (resolved.guarded _)
      (guarded_append authenticated.guarded (guarded_of_silent rfl))⟩
  | again resolved authenticated _ failed =>
    exact ⟨_, resolved.discovered_eq _, guarded_append (resolved.guarded _)
      (guarded_append authenticated.guarded (guarded_call failed.guarded))⟩
  | twice resolved authenticated _ renewed =>
    exact ⟨_, resolved.discovered_eq _, guarded_append (resolved.guarded _)
      (guarded_append authenticated.guarded
        (guarded_call (guarded_append renewed.guarded (guarded_of_silent rfl))))⟩

theorem ends (h : CallLog w address options es r) :
    Ends w (discovered options es) address es r ∨
      ∃ before token refused after, es = before ++ .call token refused :: after ∧
        Smooth w (discovered options es) address before ∧ runs before = [] ∧
        AuthRequired refused ∧ Ends w (discovered options es) address after r := by
  have smoothCall : ∀ {config : AnchorConfig} {token : Text} {a : α},
      Smooth w (some config) address [.call token (.ok a)] :=
    smooth_of_ok (x := Except.ok _) rfl fun e failed => failed
  have authenticatedSmooth : ∀ {config : AnchorConfig} {forced : Bool}
      {auth : List (AuthEvent α)} {token : Text},
      AuthLog w config address forced auth (.ok token) → Smooth w (some config) address auth :=
    fun h => h.ends.smooth_of_returned
  cases h with
  | undiscovered given =>
    exact Or.inl (.refused smooth_nil rfl)
  | unauthenticated resolved failed =>
    rw [resolved.discovered_eq]
    exact Or.inl (failed.ends.rethrown.append (resolved.smooth address))
  | once resolved authenticated final =>
    rw [resolved.discovered_eq, ← List.append_assoc]
    have smooth := smooth_append (resolved.smooth address)
      (authenticatedSmooth authenticated)
    cases r with
    | ok a => exact Or.inl (.returned (smooth_append smooth smoothCall))
    | error e => exact Or.inl (.refused smooth rfl)
  | again resolved authenticated required failed =>
    rw [resolved.discovered_eq, ← List.append_assoc]
    refine Or.inr ⟨_, _, _, _, rfl, smooth_append (resolved.smooth address)
      (authenticatedSmooth authenticated), ?_, required, failed.ends.rethrown⟩
    rw [runs_append, resolved.runs_eq, authenticated.runs_eq]
    rfl
  | twice resolved authenticated required renewed =>
    rw [resolved.discovered_eq, ← List.append_assoc]
    refine Or.inr ⟨_, _, _, _, rfl, smooth_append (resolved.smooth address)
      (authenticatedSmooth authenticated), ?_, required, ?_⟩
    · rw [runs_append, resolved.runs_eq, authenticated.runs_eq]
      rfl
    · cases r with
      | ok a => exact .returned (smooth_append (authenticatedSmooth renewed) smoothCall)
      | error e => exact .refused (authenticatedSmooth renewed) rfl

theorem returned (h : CallLog w address options es r) {a : α} (ok : r = .ok a) :
    ∃ before token, es = before ++ [.call token (.ok a)] := by
  subst ok
  cases h with
  | once =>
    rw [← List.append_assoc]
    exact ⟨_, _, rfl⟩
  | @twice head es es' _ token fresh r =>
    exact ⟨head ++ es ++ .call token r :: es', fresh, by simp⟩

/-- A refusal ends it all, unless it is the first run that wants authentication. -/
theorem refusal (h : CallLog w address options es r) {before after : List (AuthEvent α)}
    {event : AuthEvent α} {e : Thrown} (split : es = before ++ event :: after)
    (refuses : Refuses w (discovered options es) address event e) :
    (after = [] ∧ r = .error e) ∨
      (runs before = [] ∧ ∃ token r', event = .call token r' ∧ AuthRequired r') := by
  rcases h.ends with ended | ⟨pre, token, refused, rest, first, smooth, noRun, required, ended⟩
  · generalize discovered options es = config at ended refuses
    subst split
    exact Or.inl (ended.last refuses)
  · rcases List.append_eq_append_iff.mp (split.symm.trans first) with
      ⟨mid, rfl, tails⟩ | ⟨mid, rfl, tails⟩
    · cases mid with
      | nil =>
        cases tails
        rw [List.append_nil] at noRun
        exact Or.inr ⟨noRun, token, refused, rfl, required⟩
      | cons event' mid =>
        cases tails
        exact absurd refuses (smooth event
          (List.mem_append_right before List.mem_cons_self) e)
    · cases mid with
      | nil =>
        cases tails
        rw [List.append_nil]
        exact Or.inr ⟨noRun, token, refused, rfl, required⟩
      | cons event' mid =>
        cases tails
        exact Or.inl (ended.last refuses)

theorem failed (h : CallLog w address options es r) {e : Thrown} (error : r = .error e) :
    UrlThrows w e ∨ ∃ before event, es = before ++ [event] ∧
      Refuses w (discovered options es) address event e := by
  subst error
  rcases h.ends with ended | ⟨pre, token, refused, rest, rfl, _, _, _, ended⟩
  · generalize discovered options es = config at ended
    cases ended with
    | noUrl _ throws => exact Or.inl throws
    | refused _ refuses => exact Or.inr ⟨_, _, rfl, refuses⟩
  · generalize discovered options _ = config at ended
    cases ended with
    | noUrl _ throws => exact Or.inl throws
    | @refused before event _ _ refuses =>
      exact Or.inr ⟨pre ++ .call token refused :: before, event, by simp, refuses⟩

end CallLog

end ShowUp.Anchor

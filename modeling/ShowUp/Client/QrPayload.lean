import ShowUp.Shared.Json
import ShowUp.Client.Schemas

/-!
# The reservation pass

`encodePass` and `decodePass` of `lib/qr/payload.ts`. An event id is narrowed to
a double on its way into the code and widened on its way out.
-/

namespace ShowUp.Client

set_option autoImplicit false

open Utf16 Json

def maxPassBytes : Nat := 512

structure ReservationPass where
  v : Nat
  eventId : Int
  participant : Text
  issuedAt : Double

inductive QrPayloadErrorKind where
  | tooLarge
  | malformed
  | invalid
  deriving DecidableEq

/-- What the codec can throw: its own error, or what `BigInt` says to a number that is not
an integer. -/
inductive PassThrown where
  | qrPayloadError (kind : QrPayloadErrorKind) (message : String)
  | rangeError
  deriving DecidableEq

/-- `parsed.data`, whose `v` is 1 -/
structure PassData where
  eventId : Double
  participant : Text
  issuedAt : Double

/-- `z.number().int().safe()` with a lower bound on top -/
def wholeFrom (bound : ℚ) : Double → Bool
  | .finite value => (Double.finite value).isSafeInteger && bound ≤ value
  | _ => false

def isOne : Double → Bool
  | .finite value => value = 1
  | _ => false

def keyV : Text := ofString "v"

def keyEventId : Text := ofString "eventId"

def keyParticipant : Text := ofString "participant"

def keyIssuedAt : Text := ofString "issuedAt"

/-- The strict object: no member is missing and there is no other. -/
def passSchema : Json → Option PassData
  | .object fields =>
    if fields.all fun field => [keyV, keyEventId, keyParticipant, keyIssuedAt].contains field.1 then
      match fields.lookup keyV, fields.lookup keyEventId, fields.lookup keyParticipant,
        fields.lookup keyIssuedAt with
      | some (.number v), some (.number eventId), some (.string participant),
        some (.number issuedAt) =>
        if isOne v ∧ wholeFrom 1 eventId ∧ stellarAccountPattern participant ∧
          wholeFrom 0 issuedAt then some ⟨eventId, participant, issuedAt⟩
        else none
      | _, _, _, _ => none
    else none
  | _ => none

/-- `BigInt(value)` -/
def toBigInt : Double → Except PassThrown Int
  | .finite value => if value.den = 1 then .ok value.num else .error .rangeError
  | _ => .error .rangeError

/-- `JSON.stringify` of a number the schema has let through: a safe integer, written in full. -/
def numberText : Double → Text
  | .finite value => ofNat value.num.toNat
  | _ => ofString "null"

/-- `JSON.stringify(parsed.data)` -/
def stringifyPass (data : PassData) : Text :=
  objectText [(keyV, ofNat 1), (keyEventId, numberText data.eventId),
    (keyParticipant, quote data.participant), (keyIssuedAt, numberText data.issuedAt)]

def encodePass (eventId : Int) (participant : Text) (issuedAt : Double) :
    Except PassThrown Text :=
  let number := Double.ofRat eventId
  match passSchema (.object [(keyV, .number (.finite 1)), (keyEventId, .number number),
    (keyParticipant, .string participant), (keyIssuedAt, .number issuedAt)]) with
  | none => .error (.qrPayloadError .invalid "The reservation pass is invalid.")
  | some data =>
    match toBigInt number with
    | .error thrown => .error thrown
    | .ok widened =>
      if widened ≠ eventId then
        .error (.qrPayloadError .invalid "The reservation pass is invalid.")
      else
        let encoded := stringifyPass data
        if utf8ByteLength encoded > maxPassBytes then
          .error (.qrPayloadError .tooLarge "The reservation pass is too large.")
        else .ok encoded

def decodePass (raw : Text) : Except PassThrown ReservationPass :=
  if raw.length > maxPassBytes ∨ utf8ByteLength raw > maxPassBytes then
    .error (.qrPayloadError .tooLarge "The QR payload is too large.")
  else
    match parse raw with
    | none => .error (.qrPayloadError .malformed "The QR code is not valid JSON.")
    | some decoded =>
      match passSchema decoded with
      | none => .error (.qrPayloadError .invalid "The QR code is not a ShowUp reservation pass.")
      | some data =>
        (toBigInt data.eventId).map fun eventId =>
          ⟨1, eventId, data.participant, data.issuedAt⟩

theorem wholeFrom_iff (bound : Nat) {d : Double} :
    wholeFrom bound d = true ↔ ∃ n : Nat, d = .finite n ∧ bound ≤ n ∧ n ≤ 2 ^ 53 - 1 := by
  constructor
  · intro h
    cases d with
    | finite value =>
      simp only [wholeFrom, Bool.and_eq_true, decide_eq_true_eq] at h
      obtain ⟨safe, le⟩ := h
      obtain ⟨n, same, _, upper⟩ := Double.isSafeInteger_iff.mp safe
      cases same
      have le : (bound : Int) ≤ n := by exact_mod_cast le
      have cast : ((n.toNat : Int) : ℚ) = n := by rw [Int.toNat_of_nonneg (by omega)]
      refine ⟨n.toNat, ?_, by omega, by omega⟩
      rw [← cast]
      rfl
    | _ => cases h
  · rintro ⟨n, rfl, le, upper⟩
    have safe : (Double.finite (n : ℚ)).isSafeInteger = true :=
      Double.isSafeInteger_iff.mpr ⟨n, rfl, by omega, by omega⟩
    simp only [wholeFrom, safe, Bool.true_and, decide_eq_true_eq]
    exact_mod_cast le

theorem toBigInt_nat (n : Nat) : toBigInt (.finite n) = .ok n := by
  simp only [toBigInt, Rat.den_natCast, if_true, Rat.num_natCast]

theorem passSchema_members (v eventId issuedAt : Double) (participant : Text) :
    passSchema (.object [(keyV, .number v), (keyEventId, .number eventId),
      (keyParticipant, .string participant), (keyIssuedAt, .number issuedAt)]) =
      if isOne v ∧ wholeFrom 1 eventId ∧ stellarAccountPattern participant ∧
        wholeFrom 0 issuedAt then some ⟨eventId, participant, issuedAt⟩ else none := by
  rfl

/-- The members of an accepted pass, in the order of the schema. -/
def passMembers (eventId : Nat) (participant : Text) (issuedAt : Nat) : List Member :=
  [⟨keyV, ofNat 1, .number (.finite (1 : Nat))⟩,
    ⟨keyEventId, ofNat eventId, .number (.finite eventId)⟩,
    ⟨keyParticipant, quote participant, .string participant⟩,
    ⟨keyIssuedAt, ofNat issuedAt, .number (.finite issuedAt)⟩]

def passText (eventId : Nat) (participant : Text) (issuedAt : Nat) : Text :=
  objectText ((passMembers eventId participant issuedAt).map fun m => (m.key, m.text))

/-- What is wanted of a pass: an id and a time that a double holds exactly, and an account. -/
structure PassFields (eventId : Nat) (participant : Text) (issuedAt : Nat) : Prop where
  eventId_pos : 1 ≤ eventId
  eventId_le : eventId ≤ 2 ^ 53 - 1
  account : stellarAccountPattern participant = true
  issuedAt_le : issuedAt ≤ 2 ^ 53 - 1

theorem isPlain_account {participant : Text} (account : stellarAccountPattern participant = true) :
    ∀ u ∈ participant, IsPlain u := by
  intro u h
  have range := isBase32_iff.mp ((account_units account).2 u h)
  simp only [IsPlain, quotation, Json.backslash, ne_eq, ← UInt16.toNat_inj,
    UInt16.lt_iff_toNat_lt, UInt16.reduceToNat]
  omega

section Pass
variable {eventId issuedAt : Nat} {participant : Text}

theorem PassFields.readable (p : PassFields eventId participant issuedAt) :
    ∀ m ∈ passMembers eventId participant issuedAt, m.Readable := by
  have hIssued := p.issuedAt_le
  have hEvent := p.eventId_le
  simp only [passMembers, List.forall_mem_cons, List.not_mem_nil, false_imp_iff, implies_true,
    and_true]
  have hV : ∀ u ∈ keyV, IsPlain u := isPlain_of_all (by decide)
  have hEventId : ∀ u ∈ keyEventId, IsPlain u := isPlain_of_all (by decide)
  have hParticipant : ∀ u ∈ keyParticipant, IsPlain u := isPlain_of_all (by decide)
  have hIssuedAt : ∀ u ∈ keyIssuedAt, IsPlain u := isPlain_of_all (by decide)
  exact ⟨⟨hV, readsAs_ofNat (by decide)⟩, ⟨hEventId, readsAs_ofNat (by omega)⟩,
    ⟨hParticipant, readsAs_quote (isPlain_account p.account)⟩,
    ⟨hIssuedAt, readsAs_ofNat (by omega)⟩⟩

theorem PassFields.parse_eq (p : PassFields eventId participant issuedAt) :
    parse (passText eventId participant issuedAt) =
      some (.object ((passMembers eventId participant issuedAt).map Member.field)) :=
  parse_objectText (List.cons_ne_nil _ _) p.readable
    (by simp only [passMembers, List.map_cons, List.map_nil]; decide)

theorem PassFields.schema_eq (p : PassFields eventId participant issuedAt) :
    passSchema (.object ((passMembers eventId participant issuedAt).map Member.field)) =
      some ⟨.finite eventId, participant, .finite issuedAt⟩ := by
  have hEvent : wholeFrom 1 (.finite (eventId : ℚ)) = true := by
    have h := (wholeFrom_iff 1).mpr ⟨eventId, rfl, p.eventId_pos, p.eventId_le⟩
    rwa [Nat.cast_one] at h
  have hIssued : wholeFrom 0 (.finite (issuedAt : ℚ)) = true := by
    have h := (wholeFrom_iff 0).mpr ⟨issuedAt, rfl, Nat.zero_le _, p.issuedAt_le⟩
    rwa [Nat.cast_zero] at h
  have one : isOne (.finite ((1 : Nat) : ℚ)) = true := by
    simp [isOne]
  exact (passSchema_members (.finite ((1 : Nat) : ℚ)) (.finite eventId) (.finite issuedAt)
    participant).trans (if_pos ⟨one, hEvent, p.account, hIssued⟩)

/-- The text of a pass is a good deal shorter than the limit. -/
theorem PassFields.short (p : PassFields eventId participant issuedAt) :
    (passText eventId participant issuedAt).length ≤ maxPassBytes ∧
      utf8ByteLength (passText eventId participant issuedAt) ≤ maxPassBytes := by
  have hEvent := Digits.length_ofNat_le (n := eventId) (k := 16) (by decide)
    (by have := p.eventId_le; omega)
  have hIssued := Digits.length_ofNat_le (n := issuedAt) (k := 16) (by decide)
    (by have := p.issuedAt_le; omega)
  have hAccount := (account_units p.account).1
  have keys : (quote keyV).length = 3 ∧ (quote keyEventId).length = 9 ∧
      (quote keyParticipant).length = 13 ∧ (quote keyIssuedAt).length = 10 ∧
      (ofNat 1).length = 1 := by decide
  have length : (passText eventId participant issuedAt).length ≤ 138 := by
    simp only [passText, passMembers, objectText, quote_plain (isPlain_account p.account),
      List.map_cons, List.map_nil, List.intercalate_cons_cons, List.intercalate_singleton,
      List.length_cons, List.length_append, List.length_nil, List.length_map, ofNat] at keys ⊢
    omega
  have bytes := length_encode_le (passText eventId participant issuedAt)
  unfold utf8ByteLength maxPassBytes
  omega

theorem PassFields.decode_eq (p : PassFields eventId participant issuedAt) :
    decodePass (passText eventId participant issuedAt) =
      .ok ⟨1, eventId, participant, .finite issuedAt⟩ := by
  have short := p.short
  have small : ¬ ((passText eventId participant issuedAt).length > maxPassBytes ∨
      utf8ByteLength (passText eventId participant issuedAt) > maxPassBytes) := by omega
  unfold decodePass
  rw [if_neg small]
  simp only [p.parse_eq, p.schema_eq, toBigInt_nat, Except.map]

theorem PassFields.encode_eq (p : PassFields eventId participant issuedAt) :
    encodePass eventId participant (.finite issuedAt) =
      .ok (passText eventId participant issuedAt) := by
  have number : Double.ofRat ((eventId : Int) : ℚ) = .finite eventId := by
    have small : |(eventId : Int)| < 2 ^ 53 := by
      have := p.eventId_le
      rw [abs_of_nonneg (Int.natCast_nonneg _)]
      omega
    have h := Double.ofRat_int small
    rwa [Int.cast_natCast] at h ⊢
  have fields := p.schema_eq
  have short : ¬ utf8ByteLength (passText eventId participant issuedAt) > maxPassBytes :=
    Nat.not_lt.mpr p.short.2
  have written : stringifyPass ⟨.finite eventId, participant, .finite issuedAt⟩ =
      passText eventId participant issuedAt := by
    simp only [stringifyPass, numberText, Rat.num_natCast, Int.toNat_natCast]
    rfl
  simp only [passMembers, List.map_cons, List.map_nil, Member.field, Nat.cast_one] at fields
  unfold encodePass
  simp only [number, fields, toBigInt_nat, written, ne_eq, not_true, if_false, if_neg short]

end Pass

/-- Whatever the schema accepts is a pass with proper fields. -/
theorem fields_of_schema {decoded : Json} {data : PassData}
    (parsed : passSchema decoded = some data) :
    ∃ event issued : Nat, data = ⟨.finite event, data.participant, .finite issued⟩ ∧
      PassFields event data.participant issued := by
  unfold passSchema at parsed
  split at parsed
  · split at parsed
    · split at parsed
      · split at parsed
        · rename_i accepted
          cases parsed
          obtain ⟨_, hEvent, account, hIssued⟩ := accepted
          obtain ⟨event, rfl, pos, le⟩ := (wholeFrom_iff 1).mp (by rwa [Nat.cast_one])
          obtain ⟨issued, rfl, _, le'⟩ := (wholeFrom_iff 0).mp (by rwa [Nat.cast_zero])
          exact ⟨event, issued, rfl, pos, le, account, le'⟩
        · cases parsed
      · cases parsed
    · cases parsed
  · cases parsed

theorem fields_of_encode {eventId : Int} {participant : Text} {issuedAt : Double} {s : Text}
    (encoded : encodePass eventId participant issuedAt = .ok s) :
    ∃ event issued : Nat, eventId = event ∧ issuedAt = .finite issued ∧
      PassFields event participant issued := by
  unfold encodePass at encoded
  dsimp only at encoded
  split at encoded
  · cases encoded
  · rename_i data parsed
    obtain ⟨event, issued, same, fields⟩ := fields_of_schema parsed
    rw [passSchema_members] at parsed
    split at parsed
    · cases parsed
      obtain ⟨number, _, rfl⟩ := PassData.mk.inj same
      rw [number, toBigInt_nat] at encoded
      dsimp only at encoded
      split at encoded
      · cases encoded
      · rename_i equal
        exact ⟨event, issued, (Decidable.not_not.mp equal).symm, rfl, fields⟩
    · cases parsed

theorem decodePass_cases (raw : Text) :
    (∃ kind message, decodePass raw = .error (.qrPayloadError kind message)) ∨
      ∃ event issued : Nat, ∃ participant, PassFields event participant issued ∧
        decodePass raw = .ok ⟨1, event, participant, .finite issued⟩ := by
  unfold decodePass
  split
  · exact Or.inl ⟨_, _, rfl⟩
  · split
    · exact Or.inl ⟨_, _, rfl⟩
    · split
      · exact Or.inl ⟨_, _, rfl⟩
      · rename_i data parsed
        obtain ⟨event, issued, same, fields⟩ := fields_of_schema parsed
        refine Or.inr ⟨event, issued, data.participant, fields, ?_⟩
        rw [same, toBigInt_nat]
        rfl

/-- The codec issues the passes it can read back, and reads back what it has issued. -/
theorem pass_codec :
    (∀ eventId participant issuedAt, (∃ s, encodePass eventId participant issuedAt = .ok s) ↔
      1 ≤ eventId ∧ eventId ≤ 2 ^ 53 - 1 ∧ stellarAccountPattern participant = true ∧
        ∃ n : Int, issuedAt = .finite n ∧ 0 ≤ n ∧ n ≤ 2 ^ 53 - 1) ∧
    (∀ eventId participant issuedAt s, encodePass eventId participant issuedAt = .ok s →
      decodePass s = .ok ⟨1, eventId, participant, issuedAt⟩) ∧
    (∀ raw pass, decodePass raw = .ok pass →
      ∃ s, encodePass pass.eventId pass.participant pass.issuedAt = .ok s ∧
        decodePass s = .ok pass) ∧
    (∀ raw, (∃ pass, decodePass raw = .ok pass) ∨
      ∃ kind message, decodePass raw = .error (.qrPayloadError kind message)) := by
  refine ⟨?_, ?_, ?_, ?_⟩
  · intro eventId participant issuedAt
    constructor
    · rintro ⟨s, encoded⟩
      obtain ⟨event, issued, rfl, rfl, p⟩ := fields_of_encode encoded
      have pos := p.eventId_pos
      have le := p.eventId_le
      have le' := p.issuedAt_le
      exact ⟨by omega, by omega, p.account, issued, rfl, by omega, by omega⟩
    · rintro ⟨pos, le, account, n, rfl, nonneg, le'⟩
      obtain ⟨event, rfl⟩ := Int.eq_ofNat_of_zero_le (show 0 ≤ eventId by omega)
      obtain ⟨issued, rfl⟩ := Int.eq_ofNat_of_zero_le nonneg
      have p : PassFields event participant issued := ⟨by omega, by omega, account, by omega⟩
      exact ⟨_, p.encode_eq⟩
  · intro eventId participant issuedAt s encoded
    obtain ⟨event, issued, rfl, rfl, p⟩ := fields_of_encode encoded
    rw [p.encode_eq] at encoded
    cases encoded
    exact p.decode_eq
  · intro raw pass decoded
    rcases decodePass_cases raw with ⟨kind, message, refused⟩ | ⟨event, issued, participant, p, read⟩
    · rw [refused] at decoded
      cases decoded
    · rw [read] at decoded
      cases decoded
      exact ⟨_, p.encode_eq, p.decode_eq⟩
  · intro raw
    rcases decodePass_cases raw with refused | ⟨event, issued, participant, _, read⟩
    · exact Or.inr refused
    · exact Or.inl ⟨_, read⟩

def passHolder : Text :=
  ofString "GAAZI4TCR3TY5OJHCTJC2A4QSY6CJWJH5IAJTGKIN2ER7LBNVKOCCWN7"

/-- A pass for the third event. -/
theorem pass_codec_third :
    ∃ s, encodePass 3 passHolder (.finite 1700000000) = .ok s ∧
      decodePass s = .ok ⟨1, 3, passHolder, .finite 1700000000⟩ := by
  have accepted := (pass_codec.1 3 passHolder (.finite 1700000000)).mpr
    ⟨by decide, by decide, by decide, 1700000000, rfl, by decide, by decide⟩
  obtain ⟨s, encoded⟩ := accepted
  exact ⟨s, encoded, pass_codec.2.1 _ _ _ s encoded⟩

end ShowUp.Client

import ShowUp.Shared.Decimal
import ShowUp.Shared.Double

/-!
# JSON text

`JSON.parse` reads a text in two passes: into tokens, and by a pushdown automaton
from tokens into a value. No two tokens of a value stand side by side, so the
first pass may read as far as it can.
-/

namespace ShowUp

set_option autoImplicit false

/-- A value as `JSON.parse` gives it. The keys of an object are distinct. -/
inductive Json where
  | null
  | bool (value : Bool)
  | number (value : Double)
  | string (value : Text)
  | array (items : List Json)
  | object (fields : List (Text × Json))

namespace Json

open Utf16

inductive Token where
  | openBrace
  | closeBrace
  | openBracket
  | closeBracket
  | colon
  | comma
  | string (value : Text)
  | scalar (value : Json)

def quotation : UInt16 := 0x22

def backslash : UInt16 := 0x5C

/-- Tab, line feed, carriage return and space. -/
def isBlank (u : UInt16) : Bool := u = 0x9 || u = 0xA || u = 0xD || u = 0x20

def punctuation (u : UInt16) : Option Token :=
  if u = 0x7B then some .openBrace
  else if u = 0x7D then some .closeBrace
  else if u = 0x5B then some .openBracket
  else if u = 0x5D then some .closeBracket
  else if u = 0x3A then some .colon
  else if u = 0x2C then some .comma
  else none

def hexDigit (u : UInt16) : Option Nat :=
  if isDigit u then some (u.toNat - 0x30)
  else if 0x41 ≤ u && u ≤ 0x46 then some (u.toNat - 0x37)
  else if 0x61 ≤ u && u ≤ 0x66 then some (u.toNat - 0x57)
  else none

/-- `\uXXXX` -/
def hexUnit (a b c d : UInt16) : Option UInt16 := do
  let a ← hexDigit a
  let b ← hexDigit b
  let c ← hexDigit c
  let d ← hexDigit d
  return (((a * 16 + b) * 16 + c) * 16 + d).toUInt16

/-- What `\b`, `\n` and their like stand for. -/
def simpleEscape (u : UInt16) : Option UInt16 :=
  if u = quotation ∨ u = backslash ∨ u = 0x2F then some u
  else if u = 0x62 then some 0x8
  else if u = 0x66 then some 0xC
  else if u = 0x6E then some 0xA
  else if u = 0x72 then some 0xD
  else if u = 0x74 then some 0x9
  else none

def prepend (unit : Option UInt16) (scanned : Option (Text × Text)) : Option (Text × Text) := do
  let unit ← unit
  let (value, rest) ← scanned
  return (unit :: value, rest)

/-- A string up to its closing quotation mark, and what follows. -/
def scanString : Text → Option (Text × Text)
  | [] => none
  | [u] => if u = quotation then some ([], []) else none
  | u :: e :: rest =>
    if u = quotation then some ([], e :: rest)
    else if u = backslash then
      if e = 0x75 then
        match rest with
        | a :: b :: c :: d :: rest => prepend (hexUnit a b c d) (scanString rest)
        | _ => none
      else prepend (simpleEscape e) (scanString rest)
    else if u < 0x20 then none
    else prepend (some u) (scanString (e :: rest))

/-- The fraction of a number, if a point comes next. -/
def scanFraction : Text → Option (ℚ × Text)
  | [] => some (0, [])
  | u :: rest =>
    if u = point then
      let digits := rest.takeWhile isDigit
      if digits = [] then none
      else some (Digits.fraction (digits.map toDigit), rest.dropWhile isDigit)
    else some (0, u :: rest)

/-- The text after an optional sign. -/
def dropSign (text : Text) : Text :=
  if text.head? = some minus ∨ text.head? = some plus then text.tail else text

/-- The power of ten a number is scaled by, if an exponent comes next. -/
def scanExponent : Text → Option (ℚ × Text)
  | [] => some (1, [])
  | u :: rest =>
    if u = 0x65 ∨ u = 0x45 then
      let digits := (dropSign rest).takeWhile isDigit
      if digits = [] then none
      else
        let power : ℚ := 10 ^ value digits
        some (if rest.head? = some minus then power⁻¹ else power,
          (dropSign rest).dropWhile isDigit)
    else some (1, u :: rest)

/-- The digits before the point: a zero, or a number that does not start with one. -/
def scanWhole (text : Text) : Option (Text × Text) :=
  match text with
  | [] => none
  | u :: rest =>
    if u = zero then some ([u], rest)
    else if isDigit u then some (text.takeWhile isDigit, text.dropWhile isDigit)
    else none

/-- A number by its exact value. -/
def scanNumber (text : Text) : Option (ℚ × Text) := do
  let negative := text.head? = some minus
  let (whole, rest) ← scanWhole (if negative then text.tail else text)
  let (fraction, rest) ← scanFraction rest
  let (power, rest) ← scanExponent rest
  let magnitude := (value whole + fraction) * power
  return (if negative then -magnitude else magnitude, rest)

def scanScalar (text : Text) : Option (Json × Text) :=
  if (ofString "true").isPrefixOf text then some (.bool true, text.drop 4)
  else if (ofString "false").isPrefixOf text then some (.bool false, text.drop 5)
  else if (ofString "null").isPrefixOf text then some (.null, text.drop 4)
  else (scanNumber text).map fun (value, rest) => (.number (.ofRat value), rest)

theorem prepend_eq_some {unit : Option UInt16} {scanned : Option (Text × Text)}
    {value rest : Text} (h : prepend unit scanned = some (value, rest)) :
    ∃ value', scanned = some (value', rest) := by
  simp only [prepend, Option.bind_eq_bind, Option.bind_eq_some_iff, Option.pure_def,
    Option.some.injEq, Prod.mk.injEq] at h
  obtain ⟨_, _, ⟨value', rest'⟩, scanned, _, rfl⟩ := h
  exact ⟨value', scanned⟩

theorem scanString_length {text value rest : Text} (h : scanString text = some (value, rest)) :
    rest.length < text.length := by
  fun_induction scanString text generalizing value rest with
  | case1 => cases h
  | case2 =>
    cases h
    exact Nat.zero_lt_one
  | case3 => cases h
  | case4 =>
    cases h
    exact Nat.lt_succ_self _
  | case5 a b c d text _ ih =>
    obtain ⟨_, scanned⟩ := prepend_eq_some h
    have := ih scanned
    simp only [List.length_cons]
    omega
  | case6 => cases h
  | case7 e text _ _ ih =>
    obtain ⟨_, scanned⟩ := prepend_eq_some h
    have := ih scanned
    simp only [List.length_cons]
    omega
  | case8 => cases h
  | case9 u e text _ _ _ ih =>
    obtain ⟨_, scanned⟩ := prepend_eq_some h
    have := ih scanned
    simp only [List.length_cons] at this ⊢
    omega

theorem length_dropWhile_le (p : UInt16 → Bool) (text : Text) :
    (text.dropWhile p).length ≤ text.length := (List.dropWhile_sublist p).length_le

theorem scanWhole_length {text whole rest : Text} (h : scanWhole text = some (whole, rest)) :
    rest.length < text.length := by
  unfold scanWhole at h
  split at h
  · cases h
  · rename_i u others
    split at h
    · cases h
      exact Nat.lt_succ_self _
    · split at h
      · rename_i digit
        cases h
        rw [List.dropWhile_cons_of_pos digit]
        exact Nat.lt_succ_of_le (length_dropWhile_le _ _)
      · cases h

theorem scanFraction_length {text rest : Text} {fraction : ℚ}
    (h : scanFraction text = some (fraction, rest)) : rest.length ≤ text.length := by
  unfold scanFraction at h
  split at h
  · cases h
    exact Nat.le_refl _
  · rename_i u others
    split at h
    · dsimp only at h
      split at h
      · cases h
      · cases h
        exact Nat.le_succ_of_le (length_dropWhile_le _ _)
    · cases h
      exact Nat.le_refl _

theorem dropSign_length (text : Text) : (dropSign text).length ≤ text.length := by
  unfold dropSign
  split
  · rw [List.length_tail]
    exact Nat.sub_le _ _
  · exact Nat.le_refl _

theorem scanExponent_length {text rest : Text} {power : ℚ}
    (h : scanExponent text = some (power, rest)) : rest.length ≤ text.length := by
  unfold scanExponent at h
  split at h
  · cases h
    exact Nat.le_refl _
  · rename_i u others
    split at h
    · dsimp only at h
      split at h
      · cases h
      · cases h
        apply Nat.le_succ_of_le
        exact (length_dropWhile_le _ _).trans (dropSign_length others)
    · cases h
      exact Nat.le_refl _

theorem scanNumber_length {text rest : Text} {number : ℚ}
    (h : scanNumber text = some (number, rest)) : rest.length < text.length := by
  simp only [scanNumber, Option.bind_eq_bind, Option.bind_eq_some_iff, Option.pure_def,
    Option.some.injEq, Prod.mk.injEq] at h
  obtain ⟨⟨_, afterWhole⟩, whole, ⟨_, afterFraction⟩, fraction, ⟨_, _⟩, exponent, _, rfl⟩ := h
  have h1 := scanWhole_length whole
  have h2 := scanFraction_length fraction
  have h3 := scanExponent_length exponent
  dsimp only at h1 h2 h3 ⊢
  split at h1
  · rw [List.length_tail] at h1
    omega
  · omega

theorem scanScalar_length {text rest : Text} {value : Json}
    (h : scanScalar text = some (value, rest)) : rest.length < text.length := by
  have literal : ∀ {word : Text} {n : Nat}, word.isPrefixOf text = true → 0 < n →
      n = word.length → (text.drop n).length < text.length := by
    intro word n found pos length
    have := (List.isPrefixOf_iff_prefix.mp found).length_le
    rw [List.length_drop]
    omega
  unfold scanScalar at h
  split at h
  · cases h
    exact literal (by assumption) (by decide) (by decide)
  · split at h
    · cases h
      exact literal (by assumption) (by decide) (by decide)
    · split at h
      · cases h
        exact literal (by assumption) (by decide) (by decide)
      · obtain ⟨⟨number, rest'⟩, scanned, same⟩ := Option.map_eq_some_iff.mp h
        cases same
        exact scanNumber_length scanned

/-- The tokens of a text. -/
def lex (text : Text) : Option (List Token) :=
  match text with
  | [] => some []
  | u :: rest =>
    if isBlank u then lex rest
    else
      match punctuation u with
      | some token => (lex rest).map (token :: ·)
      | none =>
        if u = quotation then
          match _h : scanString rest with
          | some (value, rest') => (lex rest').map (.string value :: ·)
          | none => none
        else
          match _h : scanScalar (u :: rest) with
          | some (value, rest') => (lex rest').map (.scalar value :: ·)
          | none => none
termination_by text.length
decreasing_by
  · exact Nat.lt_succ_self _
  · exact Nat.lt_succ_self _
  · exact Nat.lt_succ_of_lt (scanString_length _h)
  · exact scanScalar_length _h

/-- What an unfinished array or object waits for a value with. -/
inductive Frame where
  | array (items : List Json)
  | object (fields : List (Text × Json)) (key : Text)

/-- What comes next. `canClose` is set right after an opening bracket or brace. -/
inductive Expecting where
  | value (canClose : Bool)
  | key (fields : List (Text × Json)) (canClose : Bool)
  | colon (fields : List (Text × Json)) (key : Text)
  | separator (value : Json)

/-- A member of an object: of two with one key the last counts. -/
def setField (fields : List (Text × Json)) (key : Text) (value : Json) : List (Text × Json) :=
  if fields.any (·.1 == key) then
    fields.map fun field => if field.1 == key then (key, value) else field
  else fields ++ [(key, value)]

def step : List Frame × Expecting → Token → Option (List Frame × Expecting)
  | (stack, .value _), .string value => some (stack, .separator (.string value))
  | (stack, .value _), .scalar value => some (stack, .separator value)
  | (stack, .value _), .openBracket => some (.array [] :: stack, .value true)
  | (stack, .value _), .openBrace => some (stack, .key [] true)
  | (.array items :: stack, .value true), .closeBracket =>
    some (stack, .separator (.array items))
  | (stack, .key fields _), .string key => some (stack, .colon fields key)
  | (stack, .key fields true), .closeBrace => some (stack, .separator (.object fields))
  | (stack, .colon fields key), .colon => some (.object fields key :: stack, .value false)
  | (.array items :: stack, .separator value), .comma =>
    some (.array (items ++ [value]) :: stack, .value false)
  | (.array items :: stack, .separator value), .closeBracket =>
    some (stack, .separator (.array (items ++ [value])))
  | (.object fields key :: stack, .separator value), .comma =>
    some (stack, .key (setField fields key value) false)
  | (.object fields key :: stack, .separator value), .closeBrace =>
    some (stack, .separator (.object (setField fields key value)))
  | _, _ => none

/-- `JSON.parse(text)`, where it does not throw -/
def parse (text : Text) : Option Json := do
  let tokens ← lex text
  match ← tokens.foldlM step ([], .value false) with
  | ([], .separator value) => return value
  | _ => none

def hexUnitText (n : Nat) : UInt16 := if n < 10 then (0x30 + n).toUInt16 else (0x57 + n).toUInt16

/-- One unit as it stands in a quoted string, where it is not half of a pair. -/
def quoteUnit (u : UInt16) : Text :=
  if u = 0x8 then [backslash, 0x62]
  else if u = 0x9 then [backslash, 0x74]
  else if u = 0xA then [backslash, 0x6E]
  else if u = 0xC then [backslash, 0x66]
  else if u = 0xD then [backslash, 0x72]
  else if u = quotation ∨ u = backslash then [backslash, u]
  else if u < 0x20 || isHigh u || isLow u then
    [backslash, 0x75, hexUnitText (u.toNat / 4096), hexUnitText (u.toNat / 256 % 16),
      hexUnitText (u.toNat / 16 % 16), hexUnitText (u.toNat % 16)]
  else [u]

def quoteUnits : Text → Text
  | [] => []
  | [u] => quoteUnit u
  | u :: v :: rest =>
    if isHigh u && isLow v then u :: v :: quoteUnits rest
    else quoteUnit u ++ quoteUnits (v :: rest)

/-- `JSON.stringify(text)` -/
def quote (text : Text) : Text := quotation :: quoteUnits text ++ [quotation]

/-- `JSON.stringify` of an object, from the texts of its members. -/
def objectText (members : List (Text × Text)) : Text :=
  0x7B :: [0x2C].intercalate (members.map fun member => quote member.1 ++ 0x3A :: member.2) ++
    [0x7D]

/-! Reading back what is written. -/

/-- A unit that a quoted string holds as it is. -/
def IsPlain (u : UInt16) : Prop :=
  u ≠ quotation ∧ u ≠ backslash ∧ ¬ u < 0x20 ∧ u < 0x80

instance (u : UInt16) : Decidable (IsPlain u) := inferInstanceAs (Decidable (_ ∧ _))

/-- The units are looked at one by one, which `∀ u ∈ text` alone does not say. -/
theorem isPlain_of_all {text : Text} (h : text.all (fun u => decide (IsPlain u)) = true) :
    ∀ u ∈ text, IsPlain u := fun u mem => of_decide_eq_true (List.all_eq_true.mp h u mem)

theorem quoteUnit_plain {u : UInt16} (plain : IsPlain u) : quoteUnit u = [u] ∧ isHigh u = false := by
  obtain ⟨hq, hb, low, high⟩ := plain
  simp only [UInt16.lt_iff_toNat_lt, UInt16.reduceToNat] at low high
  have ne : ∀ v : UInt16, v.toNat < 0x20 → u ≠ v := by
    rintro v hv rfl
    omega
  have noHigh : isHigh u = false := by
    simp only [isHigh, Bool.and_eq_false_imp, decide_eq_true_eq, decide_eq_false_iff_not,
      UInt16.le_iff_toNat_le, UInt16.lt_iff_toNat_lt, UInt16.reduceToNat]
    omega
  have noLow : isLow u = false := by
    simp only [isLow, Bool.and_eq_false_imp, decide_eq_true_eq, decide_eq_false_iff_not,
      UInt16.le_iff_toNat_le, UInt16.lt_iff_toNat_lt, UInt16.reduceToNat]
    omega
  have noControl : ¬ u < 0x20 := by
    rw [UInt16.lt_iff_toNat_lt]
    exact low
  refine ⟨?_, noHigh⟩
  unfold quoteUnit
  rw [if_neg (ne _ (by decide)), if_neg (ne _ (by decide)), if_neg (ne _ (by decide)),
    if_neg (ne _ (by decide)), if_neg (ne _ (by decide)), if_neg (not_or.mpr ⟨hq, hb⟩)]
  simp [noControl, noHigh, noLow]

theorem quote_plain {text : Text} (plain : ∀ u ∈ text, IsPlain u) :
    quote text = quotation :: (text ++ [quotation]) := by
  have units : quoteUnits text = text := by
    induction text with
    | nil => rfl
    | cons u others ih =>
      obtain ⟨same, noHigh⟩ := quoteUnit_plain (plain u List.mem_cons_self)
      have ih := ih fun v h => plain v (List.mem_cons_of_mem _ h)
      cases others with
      | nil => exact same
      | cons v others =>
        rw [quoteUnits, noHigh, Bool.false_and, if_neg Bool.false_ne_true, same, ih]
        rfl
  rw [quote, units, List.cons_append]

theorem scanString_plain {text : Text} (plain : ∀ u ∈ text, IsPlain u) (rest : Text) :
    scanString (text ++ quotation :: rest) = some (text, rest) := by
  induction text with
  | nil =>
    cases rest with
    | nil => rfl
    | cons v rest =>
      unfold scanString
      exact if_pos rfl
  | cons u others ih =>
    obtain ⟨hq, hb, low, _⟩ := plain u List.mem_cons_self
    have ih := ih fun v h => plain v (List.mem_cons_of_mem _ h)
    obtain ⟨v, after, split⟩ := List.exists_cons_of_ne_nil
      (List.append_ne_nil_of_right_ne_nil others (List.cons_ne_nil quotation rest))
    rw [split] at ih
    rw [List.cons_append, split]
    unfold scanString
    rw [if_neg hq, if_neg hb, if_neg low, ih]
    rfl

theorem lex_punctuation {u : UInt16} {token : Token} (dense : isBlank u = false)
    (known : punctuation u = some token) (rest : Text) :
    lex (u :: rest) = (lex rest).map (token :: ·) := by
  rw [lex, dense, if_neg Bool.false_ne_true, known]

/-- A quoted plain text is read as a string. -/
theorem lex_quote {text : Text} (plain : ∀ u ∈ text, IsPlain u) (rest : Text) :
    lex (quote text ++ rest) = (lex rest).map (.string text :: ·) := by
  have scanned := scanString_plain plain rest
  rw [quote_plain plain, List.cons_append, List.append_assoc, List.singleton_append, lex,
    show isBlank quotation = false from rfl, if_neg Bool.false_ne_true,
    show punctuation quotation = none from rfl]
  dsimp only
  rw [if_pos rfl]
  split
  · rename_i h
    rw [scanned] at h
    cases h
    rfl
  · rename_i h
    rw [scanned] at h
    cases h

/-- What may stand after a number: nothing that the number could go on with. -/
def Stops (rest : Text) : Prop :=
  ∃ u others, rest = u :: others ∧ isDigit u = false ∧ u ≠ point ∧ u ≠ 0x65 ∧ u ≠ 0x45

theorem ofNat_cases (n : Nat) :
    ofNat n = [zero] ∨ ∃ u digits, ofNat n = u :: digits ∧ u ≠ zero := by
  have nonempty := Digits.ofNat_ne_nil n
  rcases Digits.ofNat_noLeadingZero n with h | h
  · left
    rw [ofNat, h]
    rfl
  · right
    obtain ⟨d, ds, split⟩ := List.exists_cons_of_ne_nil nonempty
    refine ⟨ofDigit d, ds.map ofDigit, by rw [ofNat, split, List.map_cons], ?_⟩
    intro same
    apply h
    rw [split, List.head?_cons, ← toDigit_ofDigit d, same]
    rfl

theorem isDigit_ofNat (n : Nat) : ∀ u ∈ ofNat n, isDigit u = true := Decimal.all_digits _

theorem value_ofNat (n : Nat) : value (ofNat n) = n := by
  rw [value, ofNat, map_toDigit_ofDigit, Digits.whole_ofNat]

theorem scanWhole_ofNat (n : Nat) {rest : Text} (stops : Stops rest) :
    scanWhole (ofNat n ++ rest) = some (ofNat n, rest) := by
  obtain ⟨v, others, rfl, notDigit, _⟩ := stops
  rcases ofNat_cases n with single | ⟨u, digits, split, nonzero⟩
  · rw [single]
    rfl
  · have all := isDigit_ofNat n
    rw [split] at all
    rw [split, List.cons_append, scanWhole, if_neg nonzero, if_pos (all u List.mem_cons_self),
      ← List.cons_append, List.takeWhile_append_of_pos all, List.dropWhile_append_of_pos all,
      List.takeWhile_cons_of_neg (by simp [notDigit]),
      List.dropWhile_cons_of_neg (by simp [notDigit]), List.append_nil]

theorem exists_ofNat (n : Nat) : ∃ u digits, ofNat n = u :: digits ∧ isDigit u = true := by
  rcases ofNat_cases n with single | ⟨u, digits, split, _⟩
  · exact ⟨zero, [], single, rfl⟩
  · exact ⟨u, digits, split, isDigit_ofNat n u (split ▸ List.mem_cons_self)⟩

theorem scanNumber_ofNat (n : Nat) {rest : Text} (stops : Stops rest) :
    scanNumber (ofNat n ++ rest) = some ((n : ℚ), rest) := by
  have whole := scanWhole_ofNat n stops
  have unsigned : ¬ (ofNat n ++ rest).head? = some minus := by
    obtain ⟨u, digits, split, digit⟩ := exists_ofNat n
    rw [split]
    intro h
    cases Option.some.inj h
    exact absurd digit (by decide)
  obtain ⟨v, others, rfl, _, noPoint, noE, noE'⟩ := stops
  have fraction : scanFraction (v :: others) = some (0, v :: others) := if_neg noPoint
  have exponent : scanExponent (v :: others) = some (1, v :: others) :=
    if_neg (not_or.mpr ⟨noE, noE'⟩)
  simp only [scanNumber, unsigned, if_false, whole, fraction, exponent, Option.bind_eq_bind,
    Option.bind_some, Option.pure_def, value_ofNat, add_zero, mul_one]

/-- A number written in full is read as it is, if it is a safe integer. -/
theorem lex_ofNat {n : Nat} (safe : n < 2 ^ 53) {rest : Text} (stops : Stops rest) :
    lex (ofNat n ++ rest) = (lex rest).map (.scalar (.number (.finite n)) :: ·) := by
  obtain ⟨u, digits, split, digit⟩ := exists_ofNat n
  have scanned := scanNumber_ofNat n stops
  have number : Double.ofRat (n : ℚ) = .finite n := by
    have small : |(n : Int)| < 2 ^ 53 := by
      rw [abs_of_nonneg (Int.natCast_nonneg n)]
      exact_mod_cast safe
    exact_mod_cast Double.ofRat_int small
  simp only [isDigit, Bool.and_eq_true, decide_eq_true_eq, UInt16.le_iff_toNat_le,
    UInt16.reduceToNat] at digit
  have ne : ∀ v : UInt16, v.toNat < 0x30 ∨ 0x39 < v.toNat → u ≠ v := by
    rintro v hv rfl
    omega
  have dense : isBlank u = false := by
    simp [isBlank, ne 0x9 (by decide), ne 0xA (by decide), ne 0xD (by decide),
      ne 0x20 (by decide)]
  have noToken : punctuation u = none := by
    simp [punctuation, ne 0x7B (by decide), ne 0x7D (by decide), ne 0x5B (by decide),
      ne 0x5D (by decide), ne 0x3A (by decide), ne 0x2C (by decide)]
  have noWord : ∀ {v : UInt16} {word : Text}, 0x39 < v.toNat →
      ¬ (v :: word).isPrefixOf (u :: (digits ++ rest)) = true := by
    intro v word hv
    simp [List.isPrefixOf, (ne v (Or.inr hv)).symm]
  have scalar : scanScalar (u :: (digits ++ rest)) = some (.number (.finite n), rest) := by
    have text : u :: (digits ++ rest) = ofNat n ++ rest := by rw [split, List.cons_append]
    unfold scanScalar
    rw [show ofString "true" = 0x74 :: ofString "rue" by decide,
      show ofString "false" = 0x66 :: ofString "alse" by decide,
      show ofString "null" = 0x6E :: ofString "ull" by decide, if_neg (noWord (by decide)),
      if_neg (noWord (by decide)), if_neg (noWord (by decide)), text, scanned, Option.map_some]
    dsimp only
    rw [number]
  rw [split, List.cons_append, lex, dense, if_neg Bool.false_ne_true, noToken]
  dsimp only
  rw [if_neg (ne quotation (by decide))]
  split
  · rename_i h
    rw [scalar] at h
    cases h
    rfl
  · rename_i h
    rw [scalar] at h
    cases h

/-- Up to a comma or the closing brace, the text is one token, and that token the value. -/
def ReadsAs (text : Text) (value : Json) : Prop :=
  ∃ token, (∀ u rest, u = 0x2C ∨ u = 0x7D →
      lex (text ++ u :: rest) = (lex (u :: rest)).map (token :: ·)) ∧
    ∀ stack canClose, step (stack, .value canClose) token = some (stack, .separator value)

theorem readsAs_quote {text : Text} (plain : ∀ u ∈ text, IsPlain u) :
    ReadsAs (quote text) (.string text) :=
  ⟨.string text, fun u rest _ => lex_quote plain (u :: rest), fun _ _ => rfl⟩

theorem readsAs_ofNat {n : Nat} (safe : n < 2 ^ 53) :
    ReadsAs (ofNat n) (.number (.finite n)) := by
  refine ⟨.scalar (.number (.finite n)), fun u rest h => ?_, fun _ _ => rfl⟩
  apply lex_ofNat safe
  refine ⟨u, rest, rfl, ?_⟩
  rcases h with rfl | rfl <;> decide

theorem setField_fresh {fields : List (Text × Json)} {key : Text} {value : Json}
    (fresh : key ∉ fields.map Prod.fst) : setField fields key value = fields ++ [(key, value)] := by
  have unknown : ¬ fields.any (·.1 == key) = true := by
    intro h
    obtain ⟨field, hm, same⟩ := List.any_eq_true.mp h
    exact fresh (List.mem_map.mpr ⟨field, hm, beq_iff_eq.mp same⟩)
  exact if_neg unknown

/-! Texts of any units. -/

theorem hexDigit_hexUnitText {n : Nat} (h : n < 16) : hexDigit (hexUnitText n) = some n := by
  have all : ∀ i : Fin 16, hexDigit (hexUnitText i) = some i.val := by decide
  exact all ⟨n, h⟩

/-- The four digits of an escape give the unit back. -/
theorem hexUnit_digits (u : UInt16) :
    hexUnit (hexUnitText (u.toNat / 4096)) (hexUnitText (u.toNat / 256 % 16))
      (hexUnitText (u.toNat / 16 % 16)) (hexUnitText (u.toNat % 16)) = some u := by
  have bound := u.toNat_lt
  have whole : ((u.toNat / 4096 * 16 + u.toNat / 256 % 16) * 16 + u.toNat / 16 % 16) * 16 +
      u.toNat % 16 = u.toNat := by omega
  simp only [hexUnit, hexDigit_hexUnitText (by omega : u.toNat / 4096 < 16),
    hexDigit_hexUnitText (Nat.mod_lt _ (by decide : 16 > 0)), Option.bind_eq_bind, Option.bind_some,
    Option.pure_def, whole]
  exact congrArg some (UInt16.ofNat_toNat)

theorem scanString_verbatim {u : UInt16} (notQuote : u ≠ quotation) (notBackslash : u ≠ backslash)
    (printable : ¬ u < 0x20) (tail : Text) :
    scanString (u :: tail) = prepend (some u) (scanString tail) := by
  cases tail with
  | nil =>
    unfold scanString
    exact if_neg notQuote
  | cons e rest =>
    conv => lhs; unfold scanString
    rw [if_neg notQuote, if_neg notBackslash, if_neg printable]

theorem scanString_escape {e : UInt16} (other : e ≠ 0x75) (tail : Text) :
    scanString (backslash :: e :: tail) = prepend (simpleEscape e) (scanString tail) := by
  conv => lhs; unfold scanString
  rw [if_neg (by decide), if_pos rfl, if_neg other]

/-- A unit is scanned as it was quoted. -/
theorem scanString_quoteUnit (u : UInt16) (tail : Text) :
    scanString (quoteUnit u ++ tail) = prepend (some u) (scanString tail) := by
  unfold quoteUnit
  split_ifs with backspace tab lineFeed formFeed carriageReturn special hidden
  · subst backspace
    exact scanString_escape (by decide) tail
  · subst tab
    exact scanString_escape (by decide) tail
  · subst lineFeed
    exact scanString_escape (by decide) tail
  · subst formFeed
    exact scanString_escape (by decide) tail
  · subst carriageReturn
    exact scanString_escape (by decide) tail
  · rcases special with rfl | rfl
    · exact scanString_escape (by decide) tail
    · exact scanString_escape (by decide) tail
  · simp only [List.cons_append, List.nil_append]
    conv => lhs; unfold scanString
    rw [if_neg (by decide), if_pos rfl, if_pos rfl]
    exact congrArg (fun unit => prepend unit (scanString tail)) (hexUnit_digits u)
  · obtain ⟨notQuote, notBackslash⟩ := not_or.mp special
    simp only [Bool.or_eq_true, decide_eq_true_eq, not_or] at hidden
    exact scanString_verbatim notQuote notBackslash hidden.1.1 tail

theorem not_lt_of_surrogate {u : UInt16} (half : isHigh u = true ∨ isLow u = true) :
    u ≠ quotation ∧ u ≠ backslash ∧ ¬ u < 0x20 := by
  have large : 0xD800 ≤ u.toNat := by
    simp only [isHigh, isLow, Bool.and_eq_true, decide_eq_true_eq, UInt16.le_iff_toNat_le,
      UInt16.lt_iff_toNat_lt, UInt16.reduceToNat] at half
    omega
  refine ⟨?_, ?_, ?_⟩
  · rintro rfl
    exact absurd large (by decide)
  · rintro rfl
    exact absurd large (by decide)
  · rw [UInt16.lt_iff_toNat_lt]
    exact Nat.not_lt.mpr (Nat.le_trans (by decide) large)

theorem scanString_quotation (rest : Text) : scanString (quotation :: rest) = some ([], rest) := by
  cases rest with
  | nil => rfl
  | cons v rest =>
    unfold scanString
    exact if_pos rfl

/-- Any text is scanned as it was quoted, its unpaired surrogates included. -/
theorem scanString_quoteUnits (text rest : Text) :
    scanString (quoteUnits text ++ quotation :: rest) = some (text, rest) := by
  induction text using quoteUnits.induct with
  | case1 => exact scanString_quotation rest
  | case2 u =>
    rw [quoteUnits, scanString_quoteUnit, scanString_quotation]
    rfl
  | case3 u v others paired ih =>
    obtain ⟨high, low⟩ := Bool.and_eq_true_iff.mp paired
    obtain ⟨uq, ub, up⟩ := not_lt_of_surrogate (Or.inl high)
    obtain ⟨vq, vb, vp⟩ := not_lt_of_surrogate (Or.inr low)
    rw [quoteUnits, if_pos paired, List.cons_append, List.cons_append,
      scanString_verbatim uq ub up, scanString_verbatim vq vb vp, ih]
    rfl
  | case4 u v others unpaired ih =>
    rw [quoteUnits, if_neg unpaired, List.append_assoc, scanString_quoteUnit, ih]
    rfl

theorem lex_text (text rest : Text) :
    lex (quote text ++ rest) = (lex rest).map (.string text :: ·) := by
  have scanned := scanString_quoteUnits text rest
  rw [quote, List.cons_append, List.cons_append, List.append_assoc, List.singleton_append, lex,
    show isBlank quotation = false from rfl, if_neg Bool.false_ne_true,
    show punctuation quotation = none from rfl]
  dsimp only
  rw [if_pos rfl]
  split
  · rename_i h
    rw [scanned] at h
    cases h
    rfl
  · rename_i h
    rw [scanned] at h
    cases h

theorem readsAs_text (text : Text) : ReadsAs (quote text) (.string text) :=
  ⟨.string text, fun u rest _ => lex_text text (u :: rest), fun _ _ => rfl⟩

/-- A member as it is written, with the value it is to be read as. -/
structure Member where
  key : Text
  text : Text
  value : Json

structure Member.Readable (m : Member) : Prop where
  key : ∀ u ∈ m.key, IsPlain u
  value : ReadsAs m.text m.value

def Member.written (m : Member) : Text := quote m.key ++ 0x3A :: m.text

def Member.field (m : Member) : Text × Json := (m.key, m.value)

theorem Member.Readable.lex {m : Member} (h : m.Readable) :
    ∃ token, (∀ u rest, u = 0x2C ∨ u = 0x7D → Json.lex (m.written ++ u :: rest) =
        (Json.lex (u :: rest)).map fun tokens => .string m.key :: .colon :: token :: tokens) ∧
      ∀ stack canClose, step (stack, .value canClose) token = some (stack, .separator m.value) := by
  obtain ⟨token, read, taken⟩ := h.value
  refine ⟨token, fun u rest close => ?_, taken⟩
  rw [Member.written, List.append_assoc, List.cons_append, lex_quote h.key,
    lex_punctuation (by decide) rfl, read u rest close]
  simp only [Option.map_map]
  rfl

theorem run_member {key : Text} {value : Json} {token : Token}
    (taken : ∀ stack canClose, step (stack, .value canClose) token = some (stack, .separator value))
    (fields : List (Text × Json)) (canClose : Bool) (tokens : List Token) :
    (.string key :: .colon :: token :: tokens).foldlM step ([], .key fields canClose) =
      tokens.foldlM step ([.object fields key], .separator value) := by
  change (step ([.object fields key], .value false) token).bind (fun s => tokens.foldlM step s) = _
  rw [taken, Option.bind_some]

/-- The automaton takes the members one after the other, from any fields already there. -/
theorem members_read {m : Member} {ms : List Member} (readable : ∀ n ∈ m :: ms, n.Readable) :
    ∃ tokens, lex ([0x2C].intercalate ((m :: ms).map Member.written) ++ [0x7D]) = some tokens ∧
      ∀ fields canClose, (fields.map Prod.fst ++ (m :: ms).map Member.key).Nodup →
        tokens.foldlM step ([], .key fields canClose) =
          some ([], .separator (.object (fields ++ (m :: ms).map Member.field))) := by
  induction ms generalizing m with
  | nil =>
    obtain ⟨token, read, taken⟩ := (readable m List.mem_cons_self).lex
    have written := read 0x7D [] (Or.inr rfl)
    rw [lex_punctuation (by decide) rfl, Json.lex] at written
    refine ⟨_, by rw [List.map_singleton, List.intercalate_singleton, written]; rfl, ?_⟩
    intro fields canClose distinct
    have fresh : m.key ∉ fields.map Prod.fst := by
      intro h
      exact (List.nodup_append.mp distinct).2.2 _ h _ (by simp) rfl
    rw [run_member taken]
    change some ([], Expecting.separator (.object (setField fields m.key m.value))) = _
    rw [setField_fresh fresh]
    rfl
  | cons next ms ih =>
    obtain ⟨token, read, taken⟩ := (readable m List.mem_cons_self).lex
    obtain ⟨tokens, others, run⟩ := ih fun n h => readable n (List.mem_cons_of_mem _ h)
    have written := read 0x2C
      ([0x2C].intercalate ((next :: ms).map Member.written) ++ [0x7D]) (Or.inl rfl)
    rw [lex_punctuation (by decide) rfl, others] at written
    refine ⟨.string m.key :: .colon :: token :: .comma :: tokens, ?_, ?_⟩
    · rw [List.map_cons, List.map_cons, List.intercalate_cons_cons, List.append_assoc,
        List.append_assoc]
      exact written
    · intro fields canClose distinct
      have fresh : m.key ∉ fields.map Prod.fst := by
        intro h
        exact (List.nodup_append.mp distinct).2.2 _ h _ (by simp) rfl
      have rest := run (fields ++ [m.field]) false (by simpa [Member.field] using distinct)
      rw [run_member taken]
      change tokens.foldlM step ([], Expecting.key (setField fields m.key m.value) false) = _
      rw [setField_fresh fresh, ← Member.field, rest, List.append_assoc]
      rfl

/-- A flat object is read back as it was written. -/
theorem parse_objectText {members : List Member} (some : members ≠ [])
    (readable : ∀ m ∈ members, m.Readable) (distinct : (members.map Member.key).Nodup) :
    parse (objectText (members.map fun m => (m.key, m.text))) =
      .some (.object (members.map Member.field)) := by
  cases members with
  | nil => exact absurd rfl some
  | cons m ms =>
    obtain ⟨tokens, read, run⟩ := members_read readable
    have taken := run [] true distinct
    have texts : (((m :: ms).map fun m => (m.key, m.text)).map fun member =>
        quote member.1 ++ 0x3A :: member.2) = (m :: ms).map Member.written := by
      rw [List.map_map]
      rfl
    rw [parse, objectText, texts, List.cons_append, lex_punctuation (by decide) rfl, read]
    change (tokens.foldlM step ([], .key [] true)).bind _ = _
    rw [taken]
    rfl

end Json

end ShowUp

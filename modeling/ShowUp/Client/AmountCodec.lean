import ShowUp.Shared.Decimal
import ShowUp.Client.Schemas

/-!
# Amounts as text

`toStroops` and `fromStroops` of `lib/domain/amounts.ts`. What the parser accepts
is a decimal literal with seven fraction digits at most; what the printer gives
is the canonical literal of its number.
-/

namespace ShowUp.Client

set_option autoImplicit false

open Utf16

/-- Decimal places of the settlement asset. -/
def amountDecimals : Nat := 7

/-- One whole display unit expressed in stroops. -/
def oneUnitInStroops : Nat := 10000000

/-- What the codec throws. A message quotes the text it refuses. -/
inductive AmountError where
  | typeError (message : Text)
  | rangeError (message : Text)
  deriving DecidableEq

/-- The text after an optional sign, `[+-]?`. -/
def afterSign : Text → Text
  | [] => []
  | u :: rest => if u = minus ∨ u = plus then rest else u :: rest

/-- `/^[+-]?(?:\d+)(?:\.\d+)?$/` -/
def displayAmountPattern (text : Text) : Bool :=
  let unsigned := afterSign text
  !(unsigned.takeWhile isDigit).isEmpty &&
    match unsigned.dropWhile isDigit with
    | [] => true
    | u :: rest => u = point && !rest.isEmpty && rest.all isDigit

def notDecimal (display : Text) : AmountError :=
  .rangeError (ofString "Amount \"" ++ display ++ ofString "\" is not a valid decimal number.")

def tooPrecise (display : Text) : AmountError :=
  .rangeError (ofString "Amount \"" ++ display ++ ofString "\" has more than 7 decimal places.")

def toStroops : FieldValue → Except AmountError Int
  | .text display =>
    let trimmed := trim display
    if trimmed.length = 0 then .error (.rangeError (ofString "Amount is empty."))
    else if !displayAmountPattern trimmed then .error (notDecimal display)
    else
      let negative := trimmed.head? = some minus
      let unsigned := afterSign trimmed
      let dotIndex := unsigned.findIdx? (· == point)
      let wholePart := dotIndex.elim unsigned fun i => unsigned.take i
      let fractionPart := dotIndex.elim [] fun i => unsigned.drop (i + 1)
      if fractionPart.length > amountDecimals then .error (tooPrecise display)
      else
        let paddedFraction := padEnd amountDecimals zero fractionPart
        let magnitude : Int := value wholePart * oneUnitInStroops + value paddedFraction
        .ok (if negative then -magnitude else magnitude)
  | _ => .error (.typeError (ofString "Amount must be a string."))

/-- The seven digits of a fraction, less the zeros at their end. -/
def fractionDigits (fractionPart : Nat) : Text :=
  (padStart amountDecimals zero (ofNat fractionPart)).rdropWhile (· == zero)

def fromStroops : FieldValue → Except AmountError Text
  | .bigint v =>
    let negative := v < 0
    let magnitude := v.natAbs
    let wholePart := magnitude / oneUnitInStroops
    let fractionPart := magnitude % oneUnitInStroops
    let fractionDigits := fractionDigits fractionPart
    let body :=
      if fractionDigits.length = 0 then ofNat wholePart
      else ofNat wholePart ++ point :: fractionDigits
    .ok (if negative then minus :: body else body)
  | _ => .error (.typeError (ofString "Stroop amounts must be bigint."))

example : toStroops (.text (ofChars [' ', '-', '0', '.', '5', ' '])) = .ok (-5000000) := by
  decide

theorem afterSign_spelling (l : Decimal) : afterSign l.spelling = l.unsigned := by
  obtain ⟨u, rest, unsigned, digit⟩ := l.exists_unsigned
  unfold Decimal.spelling
  cases l.sign with
  | plus => rfl
  | minus => rfl
  | absent =>
    have noSign : ¬ (u = minus ∨ u = plus) := by
      rintro (rfl | rfl)
      · exact absurd digit (by decide)
      · exact absurd digit (by decide)
    rw [unsigned, Sign.units, List.nil_append, afterSign, if_neg noSign]

theorem displayAmountPattern_spelling (l : Decimal) : displayAmountPattern l.spelling = true := by
  have nonempty : (l.whole.map ofDigit).isEmpty = false :=
    List.isEmpty_eq_false_iff.mpr fun h => l.whole_ne (List.map_eq_nil_iff.mp h)
  simp only [displayAmountPattern, afterSign_spelling, l.takeWhile_unsigned, l.dropWhile_unsigned,
    nonempty, Bool.not_false, Bool.true_and, Decimal.tail]
  by_cases none : l.fraction = []
  · rw [if_pos none]
  · rw [if_neg none]
    have all := List.all_eq_true.mpr (Decimal.all_digits l.fraction)
    simp [none, all]

theorem exists_sign (text : Text) : ∃ sign : Sign, text = sign.units ++ afterSign text := by
  cases text with
  | nil => exact ⟨.absent, rfl⟩
  | cons u rest =>
    by_cases minus : u = Utf16.minus
    · exact ⟨.minus, by rw [minus]; rfl⟩
    · by_cases plus : u = Utf16.plus
      · exact ⟨.plus, by rw [plus]; rfl⟩
      · refine ⟨.absent, ?_⟩
        rw [afterSign, if_neg (not_or.mpr ⟨minus, plus⟩)]
        rfl

/-- The pattern matches decimal literals only. -/
theorem exists_spelling {text : Text} (matched : displayAmountPattern text = true) :
    ∃ l : Decimal, text = l.spelling := by
  obtain ⟨sign, signed⟩ := exists_sign text
  have digits : ∀ u ∈ (afterSign text).takeWhile isDigit, isDigit u = true :=
    fun _ hu => List.mem_takeWhile_imp hu
  simp only [displayAmountPattern, Bool.and_eq_true, Bool.not_eq_true', List.isEmpty_eq_false_iff]
    at matched
  obtain ⟨nonempty, rest⟩ := matched
  have whole_ne : ((afterSign text).takeWhile isDigit).map toDigit ≠ [] :=
    fun h => nonempty (List.map_eq_nil_iff.mp h)
  have unsigned := List.takeWhile_append_dropWhile (p := isDigit) (l := afterSign text)
  cases after : (afterSign text).dropWhile isDigit with
  | nil =>
    refine ⟨⟨sign, _, [], whole_ne⟩, ?_⟩
    rw [Decimal.spelling, Decimal.unsigned, Decimal.tail, if_pos rfl, map_ofDigit_toDigit digits]
    rw [after] at unsigned
    rw [unsigned, ← signed]
  | cons u fraction =>
    simp only [after, Bool.and_eq_true, decide_eq_true_eq, Bool.not_eq_true',
      List.isEmpty_eq_false_iff, List.all_eq_true] at rest
    obtain ⟨⟨rfl, some⟩, all⟩ := rest
    refine ⟨⟨sign, _, fraction.map toDigit, whole_ne⟩, ?_⟩
    rw [Decimal.spelling, Decimal.unsigned, Decimal.tail,
      if_neg (fun h => some (List.map_eq_nil_iff.mp h)), map_ofDigit_toDigit digits,
      map_ofDigit_toDigit all]
    rw [after] at unsigned
    rw [unsigned, ← signed]

theorem head_spelling (l : Decimal) : l.spelling.head? = some minus ↔ l.sign = .minus := by
  obtain ⟨u, rest, unsigned, digit⟩ := l.exists_unsigned
  unfold Decimal.spelling
  cases l.sign with
  | plus =>
    change some plus = some minus ↔ _
    decide
  | minus => simp [Sign.units]
  | absent =>
    rw [unsigned, Sign.units, List.nil_append, List.head?_cons, Option.some_inj]
    constructor
    · rintro rfl
      exact absurd digit (by decide)
    · intro h
      cases h

theorem findIdx_unsigned (l : Decimal) :
    l.unsigned.findIdx? (· == point) = if l.fraction = [] then none else some l.whole.length := by
  have before : (l.whole.map ofDigit).findIdx? (· == point) = none := by
    apply List.findIdx?_eq_none_iff.mpr
    intro u hu
    apply beq_eq_false_iff_ne.mpr
    rintro rfl
    exact absurd (Decimal.all_digits _ _ hu) (by decide)
  rw [Decimal.unsigned, List.findIdx?_append, before, Option.none_or, List.length_map, Decimal.tail]
  split
  · rfl
  · rw [List.findIdx?_cons, if_pos (beq_self_eq_true point), Option.map_some, Nat.zero_add]

/-- The stroops of a literal, as the parser reads its parts. -/
def stroops (l : Decimal) : Int :=
  let magnitude : Int := Digits.whole l.whole * oneUnitInStroops +
    value (padEnd amountDecimals zero (l.fraction.map ofDigit))
  if l.sign = .minus then -magnitude else magnitude

theorem toStroops_spelling {display : Text} {l : Decimal} (spelled : trim display = l.spelling) :
    toStroops (.text display) =
      if l.fraction.length > amountDecimals then .error (tooPrecise display)
      else .ok (stroops l) := by
  have nonempty : ¬ l.spelling.length = 0 :=
    fun h => l.spelling_ne_nil (List.length_eq_zero_iff.mp h)
  have whole : (l.unsigned.findIdx? (· == point)).elim l.unsigned (fun i => l.unsigned.take i) =
      l.whole.map ofDigit := by
    rw [findIdx_unsigned]
    by_cases none : l.fraction = []
    · rw [if_pos none, Option.elim_none, Decimal.unsigned, Decimal.tail, if_pos none,
        List.append_nil]
    · rw [if_neg none, Option.elim_some, Decimal.unsigned]
      exact List.take_left' (List.length_map _)
  have fraction : (l.unsigned.findIdx? (· == point)).elim [] (fun i => l.unsigned.drop (i + 1)) =
      l.fraction.map ofDigit := by
    rw [findIdx_unsigned]
    by_cases none : l.fraction = []
    · rw [if_pos none, Option.elim_none, none, List.map_nil]
    · rw [if_neg none, Option.elim_some, Decimal.unsigned, Decimal.tail, if_neg none,
        ← List.length_map ofDigit, ← List.drop_drop, List.drop_left, List.drop_one, List.tail_cons]
  simp only [toStroops, spelled, if_neg nonempty, displayAmountPattern_spelling, Bool.not_true,
    Bool.false_eq_true, if_false, afterSign_spelling, whole, fraction, List.length_map,
    head_spelling, value, map_toDigit_ofDigit, stroops]

theorem stroops_eq {l : Decimal} (fits : l.fraction.length ≤ amountDecimals) :
    (stroops l : ℚ) = l.number * 10 ^ 7 := by
  have padded : (padEnd amountDecimals zero (l.fraction.map ofDigit)).map toDigit =
      l.fraction ++ List.replicate (7 - l.fraction.length) 0 := by
    unfold padEnd
    rw [List.map_append, map_toDigit_ofDigit, List.map_replicate, List.length_map]
    rfl
  have length : (l.fraction ++ List.replicate (7 - l.fraction.length) (0 : Digit)).length = 7 := by
    rw [List.length_append, List.length_replicate]
    unfold amountDecimals at fits
    omega
  have seven : (Digits.whole (l.fraction ++ List.replicate (7 - l.fraction.length) 0) : ℚ) =
      Digits.fraction l.fraction * 10 ^ 7 := by
    rw [← Digits.fraction_mul, length, Digits.fraction_append_zeros]
  have magnitude : ((Digits.whole l.whole * oneUnitInStroops +
      value (padEnd amountDecimals zero (l.fraction.map ofDigit)) : Int) : ℚ) =
      l.magnitude * 10 ^ 7 := by
    unfold value Decimal.magnitude oneUnitInStroops
    push_cast
    rw [padded, seven]
    ring
  unfold stroops Decimal.number
  dsimp only
  cases l.sign with
  | minus =>
    rw [if_pos rfl, Int.cast_neg, magnitude, Sign.factor]
    ring
  | absent =>
    rw [if_neg (by decide), magnitude, Sign.factor]
    ring
  | plus =>
    rw [if_neg (by decide), magnitude, Sign.factor]
    ring

theorem fractionDigits_eq (n : Nat) :
    ∃ k, padStart amountDecimals zero (ofNat n) = fractionDigits n ++ List.replicate k zero := by
  have whole := List.rdropWhile_append_rtakeWhile (p := (· == zero))
    (l := padStart amountDecimals zero (ofNat n))
  refine ⟨((padStart amountDecimals zero (ofNat n)).rtakeWhile (· == zero)).length, ?_⟩
  have zeros : ∀ u ∈ (padStart amountDecimals zero (ofNat n)).rtakeWhile (· == zero), u = zero :=
    fun _ hu => beq_iff_eq.mp (List.mem_rtakeWhile_imp (p := (· == zero)) hu)
  rw [← List.eq_replicate_of_mem zeros]
  exact whole.symm

theorem fractionDigits_isDigit {n : Nat} (small : n < 10 ^ 7) :
    ∀ u ∈ fractionDigits n, isDigit u = true := by
  intro u hu
  obtain ⟨k, whole⟩ := fractionDigits_eq n
  exact (padStart_ofNat (by decide) small).1 u (whole ▸ List.mem_append_left _ hu)

theorem fractionDigits_value {n : Nat} (small : n < 10 ^ 7) :
    Digits.fraction ((fractionDigits n).map toDigit) * 10 ^ 7 = n := by
  obtain ⟨_, length, read⟩ := @padStart_ofNat amountDecimals n (by decide) small
  obtain ⟨k, whole⟩ := fractionDigits_eq n
  rw [← List.length_map toDigit] at length
  unfold value at read
  rw [whole, List.map_append, List.map_replicate, show toDigit zero = 0 from rfl] at length read
  have h := Digits.fraction_mul ((fractionDigits n).map toDigit ++ List.replicate k 0)
  rw [length, read, Digits.fraction_append_zeros] at h
  exact h

theorem fractionDigits_noTrailingZero {n : Nat} (small : n < 10 ^ 7) :
    Digits.NoTrailingZero ((fractionDigits n).map toDigit) := by
  intro h
  rw [List.getLast?_map] at h
  obtain ⟨u, last, hu⟩ := Option.map_eq_some_iff.mp h
  have nonempty : fractionDigits n ≠ [] := by
    intro empty
    rw [empty] at last
    cases last
  have nonzero := List.rdropWhile_last_not (· == zero) _ nonempty
  rw [List.getLast?_eq_some_getLast nonempty] at last
  have digit := fractionDigits_isDigit small u (Option.some.inj last ▸ List.getLast_mem nonempty)
  have zeroUnit : u = zero := by
    rw [← ofDigit_toDigit digit, hu]
    rfl
  apply nonzero
  exact beq_iff_eq.mpr ((Option.some.inj last).trans zeroUnit)

/-- A number of stroops as a literal. -/
def literal (v : Int) : Decimal where
  sign := if v < 0 then .minus else .absent
  whole := Digits.ofNat (v.natAbs / oneUnitInStroops)
  fraction := (fractionDigits (v.natAbs % oneUnitInStroops)).map toDigit
  whole_ne := Digits.ofNat_ne_nil _

theorem fractionPart_lt (v : Int) : v.natAbs % oneUnitInStroops < 10 ^ 7 :=
  Nat.mod_lt _ (by decide)

theorem fromStroops_eq (v : Int) : fromStroops (.bigint v) = .ok (literal v).spelling := by
  have fraction : ((literal v).fraction = []) ↔
      (fractionDigits (v.natAbs % oneUnitInStroops)).length = 0 := by
    rw [literal, List.map_eq_nil_iff, List.length_eq_zero_iff]
  unfold fromStroops Decimal.spelling Decimal.unsigned Decimal.tail
  simp only [fraction]
  have digits : (literal v).fraction.map ofDigit = fractionDigits (v.natAbs % oneUnitInStroops) :=
    map_ofDigit_toDigit (fractionDigits_isDigit (fractionPart_lt v))
  rw [digits]
  by_cases negative : v < 0 <;>
    by_cases none : (fractionDigits (v.natAbs % oneUnitInStroops)).length = 0 <;>
    simp [negative, none, literal, Sign.units, ofNat]

theorem literal_number (v : Int) : (literal v).number * 10 ^ 7 = v := by
  have magnitude : (literal v).magnitude * 10 ^ 7 = v.natAbs := by
    have fraction := fractionDigits_value (fractionPart_lt v)
    have parts := Nat.div_add_mod v.natAbs oneUnitInStroops
    have parts' : ((oneUnitInStroops * (v.natAbs / oneUnitInStroops) +
        v.natAbs % oneUnitInStroops : Nat) : ℚ) = v.natAbs := by rw [parts]
    rw [Decimal.magnitude, literal, Digits.whole_ofNat, add_mul, fraction, ← parts',
      oneUnitInStroops]
    push_cast
    ring
  rw [Decimal.number, mul_assoc, magnitude, literal]
  by_cases negative : v < 0
  · rw [if_pos negative, Sign.factor]
    have : (v : ℚ) = -(v.natAbs : ℚ) := by
      rw [← Int.cast_natCast, Int.ofNat_natAbs_of_nonpos (by omega)]
      push_cast
      ring
    rw [this]
    ring
  · rw [if_neg negative, Sign.factor, one_mul, ← Int.cast_natCast,
      Int.natAbs_of_nonneg (by omega)]

theorem literal_canonical (v : Int) : (literal v).Canonical where
  sign := by
    change (if v < 0 then Sign.minus else .absent) ≠ .plus
    split <;> decide
  whole := Digits.ofNat_noLeadingZero _
  fraction := fractionDigits_noTrailingZero (fractionPart_lt v)
  zero := by
    intro minus zero
    have value := literal_number v
    rw [zero, zero_mul] at value
    have : v = 0 := by exact_mod_cast value.symm
    rw [literal, this] at minus
    cases minus

theorem literal_fraction_le (v : Int) : (literal v).fraction.length ≤ amountDecimals := by
  obtain ⟨k, whole⟩ := fractionDigits_eq (v.natAbs % oneUnitInStroops)
  have length := (@padStart_ofNat amountDecimals _ (by decide) (fractionPart_lt v)).2.1
  rw [whole, List.length_append] at length
  rw [literal, List.length_map]
  omega

/-- After trimming, the text is a decimal literal with seven fraction digits at most. -/
def Writes (display : Text) (l : Decimal) : Prop :=
  trim display = l.spelling ∧ l.fraction.length ≤ amountDecimals

theorem toStroops_writes {display : Text} {l : Decimal} (writes : Writes display l) :
    toStroops (.text display) = .ok (stroops l) := by
  rw [toStroops_spelling writes.1, if_neg (Nat.not_lt.mpr writes.2)]

theorem writes_of_ok {display : Text} {v : Int} (read : toStroops (.text display) = .ok v) :
    ∃ l, Writes display l := by
  by_cases matched : displayAmountPattern (trim display) = true
  · obtain ⟨l, spelled⟩ := exists_spelling matched
    refine ⟨l, spelled, ?_⟩
    by_contra long
    rw [toStroops_spelling spelled, if_pos (Nat.lt_of_not_le long)] at read
    cases read
  · rw [toStroops] at read
    simp only [matched, Bool.not_false, if_true] at read
    split at read <;> cases read

theorem writes_literal (v : Int) : Writes (literal v).spelling (literal v) :=
  ⟨Decimal.trim_spelling _, literal_fraction_le v⟩

theorem stroops_literal (v : Int) : stroops (literal v) = v := by
  have h := (stroops_eq (literal_fraction_le v)).trans (literal_number v)
  exact_mod_cast h

theorem number_eq_iff {l m : Decimal} (hl : l.fraction.length ≤ amountDecimals)
    (hm : m.fraction.length ≤ amountDecimals) :
    stroops l = stroops m ↔ l.number = m.number := by
  have cast : (stroops l : ℚ) = stroops m ↔ stroops l = stroops m := Int.cast_inj
  rw [← cast, stroops_eq hl, stroops_eq hm]
  exact mul_left_inj' (by norm_num)

theorem spelling_literal_inj {v w : Int}
    (same : fromStroops (.bigint v) = fromStroops (.bigint w)) : v = w := by
  rw [fromStroops_eq, fromStroops_eq] at same
  have read := toStroops_writes (writes_literal v)
  rw [Except.ok.inj same, toStroops_writes (writes_literal w), stroops_literal,
    stroops_literal] at read
  exact (Except.ok.inj read).symm

/-- The parser accepts the decimal literals of seven fraction digits at most and reads their
value; the printer is its right inverse and writes the one canonical literal. -/
theorem amounts_as_text :
    (∀ s l, Writes s l → ∃ v, toStroops (.text s) = .ok v ∧ (v : ℚ) = l.number * 10 ^ 7) ∧
    (∀ s, (¬ ∃ l, Writes s l) → ∃ thrown, toStroops (.text s) = .error thrown) ∧
    (∀ v, ∃ s, fromStroops (.bigint v) = .ok s ∧ toStroops (.text s) = .ok v) ∧
    (∀ s v, toStroops (.text s) = .ok v → ∃ c : Decimal,
      fromStroops (.bigint v) = .ok c.spelling ∧ c.Canonical ∧ c.number * 10 ^ 7 = v ∧
      ∀ m : Decimal, m.Canonical → m.number * 10 ^ 7 = v → m.spelling = c.spelling) ∧
    (∀ s t l m v w, Writes s l → Writes t m → toStroops (.text s) = .ok v →
      toStroops (.text t) = .ok w →
      (fromStroops (.bigint v) = fromStroops (.bigint w) ↔ l.number = m.number)) := by
  refine ⟨?_, ?_, ?_, ?_, ?_⟩
  · intro s l writes
    exact ⟨stroops l, toStroops_writes writes, stroops_eq writes.2⟩
  · intro s unwritten
    cases read : toStroops (.text s) with
    | error thrown => exact ⟨thrown, rfl⟩
    | ok v => exact absurd (writes_of_ok read) unwritten
  · intro v
    refine ⟨_, fromStroops_eq v, ?_⟩
    rw [toStroops_writes (writes_literal v), stroops_literal]
  · intro s v _
    refine ⟨literal v, fromStroops_eq v, literal_canonical v, literal_number v, ?_⟩
    intro m canonical number
    have same : m.number = (literal v).number :=
      mul_right_cancel₀ (by norm_num) (number.trans (literal_number v).symm)
    rw [canonical.eq_of_number_eq (literal_canonical v) same]
  · intro s t l m v w hs ht readS readT
    rw [toStroops_writes hs] at readS
    rw [toStroops_writes ht] at readT
    rw [← number_eq_iff hs.2 ht.2, Except.ok.inj readS, Except.ok.inj readT]
    exact ⟨spelling_literal_inj, fun same => by rw [same]⟩

/-- `" +05.50"` and `"5.5"` are spelled alike. -/
theorem amounts_as_text_alike :
    fromStroops (.bigint 55000000) = .ok (ofChars ['5', '.', '5']) ∧
      ∃ l m : Decimal, l.spelling = ofChars ['+', '0', '5', '.', '5', '0'] ∧
        m.spelling = ofChars ['5', '.', '5'] ∧ l.number = m.number := by
  refine ⟨by decide, ⟨.plus, [0, 5], [5, 0], by decide⟩, ⟨.absent, [5], [5], by decide⟩, by decide,
    by decide, ?_⟩
  exact (amounts_as_text.2.2.2.2 (ofChars [' ', '+', '0', '5', '.', '5', '0']) (ofChars ['5', '.', '5'])
    _ _ 55000000 55000000 ⟨by decide, by decide⟩ ⟨by decide, by decide⟩ (by decide)
    (by decide)).mp rfl

end ShowUp.Client

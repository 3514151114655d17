import Mathlib.Algebra.Order.Field.Rat
import Mathlib.Data.Nat.Digits.Lemmas
import Mathlib.Tactic.FieldSimp
import Mathlib.Tactic.Linarith
import Mathlib.Tactic.Ring
import ShowUp.Shared.Utf16

/-!
# Decimal literals

A literal is a sign, one or more whole digits and any number of fraction digits;
it denotes a rational number. Among the literals of one number exactly one is
canonical, so canonical literals are numbers.
-/

namespace ShowUp

set_option autoImplicit false

abbrev Digit := Fin 10

namespace Digits

/-- The number written by digits, the most significant one first. -/
def whole (ds : List Digit) : Nat := Nat.ofDigits 10 (ds.reverse.map Fin.val)

/-- The digits of a number, without a redundant zero. -/
def ofNat (n : Nat) : List Digit :=
  if n = 0 then [0] else ((Nat.digits 10 n).map (Fin.ofNat 10)).reverse

/-- The number below one whose digits after the point are given. -/
def fraction : List Digit → ℚ
  | [] => 0
  | d :: ds => (d.val + fraction ds) / 10

def NoLeadingZero (ds : List Digit) : Prop := ds = [0] ∨ ds.head? ≠ some 0

def NoTrailingZero (ds : List Digit) : Prop := ds.getLast? ≠ some 0

instance (ds : List Digit) : Decidable (NoLeadingZero ds) := inferInstanceAs (Decidable (_ ∨ _))

instance (ds : List Digit) : Decidable (NoTrailingZero ds) := inferInstanceAs (Decidable (¬ _))

theorem whole_append (as bs : List Digit) :
    whole (as ++ bs) = whole as * 10 ^ bs.length + whole bs := by
  simp only [whole, List.reverse_append, List.map_append, Nat.ofDigits_append, List.length_map,
    List.length_reverse]
  ring

theorem whole_cons (d : Digit) (ds : List Digit) :
    whole (d :: ds) = d.val * 10 ^ ds.length + whole ds := by
  have h := whole_append [d] ds
  rw [List.singleton_append] at h
  rw [h, show whole [d] = d.val from Nat.ofDigits_singleton]

theorem whole_zeros (n : Nat) : whole (List.replicate n 0) = 0 := by
  induction n with
  | zero => rfl
  | succ n ih => rw [List.replicate_succ, whole_cons, ih, Fin.val_zero, Nat.zero_mul]

theorem whole_lt (ds : List Digit) : whole ds < 10 ^ ds.length := by
  induction ds with
  | nil => exact Nat.one_pos
  | cons d ds ih =>
    rw [whole_cons, List.length_cons, pow_succ]
    have first : d.val * 10 ^ ds.length ≤ 9 * 10 ^ ds.length :=
      Nat.mul_le_mul_right _ (Nat.le_of_lt_succ d.isLt)
    omega

theorem ofNat_ne_nil (n : Nat) : ofNat n ≠ [] := by
  unfold ofNat
  split
  · exact List.cons_ne_nil _ _
  · simpa [Nat.digits_eq_nil_iff_eq_zero]

theorem length_ofNat_le {n k : Nat} (pos : 0 < k) (small : n < 10 ^ k) :
    (ofNat n).length ≤ k := by
  unfold ofNat
  split
  · exact pos
  · rw [List.length_reverse, List.length_map]
    exact (Nat.digits_length_le_iff (by decide) n).mpr small

theorem whole_ofNat (n : Nat) : whole (ofNat n) = n := by
  unfold ofNat
  split
  · rename_i zero
    rw [zero]
    rfl
  · unfold whole
    rw [List.reverse_reverse, List.map_map]
    have same : (Nat.digits 10 n).map (Fin.val ∘ Fin.ofNat 10) = Nat.digits 10 n := by
      apply (List.map_congr_left _).trans (List.map_id _)
      intro d hd
      exact Nat.mod_eq_of_lt (Nat.digits_lt_base (by decide) hd)
    rw [same, Nat.ofDigits_digits]

theorem lt_length_ofNat {n k : Nat} (large : 10 ^ k ≤ n) : k < (ofNat n).length := by
  have bound := whole_lt (ofNat n)
  rw [whole_ofNat] at bound
  exact (Nat.pow_lt_pow_iff_right (by decide)).mp (lt_of_le_of_lt large bound)

theorem ofNat_noLeadingZero (n : Nat) : NoLeadingZero (ofNat n) := by
  unfold ofNat
  split
  · exact Or.inl rfl
  · rename_i nonzero
    refine Or.inr fun h => ?_
    have digits := Nat.digits_ne_nil_iff_ne_zero (b := 10) |>.mpr nonzero
    have last := Nat.getLast_digit_ne_zero 10 nonzero
    rw [List.head?_reverse, List.getLast?_map, List.getLast?_eq_some_getLast digits] at h
    have zero : Nat.digits 10 n |>.getLast digits |> (· % 10) |> (· = 0) :=
      congrArg Fin.val (Option.some.inj h)
    have small := Nat.digits_lt_base (by decide) (List.getLast_mem digits)
    dsimp only at zero
    omega

theorem ofNat_whole {ds : List Digit} (nonempty : ds ≠ []) (plain : NoLeadingZero ds) :
    ofNat (whole ds) = ds := by
  rcases plain with rfl | plain
  · rfl
  · have last : ∀ h : ds.reverse.map Fin.val ≠ [], (ds.reverse.map Fin.val).getLast h ≠ 0 := by
      intro h zero
      apply plain
      rw [List.getLast_map, Fin.val_eq_zero_iff, List.getLast_reverse] at zero
      rw [List.head?_eq_some_head nonempty, zero]
    have digits : Nat.digits 10 (whole ds) = ds.reverse.map Fin.val := by
      apply Nat.digits_ofDigits 10 (by decide) _ _ last
      intro d hd
      obtain ⟨e, _, rfl⟩ := List.mem_map.mp hd
      exact e.isLt
    have nonzero : whole ds ≠ 0 := by
      intro zero
      rw [zero, Nat.digits_zero] at digits
      exact nonempty (by simpa using digits.symm)
    unfold ofNat
    rw [if_neg nonzero, digits, List.map_map, ← List.map_reverse, List.reverse_reverse]
    apply (List.map_congr_left _).trans (List.map_id _)
    intro d _
    exact Fin.ext (Nat.mod_eq_of_lt d.isLt)

theorem fraction_nonneg (ds : List Digit) : 0 ≤ fraction ds := by
  induction ds with
  | nil => exact le_refl 0
  | cons d ds ih =>
    have hd : (0 : ℚ) ≤ d.val := Nat.cast_nonneg _
    unfold fraction
    linarith

theorem fraction_lt_one (ds : List Digit) : fraction ds < 1 := by
  induction ds with
  | nil => exact one_pos
  | cons d ds ih =>
    have hd : (d.val : ℚ) ≤ 9 := by exact_mod_cast Nat.le_of_lt_succ d.isLt
    unfold fraction
    linarith

/-- Moved by as many places as there are digits, a fraction is whole. -/
theorem fraction_mul (ds : List Digit) : fraction ds * 10 ^ ds.length = whole ds := by
  induction ds with
  | nil =>
    rw [fraction, zero_mul]
    rfl
  | cons d ds ih =>
    rw [whole_cons, fraction, List.length_cons, pow_succ]
    push_cast
    rw [← ih]
    ring

theorem fraction_zeros (n : Nat) : fraction (List.replicate n 0) = 0 := by
  induction n with
  | zero => rfl
  | succ n ih =>
    rw [List.replicate_succ, fraction, ih]
    norm_num

theorem fraction_append_zeros (ds : List Digit) (n : Nat) :
    fraction (ds ++ List.replicate n 0) = fraction ds := by
  induction ds with
  | nil => exact fraction_zeros n
  | cons d ds ih => rw [List.cons_append, fraction, ih, fraction]

theorem fraction_pos {ds : List Digit} (nonempty : ds ≠ []) (plain : NoTrailingZero ds) :
    0 < fraction ds := by
  induction ds with
  | nil => exact absurd rfl nonempty
  | cons d ds ih =>
    have hd : (0 : ℚ) ≤ d.val := Nat.cast_nonneg _
    unfold fraction
    cases ds with
    | nil =>
      have nonzero : d ≠ 0 := fun h => plain (by rw [h]; rfl)
      have : (0 : ℚ) < d.val := by exact_mod_cast Fin.pos_iff_ne_zero.mpr nonzero
      rw [fraction]
      linarith
    | cons e ds =>
      have := ih (List.cons_ne_nil _ _) (by rwa [NoTrailingZero, List.getLast?_cons_cons] at plain)
      linarith

theorem fraction_inj {as bs : List Digit} (ha : NoTrailingZero as) (hb : NoTrailingZero bs)
    (same : fraction as = fraction bs) : as = bs := by
  induction as generalizing bs with
  | nil =>
    by_contra different
    exact absurd same (fraction_pos (Ne.symm different) hb).ne
  | cons a as ih =>
    cases bs with
    | nil => exact absurd same.symm (fraction_pos (List.cons_ne_nil _ _) ha).ne
    | cons b bs =>
      have tail : ∀ {d : Digit} {ds : List Digit}, NoTrailingZero (d :: ds) →
          NoTrailingZero ds := by
        intro d ds h
        cases ds with
        | nil => exact fun h => by cases h
        | cons => rwa [NoTrailingZero, List.getLast?_cons_cons] at h
      -- the first digit is the part of ten times the fraction before the point
      have shifted : (a.val : ℚ) + fraction as = b.val + fraction bs := by
        unfold fraction at same
        linarith
      have head : a = b := by
        have ha0 := fraction_nonneg as
        have ha1 := fraction_lt_one as
        have hb0 := fraction_nonneg bs
        have hb1 := fraction_lt_one bs
        have le : (a.val : ℚ) < b.val + 1 := by linarith
        have ge : (b.val : ℚ) < a.val + 1 := by linarith
        have le' : a.val < b.val + 1 := by exact_mod_cast le
        have ge' : b.val < a.val + 1 := by exact_mod_cast ge
        exact Fin.ext (by omega)
      subst head
      rw [ih (tail ha) (tail hb) (by linarith)]

end Digits

inductive Sign where
  | absent
  | plus
  | minus
  deriving DecidableEq

def Sign.factor : Sign → ℚ
  | absent | plus => 1
  | minus => -1

/-- A decimal literal, with any number of fraction digits. -/
structure Decimal where
  sign : Sign
  whole : List Digit
  fraction : List Digit
  whole_ne : whole ≠ []

namespace Decimal

def magnitude (l : Decimal) : ℚ := Digits.whole l.whole + Digits.fraction l.fraction

/-- The number the literal denotes. -/
def number (l : Decimal) : ℚ := l.sign.factor * l.magnitude

/-- No plus sign, no redundant zero at either end, and no negative zero. -/
structure Canonical (l : Decimal) : Prop where
  sign : l.sign ≠ .plus
  whole : Digits.NoLeadingZero l.whole
  fraction : Digits.NoTrailingZero l.fraction
  zero : l.sign = .minus → l.number ≠ 0

theorem magnitude_nonneg (l : Decimal) : 0 ≤ l.magnitude :=
  add_nonneg (Nat.cast_nonneg _) (Digits.fraction_nonneg _)

theorem parts_eq {l m : Decimal} (same : l.magnitude = m.magnitude) :
    Digits.whole l.whole = Digits.whole m.whole ∧
      Digits.fraction l.fraction = Digits.fraction m.fraction := by
  unfold magnitude at same
  have hl := Digits.fraction_nonneg l.fraction
  have hl1 := Digits.fraction_lt_one l.fraction
  have hm := Digits.fraction_nonneg m.fraction
  have hm1 := Digits.fraction_lt_one m.fraction
  have le : (Digits.whole l.whole : ℚ) < Digits.whole m.whole + 1 := by linarith
  have ge : (Digits.whole m.whole : ℚ) < Digits.whole l.whole + 1 := by linarith
  have le' : Digits.whole l.whole < Digits.whole m.whole + 1 := by exact_mod_cast le
  have ge' : Digits.whole m.whole < Digits.whole l.whole + 1 := by exact_mod_cast ge
  have whole : Digits.whole l.whole = Digits.whole m.whole := by omega
  rw [whole] at same
  exact ⟨whole, add_left_cancel same⟩

theorem Canonical.sign_eq {l m : Decimal} (hl : l.Canonical) (hm : m.Canonical)
    (same : l.number = m.number) : l.sign = m.sign := by
  have negative : ∀ {k : Decimal}, k.Canonical → k.sign = .minus → k.number < 0 := by
    intro k hk minus
    apply lt_of_le_of_ne _ (hk.zero minus)
    rw [number, minus, Sign.factor]
    linarith [k.magnitude_nonneg]
  have positive : ∀ {k : Decimal}, k.sign = .absent → 0 ≤ k.number := by
    intro k absent
    rw [number, absent, Sign.factor, one_mul]
    exact k.magnitude_nonneg
  cases ls : l.sign with
  | plus => exact absurd ls hl.sign
  | absent =>
    cases ms : m.sign with
    | plus => exact absurd ms hm.sign
    | absent => rfl
    | minus => linarith [negative hm ms, positive ls]
  | minus =>
    cases ms : m.sign with
    | plus => exact absurd ms hm.sign
    | absent => linarith [negative hl ls, positive ms]
    | minus => rfl

/-- A number has one canonical literal at most. -/
theorem Canonical.eq_of_number_eq {l m : Decimal} (hl : l.Canonical) (hm : m.Canonical)
    (same : l.number = m.number) : l = m := by
  have sign := hl.sign_eq hm same
  have magnitude : l.magnitude = m.magnitude := by
    unfold number at same
    rw [sign] at same
    apply mul_left_cancel₀ _ same
    cases m.sign <;> norm_num [Sign.factor]
  obtain ⟨whole, fraction⟩ := parts_eq magnitude
  have wholes : l.whole = m.whole := by
    rw [← Digits.ofNat_whole l.whole_ne hl.whole, whole, Digits.ofNat_whole m.whole_ne hm.whole]
  have fractions := Digits.fraction_inj hl.fraction hm.fraction fraction
  cases l
  cases m
  cases sign
  cases wholes
  cases fractions
  rfl

end Decimal

/-! Literals as text. -/

namespace Utf16

def isDigit (u : UInt16) : Bool := 0x30 ≤ u && u ≤ 0x39

def plus : UInt16 := 0x2B

def minus : UInt16 := 0x2D

def point : UInt16 := 0x2E

def zero : UInt16 := 0x30

def ofDigit (d : Digit) : UInt16 := (0x30 + d.val).toUInt16

def toDigit (u : UInt16) : Digit := Fin.ofNat 10 (u.toNat - 0x30)

theorem isDigit_ofDigit (d : Digit) : isDigit (ofDigit d) = true := by
  revert d
  decide

theorem toDigit_ofDigit (d : Digit) : toDigit (ofDigit d) = d := by
  revert d
  decide

theorem ofDigit_toDigit {u : UInt16} (h : isDigit u = true) : ofDigit (toDigit u) = u := by
  simp only [isDigit, Bool.and_eq_true, decide_eq_true_eq, UInt16.le_iff_toNat_le] at h
  have lower : 48 ≤ u.toNat := h.1
  have upper : u.toNat ≤ 57 := h.2
  apply UInt16.toNat_inj.mp
  simp only [ofDigit, toDigit, Fin.ofNat, UInt16.toNat_ofNat', Nat.toUInt16]
  omega

theorem map_toDigit_ofDigit (ds : List Digit) : (ds.map ofDigit).map toDigit = ds := by
  rw [List.map_map]
  exact (List.map_congr_left fun d _ => toDigit_ofDigit d).trans (List.map_id _)

theorem map_ofDigit_toDigit {text : Text} (h : ∀ u ∈ text, isDigit u = true) :
    (text.map toDigit).map ofDigit = text := by
  rw [List.map_map]
  exact (List.map_congr_left fun u hu => ofDigit_toDigit (h u hu)).trans (List.map_id _)

/-- `BigInt(text)` of a string of digits -/
def value (text : Text) : Nat := Digits.whole (text.map toDigit)

/-- `n.toString()` of a bigint that is not negative -/
def ofNat (n : Nat) : Text := (Digits.ofNat n).map ofDigit

def padEnd (length : Nat) (fill : UInt16) (text : Text) : Text :=
  text ++ List.replicate (length - text.length) fill

def padStart (length : Nat) (fill : UInt16) (text : Text) : Text :=
  List.replicate (length - text.length) fill ++ text

/-- A number that fits is padded to as many digits as wanted, and is still read as itself. -/
theorem padStart_ofNat {length n : Nat} (pos : 0 < length) (small : n < 10 ^ length) :
    (∀ u ∈ padStart length zero (ofNat n), isDigit u = true) ∧
      (padStart length zero (ofNat n)).length = length ∧
      value (padStart length zero (ofNat n)) = n := by
  have short := Digits.length_ofNat_le pos small
  unfold padStart ofNat
  refine ⟨?_, ?_, ?_⟩
  · intro u hu
    rcases List.mem_append.mp hu with hu | hu
    · rw [List.eq_of_mem_replicate hu]
      decide
    · obtain ⟨d, _, rfl⟩ := List.mem_map.mp hu
      exact isDigit_ofDigit d
  · simp only [List.length_map, List.length_append, List.length_replicate]
    omega
  · rw [value, List.map_append, map_toDigit_ofDigit, List.map_replicate, Digits.whole_append,
      show toDigit zero = 0 from rfl, Digits.whole_zeros, Nat.zero_mul, Nat.zero_add,
      Digits.whole_ofNat]

end Utf16

def Sign.units : Sign → Text
  | absent => []
  | plus => [Utf16.plus]
  | minus => [Utf16.minus]

namespace Decimal

/-- The point and the digits after it, left out where there are none. -/
def tail (l : Decimal) : Text :=
  if l.fraction = [] then [] else Utf16.point :: l.fraction.map Utf16.ofDigit

def unsigned (l : Decimal) : Text := l.whole.map Utf16.ofDigit ++ l.tail

/-- The literal as it is written. -/
def spelling (l : Decimal) : Text := l.sign.units ++ l.unsigned

theorem all_digits (ds : List Digit) : ∀ u ∈ ds.map Utf16.ofDigit, Utf16.isDigit u = true := by
  intro u hu
  obtain ⟨d, _, rfl⟩ := List.mem_map.mp hu
  exact Utf16.isDigit_ofDigit d

theorem mem_spelling {l : Decimal} {u : UInt16} (h : u ∈ l.spelling) :
    u = Utf16.plus ∨ u = Utf16.minus ∨ u = Utf16.point ∨ Utf16.isDigit u = true := by
  rcases List.mem_append.mp h with h | h
  · cases hs : l.sign with
    | absent => simp [hs, Sign.units] at h
    | plus => exact Or.inl (by simpa [hs, Sign.units] using h)
    | minus => exact Or.inr (Or.inl (by simpa [hs, Sign.units] using h))
  · rcases List.mem_append.mp h with h | h
    · exact Or.inr (Or.inr (Or.inr (all_digits _ u h)))
    · unfold tail at h
      split at h
      · cases h
      · rcases List.mem_cons.mp h with h | h
        · exact Or.inr (Or.inr (Or.inl h))
        · exact Or.inr (Or.inr (Or.inr (all_digits _ u h)))

theorem trim_spelling (l : Decimal) : Utf16.trim l.spelling = l.spelling := by
  apply Utf16.trim_eq_self
  intro u hu
  rcases mem_spelling hu with rfl | rfl | rfl | h
  · decide
  · decide
  · decide
  · rw [← Utf16.ofDigit_toDigit h]
    generalize Utf16.toDigit u = d
    revert d
    decide

theorem spelling_ne_nil (l : Decimal) : l.spelling ≠ [] := by
  intro h
  have whole := (List.append_eq_nil_iff.mp (List.append_eq_nil_iff.mp h).2).1
  exact l.whole_ne (List.map_eq_nil_iff.mp whole)

/-- Without its sign a literal starts with a digit. -/
theorem exists_unsigned (l : Decimal) :
    ∃ u rest, l.unsigned = u :: rest ∧ Utf16.isDigit u = true := by
  cases hw : l.whole with
  | nil => exact absurd hw l.whole_ne
  | cons d ds =>
    refine ⟨Utf16.ofDigit d, ds.map Utf16.ofDigit ++ l.tail, ?_, Utf16.isDigit_ofDigit d⟩
    rw [unsigned, hw, List.map_cons, List.cons_append]

theorem takeWhile_unsigned (l : Decimal) :
    l.unsigned.takeWhile Utf16.isDigit = l.whole.map Utf16.ofDigit := by
  rw [unsigned, List.takeWhile_append_of_pos (all_digits l.whole)]
  unfold tail
  split
  · rw [List.takeWhile_nil, List.append_nil]
  · rw [List.takeWhile_cons_of_neg (by decide), List.append_nil]

theorem dropWhile_unsigned (l : Decimal) : l.unsigned.dropWhile Utf16.isDigit = l.tail := by
  rw [unsigned, List.dropWhile_append_of_pos (all_digits l.whole)]
  unfold tail
  split
  · rfl
  · exact List.dropWhile_cons_of_neg (by decide)

end Decimal

end ShowUp

import Mathlib.Data.Int.Log
import Mathlib.Data.Rat.Floor
import Mathlib.Tactic.FieldSimp
import Mathlib.Tactic.Linarith
import Mathlib.Tactic.Ring

/-!
# Double-precision numbers

A JavaScript number by its value; the two zeros are not told apart. An exact
value becomes the nearest double, ties going to the even significand.
-/

namespace ShowUp

set_option autoImplicit false

inductive Double where
  | nan
  | infinite (negative : Bool)
  | finite (value : ℚ)

namespace Double

def roundHalfEven (q : ℚ) : Int :=
  if q - ⌊q⌋ < 1 / 2 ∨ q - ⌊q⌋ = 1 / 2 ∧ ⌊q⌋ % 2 = 0 then ⌊q⌋ else ⌊q⌋ + 1

/-- The distance between neighbouring doubles of the value's size. -/
def ulp (q : ℚ) : ℚ := 2 ^ (max (Int.log 2 |q|) (-1022) - 52)

/-- The double nearest to an exact value. -/
def ofRat (q : ℚ) : Double :=
  let value := roundHalfEven (q / ulp q) * ulp q
  if |value| < 2 ^ 1024 then finite value else infinite (q < 0)

/-- `Number.isSafeInteger(value)` -/
def isSafeInteger : Double → Bool
  | finite value => value.den = 1 ∧ -(2 ^ 53 - 1) ≤ value.num ∧ value.num ≤ 2 ^ 53 - 1
  | _ => false

/-- `Math.floor(value)` -/
def floor : Double → Double
  | finite value => finite ⌊value⌋
  | d => d

/-- `a - b` -/
def sub : Double → Double → Double
  | finite a, finite b => ofRat (a - b)
  | finite _, infinite negative => infinite !negative
  | infinite negative, finite _ => infinite negative
  | infinite negative, infinite negative' =>
    if negative = negative' then nan else infinite negative
  | _, _ => nan

/-- `a + b` -/
def add : Double → Double → Double
  | finite a, finite b => ofRat (a + b)
  | finite _, infinite negative => infinite negative
  | infinite negative, finite _ => infinite negative
  | infinite negative, infinite negative' =>
    if negative = negative' then infinite negative else nan
  | _, _ => nan

/-- `a * b`, for a finite `b` other than zero -/
def mulBy (b : ℚ) : Double → Double
  | finite a => ofRat (a * b)
  | infinite negative => infinite (negative ^^ decide (b < 0))
  | nan => nan

/-- `a / b`, for a finite `b` other than zero -/
def divBy (b : ℚ) : Double → Double
  | finite a => ofRat (a / b)
  | infinite negative => infinite (negative ^^ decide (b < 0))
  | nan => nan

/-- `Math.ceil(value)` -/
def ceil : Double → Double
  | finite value => finite ⌈value⌉
  | d => d

/-- `a <= b` -/
def le : Double → Double → Bool
  | finite a, finite b => a ≤ b
  | finite _, infinite negative => !negative
  | infinite negative, finite _ => negative
  | infinite negative, infinite negative' => negative || !negative'
  | _, _ => false

/-- `a < b` -/
def lt : Double → Double → Bool
  | finite a, finite b => a < b
  | finite _, infinite negative => !negative
  | infinite negative, finite _ => negative
  | infinite negative, infinite negative' => negative && !negative'
  | _, _ => false

theorem le_trans {a b c : Double} (ab : a.le b = true) (bc : b.le c = true) : a.le c = true := by
  cases a <;> cases b <;> cases c <;>
    simp only [le, decide_eq_true_eq, Bool.or_eq_true, Bool.not_eq_true', reduceCtorEq] at ab bc ⊢
  case infinite.infinite.infinite s t u => cases s <;> simp_all
  case infinite.finite.infinite => exact Or.inl ab
  case infinite.infinite.finite s t => cases s <;> simp_all
  case finite.infinite.infinite s t => cases s <;> simp_all
  case finite.infinite.finite => rw [ab] at bc; cases bc
  case finite.finite.infinite => exact bc
  case infinite.finite.finite => exact ab
  case finite.finite.finite => exact ab.trans bc

theorem roundHalfEven_int (n : Int) : roundHalfEven n = n := by
  unfold roundHalfEven
  rw [Int.floor_intCast, sub_self, if_pos (Or.inl (by norm_num))]

theorem abs_cast_lt {n : Int} (small : |n| < 2 ^ 53) : |(n : ℚ)| < 2 ^ 53 := by
  have cast : ((|n| : Int) : ℚ) < ((2 ^ 53 : Int) : ℚ) := Int.cast_lt.mpr small
  rw [Int.cast_abs] at cast
  exact_mod_cast cast

theorem log_le {n : Int} (small : |n| < 2 ^ 53) : Int.log 2 |(n : ℚ)| ≤ 52 := by
  by_cases zero : n = 0
  · rw [zero, Int.cast_zero, abs_zero, Int.log_zero_right]
    decide
  · have pos : (0 : ℚ) < |(n : ℚ)| := abs_pos.mpr (Int.cast_ne_zero.mpr zero)
    have lt : |(n : ℚ)| < ((2 : ℕ) : ℚ) ^ (53 : ℤ) := by exact_mod_cast abs_cast_lt small
    have := (Int.lt_zpow_iff_log_lt (by decide) pos).mp lt
    omega

/-- An integer below `2^53` is a double. -/
theorem ofRat_int {n : Int} (small : |n| < 2 ^ 53) : ofRat n = finite n := by
  obtain ⟨k, hk⟩ : ∃ k : Nat, max (Int.log 2 |(n : ℚ)|) (-1022) - 52 = -(k : Int) := by
    have := log_le small
    exact ⟨(52 - max (Int.log 2 |(n : ℚ)|) (-1022)).toNat, by omega⟩
  have unit : ulp n = (2 ^ k)⁻¹ := by
    rw [ulp, hk, zpow_neg, zpow_natCast]
  have scaled : (n : ℚ) / ulp n = ((n * 2 ^ k : Int) : ℚ) := by
    rw [unit, div_inv_eq_mul]
    push_cast
    ring
  have value : ((roundHalfEven (n / ulp n) : Int) : ℚ) * ulp n = n := by
    rw [scaled, roundHalfEven_int, unit]
    push_cast
    field_simp
  have wide : (2 : ℚ) ^ 53 < 2 ^ 1024 := pow_lt_pow_right₀ (by norm_num) (by norm_num)
  have bound : |(n : ℚ)| < 2 ^ 1024 := (abs_cast_lt small).trans wide
  unfold ofRat
  rw [value, if_pos bound]

theorem add_int {a b : Int} (small : |a + b| < 2 ^ 53) :
    (finite a).add (finite b) = finite (a + b : Int) := by
  rw [add, ← Int.cast_add, ofRat_int small]

theorem sub_int {a b : Int} (small : |a - b| < 2 ^ 53) :
    (finite a).sub (finite b) = finite (a - b : Int) := by
  rw [sub, ← Int.cast_sub, ofRat_int small]

theorem mulBy_int {a b : Int} (small : |a * b| < 2 ^ 53) :
    (finite a).mulBy b = finite (a * b : Int) := by
  rw [mulBy, ← Int.cast_mul, ofRat_int small]

theorem ulp_pos (q : ℚ) : 0 < ulp q := zpow_pos (by norm_num) _

theorem abs_roundHalfEven_sub_le (q : ℚ) : |(roundHalfEven q : ℚ) - q| ≤ 1 / 2 := by
  have below := Int.floor_le q
  have above := Int.lt_floor_add_one q
  unfold roundHalfEven
  split
  · rename_i down
    have half : q - ⌊q⌋ ≤ 1 / 2 := down.elim le_of_lt fun tie => le_of_eq tie.1
    rw [abs_le]
    constructor <;> linarith
  · rename_i up
    have half : 1 / 2 ≤ q - ⌊q⌋ := not_lt.mp fun less => up (Or.inl less)
    push_cast
    rw [abs_le]
    constructor <;> linarith

/-- The multiple of the ulp that a value is rounded to -/
def rounded (q : ℚ) : ℚ := roundHalfEven (q / ulp q) * ulp q

theorem ofRat_rounded {q : ℚ} (bound : |rounded q| < 2 ^ 1024) : ofRat q = finite (rounded q) :=
  if_pos bound

/-- Rounding moves a value by half the distance of its neighbours at most. -/
theorem abs_rounded_sub_le (q : ℚ) : |rounded q - q| ≤ ulp q / 2 := by
  have unit := ulp_pos q
  have error := abs_roundHalfEven_sub_le (q / ulp q)
  have scaled : rounded q - q = ((roundHalfEven (q / ulp q) : ℚ) - q / ulp q) * ulp q := by
    unfold rounded
    field_simp
  rw [scaled, abs_mul, abs_of_pos unit]
  calc |(roundHalfEven (q / ulp q) : ℚ) - q / ulp q| * ulp q ≤ 1 / 2 * ulp q :=
        mul_le_mul_of_nonneg_right error unit.le
    _ = ulp q / 2 := by ring

theorem ulp_le {q : ℚ} (normal : 2 ^ (-1022 : Int) ≤ |q|) : ulp q ≤ |q| * 2 ^ (-52 : Int) := by
  have pos : 0 < |q| := lt_of_lt_of_le (zpow_pos (by norm_num) _) normal
  have exponent : -1022 ≤ Int.log 2 |q| :=
    (Int.zpow_le_iff_le_log (by decide) pos).mp (by exact_mod_cast normal)
  rw [ulp, max_eq_left exponent, sub_eq_add_neg, zpow_add₀ (by norm_num)]
  have size := Int.zpow_log_le_self (b := 2) (by decide) pos
  exact mul_le_mul_of_nonneg_right (by exact_mod_cast size) (zpow_pos (by norm_num) _).le

section Quotient
variable {a b : Int}

theorem abs_div_cast (pos : 0 < b) : |(a : ℚ) / b| = |(a : ℚ)| / b := by
  rw [abs_div, abs_of_pos (Int.cast_pos.mpr pos)]

/-- Such a quotient is no subnormal number. -/
theorem le_abs_div (nonzero : a ≠ 0) (pos : 0 < b) (fits : b < 2 ^ 53) :
    2 ^ (-1022 : Int) ≤ |(a : ℚ) / b| := by
  have positive : (0 : ℚ) < b := Int.cast_pos.mpr pos
  have one : (1 : ℚ) ≤ |(a : ℚ)| := by exact_mod_cast Int.one_le_abs nonzero
  have wide : (b : ℚ) ≤ 2 ^ 53 := by exact_mod_cast fits.le
  have tiny : (2 : ℚ) ^ (-1022 : Int) ≤ 2 ^ (-53 : Int) :=
    zpow_le_zpow_right₀ (by norm_num) (by norm_num)
  rw [abs_div_cast pos, le_div_iff₀ positive]
  calc (2 : ℚ) ^ (-1022 : Int) * b ≤ 2 ^ (-53 : Int) * 2 ^ 53 :=
        mul_le_mul tiny wide positive.le (zpow_pos (by norm_num) _).le
    _ = 1 := by norm_num
    _ ≤ |(a : ℚ)| := one

/-- Rounding moves a quotient by less than the distance of the quotients with its divisor. -/
theorem abs_rounded_div_sub_lt (small : |a| < 2 ^ 53) (nonzero : a ≠ 0) (pos : 0 < b)
    (fits : b < 2 ^ 53) : |rounded (a / b) - a / b| < 1 / b := by
  have positive : (0 : ℚ) < b := Int.cast_pos.mpr pos
  have unit := ulp_le (le_abs_div nonzero pos fits)
  have error : |(a : ℚ)| * 2 ^ (-53 : Int) < 1 := by
    calc |(a : ℚ)| * 2 ^ (-53 : Int) < 2 ^ 53 * 2 ^ (-53 : Int) :=
          mul_lt_mul_of_pos_right (abs_cast_lt small) (zpow_pos (by norm_num) _)
      _ = 1 := by norm_num
  calc |rounded (a / b) - a / b| ≤ ulp (a / b) / 2 := abs_rounded_sub_le _
    _ ≤ |(a : ℚ) / b| * 2 ^ (-52 : Int) / 2 := by linarith
    _ = |(a : ℚ)| * 2 ^ (-53 : Int) / b := by
        rw [abs_div_cast pos]
        ring
    _ < 1 / b := div_lt_div_of_pos_right error positive

theorem abs_rounded_div_lt (small : |a| < 2 ^ 53) (nonzero : a ≠ 0) (pos : 0 < b)
    (fits : b < 2 ^ 53) : |rounded (a / b)| < 2 ^ 1024 := by
  have near := abs_rounded_div_sub_lt small nonzero pos fits
  have bound := abs_cast_lt small
  have one : (1 : ℚ) ≤ b := by exact_mod_cast pos
  have step : 1 / (b : ℚ) ≤ 1 := (div_le_one (Int.cast_pos.mpr pos)).mpr one
  have quotient : |(a : ℚ) / b| ≤ |(a : ℚ)| := by
    rw [abs_div_cast pos]
    exact div_le_self (abs_nonneg _) one
  have split := abs_add_le (rounded (a / b) - a / b) (a / b)
  rw [sub_add_cancel] at split
  calc |rounded (a / b)| < 2 ^ 53 + 1 := by linarith
    _ < 2 ^ 54 := by norm_num
    _ < 2 ^ 1024 := pow_lt_pow_right₀ (by norm_num) (by norm_num)

/-- The quotient of two integers below `2^53` stays between the integers it lies between. -/
theorem ofRat_div_between {n : Int} (small : |a| < 2 ^ 53) (pos : 0 < b) (fits : b < 2 ^ 53)
    (lower : n * b < a) (upper : a < (n + 1) * b) :
    ∃ v, ofRat (a / b) = finite v ∧ (n : ℚ) < v ∧ v < n + 1 := by
  have positive : (0 : ℚ) < b := Int.cast_pos.mpr pos
  have nonzero : a ≠ 0 := by
    rintro rfl
    have below : n < 0 := neg_of_mul_neg_left lower pos.le
    have above : 0 < n + 1 := pos_of_mul_pos_left upper pos.le
    omega
  obtain ⟨far, close⟩ := abs_lt.mp (abs_rounded_div_sub_lt small nonzero pos fits)
  have least : (n : ℚ) + 1 / b ≤ a / b := by
    have cast : ((n * b + 1 : Int) : ℚ) ≤ a := Int.cast_le.mpr lower
    push_cast at cast
    rw [le_div_iff₀ positive, add_mul, one_div_mul_cancel positive.ne']
    exact cast
  have most : (a : ℚ) / b + 1 / b ≤ n + 1 := by
    have cast : ((a + 1 : Int) : ℚ) ≤ ((n + 1) * b : Int) := Int.cast_le.mpr upper
    push_cast at cast
    rw [← add_div, div_le_iff₀ positive]
    exact cast
  exact ⟨rounded (a / b), ofRat_rounded (abs_rounded_div_lt small nonzero pos fits),
    by linarith, by linarith⟩

/-- The quotient of two integers below `2^53` is an integer, or lies where the exact one does. -/
theorem ofRat_div_cases (small : |a| < 2 ^ 53) (pos : 0 < b) (fits : b < 2 ^ 53) :
    (∃ c : Int, (a : ℚ) / b = c ∧ ofRat (a / b) = finite c) ∨
      ∃ (n : Int) (v : ℚ), ofRat (a / b) = finite v ∧ (n : ℚ) < v ∧ v < n + 1 ∧
        (n : ℚ) < a / b ∧ (a : ℚ) / b < n + 1 := by
  have positive : (0 : ℚ) < b := Int.cast_pos.mpr pos
  by_cases whole : b ∣ a
  · obtain ⟨c, rfl⟩ := whole
    have quotient : ((b * c : Int) : ℚ) / b = c := by
      rw [Int.cast_mul, mul_div_cancel_left₀ _ positive.ne']
    have bound : |c| < 2 ^ 53 := by
      rw [abs_mul, abs_of_pos pos] at small
      exact lt_of_le_of_lt (le_mul_of_one_le_left (abs_nonneg c) pos) small
    exact Or.inl ⟨c, quotient, by rw [quotient, ofRat_int bound]⟩
  · have lower : a / b * b < a :=
      lt_of_le_of_ne (Int.ediv_mul_le a pos.ne') fun same => whole (Dvd.intro_left _ same)
    have upper := Int.lt_ediv_add_one_mul_self a pos
    obtain ⟨v, rounded, above, below⟩ := ofRat_div_between small pos fits lower upper
    refine Or.inr ⟨a / b, v, rounded, above, below, ?_, ?_⟩
    · rw [lt_div_iff₀ positive]
      exact_mod_cast lower
    · rw [div_lt_iff₀ positive]
      exact_mod_cast upper

/-- Rounding up a quotient of integers gives what it would give of the exact quotient. -/
theorem ceil_ofRat_div (small : |a| < 2 ^ 53) (pos : 0 < b) (fits : b < 2 ^ 53) :
    (ofRat (a / b)).ceil = finite ⌈(a : ℚ) / b⌉ := by
  rcases ofRat_div_cases small pos fits with
    ⟨c, quotient, rounded⟩ | ⟨n, v, rounded, above, below, lower, upper⟩
  · rw [rounded, quotient, ceil]
  · have next : ⌈v⌉ = n + 1 := Int.ceil_eq_iff.mpr (by push_cast; constructor <;> linarith)
    have same : ⌈(a : ℚ) / b⌉ = n + 1 :=
      Int.ceil_eq_iff.mpr (by push_cast; constructor <;> linarith)
    rw [rounded, ceil, next, same]

theorem floor_ofRat_div (small : |a| < 2 ^ 53) (pos : 0 < b) (fits : b < 2 ^ 53) :
    (ofRat (a / b)).floor = finite ⌊(a : ℚ) / b⌋ := by
  rcases ofRat_div_cases small pos fits with
    ⟨c, quotient, rounded⟩ | ⟨n, v, rounded, above, below, lower, upper⟩
  · rw [rounded, quotient, floor]
  · rw [rounded, floor, Int.floor_eq_iff.mpr ⟨above.le, below⟩,
      Int.floor_eq_iff.mpr ⟨lower.le, upper⟩]

end Quotient

theorem isSafeInteger_iff {d : Double} :
    d.isSafeInteger = true ↔ ∃ n : Int, d = finite n ∧ -(2 ^ 53 - 1) ≤ n ∧ n ≤ 2 ^ 53 - 1 := by
  cases d with
  | nan => simp [isSafeInteger]
  | infinite => simp [isSafeInteger]
  | finite value =>
    simp only [isSafeInteger, decide_eq_true_eq, finite.injEq]
    constructor
    · rintro ⟨whole, range⟩
      exact ⟨value.num, (Rat.coe_int_num_of_den_eq_one whole).symm, range⟩
    · rintro ⟨n, rfl, range⟩
      exact ⟨Rat.den_intCast n, range⟩

end Double

end ShowUp

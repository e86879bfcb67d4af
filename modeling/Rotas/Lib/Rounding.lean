import Rotas.Lib.Decimal
import Mathlib.Algebra.Order.Ring.Pow

/-!
# Rotas.Lib.Rounding

How far decimal arithmetic is off.

* `abs_sub_numeric` — a column is at most half of its last place off.
* `context_within`  — a result of the context is off by one roundoff.
* `Within k x y`    — two numbers that are `k` roundoffs apart at most; sums, quotients and further
  results of the context of such numbers are again.
* `Within.abs_sub_le` — what that is for numbers of some size.
-/

namespace Rotas
namespace Decimal

/-! ## One rounding -/

theorem abs_sub_roundHalfEven (q : ℚ) : |q - roundHalfEven q| ≤ 1 / 2 := by
  rcases roundHalfEven_eq_iff.mp (rfl : roundHalfEven q = roundHalfEven q) with hlt | ⟨heq, -⟩
  · exact hlt.le
  · exact heq.le

theorem abs_sub_roundHalfAway (q : ℚ) : |q - roundHalfAway q| ≤ 1 / 2 := by
  rw [roundHalfAway, abs_le]
  split
  · have hfloor := Int.floor_le (q + 1 / 2)
    have hlt := Int.lt_floor_add_one (q + 1 / 2)
    constructor <;> linarith
  · have hceil := Int.le_ceil (q - 1 / 2)
    have hlt := Int.ceil_lt_add_one (q - 1 / 2)
    constructor <;> linarith

theorem numeric_neg (places : ℕ) (q : ℚ) : numeric places (-q) = -numeric places q := by
  rw [numeric, numeric, neg_mul]
  generalize q * 10 ^ places = x
  unfold roundHalfAway
  rcases lt_trichotomy x 0 with hneg | rfl | hpos
  · rw [if_pos (by linarith), if_neg (by linarith), ← Int.floor_neg]
    congr 1
    ring
  · norm_num
  · rw [if_neg (by linarith), if_pos (by linarith), ← Int.ceil_neg]
    congr 1
    ring

theorem abs_sub_numeric (places : ℕ) (q : ℚ) :
    |q - (numeric places q : ℚ) / 10 ^ places| ≤ 1 / 2 / 10 ^ places := by
  have hpos : (0 : ℚ) < 10 ^ places := by positivity
  have hround := abs_sub_roundHalfAway (q * 10 ^ places)
  rw [le_div_iff₀ hpos, ← abs_of_pos hpos, ← abs_mul, abs_of_pos hpos, sub_mul,
    div_mul_cancel₀ _ hpos.ne']
  exact hround

/-- The relative error of a result with 28 digits. -/
def roundoff : ℚ := 1 / 10 ^ 27

theorem context_error {q : ℚ} (hq : 0 ≤ q) : |context q - q| ≤ q * roundoff := by
  rcases hq.eq_or_lt with rfl | hpos
  · simp [context]
  · have hunit := unit_pos q
    have hsmall : unit q ≤ q * roundoff := by
      have hle := pow_log_le hpos
      rw [pow_log_eq] at hle
      rw [roundoff, mul_one_div, le_div_iff₀ (by norm_num)]
      push_cast at hle
      linarith
    have hround := abs_sub_roundHalfEven (q / unit q)
    have hscaled : |context q - q| = |q / unit q - roundHalfEven (q / unit q)| * unit q := by
      rw [context_of_pos hpos, abs_sub_comm, ← abs_of_pos hunit, ← abs_mul, abs_of_pos hunit, sub_mul,
        div_mul_cancel₀ _ hunit.ne']
    rw [hscaled]
    calc |q / unit q - roundHalfEven (q / unit q)| * unit q ≤ 1 / 2 * unit q :=
          mul_le_mul_of_nonneg_right hround hunit.le
      _ ≤ q * roundoff := by linarith

/-! ## Several roundings -/

/-- The factor that one roundoff can take away. -/
def kept : ℚ := 1 - roundoff

theorem kept_pos : 0 < kept := by norm_num [kept, roundoff]

theorem kept_pow_pos (k : ℕ) : 0 < kept ^ k := pow_pos kept_pos k

structure Within (k : ℕ) (x y : ℚ) : Prop where
  nonneg : 0 ≤ x
  below : x * kept ^ k ≤ y
  above : y * kept ^ k ≤ x

namespace Within

variable {k l : ℕ} {x y x' y' : ℚ}

theorem nonneg_right (h : Within k x y) : 0 ≤ y :=
  (mul_nonneg h.nonneg (kept_pow_pos k).le).trans h.below

theorem trans {z : ℚ} (h : Within k x y) (h' : Within l y z) : Within (k + l) x z := by
  refine ⟨h.nonneg, ?_, ?_⟩
  · calc x * kept ^ (k + l) = x * kept ^ k * kept ^ l := by rw [pow_add, mul_assoc]
      _ ≤ y * kept ^ l := mul_le_mul_of_nonneg_right h.below (kept_pow_pos l).le
      _ ≤ z := h'.below
  · calc z * kept ^ (k + l) = z * kept ^ l * kept ^ k := by
          rw [pow_add, mul_comm (kept ^ k), mul_assoc]
      _ ≤ y * kept ^ k := mul_le_mul_of_nonneg_right h'.above (kept_pow_pos k).le
      _ ≤ x := h.above

theorem add (h : Within k x y) (h' : Within k x' y') : Within k (x + x') (y + y') := by
  refine ⟨add_nonneg h.nonneg h'.nonneg, ?_, ?_⟩
  · rw [add_mul]
    exact add_le_add h.below h'.below
  · rw [add_mul]
    exact add_le_add h.above h'.above

theorem div (h : Within k x y) (h' : Within l x' y') (hx' : 0 < x') (hy' : 0 < y') :
    Within (k + l) (x / x') (y / y') := by
  refine ⟨div_nonneg h.nonneg hx'.le, ?_, ?_⟩
  · rw [div_mul_eq_mul_div, div_le_div_iff₀ hx' hy', pow_add]
    calc x * (kept ^ k * kept ^ l) * y' = x * kept ^ k * (y' * kept ^ l) := by ring
      _ ≤ y * x' := mul_le_mul h.below h'.above (by positivity [kept_pow_pos l]) h.nonneg_right
  · rw [div_mul_eq_mul_div, div_le_div_iff₀ hy' hx', pow_add]
    calc y * (kept ^ k * kept ^ l) * x' = y * kept ^ k * (x' * kept ^ l) := by ring
      _ ≤ x * y' := mul_le_mul h.above h'.below (by positivity [kept_pow_pos l]) h.nonneg

theorem abs_sub_le (h : Within k x y) (hk : (k : ℚ) * roundoff ≤ 1 / 2) :
    |x - y| ≤ 2 * y * (k * roundoff) := by
  have hbernoulli : 1 - (k : ℚ) * roundoff ≤ kept ^ k := by
    have hle := one_add_mul_le_pow (by norm_num [roundoff] : (-2 : ℚ) ≤ -roundoff) k
    rw [kept, sub_eq_add_neg 1 roundoff]
    linarith
  have hk0 : 0 ≤ (k : ℚ) * roundoff := mul_nonneg (Nat.cast_nonneg k) (by norm_num [roundoff])
  have hy := h.nonneg_right
  have hbelow : x * (1 - k * roundoff) ≤ y :=
    (mul_le_mul_of_nonneg_left hbernoulli h.nonneg).trans h.below
  have habove : y * (1 - k * roundoff) ≤ x :=
    (mul_le_mul_of_nonneg_left hbernoulli hy).trans h.above
  have hdouble : x ≤ 2 * y := by nlinarith [h.nonneg]
  have hslack : 0 ≤ y * (k * roundoff) := mul_nonneg hy hk0
  have hxslack : x * (k * roundoff) ≤ 2 * y * (k * roundoff) :=
    mul_le_mul_of_nonneg_right hdouble hk0
  rw [abs_le]
  constructor <;> linarith

end Within

theorem context_within {q : ℚ} (hq : 0 ≤ q) : Within 1 q (context q) := by
  obtain ⟨hlow, hhigh⟩ := abs_le.mp (context_error hq)
  refine ⟨hq, ?_, ?_⟩
  · rw [pow_one, kept]
    linarith
  · have hle : context q ≤ q * (1 + roundoff) := by linarith
    have hsquare : 0 ≤ q * roundoff ^ 2 := mul_nonneg hq (sq_nonneg _)
    calc context q * kept ^ 1 ≤ q * (1 + roundoff) * kept ^ 1 :=
          mul_le_mul_of_nonneg_right hle (kept_pow_pos 1).le
      _ = q - q * roundoff ^ 2 := by
          rw [pow_one, kept]
          ring
      _ ≤ q := by linarith

theorem Within.context {k : ℕ} {x y : ℚ} (h : Within k x y) : Within (k + 1) x (context y) :=
  h.trans (context_within h.nonneg_right)

end Decimal
end Rotas

import Mathlib.Data.Int.Log
import Mathlib.Data.Rat.Floor
import Mathlib.Tactic.FieldSimp
import Mathlib.Tactic.Linarith
import Mathlib.Tactic.Positivity
import Mathlib.Tactic.Ring
import Mathlib.Data.Int.ConditionallyCompleteOrder

/-!
# Rotas.Lib.Decimal

Decimal arithmetic over exact rationals.

* `roundHalfEven`, `roundHalfAway` — to an integer, ties to even and ties away from zero.
* `quantize n q`  — `Decimal.quantize` to `n` places under the default context, in units of
  `10^-n`; ties to even.
* `numeric n q`   — what a `NUMERIC(_, n)` column stores for `q`, in units of `10^-n`; ties away
  from zero.
* `Rounds n f`    — a rounding to `n` places keeps the order and the numbers that have no more.
* `context q`     — a result rounded to the 28 significant digits of the default context, as the
  sum of two decimals is.
* `context_mono`, `context_of_fits` — the context keeps the order, and the numbers that fit it.
* `sum qs`        — the built-in sum, rounded to the context at every step.
-/

namespace Rotas
namespace Decimal

def roundHalfEven (q : ℚ) : ℤ :=
  if q - ⌊q⌋ < 1 / 2 then ⌊q⌋
  else if 1 / 2 < q - ⌊q⌋ then ⌊q⌋ + 1
  else if ⌊q⌋ % 2 = 0 then ⌊q⌋ else ⌊q⌋ + 1

def roundHalfAway (q : ℚ) : ℤ := if 0 ≤ q then ⌊q + 1 / 2⌋ else ⌈q - 1 / 2⌉

/-! ## Ties to even -/

theorem roundHalfEven_le_floor_add_one (q : ℚ) : roundHalfEven q ≤ ⌊q⌋ + 1 := by
  unfold roundHalfEven; split_ifs <;> omega

theorem floor_le_roundHalfEven (q : ℚ) : ⌊q⌋ ≤ roundHalfEven q := by
  unfold roundHalfEven; split_ifs <;> omega

@[simp] theorem roundHalfEven_intCast (n : ℤ) : roundHalfEven n = n := by
  simp [roundHalfEven]

theorem le_roundHalfEven {q : ℚ} {n : ℤ} (h : (n : ℚ) ≤ q) : n ≤ roundHalfEven q :=
  (Int.le_floor.mpr h).trans (floor_le_roundHalfEven q)

/-- An integer is reached only from at most one half below it. -/
theorem sub_half_le_of_le_roundHalfEven {q : ℚ} {n : ℤ} (h : n ≤ roundHalfEven q) :
    (n : ℚ) - 1 / 2 ≤ q := by
  have hfl := Int.floor_le q
  rcases lt_or_ge ⌊q⌋ n with hn | hn
  · have hup : roundHalfEven q = ⌊q⌋ + 1 := by
      have := roundHalfEven_le_floor_add_one q
      omega
    have hn' : n = ⌊q⌋ + 1 := by
      have := roundHalfEven_le_floor_add_one q
      omega
    have hhalf : ¬ q - ⌊q⌋ < 1 / 2 := by
      intro hlt
      rw [roundHalfEven, if_pos hlt] at hup
      omega
    rw [hn']
    push_cast
    linarith
  · have : (n : ℚ) ≤ ⌊q⌋ := by exact_mod_cast hn
    linarith

/-- The integer a number is rounded to lies within one half of it, and is the even one when two
do. -/
theorem roundHalfEven_eq_iff {q : ℚ} {n : ℤ} :
    roundHalfEven q = n ↔ |q - n| < 1 / 2 ∨ |q - n| = 1 / 2 ∧ n % 2 = 0 := by
  have hfl := Int.floor_le q
  have hlt := Int.lt_floor_add_one q
  -- only the two integers around `q` are within one half of it
  have hnear : |q - n| ≤ 1 / 2 → n = ⌊q⌋ ∨ n = ⌊q⌋ + 1 := by
    intro h
    obtain ⟨h₁, h₂⟩ := abs_le.mp h
    have hlow : ⌊q⌋ - 1 < n := by
      have : ((⌊q⌋ - 1 : ℤ) : ℚ) < n := by push_cast; linarith
      exact_mod_cast this
    have hup : n < ⌊q⌋ + 2 := by
      have : (n : ℚ) < ((⌊q⌋ + 2 : ℤ) : ℚ) := by push_cast; linarith
      exact_mod_cast this
    omega
  have habs₀ : |q - ⌊q⌋| = q - ⌊q⌋ := abs_of_nonneg (by linarith)
  have habs₁ : |q - (⌊q⌋ + 1 : ℤ)| = 1 - (q - ⌊q⌋) := by
    rw [abs_of_nonpos (by push_cast; linarith)]
    push_cast
    ring
  constructor
  · rintro rfl
    unfold roundHalfEven
    split_ifs with h₁ h₂ h₃
    · exact .inl (by rw [habs₀]; exact h₁)
    · exact .inl (by rw [habs₁]; linarith)
    · exact .inr ⟨by rw [habs₀]; linarith, h₃⟩
    · exact .inr ⟨by rw [habs₁]; linarith, by omega⟩
  · intro h
    have hn := hnear (h.elim le_of_lt fun h => h.1.le)
    unfold roundHalfEven
    rcases hn with rfl | rfl
    · rw [habs₀] at h
      rcases h with h | ⟨h, heven⟩
      · rw [if_pos h]
      · rw [if_neg (by linarith), if_neg (by linarith), if_pos heven]
    · rw [habs₁] at h
      rcases h with h | ⟨h, heven⟩
      · rw [if_neg (by linarith), if_pos (by linarith)]
      · rw [if_neg (by linarith), if_neg (by linarith), if_neg (by omega)]

theorem roundHalfEven_mono {q q' : ℚ} (h : q ≤ q') : roundHalfEven q ≤ roundHalfEven q' := by
  rcases lt_or_eq_of_le (Int.floor_le_floor h) with hlt | heq
  · calc roundHalfEven q ≤ ⌊q⌋ + 1 := roundHalfEven_le_floor_add_one q
      _ ≤ ⌊q'⌋ := hlt
      _ ≤ roundHalfEven q' := floor_le_roundHalfEven q'
  · unfold roundHalfEven
    rw [← heq]
    split_ifs <;> first | omega | (exfalso; linarith)

theorem roundHalfEven_neg (q : ℚ) : roundHalfEven (-q) = -roundHalfEven q := by
  have habs : |-q - (-roundHalfEven q : ℤ)| = |q - roundHalfEven q| := by
    rw [← abs_neg]
    push_cast
    ring_nf
  have heven : (-roundHalfEven q) % 2 = 0 ↔ roundHalfEven q % 2 = 0 := by omega
  rw [roundHalfEven_eq_iff, habs, heven]
  exact roundHalfEven_eq_iff.mp rfl

/-! ## Ties away from zero -/

@[simp] theorem roundHalfAway_intCast (n : ℤ) : roundHalfAway n = n := by
  unfold roundHalfAway
  split
  · rw [Int.floor_eq_iff]; constructor <;> linarith
  · rw [Int.ceil_eq_iff]; constructor <;> linarith

theorem roundHalfAway_mono {q q' : ℚ} (h : q ≤ q') : roundHalfAway q ≤ roundHalfAway q' := by
  unfold roundHalfAway
  split_ifs with hq hq' hq'
  · exact Int.floor_le_floor (by linarith)
  · linarith
  · have hlow : ⌈q - 1 / 2⌉ ≤ 0 := Int.ceil_le.mpr (by push_cast; linarith)
    have hup : 0 ≤ ⌊q' + 1 / 2⌋ := Int.floor_nonneg.mpr (by linarith)
    exact hlow.trans hup
  · exact Int.ceil_le_ceil (by linarith)

theorem le_roundHalfAway_iff {q : ℚ} (hq : 0 ≤ q) {n : ℤ} :
    n ≤ roundHalfAway q ↔ (n : ℚ) - 1 / 2 ≤ q := by
  rw [roundHalfAway, if_pos hq, Int.le_floor]
  constructor <;> intro h <;> linarith

theorem roundHalfAway_le {q : ℚ} (hq : 0 ≤ q) {n : ℤ} (h : q < n + 1 / 2) :
    roundHalfAway q ≤ n := by
  by_contra hlt
  have := (le_roundHalfAway_iff hq).mp (show n + 1 ≤ roundHalfAway q by omega)
  push_cast at this
  linarith

/-! ## Quantize and columns -/

def quantize (places : ℕ) (q : ℚ) : ℤ := roundHalfEven (q * 10 ^ places)

def numeric (places : ℕ) (q : ℚ) : ℤ := roundHalfAway (q * 10 ^ places)

/-- A rounding to `places` decimals keeps the order, and the numbers that have no more of them. -/
structure Rounds (places : ℕ) (round : ℚ → ℤ) : Prop where
  mono : Monotone round
  exact : ∀ n : ℤ, round (n / 10 ^ places) = n

theorem mul_pow_div_pow (places : ℕ) (n : ℤ) : (n : ℚ) / 10 ^ places * 10 ^ places = n :=
  div_mul_cancel₀ _ (by positivity)

theorem rounds_quantize (places : ℕ) : Rounds places (quantize places) where
  mono _ _ h := roundHalfEven_mono (mul_le_mul_of_nonneg_right h (by positivity))
  exact n := by rw [quantize, mul_pow_div_pow, roundHalfEven_intCast]

theorem rounds_numeric (places : ℕ) : Rounds places (numeric places) where
  mono _ _ h := roundHalfAway_mono (mul_le_mul_of_nonneg_right h (by positivity))
  exact n := by rw [numeric, mul_pow_div_pow, roundHalfAway_intCast]

theorem Rounds.le_of_le {places : ℕ} {round : ℚ → ℤ} (h : Rounds places round) {n : ℤ} {q : ℚ}
    (hq : (n : ℚ) / 10 ^ places ≤ q) : n ≤ round q :=
  (h.exact n).ge.trans (h.mono hq)

theorem Rounds.le_of_ge {places : ℕ} {round : ℚ → ℤ} (h : Rounds places round) {n : ℤ} {q : ℚ}
    (hq : q ≤ (n : ℚ) / 10 ^ places) : round q ≤ n :=
  (h.mono hq).trans (h.exact n).le

/-! ## The context precision -/

/-- The unit in the last of the 28 digits of `q`. -/
def unit (q : ℚ) : ℚ := 10 ^ (Int.log 10 |q| - 27)

/-- A result rounded to 28 significant digits, ties to even. -/
def context (q : ℚ) : ℚ := if q = 0 then 0 else roundHalfEven (q / unit q) * unit q

/-- The built-in `sum` over decimals: every partial sum is rounded. -/
def sum (qs : List ℚ) : ℚ := qs.foldl (fun acc q => context (acc + q)) 0

theorem unit_pos (q : ℚ) : 0 < unit q := zpow_pos (by norm_num) _

theorem context_of_pos {q : ℚ} (hq : 0 < q) :
    context q = roundHalfEven (q / unit q) * unit q := if_neg (ne_of_gt hq)

theorem pow_log_le {q : ℚ} (hq : 0 < q) : (10 : ℚ) ^ Int.log 10 |q| ≤ q := by
  rw [abs_of_pos hq]; exact Int.zpow_log_le_self (by norm_num) hq

theorem unit_neg (q : ℚ) : unit (-q) = unit q := by
  rw [unit, unit, abs_neg]

theorem context_neg (q : ℚ) : context (-q) = -context q := by
  by_cases hq : q = 0
  · simp [context, hq]
  · rw [context, context, if_neg hq, if_neg (neg_ne_zero.mpr hq), unit_neg, neg_div,
      roundHalfEven_neg]
    push_cast
    ring

theorem pow_log_eq {q : ℚ} : (10 : ℚ) ^ Int.log 10 |q| = ((10 ^ 27 : ℤ) : ℚ) * unit q := by
  rw [unit, zpow_sub₀ (by norm_num), show ((10 : ℚ) ^ (27 : ℤ)) = 10 ^ 27 from zpow_natCast _ 27]
  push_cast
  field_simp
  norm_num

theorem pow_log_le_context {q : ℚ} (hq : 0 < q) : (10 : ℚ) ^ Int.log 10 |q| ≤ context q := by
  have hle : (10 ^ 27 : ℤ) ≤ roundHalfEven (q / unit q) := by
    apply le_roundHalfEven
    rw [le_div_iff₀ (unit_pos q), ← pow_log_eq]
    exact pow_log_le hq
  rw [pow_log_eq, context_of_pos hq]
  exact mul_le_mul_of_nonneg_right (by exact_mod_cast hle) (unit_pos q).le

theorem context_le_pow {q : ℚ} (hq : 0 < q) : context q ≤ 10 ^ (Int.log 10 |q| + 1) := by
  have hpow : (10 : ℚ) ^ (Int.log 10 |q| + 1) = ((10 ^ 28 : ℤ) : ℚ) * unit q := by
    rw [zpow_add_one₀ (by norm_num), pow_log_eq]
    push_cast
    ring
  have hlt : q / unit q ≤ ((10 ^ 28 : ℤ) : ℚ) := by
    rw [div_le_iff₀ (unit_pos q), ← hpow, abs_of_pos hq]
    exact (Int.lt_zpow_succ_log_self (by norm_num) q).le
  have hle : roundHalfEven (q / unit q) ≤ 10 ^ 28 := by
    have := roundHalfEven_mono hlt
    rwa [roundHalfEven_intCast] at this
  rw [hpow, context_of_pos hq]
  exact mul_le_mul_of_nonneg_right (by exact_mod_cast hle) (unit_pos q).le

theorem context_nonneg {q : ℚ} (hq : 0 ≤ q) : 0 ≤ context q := by
  rcases hq.eq_or_lt with rfl | hpos
  · exact (if_pos rfl).ge
  · exact (zpow_nonneg (by norm_num) _).trans (pow_log_le_context hpos)

theorem context_mono_of_pos {q q' : ℚ} (hq : 0 < q) (h : q ≤ q') : context q ≤ context q' := by
  have hq' : 0 < q' := hq.trans_le h
  have hlog : Int.log 10 |q| ≤ Int.log 10 |q'| := by
    rw [abs_of_pos hq, abs_of_pos hq']
    exact Int.log_mono_right hq h
  rcases hlog.eq_or_lt with hsame | hless
  · -- both are rounded to the same unit
    have hunit : unit q = unit q' := by rw [unit, unit, hsame]
    have hle := roundHalfEven_mono (div_le_div_of_nonneg_right h (unit_pos q').le)
    rw [context_of_pos hq, context_of_pos hq', hunit]
    exact mul_le_mul_of_nonneg_right (by exact_mod_cast hle) (unit_pos q').le
  · -- a power of ten lies between them
    calc context q ≤ 10 ^ (Int.log 10 |q| + 1) := context_le_pow hq
      _ ≤ 10 ^ Int.log 10 |q'| := zpow_le_zpow_right₀ (by norm_num) hless
      _ ≤ context q' := pow_log_le_context hq'

theorem context_mono : Monotone context := by
  intro q q' h
  rcases lt_or_ge 0 q with hq | hq
  · exact context_mono_of_pos hq h
  · rcases lt_or_ge q' 0 with hq' | hq'
    · have hneg := context_mono_of_pos (neg_pos.mpr hq') (neg_le_neg h)
      rw [context_neg, context_neg] at hneg
      exact neg_le_neg_iff.mp hneg
    · have hlow := context_nonneg (neg_nonneg.mpr hq)
      rw [context_neg] at hlow
      exact (neg_nonneg.mp hlow).trans (context_nonneg hq')

/-- A number that has at most 28 digits. -/
def Fits (q : ℚ) : Prop := ∃ n e : ℤ, |n| < 10 ^ 28 ∧ q = n * 10 ^ e

theorem context_of_fits {q : ℚ} (h : Fits q) : context q = q := by
  obtain ⟨n, e, hn, hq⟩ := h
  by_cases hzero : q = 0
  · rw [context, if_pos hzero, hzero]
  have habs : |q| < (10 : ℚ) ^ (28 + e) := by
    have hn' : (|n| : ℚ) < 10 ^ 28 := by exact_mod_cast hn
    rw [hq, abs_mul, abs_of_pos (zpow_pos (by norm_num : (0 : ℚ) < 10) e),
      zpow_add₀ (by norm_num)]
    exact mul_lt_mul_of_pos_right hn' (zpow_pos (by norm_num) e)
  have hlog : Int.log 10 |q| < 28 + e :=
    (Int.lt_zpow_iff_log_lt (by norm_num) (abs_pos.mpr hzero)).mp habs
  obtain ⟨j, hj⟩ := Int.eq_ofNat_of_zero_le (show 0 ≤ e - (Int.log 10 |q| - 27) by omega)
  have hint : q / unit q = ((n * 10 ^ j : ℤ) : ℚ) := by
    rw [div_eq_iff (unit_pos q).ne', unit]
    nth_rewrite 1 [hq]
    push_cast
    rw [mul_assoc, ← zpow_natCast, ← zpow_add₀ (by norm_num)]
    congr 2
    omega
  rw [context, if_neg hzero, hint, roundHalfEven_intCast, ← hint]
  exact div_mul_cancel₀ q (unit_pos q).ne'

theorem le_context_of_fits {q x : ℚ} (hx : Fits x) (h : x ≤ q) : x ≤ context q :=
  (context_of_fits hx).ge.trans (context_mono h)

/-- A value with at most three decimals bounds the rounded result where it bounds the exact one. -/
theorem le_context {q : ℚ} {k : ℕ} {c : ℤ} (hq : 0 < q) (hc : c < 10 ^ 24)
    (h : (c : ℚ) / 10 ^ k ≤ q) : (c : ℚ) / 10 ^ k ≤ context q := by
  rcases le_or_gt 0 c with hpos | hneg
  · refine le_context_of_fits ⟨c, -k, ?_, ?_⟩ h
    · rw [abs_of_nonneg hpos]
      omega
    · rw [zpow_neg, zpow_natCast, div_eq_mul_inv]
  · have hle : (c : ℚ) / 10 ^ k ≤ 0 :=
      div_nonpos_of_nonpos_of_nonneg (by exact_mod_cast hneg.le) (by positivity)
    exact hle.trans (context_nonneg hq.le)

end Decimal
end Rotas

import Rotas.Lib.Decimal

/-!
# Rotas.Lib.Binary64

The numbers that a float can be, over exact rationals.

* `nearest q`  — `q` rounded to 53 binary digits and to multiples of `2^-1074`, ties to even. It has
  no upper bound.
* `ofRat q`    — the same, and none from `2^1024` on.
* `shortest q` — the number that is written for a float.
* `nearest_mono`, `nearest_near` — rounding keeps the order, and is off by `2^-53` of the number.
* `sum qs`     — the sum that is rounded at every step; `sum_near` says how far it is off, in
  whatever order, and `sum_le_sum` that more and larger terms make no less.
-/

namespace Rotas
namespace Binary64

open Decimal (roundHalfEven roundHalfEven_mono roundHalfEven_intCast roundHalfEven_eq_iff)

/-- The exponent of the last place. -/
def place (q : ℚ) : ℤ := max (Int.log 2 |q| - 52) (-1074)

def nearest (q : ℚ) : ℚ := roundHalfEven (q / 2 ^ place q) * 2 ^ place q

def ofRat (q : ℚ) : Option ℚ := if |nearest q| < 2 ^ 1024 then some (nearest q) else none

/-- The number with the fewest digits that reads back as the float, the nearest such. -/
def shortest (q : ℚ) : ℚ :=
  ((List.range 17).findSome? fun digits =>
    let unit : ℚ := 10 ^ (Int.log 10 |q| - digits)
    ([roundHalfEven (q / unit), ⌊q / unit⌋, ⌈q / unit⌉].map (· * unit)).find? (nearest · = q)).getD q

/-! ## Rounding -/

section

variable {q q' x y : ℚ} {n m : ℕ} {k : ℤ}

theorem zpow_pos' (k : ℤ) : (0 : ℚ) < 2 ^ k := zpow_pos (by norm_num) k

/-- A power of two from the last place on is a multiple of it. -/
theorem exists_multiple (h : place q ≤ k) : ∃ c : ℤ, (2 : ℚ) ^ k / 2 ^ place q = c := by
  obtain ⟨j, hj⟩ := Int.eq_ofNat_of_zero_le (show 0 ≤ k - place q by omega)
  refine ⟨2 ^ j, ?_⟩
  rw [← zpow_sub₀ (by norm_num), hj]
  push_cast
  exact zpow_natCast _ _

theorem nearest_le (h : place q ≤ k) (hq : q ≤ 2 ^ k) : nearest q ≤ 2 ^ k := by
  obtain ⟨c, hc⟩ := exists_multiple h
  have hle := roundHalfEven_mono (div_le_div_of_nonneg_right hq (zpow_pos' (place q)).le)
  rw [hc, roundHalfEven_intCast] at hle
  rw [nearest, ← le_div_iff₀ (zpow_pos' _), hc]
  exact_mod_cast hle

theorem le_nearest (h : place q ≤ k) (hq : 2 ^ k ≤ q) : 2 ^ k ≤ nearest q := by
  obtain ⟨c, hc⟩ := exists_multiple h
  have hle := roundHalfEven_mono (div_le_div_of_nonneg_right hq (zpow_pos' (place q)).le)
  rw [hc, roundHalfEven_intCast] at hle
  rw [nearest, ← div_le_iff₀ (zpow_pos' _), hc]
  exact_mod_cast hle

theorem nearest_zero : nearest 0 = 0 := by
  have hzero : roundHalfEven 0 = 0 := by exact_mod_cast roundHalfEven_intCast 0
  rw [nearest, zero_div, hzero, Int.cast_zero, zero_mul]

theorem nearest_nonneg (h : 0 ≤ q) : 0 ≤ nearest q := by
  have hle := roundHalfEven_mono (div_nonneg h (zpow_pos' (place q)).le)
  rw [← Int.cast_zero, roundHalfEven_intCast] at hle
  exact mul_nonneg (by exact_mod_cast hle) (zpow_pos' _).le

theorem nearest_nonpos (h : q ≤ 0) : nearest q ≤ 0 := by
  have hle := roundHalfEven_mono (div_nonpos_of_nonpos_of_nonneg h (zpow_pos' (place q)).le)
  rw [← Int.cast_zero, roundHalfEven_intCast] at hle
  exact mul_nonpos_of_nonpos_of_nonneg (by exact_mod_cast hle) (zpow_pos' _).le

theorem nearest_mono (hq : 0 ≤ q) (h : q ≤ q') : nearest q ≤ nearest q' := by
  rcases hq.eq_or_lt with rfl | hpos
  · rw [nearest_zero]
    exact nearest_nonneg h
  have hpos' := hpos.trans_le h
  have hlog : Int.log 2 |q| ≤ Int.log 2 |q'| := by
    rw [abs_of_pos hpos, abs_of_pos hpos']
    exact Int.log_mono_right hpos h
  by_cases hplace : place q = place q'
  · -- both are rounded to the same place
    have hle := roundHalfEven_mono (div_le_div_of_nonneg_right h (zpow_pos' (place q')).le)
    rw [nearest, nearest, hplace]
    exact mul_le_mul_of_nonneg_right (by exact_mod_cast hle) (zpow_pos' _).le
  · -- a power of two lies between them
    have hless : Int.log 2 |q| < Int.log 2 |q'| := by
      simp only [place] at hplace
      omega
    have hup : q ≤ 2 ^ Int.log 2 |q'| := by
      have hlt := Int.lt_zpow_succ_log_self (b := 2) (by norm_num) |q|
      rw [abs_of_pos hpos] at hlt
      refine hlt.le.trans ?_
      rw [← abs_of_pos hpos]
      exact zpow_le_zpow_right₀ (by norm_num) hless
    have hlow : (2 : ℚ) ^ Int.log 2 |q'| ≤ q' := by
      rw [abs_of_pos hpos']
      exact Int.zpow_log_le_self (by norm_num) hpos'
    calc nearest q ≤ 2 ^ Int.log 2 |q'| := nearest_le (by simp only [place] at hplace ⊢; omega) hup
      _ ≤ nearest q' := le_nearest (by simp only [place] at hplace ⊢; omega) hlow

/-- A number with 53 digits that reach no further than its place is a float. -/
theorem place_le (hx : 0 < x) (hk : -1074 ≤ k) (h : x < 2 ^ (k + 53)) : place x ≤ k := by
  have hlog : Int.log 2 |x| < k + 53 := by
    rw [abs_of_pos hx]
    exact (Int.lt_zpow_iff_log_lt (by norm_num) hx).mp h
  simp only [place]
  omega

theorem nearest_eq {c : ℤ} (h : place (c * 2 ^ k) ≤ k) : nearest (c * 2 ^ k) = c * 2 ^ k := by
  obtain ⟨j, hj⟩ := exists_multiple h
  rw [nearest, mul_div_assoc, hj]
  have hint : (c : ℚ) * j = (c * j : ℤ) := by push_cast; rfl
  rw [hint, roundHalfEven_intCast, ← hint, ← hj, mul_assoc, div_mul_cancel₀ _ (zpow_pos' _).ne']

theorem nearest_nearest (hq : 0 ≤ q) : nearest (nearest q) = nearest q := by
  have hp : -1074 ≤ place q := le_max_right _ _
  rcases (nearest_nonneg hq).eq_or_lt with hzero | hpos
  · rw [← hzero, nearest_zero]
  have htop : q ≤ 2 ^ (place q + 53) := by
    rcases hq.eq_or_lt with rfl | hq
    · exact (zpow_pos' _).le
    · have hlt := Int.lt_zpow_succ_log_self (b := 2) (by norm_num) |q|
      have hlog : Int.log 2 |q| + 1 ≤ place q + 53 := by
        simp only [place]
        omega
      exact (le_abs_self q).trans (hlt.le.trans (zpow_le_zpow_right₀ (by norm_num) hlog))
  rcases (nearest_le (by omega) htop).lt_or_eq with hlt | heq
  · exact nearest_eq (place_le hpos hp hlt)
  · have hone := @nearest_eq (place q + 53) 1 (by
      rw [Int.cast_one, one_mul]
      exact place_le (zpow_pos' _) (by omega) (zpow_lt_zpow_right₀ (by norm_num) (by omega)))
    rw [Int.cast_one, one_mul] at hone
    rw [heq, hone]

/-! ## How far it is off -/

/-- Zero, or not so small that digits are lost. -/
def Normal (q : ℚ) : Prop := q = 0 ∨ 2 ^ (-1022 : ℤ) ≤ q

/-- `x` is `y` up to `n` roundings. -/
def Near (n : ℕ) (x y : ℚ) : Prop := (1 - 1 / 2 ^ 53) ^ n * y ≤ x ∧ x ≤ (1 + 1 / 2 ^ 53) ^ n * y

theorem Normal.nonneg (h : Normal q) : 0 ≤ q :=
  h.elim (fun h => h.ge) fun h => (zpow_pos' _).le.trans h

theorem Normal.add (h : Normal q) (h' : Normal q') : Normal (q + q') := by
  rcases h with rfl | hq
  · rwa [zero_add]
  · exact .inr (hq.trans (le_add_of_nonneg_right h'.nonneg))

theorem log_of_normal (h : (2 : ℚ) ^ (-1022 : ℤ) ≤ q) : -1022 ≤ Int.log 2 |q| := by
  have hpos := (zpow_pos' _).trans_le h
  rw [abs_of_pos hpos]
  exact (Int.zpow_le_iff_le_log (by norm_num) hpos).mp h

theorem zpow_log_le (hq : 0 < q) : (2 : ℚ) ^ Int.log 2 |q| ≤ q := by
  rw [abs_of_pos hq]
  exact Int.zpow_log_le_self (by norm_num) hq

theorem Normal.nearest (h : Normal q) : Normal (nearest q) := by
  rcases h with rfl | hq
  · exact .inl nearest_zero
  · have hlog := log_of_normal hq
    refine .inr ((zpow_le_zpow_right₀ (by norm_num) hlog).trans (le_nearest ?_ ?_))
    · simp only [place]
      omega
    · exact zpow_log_le ((zpow_pos' _).trans_le hq)

theorem nearest_near (h : Normal q) : Near 1 (nearest q) q := by
  rcases h with rfl | hq
  · rw [Near, nearest_zero]
    norm_num
  have hpos := (zpow_pos' _).trans_le hq
  have hplace : place q = Int.log 2 |q| - 52 := by
    have := log_of_normal hq
    simp only [place]
    omega
  -- half a unit in the last place is at most `2^-53` of the number
  have hhalf : (2 : ℚ) ^ place q / 2 ≤ 1 / 2 ^ 53 * q := by
    have hlow := zpow_log_le hpos
    rw [hplace, zpow_sub₀ (by norm_num)]
    norm_num
    linarith
  have hoff : |q / 2 ^ place q - roundHalfEven (q / 2 ^ place q)| ≤ 1 / 2 :=
    (roundHalfEven_eq_iff.mp rfl).elim le_of_lt fun h => h.1.le
  have hdist : |q - nearest q| ≤ 2 ^ place q / 2 := by
    have hscaled : q - nearest q =
        (q / 2 ^ place q - roundHalfEven (q / 2 ^ place q)) * 2 ^ place q := by
      rw [sub_mul, div_mul_cancel₀ _ (zpow_pos' _).ne', nearest]
    rw [hscaled, abs_mul, abs_of_pos (zpow_pos' _)]
    linarith [mul_le_mul_of_nonneg_right hoff (zpow_pos' (place q)).le]
  obtain ⟨hlow, hup⟩ := abs_le.mp hdist
  constructor <;> linarith

theorem Near.add {x' y' : ℚ} (h : Near n x y) (h' : Near n x' y') : Near n (x + x') (y + y') :=
  ⟨by linarith [h.1, h'.1], by linarith [h.2, h'.2]⟩

theorem Near.mono (h : Near n x y) (hy : 0 ≤ y) (hnm : n ≤ m) : Near m x y := by
  have hlow : (1 - 1 / 2 ^ 53 : ℚ) ^ m ≤ (1 - 1 / 2 ^ 53) ^ n :=
    pow_le_pow_of_le_one (by norm_num) (by norm_num) hnm
  have hup : (1 + 1 / 2 ^ 53 : ℚ) ^ n ≤ (1 + 1 / 2 ^ 53) ^ m :=
    pow_le_pow_right₀ (by norm_num) hnm
  exact ⟨(mul_le_mul_of_nonneg_right hlow hy).trans h.1,
    h.2.trans (mul_le_mul_of_nonneg_right hup hy)⟩

theorem Near.nearest (h : Near n x y) (hx : Normal x) : Near (n + 1) (nearest x) y := by
  obtain ⟨hlow, hup⟩ := nearest_near hx
  rw [pow_one] at hlow hup
  constructor
  · calc (1 - 1 / 2 ^ 53) ^ (n + 1) * y = (1 - 1 / 2 ^ 53) * ((1 - 1 / 2 ^ 53) ^ n * y) := by ring
      _ ≤ (1 - 1 / 2 ^ 53) * x := mul_le_mul_of_nonneg_left h.1 (by norm_num)
      _ ≤ _ := hlow
  · calc Binary64.nearest x ≤ (1 + 1 / 2 ^ 53) * x := hup
      _ ≤ (1 + 1 / 2 ^ 53) * ((1 + 1 / 2 ^ 53) ^ n * y) :=
        mul_le_mul_of_nonneg_left h.2 (by norm_num)
      _ = _ := by ring

end

/-! ## Sums -/

def sum (qs : List ℚ) : ℚ := qs.foldl (fun acc q => nearest (acc + q)) 0

section

universe u

variable {ι : Type u} {n : ℕ} {w v : ι → ℚ}

theorem sum_near (hw : ∀ x, Normal (w x)) (hv : ∀ x, 0 ≤ v x) (h : ∀ x, Near n (w x) (v x))
    (xs : List ι) : Near (n + xs.length) (sum (xs.map w)) (xs.map v).sum := by
  suffices hacc : ∀ (xs : List ι) (m : ℕ) (a b : ℚ), n ≤ m → Normal a → 0 ≤ b → Near m a b →
      Near (m + xs.length) ((xs.map w).foldl (fun acc q => nearest (acc + q)) a)
        (b + (xs.map v).sum) by
    have hsum := hacc xs n 0 0 le_rfl (.inl rfl) le_rfl ⟨by simp, by simp⟩
    rwa [zero_add] at hsum
  intro xs
  induction xs with
  | nil =>
    intro m a b _ _ _ hab
    simpa using hab
  | cons x xs ih =>
    intro m a b hm ha hb hab
    have hstep := (hab.add ((h x).mono (hv x) hm)).nearest (ha.add (hw x))
    have hrest := ih (m + 1) _ _ (by omega) (ha.add (hw x)).nearest (add_nonneg hb (hv x)) hstep
    rw [List.map_cons, List.foldl_cons, List.map_cons, List.sum_cons, ← add_assoc, List.length_cons,
      show m + (xs.length + 1) = m + 1 + xs.length by omega]
    exact hrest

theorem sum_le_sum {w' : ι → ℚ} (hw : ∀ x, 0 ≤ w x) (hle : ∀ x, w x ≤ w' x) {xs xs' : List ι}
    (h : xs.Sublist xs') : sum (xs.map w) ≤ sum (xs'.map w') := by
  suffices hacc : ∀ a a' : ℚ, 0 ≤ a → a ≤ a' → nearest a' = a' →
      (xs.map w).foldl (fun acc q => nearest (acc + q)) a ≤
        (xs'.map w').foldl (fun acc q => nearest (acc + q)) a' from
    hacc 0 0 le_rfl le_rfl nearest_zero
  induction h with
  | slnil => exact fun a a' _ haa' _ => haa'
  | cons x _ ih =>
    intro a a' ha haa' hfloat
    have hadd : 0 ≤ w' x := (hw x).trans (hle x)
    have hgrows : a' ≤ nearest (a' + w' x) :=
      hfloat.symm.le.trans (nearest_mono (ha.trans haa') (by linarith))
    refine ih a _ ha (haa'.trans hgrows) (nearest_nearest ?_)
    linarith
  | cons_cons x _ ih =>
    intro a a' ha haa' _
    have hadd := hw x
    have hmore := hle x
    exact ih _ _ (nearest_nonneg (by linarith)) (nearest_mono (by linarith) (by linarith))
      (nearest_nearest (by linarith))

end

/-- Ten times 0.1 is less than one, and 0.1 is written as it was. -/
example : sum (List.replicate 10 (nearest (1 / 10))) < 1 ∧
    shortest (nearest (1 / 10)) = 1 / 10 := by decide +kernel

end Binary64
end Rotas

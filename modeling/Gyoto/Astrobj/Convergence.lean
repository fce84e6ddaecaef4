import Gyoto.Astrobj.Integration

/-!
# When the loop of `integrateEmission` exits

Over the reals, for an emission continuous on the band. The trapezoid sums approach the integral
as the subintervals narrow (uniformly continuous emission), so when the integral is positive two
successive sums eventually agree to one percent of the latest. With an emission negative on the
band every sum is negative, and the exit test `fabs(Icur-Iprev) <= 1e-2*Icur` compares with a
negative bound and never holds.

* **`negative_emission_never_converges`**: an emission negative on the band never lets the loop
  exit;
* `abs_trapezoid_sub_integral_le`: the error of the sum over narrow subintervals;
* **`integrateEmission_terminates`**: a positive band integral does.
-/

namespace Gyoto.Astrobj

open intervalIntegral

theorem grid_mem_Icc {a b : ℝ} (hab : a ≤ b) {n j : ℕ} (hn : 0 < n) (hj : j ≤ n) :
    a + j * ((b - a) / n) ∈ Set.Icc a b := by
  have hh : 0 ≤ (b - a) / n := div_nonneg (sub_nonneg.2 hab) (Nat.cast_nonneg n)
  have hle : (j : ℝ) * ((b - a) / n) ≤ n * ((b - a) / n) := mul_le_mul_of_nonneg_right (Nat.cast_le.2 hj) hh
  rw [mul_div_cancel₀ _ (Nat.cast_ne_zero.2 hn.ne')] at hle
  exact ⟨le_add_of_nonneg_right (mul_nonneg j.cast_nonneg hh), le_sub_iff_add_le'.1 hle⟩

theorem trapezoid_neg {f : ℝ → ℝ} {a b : ℝ} (hab : a < b) (hf : ∀ t ∈ Set.Icc a b, f t < 0)
    {n : ℕ} (hn : 0 < n) : trapezoid f a b n < 0 := by
  have hh : 0 < (b - a) / n := div_pos (sub_pos.2 hab) (Nat.cast_pos.2 hn)
  refine Finset.sum_neg (fun j hj => ?_) ⟨0, Finset.mem_range.2 hn⟩
  have hj := Finset.mem_range.1 hj
  have h0 := hf _ (grid_mem_Icc hab.le hn hj.le)
  have h1 := hf _ (grid_mem_Icc hab.le hn (Nat.succ_le_of_lt hj))
  push_cast at h1
  exact div_neg_of_neg_of_pos (mul_neg_of_pos_of_neg hh (by linarith)) two_pos

/-- **A negative emission never passes the exit test.** For every emission negative on a
non-empty band, every trapezoid sum is negative, so `fabs(Icur-Iprev) <= 1e-2*Icur` compares with
a negative bound and fails at every pass: whatever its fuel, the loop never returns. The optically
thin fall-back emission `dsem` is such an emission when `dsem < 0`. -/
theorem negative_emission_never_converges {f : ℝ → ℝ} {nu1 nu2 : ℝ} (hne : nu1 ≠ nu2)
    (hneg : ∀ t ∈ Set.uIcc nu1 nu2, f t < 0) (fuel : ℕ) :
    integrateEmission f nu1 nu2 fuel = none := by
  cases h : integrateEmission f nu1 nu2 fuel with
  | none => rfl
  | some r =>
    obtain ⟨last, -, -, hc, -⟩ := integrateEmission_eq_some h
    have hT := trapezoid_neg (min_lt_max.2 hne) hneg (Nat.two_pow_pos last)
    exact absurd ((abs_nonneg _).trans hc) (not_le.2 (mul_neg_of_pos_of_neg (by norm_num) hT))

/-- The constant emission `-1`, continuous, on `[0, 1]`. -/
theorem negative_emission_never_converges_minus_one :
    Continuous (fun _ : ℝ => (-1 : ℝ)) ∧ (0 : ℝ) ≠ 1 ∧
      (∀ t ∈ Set.uIcc (0 : ℝ) 1, (-1 : ℝ) < 0) ∧
      ∀ fuel, integrateEmission (fun _ : ℝ => (-1 : ℝ)) 0 1 fuel = none :=
  ⟨continuous_const, zero_ne_one, fun _ _ => neg_one_lt_zero,
    negative_emission_never_converges zero_ne_one fun _ _ => neg_one_lt_zero⟩

theorem abs_trapezoid_piece_sub_integral_le {f : ℝ → ℝ} {x y ε : ℝ} (hxy : x ≤ y)
    (hint : IntervalIntegrable f MeasureTheory.volume x y)
    (hε : ∀ t ∈ Set.Ioc x y, |f x - f t| < ε ∧ |f y - f t| < ε) :
    |(y - x) * (f x + f y) / 2 - ∫ t in x..y, f t| ≤ (y - x) * ε := by
  have hc : (y - x) * (f x + f y) / 2 = ∫ _ in x..y, (f x + f y) / 2 := by
    rw [integral_const, smul_eq_mul]; ring
  rw [hc, ← integral_sub intervalIntegrable_const hint]
  have key : ‖∫ t in x..y, ((f x + f y) / 2 - f t)‖ ≤ ε * |y - x| :=
    norm_integral_le_of_norm_le_const fun t ht => by
      rw [Set.uIoc_of_le hxy] at ht
      obtain ⟨h1, h2⟩ := hε t ht
      rw [Real.norm_eq_abs, abs_le]
      constructor <;> linarith [abs_lt.1 h1, abs_lt.1 h2]
  rwa [Real.norm_eq_abs, abs_of_nonneg (sub_nonneg.2 hxy), mul_comm] at key

/-- **The trapezoid sum approaches the integral**: when `f` varies by less than `ε` between points
of `[a, b]` closer than `δ`, the sum over `n` subintervals narrower than `δ` is within `(b - a) ε`
of the integral. -/
theorem abs_trapezoid_sub_integral_le {f : ℝ → ℝ} {a b ε δ : ℝ} (hab : a ≤ b)
    (hf : ContinuousOn f (Set.Icc a b))
    (hδ : ∀ x ∈ Set.Icc a b, ∀ y ∈ Set.Icc a b, dist x y < δ → dist (f x) (f y) < ε)
    {n : ℕ} (hn : 0 < n) (hw : (b - a) / n < δ) :
    |trapezoid f a b n - ∫ t in a..b, f t| ≤ (b - a) * ε := by
  set h := (b - a) / n with hh
  set x : ℕ → ℝ := fun j => a + j * h with hxdef
  have hxs : ∀ j, x (j + 1) = x j + h := fun j => by simp only [hxdef]; push_cast; ring
  have hmem : ∀ j ≤ n, x j ∈ Set.Icc a b := fun j hj => grid_mem_Icc hab hn hj
  have hint : ∀ j < n, IntervalIntegrable f MeasureTheory.volume (x j) (x (j + 1)) := fun j hj =>
    (hf.mono (Set.uIcc_subset_Icc (hmem j hj.le) (hmem (j + 1) hj))).intervalIntegrable
  have hpiece : ∀ j < n, |h * (f (x j) + f (x (j + 1))) / 2 - ∫ t in x j..x (j + 1), f t| ≤ h * ε := by
    intro j hj
    have hxy : x j ≤ x (j + 1) := by
      rw [hxs]; exact le_add_of_nonneg_right (div_nonneg (sub_nonneg.2 hab) n.cast_nonneg)
    have := abs_trapezoid_piece_sub_integral_le hxy (hint j hj) fun t ht => by
      have htm : t ∈ Set.Icc a b := ⟨(hmem j hj.le).1.trans ht.1.le, ht.2.trans (hmem (j + 1) hj).2⟩
      have d1 := hδ _ (hmem j hj.le) t htm (by
        rw [Real.dist_eq, abs_lt]; constructor <;> linarith only [ht.1, ht.2, hxs j, hw])
      have d2 := hδ _ (hmem (j + 1) hj) t htm (by
        rw [Real.dist_eq, abs_lt]; constructor <;> linarith only [ht.1, ht.2, hxs j, hw])
      exact ⟨by rwa [Real.dist_eq] at d1, by rwa [Real.dist_eq] at d2⟩
    rw [hxs, add_sub_cancel_left] at this
    rwa [hxs]
  have hT : trapezoid f a b n = ∑ j in Finset.range n, h * (f (x j) + f (x (j + 1))) / 2 := by
    simp only [trapezoid, hxdef, Nat.cast_succ]
  have hI : ∫ t in a..b, f t = ∑ j in Finset.range n, ∫ t in x j..x (j + 1), f t := by
    rw [sum_integral_adjacent_intervals hint]
    simp only [hxdef, Nat.cast_zero, zero_mul, add_zero, hh]
    congr 1
    field_simp
  rw [hT, hI, ← Finset.sum_sub_distrib]
  calc |∑ j in Finset.range n, (h * (f (x j) + f (x (j + 1))) / 2 - ∫ t in x j..x (j + 1), f t)|
      ≤ ∑ j in Finset.range n, |h * (f (x j) + f (x (j + 1))) / 2 - ∫ t in x j..x (j + 1), f t| :=
        Finset.abs_sum_le_sum_abs _ _
    _ ≤ ∑ _j in Finset.range n, h * ε := Finset.sum_le_sum fun j hj => hpiece j (Finset.mem_range.1 hj)
    _ = (b - a) * ε := by
        rw [Finset.sum_const, Finset.card_range, nsmul_eq_mul, hh]
        field_simp

theorem abs_sub_le_of_near {T0 T1 I : ℝ} (hI : 0 < I) (e1 : |T1 - I| ≤ I / 300)
    (e0 : |T0 - I| ≤ I / 300) : |T1 - T0| ≤ 1e-2 * T1 :=
  calc |T1 - T0| ≤ |T1 - I| + |I - T0| := abs_sub_le T1 I T0
    _ ≤ I / 300 + I / 300 := add_le_add e1 (by rwa [abs_sub_comm])
    _ ≤ 1e-2 * T1 := by
      rw [show (1e-2 : ℝ) = 1 / 100 by norm_num]; linarith [(abs_le.1 e1).1]

/-- **The loop exits when the band integral is positive.** For every emission continuous on the
band between `nu1` and `nu2`, if the bounds are equal or the integral of the emission over the
band is positive, `integrateEmission` returns once its loops may run long enough. -/
theorem integrateEmission_terminates {f : ℝ → ℝ} {nu1 nu2 : ℝ}
    (hf : ContinuousOn f (Set.uIcc nu1 nu2))
    (hpos : nu1 = nu2 ∨ 0 < ∫ t in min nu1 nu2..max nu1 nu2, f t) :
    ∃ fuel, (integrateEmission f nu1 nu2 fuel).isSome := by
  rcases hpos with rfl | hI
  · refine ⟨2, integrateEmission_isSome ?_ le_rfl le_rfl⟩
    simp [Converged, trapezoid_self]
  set a := min nu1 nu2
  set b := max nu1 nu2
  have hlt : a < b := min_le_max.lt_of_ne fun h => by
    rw [show a = b from h, integral_same] at hI
    exact lt_irrefl _ hI
  set I := ∫ t in a..b, f t
  have hε : 0 < I / (300 * (b - a)) := div_pos hI (by linarith)
  obtain ⟨δ, hδ, hu⟩ := Metric.uniformContinuousOn_iff.1
    (isCompact_Icc.uniformContinuousOn_of_continuous hf) _ hε
  obtain ⟨m, hm⟩ := pow_unbounded_of_one_lt ((b - a) / δ) one_lt_two
  have w0 : (b - a) / ((2 ^ m : ℕ) : ℝ) < δ := by
    push_cast
    rw [div_lt_iff₀ (pow_pos two_pos m)]
    rwa [div_lt_iff₀ hδ, mul_comm] at hm
  have w1 : (b - a) / ((2 ^ (m + 1) : ℕ) : ℝ) < δ := by
    refine lt_of_le_of_lt ?_ w0
    push_cast
    exact div_le_div_of_nonneg_left (by linarith) (pow_pos two_pos m)
      (pow_le_pow_right₀ (by norm_num) (Nat.le_succ m))
  have e0 := abs_trapezoid_sub_integral_le hlt.le hf hu (Nat.two_pow_pos m) w0
  have e1 := abs_trapezoid_sub_integral_le hlt.le hf hu (Nat.two_pow_pos (m + 1)) w1
  have hba : (b - a) * (I / (300 * (b - a))) = I / 300 := by
    have : b - a ≠ 0 := (sub_pos.2 hlt).ne'
    rw [mul_comm 300, ← div_div, ← mul_div_assoc, mul_div_cancel₀ _ this]
  rw [hba] at e0 e1
  have hc : Converged f a b (m + 1) := by
    rw [Converged, Nat.add_sub_cancel]
    exact abs_sub_le_of_near hI e1 e0
  exact ⟨2 ^ (m + 1), integrateEmission_isSome hc (by omega) le_rfl⟩

/-- The emission `1` over `[0, 1]`. -/
theorem integrateEmission_terminates_one :
    ContinuousOn (fun _ : ℝ => (1 : ℝ)) (Set.uIcc 0 1) ∧
      ((0 : ℝ) = 1 ∨ 0 < ∫ _ in (min (0 : ℝ) 1)..(max 0 1), (1 : ℝ)) ∧
      ∃ fuel, (integrateEmission (fun _ : ℝ => (1 : ℝ)) 0 1 fuel).isSome :=
  ⟨continuousOn_const, .inr (by simp),
    integrateEmission_terminates continuousOn_const (.inr (by simp))⟩

end Gyoto.Astrobj

import Mathlib

/-!
# The band integral `integrateEmission`

`Generic::integrateEmission(nu1, nu2, ...)` integrates the scalar emission over a band by the
composite trapezoid rule, doubling the subintervals at each pass of a do-while loop until two
successive estimates agree to one percent of the latest. Over any linear ordered field, with the
emission a function `f` (its value does not depend on the calls made before, see
`results_independent_of_history`), and each loop cut after `fuel` iterations:

* `midpointLoop`, `Quadrature.pass`, `refineLoop`, `sweep`, `integrateEmission`: the code;
* `trapezoid`, `Quadrature.after`, `passPoints`, `Converged`: the sums, the state after `k`
  passes, the points a pass evaluates and the exit test;
* `trapezoid_two_mul`: doubling the subintervals, the identity one pass computes;
* `pass_after`, `refineLoop_after_eq_some`, `refineLoop_after_isSome`: one pass, and a run;
* **`integrateEmission_refines_trapezoid`**.
-/

namespace Gyoto.Astrobj

variable {𝕜 : Type} [LinearOrderedField 𝕜]

/-- The midpoint loop of one pass,
`for (nu = nu1 + 0.5*dnux2; nu < nu2; nu += dnux2) Icur += emission(nu, ...) * dnux2;`, cut
after `fuel` tests of its condition: the new `Icur`, and the points `emission` was called at. -/
def midpointLoop (f : 𝕜 → 𝕜) (nu2 dnux2 : 𝕜) : Nat → 𝕜 → 𝕜 → Option (𝕜 × List 𝕜)
  | 0, _, _ => none
  | fuel + 1, nu, Icur =>
    if nu < nu2 then
      (midpointLoop f nu2 dnux2 fuel (nu + dnux2) (Icur + f nu * dnux2)).map fun (Icur, ps) =>
        (Icur, nu :: ps)
    else some (Icur, [])

/-- What the do-while loop of `integrateEmission` carries from one pass to the next. -/
structure Quadrature (𝕜 : Type) where
  Icur : 𝕜
  dnux2 : 𝕜

/-- One pass of the loop body: halve `dnux2`, add the midpoints, halve `Icur`. -/
def Quadrature.pass (f : 𝕜 → 𝕜) (nu1 nu2 : 𝕜) (fuel : Nat) (q : Quadrature 𝕜) :
    Option (Quadrature 𝕜 × List 𝕜) :=
  let dnux2 := q.dnux2 * 0.5
  (midpointLoop f nu2 dnux2 fuel (nu1 + 0.5 * dnux2) q.Icur).map fun (Icur, ps) =>
    (⟨Icur * 0.5, dnux2⟩, ps)

/-- `do { ... } while (fabs(Icur-Iprev) > (1e-2 * Icur));`, cut after `n` passes. -/
def refineLoop (f : 𝕜 → 𝕜) (nu1 nu2 : 𝕜) (fuel : Nat) : Nat → Quadrature 𝕜 → Option (𝕜 × List 𝕜)
  | 0, _ => none
  | n + 1, q => (q.pass f nu1 nu2 fuel).bind fun (q', ps) =>
    if |q'.Icur - q.Icur| > 1e-2 * q'.Icur then
      (refineLoop f nu1 nu2 fuel n q').map fun (I, qs) => (I, ps ++ qs)
    else some (q'.Icur, ps)

/-- The body of `integrateEmission` once `nu1 ≤ nu2`: the end points, then the passes. -/
def sweep (f : 𝕜 → 𝕜) (nu1 nu2 : 𝕜) (fuel : Nat) : Option (𝕜 × List 𝕜) :=
  let Inu1 := f nu1
  let Inu2 := f nu2
  let dnux2 := (nu2 - nu1) * 2.
  (refineLoop f nu1 nu2 fuel fuel ⟨(Inu2 + Inu1) * dnux2 * 0.25, dnux2⟩).map fun (I, ps) =>
    (I, nu1 :: nu2 :: ps)

/-- `Generic::integrateEmission(nu1, nu2, dsem, cph, co)`, with `f` the scalar emission at `dsem`
and the hit, every loop cut after `fuel` iterations: the estimate it returns and the points
`emission` was called at, in order. -/
def integrateEmission (f : 𝕜 → 𝕜) (nu1 nu2 : 𝕜) (fuel : Nat) : Option (𝕜 × List 𝕜) :=
  if nu1 > nu2 then sweep f nu2 nu1 fuel else sweep f nu1 nu2 fuel

/-! ### The composite trapezoid sums -/

/-- The composite trapezoid sum of `f` over `[a, b]` with `n` equal subintervals. -/
def trapezoid (f : 𝕜 → 𝕜) (a b : 𝕜) (n : Nat) : 𝕜 :=
  ∑ j in Finset.range n, (b - a) / n * (f (a + j * ((b - a) / n)) + f (a + (j + 1) * ((b - a) / n))) / 2

theorem half_eq_inv_two : (0.5 : 𝕜) = 2⁻¹ := by norm_num

theorem sum_range_two_mul {M : Type} [AddCommMonoid M] (g : Nat → M) (n : Nat) :
    ∑ i in Finset.range (2 * n), g i = ∑ j in Finset.range n, (g (2 * j) + g (2 * j + 1)) := by
  induction n with
  | zero => simp
  | succ n ih =>
    rw [show 2 * (n + 1) = 2 * n + 1 + 1 by ring, Finset.sum_range_succ, Finset.sum_range_succ, ih,
      Finset.sum_range_succ, add_assoc]

/-- **Doubling the subintervals**: the sum over `2 n` subintervals is the mean of the sum over `n`
and the midpoint sum over the same `n`. -/
theorem trapezoid_two_mul (f : 𝕜 → 𝕜) (a b : 𝕜) {n : Nat} (hn : 0 < n) :
    trapezoid f a b (2 * n) =
      (trapezoid f a b n + ∑ j in Finset.range n, f (a + 0.5 * ((b - a) / n) + j * ((b - a) / n)) *
        ((b - a) / n)) * 0.5 := by
  have hn' : (n : 𝕜) ≠ 0 := Nat.cast_ne_zero.2 hn.ne'
  set h := (b - a) / n with hh
  have hh2 : (b - a) / ((2 * n : Nat) : 𝕜) = h / 2 := by rw [hh, div_div, Nat.cast_mul, Nat.cast_two, mul_comm (n : 𝕜)]
  unfold trapezoid
  rw [sum_range_two_mul, ← Finset.sum_add_distrib, Finset.sum_mul]
  refine Finset.sum_congr rfl fun j _ => ?_
  rw [hh2, ← hh]
  have e1 : a + ((2 * j : Nat) : 𝕜) * (h / 2) = a + j * h := by push_cast; ring
  have e2 : a + (((2 * j + 1 : Nat) : 𝕜) + 1) * (h / 2) = a + (j + 1) * h := by push_cast; ring
  have e3 : a + ((2 * j + 1 : Nat) : 𝕜) * (h / 2) = a + 0.5 * h + j * h := by
    push_cast; rw [half_eq_inv_two]; ring
  have e4 : a + (((2 * j : Nat) : 𝕜) + 1) * (h / 2) = a + 0.5 * h + j * h := by
    push_cast; rw [half_eq_inv_two]; ring
  rw [e1, e2, e3, e4, half_eq_inv_two]
  ring

theorem trapezoid_self (f : 𝕜 → 𝕜) (a : 𝕜) (n : Nat) : trapezoid f a a n = 0 := by
  simp [trapezoid]

/-! ### The loop, pass by pass -/

/-- The midpoint loop started at `nu0 + j * dnux2`, when the points `nu0 + i * dnux2` below
`nu2` are those with `i < N`: with one more test of its condition than the `m = N - j` points
left, it adds their emissions; with fewer, it is cut. -/
theorem midpointLoop_eq (f : 𝕜 → 𝕜) {nu2 dnux2 nu0 : 𝕜} {N : Nat}
    (hN : ∀ i : Nat, nu0 + i * dnux2 < nu2 ↔ i < N) :
    ∀ (m j fuel : Nat) (Icur : 𝕜), j + m = N →
      midpointLoop f nu2 dnux2 fuel (nu0 + j * dnux2) Icur =
        if m < fuel then
          some (Icur + ∑ i in Finset.range m, f (nu0 + ((j + i : Nat) : 𝕜) * dnux2) * dnux2,
            (List.range m).map fun i => nu0 + ((j + i : Nat) : 𝕜) * dnux2)
        else none
  | _, _, 0, _, _ => by simp [midpointLoop]
  | 0, j, fuel + 1, Icur, hj => by
    have hge : ¬ nu0 + j * dnux2 < nu2 := by rw [hN]; omega
    simp [midpointLoop, hge]
  | m + 1, j, fuel + 1, Icur, hj => by
    have hlt : nu0 + j * dnux2 < nu2 := (hN j).2 (by omega)
    have hnext : nu0 + j * dnux2 + dnux2 = nu0 + ((j + 1 : Nat) : 𝕜) * dnux2 := by push_cast; ring
    rw [midpointLoop, if_pos hlt, hnext, midpointLoop_eq f hN m (j + 1) fuel _ (by omega)]
    by_cases hm : m < fuel
    · have hsum : ∀ i, j + 1 + i = j + (i + 1) := fun i => by omega
      simp only [hm, if_true, Nat.add_lt_add_iff_right, Option.map_some', Finset.sum_range_succ',
        List.range_succ_eq_map, List.map_cons, List.map_map, hsum, Function.comp_def, add_zero,
        Nat.add_zero, Option.some.injEq, Prod.mk.injEq, and_true]
      ring
    · simp [hm]

/-- The state after `k` passes on `[a, b]`: the trapezoid sum over `2 ^ k` subintervals, and
twice their width. -/
def Quadrature.after (f : 𝕜 → 𝕜) (a b : 𝕜) (k : Nat) : Quadrature 𝕜 :=
  ⟨trapezoid f a b (2 ^ k), (b - a) * 2 / 2 ^ k⟩

/-- The points pass `k + 1` calls `emission` at on `[a, b]`: the midpoints of the `2 ^ k`
subintervals of the state after `k` passes, none when `a = b`. -/
def passPoints (a b : 𝕜) (k : Nat) : List 𝕜 :=
  (List.range (if a < b then 2 ^ k else 0)).map fun i : Nat =>
    a + 0.5 * ((b - a) / 2 ^ k) + (i : 𝕜) * ((b - a) / 2 ^ k)

theorem half_add_lt_natCast_iff {i N : Nat} : (0.5 : 𝕜) + i < N ↔ i < N := by
  refine ⟨fun h => Nat.cast_lt.1 ((lt_add_of_pos_left _ (by norm_num)).trans h), fun h => ?_⟩
  calc (0.5 : 𝕜) + i < 1 + i := add_lt_add_right (by norm_num) _
    _ = ((i + 1 : Nat) : 𝕜) := by rw [Nat.cast_succ, add_comm]
    _ ≤ N := Nat.cast_le.2 h

theorem passPoint_lt_iff {a b : 𝕜} (hab : a ≤ b) (k i : Nat) :
    a + 0.5 * ((b - a) / 2 ^ k) + i * ((b - a) / 2 ^ k) < b ↔ i < if a < b then 2 ^ k else 0 := by
  rcases hab.lt_or_eq with hlt | rfl
  · set h := (b - a) / 2 ^ k with hh
    have hpos : 0 < h := div_pos (sub_pos.2 hlt) (pow_pos two_pos k)
    have hb : b = a + ((2 ^ k : Nat) : 𝕜) * h := by
      rw [hh, Nat.cast_pow, Nat.cast_two, mul_div_cancel₀ _ (pow_ne_zero k two_ne_zero), add_sub_cancel]
    rw [if_pos hlt, hb, add_assoc, add_lt_add_iff_left, ← add_mul, mul_lt_mul_right hpos,
      half_add_lt_natCast_iff]
  · simp

/-- **One pass**: from the state after `k` passes, with enough tests of the midpoint loop's
condition, the body reaches the state after `k + 1` passes, calling `emission` at `passPoints`. -/
theorem pass_after (f : 𝕜 → 𝕜) {a b : 𝕜} (hab : a ≤ b) (k fuel : Nat) :
    (Quadrature.after f a b k).pass f a b fuel =
      if (if a < b then 2 ^ k else 0) < fuel then
        some (Quadrature.after f a b (k + 1), passPoints a b k)
      else none := by
  have hd : (b - a) * 2 / 2 ^ k * 0.5 = (b - a) / 2 ^ k := by rw [half_eq_inv_two]; ring
  have h0 : a + 0.5 * ((b - a) / 2 ^ k) =
      a + 0.5 * ((b - a) / 2 ^ k) + ((0 : Nat) : 𝕜) * ((b - a) / 2 ^ k) := by simp
  simp only [Quadrature.pass, Quadrature.after, hd]
  rw [h0, midpointLoop_eq f (passPoint_lt_iff hab k) _ 0 fuel _ (Nat.zero_add _)]
  by_cases hf : (if a < b then 2 ^ k else 0) < fuel
  · simp only [hf, if_true, Option.map_some', Nat.zero_add, passPoints, Option.some.injEq,
      Prod.mk.injEq, and_true, Quadrature.mk.injEq]
    refine ⟨?_, by rw [pow_succ, mul_div_mul_right _ _ two_ne_zero]⟩
    rcases hab.lt_or_eq with hlt | rfl
    · simp only [if_pos hlt]
      rw [pow_succ', trapezoid_two_mul f a b (Nat.two_pow_pos k)]
      push_cast
      rfl
    · simp [trapezoid_self]
  · simp only [hf, if_false, Option.map_none']

/-- The exit test after pass `k` on `[a, b]`, `fabs(Icur-Iprev) <= 1e-2*Icur`, between the sums
over `2 ^ k` and `2 ^ (k - 1)` subintervals. -/
def Converged (f : 𝕜 → 𝕜) (a b : 𝕜) (k : Nat) : Prop :=
  |trapezoid f a b (2 ^ k) - trapezoid f a b (2 ^ (k - 1))| ≤ 1e-2 * trapezoid f a b (2 ^ k)

instance (f : 𝕜 → 𝕜) (a b : 𝕜) : DecidablePred (Converged f a b) := fun _ =>
  inferInstanceAs (Decidable (_ ≤ _))

theorem converged_succ_iff (f : 𝕜 → 𝕜) (a b : 𝕜) (k : Nat) :
    Converged f a b (k + 1) ↔ ¬ |(Quadrature.after f a b (k + 1)).Icur - (Quadrature.after f a b k).Icur| >
      1e-2 * (Quadrature.after f a b (k + 1)).Icur := by
  simp [Converged, Quadrature.after]

/-- **The loop from the state after `k` passes**: when it returns, it returns the sum after the
first pass `last > k` whose exit test holds, having called `emission` at the points of the passes
`k + 1`, ..., `last`. -/
theorem refineLoop_after_eq_some (f : 𝕜 → 𝕜) {a b : 𝕜} (hab : a ≤ b) {fuel : Nat} :
    ∀ (n k : Nat) {I : 𝕜} {ps : List 𝕜},
      refineLoop f a b fuel n (Quadrature.after f a b k) = some (I, ps) →
      ∃ last, k < last ∧ I = trapezoid f a b (2 ^ last) ∧ Converged f a b last ∧
        (∀ j, k < j → j < last → ¬ Converged f a b j) ∧
        ps = (List.range (last - k)).flatMap fun i => passPoints a b (k + i)
  | 0, _, _, _, h => by simp [refineLoop] at h
  | n + 1, k, I, ps, h => by
    rw [refineLoop, pass_after f hab] at h
    by_cases hfuel : (if a < b then 2 ^ k else 0) < fuel
    · rw [if_pos hfuel, Option.some_bind] at h
      dsimp only at h
      by_cases htest : |(Quadrature.after f a b (k + 1)).Icur - (Quadrature.after f a b k).Icur| >
          1e-2 * (Quadrature.after f a b (k + 1)).Icur
      · rw [if_pos htest] at h
        obtain ⟨⟨I', qs⟩, hq, he⟩ := Option.map_eq_some'.1 h
        obtain ⟨rfl, rfl⟩ := Prod.mk.inj he
        obtain ⟨last, hlast, rfl, hc, hmin, rfl⟩ := refineLoop_after_eq_some f hab n (k + 1) hq
        refine ⟨last, by omega, rfl, hc, fun j hj hjl => ?_, ?_⟩
        · rcases (show j = k + 1 ∨ k + 1 < j by omega) with rfl | hj'
          · exact (converged_succ_iff f a b k).not.2 (not_not.2 htest)
          · exact hmin j hj' hjl
        · obtain ⟨d, rfl⟩ : ∃ d, last = k + 1 + d := ⟨last - (k + 1), by omega⟩
          rw [show k + 1 + d - k = d + 1 by omega, show k + 1 + d - (k + 1) = d by omega,
            List.range_succ_eq_map, List.flatMap_cons, List.flatMap_map]
          simp only [Nat.add_zero, Nat.succ_eq_add_one, Nat.add_assoc, Nat.add_comm 1]
      · rw [if_neg htest] at h
        obtain ⟨rfl, rfl⟩ := Prod.mk.inj (Option.some.inj h)
        refine ⟨k + 1, by omega, rfl, (converged_succ_iff f a b k).2 htest, fun j hj hjl => by omega,
          by simp [List.range_succ]⟩
    · simp [hfuel] at h

theorem refineLoop_after_isSome (f : 𝕜 → 𝕜) {a b : 𝕜} (hab : a ≤ b) {fuel last : Nat}
    (hc : Converged f a b last) (hfuel : 2 ^ last ≤ fuel) :
    ∀ n k, k < last → last ≤ k + n → (refineLoop f a b fuel n (Quadrature.after f a b k)).isSome
  | 0, _, hk, hn => absurd hn (by omega)
  | n + 1, k, hk, hn => by
    have hf : (if a < b then 2 ^ k else 0) < fuel := by
      have : 2 ^ k < 2 ^ last := Nat.pow_lt_pow_right (by norm_num) hk
      have : 0 < 2 ^ k := Nat.two_pow_pos k
      split_ifs <;> omega
    rw [refineLoop, pass_after f hab, if_pos hf, Option.some_bind]
    dsimp only
    split_ifs with htest
    · rcases (show k + 1 = last ∨ k + 1 < last by omega) with rfl | hk'
      · exact absurd ((converged_succ_iff f a b k).1 hc) (not_not.2 htest)
      · simpa using refineLoop_after_isSome f hab hc hfuel n (k + 1) hk' (by omega)
    · rfl

theorem sweep_eq (f : 𝕜 → 𝕜) (a b : 𝕜) (fuel : Nat) :
    sweep f a b fuel = (refineLoop f a b fuel fuel (Quadrature.after f a b 0)).map fun (I, ps) =>
      (I, a :: b :: ps) := by
  have hs : (⟨(f b + f a) * ((b - a) * 2.) * 0.25, (b - a) * 2.⟩ : Quadrature 𝕜) =
      Quadrature.after f a b 0 := by
    simp only [Quadrature.after, trapezoid, pow_zero, Nat.cast_one, div_one, Finset.range_one,
      Finset.sum_singleton, Nat.cast_zero, zero_mul, add_zero, zero_add, one_mul, Quadrature.mk.injEq]
    norm_num
    ring
  rw [sweep, hs]

theorem integrateEmission_eq (f : 𝕜 → 𝕜) (nu1 nu2 : 𝕜) (fuel : Nat) :
    integrateEmission f nu1 nu2 fuel = sweep f (min nu1 nu2) (max nu1 nu2) fuel := by
  unfold integrateEmission
  split_ifs with h
  · rw [min_eq_right h.le, max_eq_left h.le]
  · rw [min_eq_left (not_lt.1 h), max_eq_right (not_lt.1 h)]

theorem length_passPoints (a b : 𝕜) (k : Nat) :
    (passPoints a b k).length = if a < b then 2 ^ k else 0 := by
  simp [passPoints]

theorem mem_passPoints {a b : 𝕜} (hab : a ≤ b) {k : Nat} {p : 𝕜} (hp : p ∈ passPoints a b k) :
    a ≤ p ∧ p ≤ b := by
  obtain ⟨i, hi, rfl⟩ := List.mem_map.1 hp
  have hh : 0 ≤ (b - a) / 2 ^ k := div_nonneg (sub_nonneg.2 hab) (pow_nonneg zero_le_two k)
  refine ⟨?_, ((passPoint_lt_iff hab k i).2 (List.mem_range.1 hi)).le⟩
  rw [add_assoc]
  exact le_add_of_nonneg_right (add_nonneg (mul_nonneg (by norm_num) hh) (mul_nonneg i.cast_nonneg hh))

theorem trapezoid_const (c a b : 𝕜) {n : Nat} (hn : 0 < n) :
    trapezoid (fun _ => c) a b n = (b - a) * c := by
  have : (n : 𝕜) ≠ 0 := Nat.cast_ne_zero.2 hn.ne'
  simp only [trapezoid, Finset.sum_const, Finset.card_range, nsmul_eq_mul]
  rw [mul_div_assoc, ← mul_assoc, mul_div_cancel₀ _ this, add_self_div_two]

/-- When `integrateEmission` returns, it returns the sum after the first pass whose exit test
holds, having called `emission` at the ends of the band and at the points of every pass. -/
theorem integrateEmission_eq_some {f : 𝕜 → 𝕜} {nu1 nu2 : 𝕜} {fuel : Nat} {I : 𝕜} {ps : List 𝕜}
    (h : integrateEmission f nu1 nu2 fuel = some (I, ps)) :
    ∃ last, 1 ≤ last ∧ I = trapezoid f (min nu1 nu2) (max nu1 nu2) (2 ^ last) ∧
      Converged f (min nu1 nu2) (max nu1 nu2) last ∧
      (∀ j, 1 ≤ j → j < last → ¬ Converged f (min nu1 nu2) (max nu1 nu2) j) ∧
      ps = min nu1 nu2 :: max nu1 nu2 ::
        (List.range last).flatMap (passPoints (min nu1 nu2) (max nu1 nu2)) := by
  rw [integrateEmission_eq, sweep_eq] at h
  obtain ⟨⟨I', qs⟩, hq, he⟩ := Option.map_eq_some'.1 h
  obtain ⟨rfl, rfl⟩ := Prod.mk.inj he
  obtain ⟨last, hlast, rfl, hc, hmin, rfl⟩ := refineLoop_after_eq_some f min_le_max fuel 0 hq
  exact ⟨last, hlast, rfl, hc, fun j hj => hmin j hj, by simp⟩

theorem integrateEmission_isSome {f : 𝕜 → 𝕜} {nu1 nu2 : 𝕜} {last fuel : Nat}
    (hc : Converged f (min nu1 nu2) (max nu1 nu2) last) (hl : 1 ≤ last) (hfuel : 2 ^ last ≤ fuel) :
    (integrateEmission f nu1 nu2 fuel).isSome := by
  have : last < 2 ^ last := Nat.lt_two_pow last
  rw [integrateEmission_eq, sweep_eq, Option.isSome_map']
  exact refineLoop_after_isSome f min_le_max hc hfuel fuel 0 (by omega) (by omega)

/-- What `integrateEmission` does on the band `[a, b]` between `nu1` and `nu2`. -/
structure TrapezoidRefinement (f : 𝕜 → 𝕜) (nu1 nu2 a b : 𝕜) : Prop where
  /-- It calls `emission` at `a` and `b` and starts from the sum over one subinterval. -/
  start : ∀ fuel, integrateEmission f nu1 nu2 fuel =
    (refineLoop f a b fuel fuel (Quadrature.after f a b 0)).map fun (I, ps) => (I, a :: b :: ps)
  /-- Pass `k + 1` takes the sum over `2 ^ k` subintervals to the sum over `2 ^ (k + 1)`,
  calling `emission` at `passPoints a b k`, when its midpoint loop has the tests it needs. -/
  pass : ∀ k fuel, (Quadrature.after f a b k).pass f a b fuel =
    if (if nu1 = nu2 then 0 else 2 ^ k) < fuel then
      some (Quadrature.after f a b (k + 1), passPoints a b k)
    else none
  /-- Pass `k + 1` calls `emission` at `2 ^ k` points of the band, at none when `nu1 = nu2`. -/
  midpoints : ∀ k, (passPoints a b k).length = (if nu1 = nu2 then 0 else 2 ^ k) ∧
    ∀ p ∈ passPoints a b k, a ≤ p ∧ p ≤ b
  /-- When it returns, it returns the sum after the first pass whose exit test holds. -/
  returns : ∀ fuel I ps, integrateEmission f nu1 nu2 fuel = some (I, ps) →
    ∃ last, 1 ≤ last ∧ I = trapezoid f a b (2 ^ last) ∧ Converged f a b last ∧
      (∀ j, 1 ≤ j → j < last → ¬ Converged f a b j) ∧
      ps = a :: b :: (List.range last).flatMap (passPoints a b)
  symm : ∀ fuel, integrateEmission f nu1 nu2 fuel = integrateEmission f nu2 nu1 fuel

/-- **`integrateEmission` refines the trapezoid rule**: on the band `[min nu1 nu2, max nu1 nu2]`
each pass doubles the subintervals of the composite trapezoid sum, calling `emission` at the
`2 ^ k` midpoints of pass `k + 1` (none on an empty band), all in the band; when it returns, it
returns the sum after the first pass whose exit test holds; and the order of the bounds does not
matter. -/
theorem integrateEmission_refines_trapezoid (f : 𝕜 → 𝕜) (nu1 nu2 : 𝕜) :
    TrapezoidRefinement f nu1 nu2 (min nu1 nu2) (max nu1 nu2) := by
  have hab : min nu1 nu2 ≤ max nu1 nu2 := min_le_max
  refine ⟨fun fuel => by rw [integrateEmission_eq, sweep_eq], fun k fuel => ?_, fun k => ?_,
    fun fuel I ps h => ?_, fun fuel => by rw [integrateEmission_eq, integrateEmission_eq, min_comm, max_comm]⟩
  · rw [pass_after f hab]
    by_cases h : nu1 = nu2
    · subst h; simp
    · simp [min_lt_max.2 h, h]
  · refine ⟨?_, fun p hp => mem_passPoints hab hp⟩
    rw [length_passPoints]
    by_cases h : nu1 = nu2
    · subst h; simp
    · simp [min_lt_max.2 h, h]
  · exact integrateEmission_eq_some h

/-- On an empty band the pass calls `emission` at no midpoint: only the two ends are evaluated. -/
theorem integrateEmission_empty_band : integrateEmission (fun nu : ℚ => nu) 1 1 1 = some (0, [1, 1]) := by
  norm_num [integrateEmission, sweep, refineLoop, Quadrature.pass, midpointLoop]

/-! ### The unit of the emission -/

section Scale

variable (f : 𝕜 → 𝕜) {c : 𝕜}

theorem midpointLoop_smul (nu2 dnux2 : 𝕜) : ∀ fuel nu Icur,
    midpointLoop (fun x => c * f x) nu2 dnux2 fuel nu (c * Icur) =
      (midpointLoop f nu2 dnux2 fuel nu Icur).map fun p => (c * p.1, p.2)
  | 0, _, _ => rfl
  | fuel + 1, nu, Icur => by
    simp only [midpointLoop]
    split_ifs
    · rw [show c * Icur + c * f nu * dnux2 = c * (Icur + f nu * dnux2) by ring,
        midpointLoop_smul nu2 dnux2 fuel, Option.map_map, Option.map_map]
      rfl
    · rfl

theorem pass_smul (nu1 nu2 : 𝕜) (fuel : Nat) (q : Quadrature 𝕜) :
    (⟨c * q.Icur, q.dnux2⟩ : Quadrature 𝕜).pass (fun x => c * f x) nu1 nu2 fuel =
      (q.pass f nu1 nu2 fuel).map fun p => (⟨c * p.1.Icur, p.1.dnux2⟩, p.2) := by
  simp only [Quadrature.pass, midpointLoop_smul, Option.map_map]
  congr 1
  funext p
  simp only [Function.comp_apply, mul_assoc]

theorem exitTest_smul (hc : 0 < c) (I I' : 𝕜) :
    |c * I' - c * I| > 1e-2 * (c * I') ↔ |I' - I| > 1e-2 * I' := by
  rw [← mul_sub, abs_mul, abs_of_pos hc, mul_left_comm, gt_iff_lt, gt_iff_lt, mul_lt_mul_left hc]

theorem refineLoop_smul (hc : 0 < c) (nu1 nu2 : 𝕜) (fuel : Nat) : ∀ n (q : Quadrature 𝕜),
    refineLoop (fun x => c * f x) nu1 nu2 fuel n ⟨c * q.Icur, q.dnux2⟩ =
      (refineLoop f nu1 nu2 fuel n q).map fun p => (c * p.1, p.2)
  | 0, _ => rfl
  | n + 1, q => by
    rw [refineLoop, refineLoop, pass_smul]
    cases q.pass f nu1 nu2 fuel with
    | none => rfl
    | some p =>
      simp only [Option.map_some', Option.some_bind, exitTest_smul hc]
      split_ifs
      · rw [refineLoop_smul hc nu1 nu2 fuel n p.1, Option.map_map, Option.map_map]
        rfl
      · rfl

/-- **The refinement does not depend on the unit of the emission**: for every positive factor
`c`, band and fuel, integrating `c • f` calls `emission` at the same points as integrating `f`,
and returns `c` times its estimate, or runs out of fuel with it. -/
theorem integrateEmission_smul (hc : 0 < c) (nu1 nu2 : 𝕜) (fuel : Nat) :
    integrateEmission (fun x => c * f x) nu1 nu2 fuel =
      (integrateEmission f nu1 nu2 fuel).map fun p => (c * p.1, p.2) := by
  have hsweep : ∀ a b, sweep (fun x => c * f x) a b fuel =
      (sweep f a b fuel).map fun p => (c * p.1, p.2) := fun a b => by
    have hs : (c * f b + c * f a) * ((b - a) * 2.) * 0.25 =
        c * ((f b + f a) * ((b - a) * 2.) * 0.25) := by ring
    simp only [sweep, hs]
    rw [refineLoop_smul f hc a b fuel fuel ⟨_, _⟩, Option.map_map, Option.map_map]
    rfl
  unfold integrateEmission
  split_ifs <;> exact hsweep _ _

end Scale

/-- Doubling the emission of `nu ↦ nu` on `[0, 1]`. -/
theorem integrateEmission_smul_two :
    (0 : ℚ) < 2 ∧ integrateEmission (fun x : ℚ => 2 * x) 0 1 8 =
      (integrateEmission (fun x : ℚ => x) 0 1 8).map fun p => (2 * p.1, p.2) :=
  ⟨by norm_num, integrateEmission_smul (fun x : ℚ => x) (by norm_num) 0 1 8⟩

end Gyoto.Astrobj

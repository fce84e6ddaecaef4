import Mathlib

/-!
# The Bessel functions of `Utils.C`

`bessi0`, `bessi1`, `bessk0` and `bessk1` are the polynomial approximations of the modified
Bessel functions `I₀`, `I₁`, `K₀`, `K₁`: one polynomial below a threshold (`3.75` for `I`, `2`
for `K`), one above it times `exp` and `sqrt`. `bessk(n, x)` runs the upward recurrence
`K_{j+1} = K_{j-1} + (2j/x) K_j` from `K₀` and `K₁`. Doubles are exact field elements; `exp`,
`sqrt` and `log` are parameters.

* `horner`, `horner_ge`: a polynomial at `y ∈ [0, 1]` is at least its constant term less the
  sizes of its other coefficients;
* `bessi0`, `bessk0`, `bessi1`, `bessk1`, `besskLoop`, `bessk`: the code;
* **`bessi0_even_bessi1_odd`**: `bessi0` is even and `bessi1` odd;
* **`bessi0_pos_sign_bessi1`**: `bessi0` is positive, at least `1` below `3.75`, and `bessi1`
  has the sign of its argument;
* `besskSeq`, `besskLoop_eq`, **`bessk_eq_besskSeq`**: the loop computes the recurrence;
* **`bessk_pos`**: above `2`, `bessk0`, `bessk1` and every `bessk(n, x)` are positive.
-/

namespace Gyoto

variable {𝕜 : Type} [LinearOrderedField 𝕜]

/-! ## Polynomials in Horner form -/

/-- `c₀ + y * (c₁ + y * (c₂ + ...))`. -/
def horner : List 𝕜 → 𝕜 → 𝕜
  | [], _ => 0
  | c :: cs, y => c + y * horner cs y

theorem abs_horner_le (cs : List 𝕜) {y : 𝕜} (hy : |y| ≤ 1) :
    |horner cs y| ≤ (cs.map abs).sum ∧ |y * horner cs y| ≤ (cs.map abs).sum := by
  induction cs with
  | nil => simp [horner]
  | cons c cs ih =>
    have h : |horner (c :: cs) y| ≤ ((c :: cs).map abs).sum := by
      simpa [horner] using (abs_add c _).trans (add_le_add_left ih.2 _)
    refine ⟨h, ?_⟩
    rw [abs_mul]
    exact (mul_le_of_le_one_left (abs_nonneg _) hy).trans h

theorem horner_ge (c : 𝕜) (cs : List 𝕜) {y : 𝕜} (hy : |y| ≤ 1) :
    c - (cs.map abs).sum ≤ horner (c :: cs) y := by
  have := (abs_horner_le cs hy).2
  rw [horner]
  linarith [neg_abs_le (y * horner cs y)]

/-! ## The code -/

variable (exp sqrt log : 𝕜 → 𝕜)

/-- `Gyoto::bessi0(xx)`, `I₀`. -/
def bessi0 (xx : 𝕜) : 𝕜 :=
  let ax := |xx|
  if ax < 3.75 then
    let y := xx / 3.75
    let y := y * y
    1.0 + y * (3.5156229 + y * (3.0899424 + y * (1.2067492 + y * (0.2659732 + y * (0.360768e-1 +
      y * 0.45813e-2)))))
  else
    let y := 3.75 / ax
    (exp ax / sqrt ax) * (0.39894228 + y * (0.1328592e-1 + y * (0.225319e-2 + y * (-0.157565e-2 +
      y * (0.916281e-2 + y * (-0.2057706e-1 + y * (0.2635537e-1 + y * (-0.1647633e-1 +
      y * 0.392377e-2))))))))

/-- `Gyoto::bessk0(xx)`, `K₀`. -/
def bessk0 (xx : 𝕜) : 𝕜 :=
  if xx ≤ 2.0 then
    let y := xx * xx / 4.0
    (-log (xx / 2.0) * bessi0 exp sqrt xx) + (-0.57721566 + y * (0.42278420 + y * (0.23069756 +
      y * (0.3488590e-1 + y * (0.262698e-2 + y * (0.10750e-3 + y * 0.74e-5))))))
  else
    let y := 2.0 / xx
    (exp (-xx) / sqrt xx) * (1.25331414 + y * (-0.7832358e-1 + y * (0.2189568e-1 +
      y * (-0.1062446e-1 + y * (0.587872e-2 + y * (-0.251540e-2 + y * 0.53208e-3))))))

/-- `Gyoto::bessi1(xx)`, `I₁`. -/
def bessi1 (xx : 𝕜) : 𝕜 :=
  let ax := |xx|
  let ans :=
    if ax < 3.75 then
      let y := xx / 3.75
      let y := y * y
      ax * (0.5 + y * (0.87890594 + y * (0.51498869 + y * (0.15084934 + y * (0.2658733e-1 +
        y * (0.301532e-2 + y * 0.32411e-3))))))
    else
      let y := 3.75 / ax
      let ans := 0.2282967e-1 + y * (-0.2895312e-1 + y * (0.1787654e-1 - y * 0.420059e-2))
      let ans := 0.39894228 + y * (-0.3988024e-1 + y * (-0.362018e-2 + y * (0.163801e-2 +
        y * (-0.1031555e-1 + y * ans))))
      ans * (exp ax / sqrt ax)
  if xx < 0.0 then -ans else ans

/-- `Gyoto::bessk1(xx)`, `K₁`. -/
def bessk1 (xx : 𝕜) : 𝕜 :=
  if xx ≤ 2.0 then
    let yy := xx * xx / 4.0
    (log (xx / 2.0) * bessi1 exp sqrt xx) + (1.0 / xx) * (1.0 + yy * (0.15443144 +
      yy * (-0.67278579 + yy * (-0.18156897 + yy * (-0.1919402e-1 + yy * (-0.110404e-2 +
      yy * (-0.4686e-4)))))))
  else
    let yy := 2.0 / xx
    (exp (-xx) / sqrt xx) * (1.25331414 + yy * (0.23498619 + yy * (-0.3655620e-1 +
      yy * (0.1504268e-1 + yy * (-0.780353e-2 + yy * (0.325614e-2 + yy * (-0.68245e-3)))))))

/-- The loop `for (int j=1; j<nn; j++) { bkp=bkm+j*tox*bk; bkm=bk; bk=bkp; }` of `bessk`,
`passes` passes from `j` with `bkm`, `bk`; it returns `bk`. -/
def besskLoop (tox : 𝕜) : Nat → Nat → 𝕜 → 𝕜 → 𝕜
  | 0, _, _, bk => bk
  | passes + 1, j, bkm, bk => besskLoop tox passes (j + 1) bk (bkm + j * tox * bk)

/-- `Gyoto::bessk(nn, xx)`, `K_nn`, for `nn ≥ 2`. -/
def bessk (nn : Int) (xx : 𝕜) : Except String 𝕜 :=
  if nn < 2 then .error "In Utils::besselk n>2!"
  else
    let tox := 2.0 / xx
    .ok (besskLoop tox (nn.toNat - 1) 1 (bessk0 exp sqrt log xx) (bessk1 exp sqrt log xx))

/-! ## Parity -/

theorem bessi0_neg (x : 𝕜) : bessi0 exp sqrt (-x) = bessi0 exp sqrt x := by
  simp only [bessi0, abs_neg, neg_div, neg_mul_neg]

theorem bessi1_zero : bessi1 exp sqrt (0 : 𝕜) = 0 := by
  simp only [bessi1, abs_zero, zero_mul, show (0.0 : 𝕜) = 0 by norm_num, lt_irrefl, if_false,
    if_pos (show (0 : 𝕜) < 3.75 by norm_num)]

theorem bessi1_neg (x : 𝕜) : bessi1 exp sqrt (-x) = -bessi1 exp sqrt x := by
  rcases lt_trichotomy x 0 with h | rfl | h
  · simp only [bessi1, abs_neg, neg_div, neg_mul_neg, show (0.0 : 𝕜) = 0 by norm_num,
      if_pos h, if_neg (not_lt.2 (neg_pos.2 h).le), neg_neg]
  · rw [neg_zero, bessi1_zero, neg_zero]
  · simp only [bessi1, abs_neg, neg_div, neg_mul_neg, show (0.0 : 𝕜) = 0 by norm_num,
      if_pos (neg_neg_of_pos h), if_neg (not_lt.2 h.le)]

/-- **`bessi0` is even and `bessi1` odd**, at every argument and for every `exp` and `sqrt`: both
branches read the argument through `|xx|` and `(xx/3.75)²`, and `bessi1` puts the sign back. -/
theorem bessi0_even_bessi1_odd (x : 𝕜) :
    bessi0 exp sqrt (-x) = bessi0 exp sqrt x ∧ bessi1 exp sqrt (-x) = -bessi1 exp sqrt x :=
  ⟨bessi0_neg exp sqrt x, bessi1_neg exp sqrt x⟩

/-! ## Signs -/

theorem abs_div_le_one_of_le {a b : 𝕜} (ha : 0 < a) (hab : a ≤ b) : |a / b| ≤ 1 := by
  rw [abs_of_pos (div_pos ha (ha.trans_le hab))]
  exact (div_le_one (ha.trans_le hab)).2 hab

theorem horner_pos {c : 𝕜} {cs : List 𝕜} {y : 𝕜} (hy : |y| ≤ 1) (h : (cs.map abs).sum < c) :
    0 < horner (c :: cs) y :=
  (sub_pos.2 h).trans_le (horner_ge c cs hy)

section Signs

variable {exp sqrt} (hexp : ∀ t, 0 < exp t) (hsqrt : ∀ t, 0 < t → 0 < sqrt t)
include hexp hsqrt

theorem bessi0_pos (x : 𝕜) : (|x| < 3.75 → 1 ≤ bessi0 exp sqrt x) ∧ 0 < bessi0 exp sqrt x := by
  by_cases hx : |x| < 3.75
  · have h1 : 1 ≤ bessi0 exp sqrt x := by
      have hy : 0 ≤ x / 3.75 * (x / 3.75) := mul_self_nonneg _
      simp only [bessi0, if_pos hx, show (1.0 : 𝕜) = 1 by norm_num]
      generalize x / 3.75 * (x / 3.75) = y at hy ⊢
      exact le_add_of_nonneg_right (by positivity)
    exact ⟨fun _ => h1, one_pos.trans_le h1⟩
  · refine ⟨fun h => absurd h hx, ?_⟩
    push_neg at hx
    have hp := horner_pos (abs_div_le_one_of_le (by norm_num : (0 : 𝕜) < 3.75) hx)
      (by norm_num [abs_of_pos] : ([0.1328592e-1, 0.225319e-2, -0.157565e-2, 0.916281e-2,
        -0.2057706e-1, 0.2635537e-1, -0.1647633e-1, 0.392377e-2].map abs).sum < (0.39894228 : 𝕜))
    simp only [bessi0, if_neg (not_lt.2 hx)]
    refine mul_pos (div_pos (hexp _) (hsqrt _ ((by norm_num : (0 : 𝕜) < 3.75).trans_le hx))) ?_
    simpa only [horner, mul_zero, add_zero] using hp

theorem bessi1_pos {x : 𝕜} (hx : 0 < x) : 0 < bessi1 exp sqrt x := by
  simp only [bessi1, abs_of_pos hx, show (0.0 : 𝕜) = 0 by norm_num, if_neg (not_lt.2 hx.le)]
  by_cases h : x < 3.75
  · rw [if_pos h]
    have hy : 0 ≤ x / 3.75 * (x / 3.75) := mul_self_nonneg _
    generalize x / 3.75 * (x / 3.75) = y at hy ⊢
    positivity
  · rw [if_neg h]
    push_neg at h
    have hy := abs_div_le_one_of_le (by norm_num : (0 : 𝕜) < 3.75) h
    generalize 3.75 / x = y at hy ⊢
    have hi : |horner [(0.2282967e-1 : 𝕜), -0.2895312e-1, 0.1787654e-1, -0.420059e-2] y| ≤ 0.075 :=
      (abs_horner_le _ hy).1.trans (by norm_num [abs_of_pos])
    have hp : 0 < horner [0.39894228, -0.3988024e-1, -0.362018e-2, 0.163801e-2, -0.1031555e-1,
        horner [0.2282967e-1, -0.2895312e-1, 0.1787654e-1, -0.420059e-2] y] y := horner_pos hy (by
        have hn : ([-0.3988024e-1, -0.362018e-2, 0.163801e-2, -0.1031555e-1, 0.075].map abs).sum
            < (0.39894228 : 𝕜) := by norm_num [abs_of_pos]
        simp only [List.map_cons, List.map_nil, List.sum_cons, List.sum_nil] at hn ⊢
        refine lt_of_le_of_lt ?_ hn
        gcongr _ + (_ + (_ + (_ + (?_ + _))))
        exact hi.trans (le_abs_self _))
    refine mul_pos ?_ (div_pos (hexp _) (hsqrt _ ((by norm_num : (0 : 𝕜) < 3.75).trans_le h)))
    simpa only [horner, mul_zero, add_zero, sub_eq_add_neg, mul_neg] using hp

theorem bessk0_pos {x : 𝕜} (hx : 2 < x) : 0 < bessk0 exp sqrt log x := by
  have hp := horner_pos (abs_div_le_one_of_le (by norm_num : (0 : 𝕜) < 2) hx.le)
    (by norm_num [abs_of_pos] : ([-0.7832358e-1, 0.2189568e-1, -0.1062446e-1, 0.587872e-2,
      -0.251540e-2, 0.53208e-3].map abs).sum < (1.25331414 : 𝕜))
  simp only [bessk0, show (2.0 : 𝕜) = 2 by norm_num, if_neg (not_le.2 hx)]
  refine mul_pos (div_pos (hexp _) (hsqrt _ (zero_lt_two.trans hx))) ?_
  simpa only [horner, mul_zero, add_zero] using hp

theorem bessk1_pos {x : 𝕜} (hx : 2 < x) : 0 < bessk1 exp sqrt log x := by
  have hp := horner_pos (abs_div_le_one_of_le (by norm_num : (0 : 𝕜) < 2) hx.le)
    (by norm_num [abs_of_pos] : ([0.23498619, -0.3655620e-1, 0.1504268e-1, -0.780353e-2,
      0.325614e-2, -0.68245e-3].map abs).sum < (1.25331414 : 𝕜))
  simp only [bessk1, show (2.0 : 𝕜) = 2 by norm_num, if_neg (not_le.2 hx)]
  refine mul_pos (div_pos (hexp _) (hsqrt _ (zero_lt_two.trans hx))) ?_
  simpa only [horner, mul_zero, add_zero] using hp

/-- **`bessi0` is positive, at least `1` below `3.75`, and `bessi1` has the sign of its
argument**, for every argument, when `exp` is positive and `sqrt` positive on positives. -/
theorem bessi0_pos_sign_bessi1 (x : 𝕜) :
    (|x| < 3.75 → 1 ≤ bessi0 exp sqrt x) ∧ 0 < bessi0 exp sqrt x ∧
      SignType.sign (bessi1 exp sqrt x) = SignType.sign x := by
  refine ⟨(bessi0_pos hexp hsqrt x).1, (bessi0_pos hexp hsqrt x).2, ?_⟩
  rcases lt_trichotomy x 0 with h | rfl | h
  · have h1 := bessi1_pos hexp hsqrt (neg_pos.2 h)
    rw [bessi1_neg, neg_pos] at h1
    rw [sign_neg h, sign_neg h1]
  · rw [bessi1_zero]
  · rw [sign_pos h, sign_pos (bessi1_pos hexp hsqrt h)]

end Signs

/-- With `exp` and `sqrt` exact, at `1`. -/
theorem bessi0_pos_sign_bessi1_one :
    (∀ t : ℝ, 0 < Real.exp t) ∧ (∀ t : ℝ, 0 < t → 0 < Real.sqrt t) ∧
      ((|(1 : ℝ)| < 3.75 → 1 ≤ bessi0 Real.exp Real.sqrt 1) ∧ 0 < bessi0 Real.exp Real.sqrt 1 ∧
        SignType.sign (bessi1 Real.exp Real.sqrt (1 : ℝ)) = SignType.sign (1 : ℝ)) :=
  ⟨Real.exp_pos, fun _ => Real.sqrt_pos.2,
    bessi0_pos_sign_bessi1 Real.exp_pos (fun _ => Real.sqrt_pos.2) 1⟩

/-! ## The recurrence of `bessk` -/

/-- The upward recurrence from `K₀ = bessk0 x` and `K₁ = bessk1 x`:
`K_{j+1} = K_{j-1} + (2j/x) K_j`. -/
def besskSeq (x : 𝕜) : Nat → 𝕜
  | 0 => bessk0 exp sqrt log x
  | 1 => bessk1 exp sqrt log x
  | j + 2 => besskSeq x j + 2 * (j + 1) / x * besskSeq x (j + 1)

theorem besskLoop_eq (x : 𝕜) (p j : Nat) :
    besskLoop (2.0 / x) p (j + 1) (besskSeq exp sqrt log x j) (besskSeq exp sqrt log x (j + 1)) =
      besskSeq exp sqrt log x (j + 1 + p) := by
  induction p generalizing j with
  | zero => rfl
  | succ p ih =>
    have hstep : besskSeq exp sqrt log x j + ((j + 1 : Nat) : 𝕜) * (2.0 / x) *
        besskSeq exp sqrt log x (j + 1) = besskSeq exp sqrt log x (j + 1 + 1) := by
      rw [besskSeq, show (2.0 : 𝕜) = 2 by norm_num]; push_cast; ring
    rw [besskLoop, hstep, ih (j + 1)]
    congr 1
    omega

theorem bessk_of_two_le {n : Int} (hn : 2 ≤ n) (x : 𝕜) :
    bessk exp sqrt log n x = .ok (besskSeq exp sqrt log x n.toNat) := by
  have := besskLoop_eq exp sqrt log x (n.toNat - 1) 0
  rw [Nat.zero_add, show 1 + (n.toNat - 1) = n.toNat by omega] at this
  rw [bessk, if_neg (not_lt.2 hn)]
  exact congrArg Except.ok this

/-- **`bessk(n, x)` computes the upward recurrence**: for every `n` and `x` it throws exactly
when `n < 2`, and otherwise its loop over `(bkm, bk)` returns `K_n`. -/
theorem bessk_eq_besskSeq (n : Int) (x : 𝕜) :
    bessk exp sqrt log n x = if n < 2 then .error "In Utils::besselk n>2!"
      else .ok (besskSeq exp sqrt log x n.toNat) := by
  split_ifs with h
  · rw [bessk, if_pos h]
  · exact bessk_of_two_le exp sqrt log (not_lt.1 h) x

theorem besskSeq_pos {x : 𝕜} (hx : 0 < x) (h0 : 0 < bessk0 exp sqrt log x)
    (h1 : 0 < bessk1 exp sqrt log x) : ∀ j, 0 < besskSeq exp sqrt log x j
  | 0 => h0
  | 1 => h1
  | j + 2 => by
    have := besskSeq_pos hx h0 h1 j
    have := besskSeq_pos hx h0 h1 (j + 1)
    rw [besskSeq]
    positivity

/-- **Above `2`, `bessk0`, `bessk1` and every `bessk(n, x)` with `n ≥ 2` are positive**, when
`exp` is positive and `sqrt` positive on positives, whatever `log`. -/
theorem bessk_pos {exp sqrt : 𝕜 → 𝕜} (hexp : ∀ t, 0 < exp t) (hsqrt : ∀ t, 0 < t → 0 < sqrt t)
    {x : 𝕜} (hx : 2 < x) :
    0 < bessk0 exp sqrt log x ∧ 0 < bessk1 exp sqrt log x ∧
      ∀ n : Int, 2 ≤ n → ∃ v, bessk exp sqrt log n x = .ok v ∧ 0 < v := by
  have h0 := bessk0_pos log hexp hsqrt hx
  have h1 := bessk1_pos log hexp hsqrt hx
  exact ⟨h0, h1, fun n hn => ⟨_, bessk_of_two_le exp sqrt log hn x,
    besskSeq_pos exp sqrt log (zero_lt_two.trans hx) h0 h1 _⟩⟩

/-- With `exp`, `sqrt` and `log` exact, at `3`. -/
theorem bessk_pos_three :
    (∀ t : ℝ, 0 < Real.exp t) ∧ (∀ t : ℝ, 0 < t → 0 < Real.sqrt t) ∧ (2 : ℝ) < 3 ∧
      (0 < bessk0 Real.exp Real.sqrt Real.log (3 : ℝ) ∧ 0 < bessk1 Real.exp Real.sqrt Real.log 3 ∧
        ∀ n : Int, 2 ≤ n → ∃ v, bessk Real.exp Real.sqrt Real.log n (3 : ℝ) = .ok v ∧ 0 < v) :=
  ⟨Real.exp_pos, fun _ => Real.sqrt_pos.2, by norm_num,
    bessk_pos Real.log Real.exp_pos (fun _ => Real.sqrt_pos.2) (by norm_num)⟩

end Gyoto

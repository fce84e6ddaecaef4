import Gyoto.Astrobj.Object

/-!
# The absorption of the default polarized `radiativeQ`

The default polarized body turns the unpolarized transmission `Taunu` into an absorption
`alphaInu`, the converse of the `Taunu = exp (-alphaInu)` the default unpolarized body applies to
a polarized override. Over the extended reals, with the exact `exp` and `log`:

* `Libm.extended`: `exp`, `log` and `infinity` on `EReal`;
* `unpolarized_alphaInu_of_le`, `unpolarized_alphaInu_of_lt_eq_bot`: the two sides of the cut-off
  `0.1`; below it `alphaInu` is `-∞`, which `exp (-alphaInu)` reads as an infinite transmission;
* **`default_polarized_absorption`**: from `0.1` on the conversion is inverted exactly, below it
  `alphaInu` no longer depends on `Taunu`;
* `faint_absorption_not_inverted`: a transmission of `1/20` is not recovered.
-/

namespace Gyoto.Astrobj

/-- Decimal literals such as the cut-off `0.1`, read as reals. -/
noncomputable local instance instOfScientificEReal : OfScientific EReal :=
  ⟨fun m s e => ((OfScientific.ofScientific m s e : ℝ) : EReal)⟩

/-- `exp`, `log` and the infinity of `double`s, exactly, on the extended reals; `log` is `-∞` at
`0` and below. -/
noncomputable def Libm.extended : Libm EReal where
  exp x := (EReal.exp x : EReal)
  log x := if x ≤ 0 then ⊥ else if x = ⊤ then ⊤ else (Real.log x.toReal : EReal)
  infinity := ⊤

namespace Libm

theorem extended_exp_neg_neg_log {t : EReal} (ht : 0 < t) :
    extended.exp (-(-extended.log t)) = t := by
  induction t using EReal.rec with
  | h_bot => simp at ht
  | h_top => simp [extended]
  | h_real r =>
    have hr : 0 < r := by exact_mod_cast ht
    simp [extended, hr.not_le, EReal.coe_ennreal_ofReal, Real.exp_log hr, hr.le]

theorem extended_neg_log_nonneg {t : EReal} (h0 : 0 < t) (h1 : t ≤ 1) : 0 ≤ -extended.log t := by
  induction t using EReal.rec with
  | h_bot => simp at h0
  | h_top => exact absurd (top_le_iff.1 h1) (EReal.coe_ne_top 1)
  | h_real r =>
    have hr : 0 < r := by exact_mod_cast h0
    have hr1 : r ≤ 1 := by exact_mod_cast h1
    have : 0 ≤ -Real.log r := neg_nonneg.2 (Real.log_nonpos hr.le hr1)
    simp [extended, hr.not_le]
    exact_mod_cast this

end Libm

theorem tenth_eq : (0.1 : EReal) = ((0.1 : ℝ) : EReal) := rfl

theorem tenth_pos : (0 : EReal) < 0.1 := by
  rw [tenth_eq]
  exact_mod_cast (by norm_num : (0 : ℝ) < 0.1)

theorem unpolarized_alphaInu_of_le {Inu Taunu : EReal} (ht : 0.1 ≤ Taunu) :
    Libm.extended.exp (-(Stokes.unpolarized Libm.extended Inu Taunu).alphaInu) = Taunu ∧
      (Taunu ≤ 1 → 0 ≤ (Stokes.unpolarized Libm.extended Inu Taunu).alphaInu) := by
  have h0 : 0 < Taunu := tenth_pos.trans_le ht
  simp only [Stokes.unpolarized, if_neg (not_lt.2 ht)]
  exact ⟨Libm.extended_exp_neg_neg_log h0, Libm.extended_neg_log_nonneg h0⟩

/-- Below the cut-off, the absorption is the code's `-infinity`, `⊥`, and the transmission
`exp (-alphaInu)` it stands for is `⊤`: an infinite amplification, where `Taunu < 0.1` absorbs. -/
theorem unpolarized_alphaInu_of_lt_eq_bot {Inu Taunu : EReal} (ht : Taunu < 0.1) :
    (Stokes.unpolarized Libm.extended Inu Taunu).alphaInu = ⊥ ∧
      Libm.extended.exp (-(Stokes.unpolarized Libm.extended Inu Taunu).alphaInu) = ⊤ := by
  simp [Stokes.unpolarized, ht, Libm.extended]

theorem unpolarized_alphaInu_of_lt {Inu Taunu : EReal} (ht : Taunu < 0.1) :
    (Stokes.unpolarized Libm.extended Inu Taunu).alphaInu =
      (Stokes.unpolarized Libm.extended 0 0).alphaInu := by
  rw [(unpolarized_alphaInu_of_lt_eq_bot ht).1, (unpolarized_alphaInu_of_lt_eq_bot tenth_pos).1]

theorem forall₂_zipWith_unpolarized {p : Stokes EReal → EReal → Prop}
    (hp : ∀ i t, p (Stokes.unpolarized Libm.extended i t) t) :
    ∀ {Inu Taunu : List EReal}, Inu.length = Taunu.length →
      List.Forall₂ p (List.zipWith (Stokes.unpolarized Libm.extended) Inu Taunu) Taunu
  | [], [], _ => .nil
  | _ :: _, _ :: _, h => .cons (hp _ _) (forall₂_zipWith_unpolarized hp (Nat.succ.inj h))

variable {H : Type}

/-- **The absorption of the default polarized `radiativeQ`.** For every set of overrides that
leaves the polarized `radiativeQ` to `Generic`, from every admissible mask, at each frequency
where the unpolarized transmission `Taunu` is at least `0.1` the absorption `alphaInu` inverts
`Taunu = exp (-alphaInu)`, and is non-negative when `Taunu ≤ 1`; below `0.1` it is the value
`Taunu = 0` gets, whatever `Taunu`. -/
theorem default_polarized_absorption (o : Overrides EReal H) (hp : o.radiativeQPolar = none)
    (thin : Bool) {m : DefaultFeatures} (hm : o.Admissible m) (nuem : List EReal) (dsem : EReal)
    (h : H) :
    ∃ s m', radiativeQPolar Libm.extended o thin 7 nuem dsem h m = some (s, m') ∧
      List.Forall₂ (fun x Taunu =>
          (0.1 ≤ Taunu → Libm.extended.exp (-x.alphaInu) = Taunu ∧ (Taunu ≤ 1 → 0 ≤ x.alphaInu)) ∧
          (Taunu < 0.1 → x.alphaInu = (Stokes.unpolarized Libm.extended 0 0).alphaInu))
        s (Resolved.radiativeQ Libm.extended o thin nuem dsem h).2 := by
  obtain ⟨s, m', hx, hs⟩ :=
    (resolves_of_budget Libm.extended o thin 7).2.2.2.2 nuem dsem h m (by omega)
  refine ⟨s, m', hx, ?_⟩
  rw [(hs hm).1, Resolved.radiativeQPolar, hp]
  have hl := @Resolved.length_radiativeQ EReal H _ _ _ _ _ _ Libm.extended o thin nuem dsem h
  exact forall₂_zipWith_unpolarized
    (fun _ _ => ⟨unpolarized_alphaInu_of_le, unpolarized_alphaInu_of_lt⟩) (hl.1.trans hl.2.symm)

/-- An object that reimplements only the scalar transmission, as the constant `1/20`. -/
noncomputable def faint : Overrides EReal Unit :=
  { Overrides.generic with transmission := some fun _ _ _ => ((1 / 20 : ℝ) : EReal) }

/-- `faint`, optically thick, at the frequency `1`, from a fresh object. -/
theorem default_polarized_absorption_faint :
    faint.radiativeQPolar = none ∧ faint.Admissible 0 ∧
      ∃ s m', radiativeQPolar Libm.extended faint false 7 [1] 0 () 0 = some (s, m') ∧
        List.Forall₂ (fun x Taunu =>
            (0.1 ≤ Taunu → Libm.extended.exp (-x.alphaInu) = Taunu ∧ (Taunu ≤ 1 → 0 ≤ x.alphaInu)) ∧
            (Taunu < 0.1 → x.alphaInu = (Stokes.unpolarized Libm.extended 0 0).alphaInu))
          s (Resolved.radiativeQ Libm.extended faint false [1] 0 ()).2 :=
  ⟨rfl, faint.admissible_zero,
    default_polarized_absorption faint rfl false faint.admissible_zero [1] 0 ()⟩

/-- The default polarized body does not invert the transmission `1/20` of `faint`. -/
theorem faint_absorption_not_inverted :
    (Resolved.radiativeQ Libm.extended faint false [1] 0 ()).2 = [((1 / 20 : ℝ) : EReal)] ∧
      ∃ x m', radiativeQPolar Libm.extended faint false 7 [1] 0 () 0 = some ([x], m') ∧
        Libm.extended.exp (-x.alphaInu) ≠ ((1 / 20 : ℝ) : EReal) := by
  have hT : (Resolved.radiativeQ Libm.extended faint false [1] 0 ()).2 =
      [((1 / 20 : ℝ) : EReal)] := by
    simp [Resolved.radiativeQ, faint, Overrides.generic, Resolved.transmissionBelow]
  have hP : Resolved.radiativeQPolar Libm.extended faint false [1] 0 () =
      [Stokes.unpolarized Libm.extended 1 ((1 / 20 : ℝ) : EReal)] := by
    simp [Resolved.radiativeQPolar, faint, Overrides.generic, Resolved.radiativeQ,
      Resolved.emissionVectorBelow, Resolved.emissionBelow, Resolved.transmissionBelow]
  have hlt : ((1 / 20 : ℝ) : EReal) < 0.1 := by
    rw [tenth_eq]; exact_mod_cast (by norm_num : (1 / 20 : ℝ) < 0.1)
  obtain ⟨s, m', hx, hs⟩ :=
    (resolves_of_budget Libm.extended faint false 7).2.2.2.2 [1] 0 () 0 (by omega)
  rw [(hs faint.admissible_zero).1, hP] at hx
  refine ⟨hT, _, m', hx, ?_⟩
  simp only [Stokes.unpolarized, if_pos hlt]
  simp [Libm.extended]

end Gyoto.Astrobj

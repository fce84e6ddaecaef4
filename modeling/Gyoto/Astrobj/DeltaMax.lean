import Gyoto.Astrobj.Properties

/-!
# The step bound of `Astrobj::Generic`

`deltaMax(coord)` bounds the integration step of a photon at `coord`: `deltamaxinsidermax_`
closer than `rMax()` to the centre, half the distance farther out. The distance is `coord[1]` in
spherical coordinates and `sqrt(x² + y² + z²)` in Cartesian ones; without a metric, or with one
of another coordinate kind, the call throws. The constructors set `rmax_` to `DBL_MAX` (or
`radmax`) and `deltamaxinsidermax_` to `1`, with no metric; the setters write one field each.

Doubles are exact field elements and `sqrt` is a parameter. The setters that take a unit go
through `Units`, which is not in the sources, and are left out.

* `CoordKind`, `Extent`, the constructors, `Setter`, `Extent.set`, `Extent.run`, `deltaMax`: the
  code;
* `deltaMax_ge`: with a metric of a known kind, the step is at least
  `min(deltaMaxInsideRMax, rMax / 2)`;
* `Extent.Positive`, `Extent.run_positive`: positive radii stay positive over every sequence of
  setter calls that set positive values;
* **`deltaMax_run_pos`**: from any constructor, after any such sequence, `deltaMax` either
  throws one of its two errors or bounds the step by a positive value.
-/

namespace Gyoto

namespace Astrobj

variable {𝕜 : Type} [LinearOrderedField 𝕜]

/-- `GYOTO_COORDKIND_*`, the coordinate kinds of a metric. -/
inductive CoordKind
  | unspecified
  | cartesian
  | spherical
  deriving DecidableEq, Repr

/-- The fields of `Astrobj::Generic` that `deltaMax` reads: the coordinate kind of the metric
`gg_` (`none` for `NULL`), `rmax_` and `deltamaxinsidermax_`. -/
structure Extent (𝕜 : Type) where
  metric : Option CoordKind
  rmax : 𝕜
  deltamaxinsidermax : 𝕜

/-- `Generic()` and `Generic(kin)`: no metric, `rmax_(DBL_MAX)`, `deltamaxinsidermax_(1.)`. -/
def Extent.default : Extent 𝕜 := ⟨none, dblMax, 1.0⟩

/-- `Generic(radmax)`: no metric, `rmax_(radmax)`, `deltamaxinsidermax_(1.)`. -/
def Extent.ofRadMax (radmax : 𝕜) : Extent 𝕜 := ⟨none, radmax, 1.0⟩

/-- The setters of the fields: `metric(gg)`, `rMax(val)`, `deltaMaxInsideRMax(val)`. -/
inductive Setter (𝕜 : Type)
  | metric (gg : Option CoordKind)
  | rMax (val : 𝕜)
  | deltaMaxInsideRMax (val : 𝕜)

/-- One setter call. -/
def Extent.set (e : Extent 𝕜) : Setter 𝕜 → Extent 𝕜
  | .metric gg => { e with metric := gg }
  | .rMax val => { e with rmax := val }
  | .deltaMaxInsideRMax val => { e with deltamaxinsidermax := val }

/-- A sequence of setter calls. -/
def Extent.run (e : Extent 𝕜) (calls : List (Setter 𝕜)) : Extent 𝕜 := calls.foldl Extent.set e

variable (sqrt : 𝕜 → 𝕜)

/-- `Generic::deltaMax(coord)`: `.error` where it throws. -/
def deltaMax (e : Extent 𝕜) (coord : Fin 8 → 𝕜) : Except String 𝕜 := do
  let some kind := e.metric
    | .error "Please set metric before calling Astrobj::Generic::deltaMax()"
  let rr ← match kind with
    | .spherical => pure (coord 1)
    | .cartesian => pure (sqrt (coord 1 * coord 1 + coord 2 * coord 2 + coord 3 * coord 3))
    | .unspecified => .error "Incompatible coordinate kind in Astrobj.C"
  return if rr < e.rmax then e.deltamaxinsidermax else rr * 0.5

/-! ## One call -/

theorem deltaMax_ge (e : Extent 𝕜) (coord : Fin 8 → 𝕜)
    (hk : e.metric = some .spherical ∨ e.metric = some .cartesian) :
    ∃ h, deltaMax sqrt e coord = .ok h ∧ min e.deltamaxinsidermax (e.rmax / 2) ≤ h := by
  have key : ∀ rr : 𝕜, min e.deltamaxinsidermax (e.rmax / 2) ≤
      if rr < e.rmax then e.deltamaxinsidermax else rr * 0.5 := fun rr => by
    split_ifs with h
    · exact min_le_left _ _
    · exact (min_le_right _ _).trans (by push_neg at h; norm_num; linarith)
  rcases hk with hk | hk <;> exact ⟨_, by simp only [deltaMax, hk]; rfl, key _⟩

theorem deltaMax_error (e : Extent 𝕜) (coord : Fin 8 → 𝕜) :
    (e.metric = none → deltaMax sqrt e coord =
      .error "Please set metric before calling Astrobj::Generic::deltaMax()") ∧
    (e.metric = some .unspecified → deltaMax sqrt e coord =
      .error "Incompatible coordinate kind in Astrobj.C") :=
  ⟨fun hk => by simp only [deltaMax, hk], fun hk => by simp only [deltaMax, hk]; rfl⟩

/-! ## Whole runs -/

/-- Both radii positive. -/
def Extent.Positive (e : Extent 𝕜) : Prop := 0 < e.rmax ∧ 0 < e.deltamaxinsidermax

/-- A setter call that writes no non-positive radius. -/
def Setter.Positive : Setter 𝕜 → Prop
  | .metric _ => True
  | .rMax val => 0 < val
  | .deltaMaxInsideRMax val => 0 < val

theorem Extent.default_positive : (Extent.default : Extent 𝕜).Positive :=
  ⟨Nat.cast_pos.2 (by norm_num), by norm_num [Extent.default]⟩

theorem Extent.ofRadMax_positive {radmax : 𝕜} (h : 0 < radmax) :
    (Extent.ofRadMax radmax).Positive :=
  ⟨h, by norm_num [Extent.ofRadMax]⟩

theorem Extent.set_positive {e : Extent 𝕜} (he : e.Positive) {c : Setter 𝕜} (hc : c.Positive) :
    (e.set c).Positive := by
  cases c with
  | metric gg => exact he
  | rMax val => exact ⟨hc, he.2⟩
  | deltaMaxInsideRMax val => exact ⟨he.1, hc⟩

theorem Extent.run_positive {e : Extent 𝕜} (he : e.Positive) {calls : List (Setter 𝕜)}
    (hcalls : ∀ c ∈ calls, c.Positive) : (e.run calls).Positive := by
  induction calls generalizing e with
  | nil => exact he
  | cons c cs ih =>
    exact ih (e.set_positive he (hcalls c (List.mem_cons_self _ _)))
      fun c' h => hcalls c' (List.mem_cons_of_mem _ h)

/-- **The step bound is positive over every run**: from `Generic()` or `Generic(radmax)` with
`radmax > 0`, after any sequence of setter calls that set positive radii, `deltaMax` at every
position either throws because the metric is missing or of another kind, or returns a positive
step. -/
theorem deltaMax_run_pos (radmax : Option 𝕜) (hradmax : ∀ r ∈ radmax, 0 < r)
    (calls : List (Setter 𝕜)) (hcalls : ∀ c ∈ calls, c.Positive) (coord : Fin 8 → 𝕜) :
    let e := ((radmax.map Extent.ofRadMax).getD Extent.default).run calls
    (∃ h, deltaMax sqrt e coord = .ok h ∧ 0 < h) ∨
      (e.metric = none ∧ deltaMax sqrt e coord =
        .error "Please set metric before calling Astrobj::Generic::deltaMax()") ∨
      (e.metric = some .unspecified ∧ deltaMax sqrt e coord =
        .error "Incompatible coordinate kind in Astrobj.C") := by
  intro e
  have he : e.Positive := by
    refine Extent.run_positive ?_ hcalls
    cases radmax with
    | none => exact Extent.default_positive
    | some r => exact Extent.ofRadMax_positive (hradmax r rfl)
  rcases hk : e.metric with _ | _ | _ | _
  · exact .inr (.inl ⟨rfl, (deltaMax_error sqrt e coord).1 hk⟩)
  · exact .inr (.inr ⟨rfl, (deltaMax_error sqrt e coord).2 hk⟩)
  all_goals
    obtain ⟨h, hd, hge⟩ := deltaMax_ge sqrt e coord (by simp [hk])
    exact .inl ⟨h, hd, (lt_min he.2 (half_pos he.1)).trans_le hge⟩

/-- `Generic(10.)`, then a spherical metric and `rMax(20.)`. -/
theorem deltaMax_run_pos_twenty :
    (∀ r ∈ some (10 : ℚ), 0 < r) ∧
      (∀ c ∈ [Setter.metric (some .spherical), Setter.rMax (20 : ℚ)], c.Positive) ∧
      let e := ((some (10 : ℚ)).map Extent.ofRadMax |>.getD Extent.default).run
        [.metric (some .spherical), .rMax 20]
      (∃ h, deltaMax id e (fun _ => 30) = .ok h ∧ 0 < h) ∨
        (e.metric = none ∧ deltaMax id e (fun _ => 30) =
          .error "Please set metric before calling Astrobj::Generic::deltaMax()") ∨
        (e.metric = some .unspecified ∧
          deltaMax id e (fun _ => 30) = .error "Incompatible coordinate kind in Astrobj.C") := by
  have hr : ∀ r ∈ some (10 : ℚ), 0 < r := fun r h => by cases h; norm_num
  have hc : ∀ c ∈ [Setter.metric (some .spherical), Setter.rMax (20 : ℚ)], c.Positive := by
    intro c h
    simp only [List.mem_cons, List.mem_nil_iff, or_false] at h
    rcases h with rfl | rfl
    · trivial
    · show (0 : ℚ) < 20; norm_num
  exact ⟨hr, hc, deltaMax_run_pos id (some 10) hr _ hc _⟩

end Astrobj

end Gyoto

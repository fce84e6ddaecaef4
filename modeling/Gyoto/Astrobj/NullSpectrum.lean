import Gyoto.Astrobj.ProcessHit

/-!
# The unpolarized loop writes through `data->spectrum` unguarded

The per-channel block is entered when any of `spectrum`, `stokesQ`, `stokesU`, `stokesV` is
requested. With parallel transport each slot is guarded; without it, the loop adds into
`data->spectrum[ii*offset]` whether or not `spectrum` was requested.

* **`spectrum_dereferenced_for_stokes`**: a Stokes slot without `spectrum`, on a photon without
  parallel transport, makes the call dereference the `NULL` slot `spectrum`;
* `Spectrometer.single`, `plainPhoton`, `thickObject`, `requesting`, `restHit`: one call where
  it happens;
* `bandIntegrals_single`: at rest, with a constant emission `1`, the band integral of the single
  channel returns `1`, so that these calls also reach the per-channel block with `binspectrum`.
-/

namespace Gyoto.Astrobj

variable {𝕜 Φ : Type} [LinearOrderedField 𝕜] (g : Generic 𝕜) (P : PhotonOps Φ 𝕜)

/-- **Stokes slots without `spectrum` on an unpolarized photon**: when a Stokes slot is requested
and `spectrum` is not, a photon without parallel transport and a spectrometer with at least one
sample make the unpolarized loop add into the `NULL` slot `data->spectrum`. -/
theorem spectrum_dereferenced_for_stokes (fuel : Nat) (ph : Φ) (h : HitState 𝕜) (dt : 𝕜)
    (d : Properties 𝕜) (hpt : P.parallelTransport ph = false) (hlen : h.coordPh.length ≤ 8)
    (hn : 0 < (g.frame P ph h dt).nbnuobs) (hspec : d.slot .spectrum = none)
    (hstokes : (d.slot .stokesQ).isSome ∨ (d.slot .stokesU).isSome ∨ (d.slot .stokesV).isSome)
    (hbin : d.slot .binspectrum = none) :
    processHitQuantities g P fuel ph h dt (some d) = .error (.nullSlot .spectrum) := by
  set c := g.frame P ph h dt with hc
  obtain ⟨r4, h4, hp4, -, hs4, -⟩ := scalarBlocks_spec g P c ⟨d, ph⟩ (.inl hlen)
  obtain ⟨m, hm⟩ : ∃ m, c.nbnuobs = m + 1 := ⟨c.nbnuobs - 1, by omega⟩
  have hsp : r4.data.slot .spectrum = none := by rw [hs4 .spectrum rfl]; exact hspec
  have hcond : ((r4.data.slot .spectrum).isSome || (r4.data.slot .stokesQ).isSome ||
      (r4.data.slot .stokesU).isSome || (r4.data.slot .stokesV).isSome) = true := by
    rw [hs4 .spectrum rfl, hs4 .stokesQ rfl, hs4 .stokesU rfl, hs4 .stokesV rfl]
    simp only [Bool.or_eq_true]
    tauto
  have hspec_block : spectrumBlock g P c r4 = .error (.nullSlot .spectrum) := by
    rw [spectrumBlock, if_pos hcond, if_neg (by simp [hp4, hpt]), hm, List.range_succ_eq_map]
    simp [List.foldlM, unpolarizedStep, Run.addTo_of_none hsp, bind, Except.bind]
  have hbin4 : r4.data.slot .binspectrum = none := by rw [hs4 .binspectrum rfl]; exact hbin
  simp only [processHitQuantities, ← hc, h4, binspectrumBlock_of_none g P c hbin4, hspec_block,
    bind, Except.bind, Except.map]

/-! ## A concrete call -/

/-- One channel, the band `[1/2, 3/2]` around `1`. -/
def Spectrometer.single : Spectrometer ℚ :=
  ⟨[1], [1 / 2, 3 / 2], [0, 1], rfl, by decide⟩

/-- A photon with the spectrometer `single`, parallel-transported or not, whose transmissions
are `1`; it ignores what it is sent. -/
def plainPhoton (pt : Bool) : PhotonOps Unit ℚ where
  freqObs _ := 1
  spectrometer _ := some Spectrometer.single
  parallelTransport _ := pt
  getTransmission _ _ := 1
  transmit _ _ ph := ph
  transfer s ph := (s, ph)

/-- An optically thick object with nothing overridden, in a metric where `ggredm1 = 1`; the
`<cmath>` functions play no part in the calls below. -/
def thickObject : Generic ℚ where
  libm := ⟨fun _ => 1, fun _ => 0, 0⟩
  overrides := Overrides.generic
  opticallyThin := false
  noredshift := false
  scalarProd _ _ _ := -1

/-- A record in which exactly the slots `ss` are requested, all reset to `0`. -/
def requesting (ss : List Slot) : Properties ℚ where
  slot s := if s ∈ ss then some fun _ => 0 else none
  firstDminFound := 0
  offset := 1
  intensityConverter := none
  spectrumConverter := none
  binspectrumConverter := none

/-- A hit with the photon at rest in the frame of the coordinates. -/
def restHit : HitState ℚ := ⟨[0, 0, 0, 0, 1, 0, 0, 0], [0, 0, 0, 0, 1, 0, 0, 0]⟩

theorem thickObject_emission (nu dsem : ℚ) (h : HitState ℚ) : thickObject.emission nu dsem h = 1 :=
  Resolved.emission_of_none rfl rfl rfl nu dsem h

theorem thickObject_ggredm1_restHit : thickObject.ggredm1 restHit = 1 := by
  simp [Generic.ggredm1, thickObject]

theorem bandIntegrals_single {Φ : Type} (g : Generic ℚ) (hg : g.ggredm1 restHit = 1)
    (he : ∀ nu dsem h, g.emission nu dsem h = 1) (P : PhotonOps Φ ℚ) (ph : Φ) (dt : ℚ)
    (hs : P.spectrometer ph = some Spectrometer.single) :
    bandIntegrals g (g.frame P ph restHit dt) Spectrometer.single 2 = some [1] := by
  have hf : (fun nu => g.emission nu (g.dsem restHit dt) restHit) = fun _ => 1 :=
    funext fun nu => he nu _ restHit
  have hc : Converged (fun _ : ℚ => 1) (min 2⁻¹ (3 / 2)) (max 2⁻¹ (3 / 2)) 1 := by
    simp only [Converged, trapezoid_const _ _ _ (Nat.two_pow_pos _), sub_self, abs_zero]
    norm_num
  obtain ⟨⟨I, ps⟩, hx⟩ := Option.isSome_iff_exists.1 (integrateEmission_isSome hc le_rfl (le_refl 2))
  obtain ⟨last, -, hI, -⟩ := integrateEmission_eq_some hx
  have h1 : (g.frame P ph restHit dt).nbnuobs = 1 := by
    simp [Frame.nbnuobs, Generic.frame, hs, Spectrometer.single]
  simp only [bandIntegrals, integrateEmissionVector, h1, show List.range 1 = [0] from rfl,
    List.mapM_cons, List.mapM_nil]
  simp [Generic.frame, Spectrometer.single, hg, hf, hx, hs]
  rw [hI, trapezoid_const _ _ _ (Nat.two_pow_pos _)]
  norm_num

/-- `stokesQ` alone, on a photon without parallel transport. -/
theorem spectrum_dereferenced_for_stokesQ :
    (plainPhoton false).parallelTransport () = false ∧ restHit.coordPh.length ≤ 8 ∧
      0 < (thickObject.frame (plainPhoton false) () restHit 1).nbnuobs ∧
      (requesting [.stokesQ]).slot .spectrum = none ∧
      ((requesting [.stokesQ]).slot .stokesQ).isSome ∧
      (requesting [.stokesQ]).slot .binspectrum = none ∧
      processHitQuantities thickObject (plainPhoton false) 1 () restHit 1 (some (requesting [.stokesQ])) =
        .error (.nullSlot .spectrum) :=
  ⟨rfl, by decide, by decide, rfl, rfl, rfl,
    spectrum_dereferenced_for_stokes thickObject (plainPhoton false) 1 () restHit 1 _ rfl
      (by decide) (by decide) rfl (.inl rfl) rfl⟩

end Gyoto.Astrobj

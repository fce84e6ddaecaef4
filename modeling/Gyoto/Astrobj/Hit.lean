import Gyoto.Astrobj.Resolved
import Gyoto.Astrobj.Integration
import Gyoto.Astrobj.Properties

/-!
# A hit, as `processHitQuantities` sees it

The collaborators of `Generic::processHitQuantities` that are not part of this code are
parameters: the photon (`PhotonOps`), its spectrometer, and the metric's scalar product. The
object's primitives are those of the abstract model (`Resolved`): from every admissible mask a
call returns the same answer (`results_independent_of_history`).

* `Spectrometer`, `PhotonOps`, `HitState`;
* `Generic`: the object, with `ggredm1`, `ggred`, `dsem` and its primitives;
* `Frame`: what a call computes before it touches the record;
* `integrateEmissionVector`: the band integrals of the channels.
-/

namespace Gyoto.Astrobj

/-- What `processHitQuantities` reads of a spectrometer: the `nSamples()` channel midpoints, the
`getNBoundaries()` channel boundaries, and for each channel the indices of its two boundaries. -/
structure Spectrometer (𝕜 : Type) where
  midpoints : List 𝕜
  channelBoundaries : List 𝕜
  channelIndices : List Nat
  channelIndices_length : channelIndices.length = 2 * midpoints.length
  channelIndices_lt : ∀ k ∈ channelIndices, k < channelBoundaries.length

/-- The photon as `processHitQuantities` uses it. `getTransmission none` is
`getTransmission(size_t(-1))`, the overall transmission, and `transmit none` updates it;
`transfer` receives the polarized coefficients and may rewrite them. -/
structure PhotonOps (Φ 𝕜 : Type) where
  freqObs : Φ → 𝕜
  spectrometer : Φ → Option (Spectrometer 𝕜)
  parallelTransport : Φ → Bool
  getTransmission : Φ → Option Nat → 𝕜
  transmit : Option Nat → 𝕜 → Φ → Φ
  transfer : List (Stokes 𝕜) → Φ → List (Stokes 𝕜) × Φ

/-- The photon and object states at a hit, `coord_ph_hit` (8 components, 16 when the photon is
parallel-transported) and `coord_obj_hit` (8). -/
structure HitState (𝕜 : Type) where
  coordPh : List 𝕜
  coordObj : List 𝕜

/-- What `processHitQuantities` uses of the object: its primitives (`Generic`'s bodies and the
overrides of its concrete type), `flag_radtransf_`, `noredshift_`, and its metric's
`ScalarProd(pos, u, v)`. -/
structure Generic (𝕜 : Type) where
  libm : Libm 𝕜
  overrides : Overrides 𝕜 (HitState 𝕜)
  opticallyThin : Bool
  noredshift : Bool
  scalarProd : List 𝕜 → List 𝕜 → List 𝕜 → 𝕜

namespace Generic

variable {𝕜 : Type} [LinearOrderedField 𝕜] (g : Generic 𝕜)

/-- `ggredm1 = -ScalarProd(&coord_ph_hit[0], coord_obj_hit+4, &coord_ph_hit[4])`, `nu_em/nu_obs`,
or `1.` when the object ignores redshift. -/
def ggredm1 (h : HitState 𝕜) : 𝕜 :=
  if g.noredshift then 1 else -g.scalarProd h.coordPh (h.coordObj.drop 4) (h.coordPh.drop 4)

/-- `dsem = dlambda*ggredm1` with `dlambda = dt/coord_ph_hit[4]`. -/
def dsem (h : HitState 𝕜) (dt : 𝕜) : 𝕜 := dt / h.coordPh.getD 4 0 * g.ggredm1 h

/-- The scalar `emission(nu, dsem, cph, co)`. -/
def emission (nu dsem : 𝕜) (h : HitState 𝕜) : 𝕜 :=
  Resolved.emission g.libm g.overrides g.opticallyThin nu dsem h

/-- The scalar `transmission(nu, dsem, cph, co)`. -/
def transmission (nu dsem : 𝕜) (h : HitState 𝕜) : 𝕜 :=
  Resolved.transmission g.libm g.overrides g.opticallyThin nu dsem h

/-- The unpolarized `radiativeQ(Inu, Taunu, nuem, nbnu, dsem, cph, co)`. -/
def radiativeQ (nuem : List 𝕜) (dsem : 𝕜) (h : HitState 𝕜) : List 𝕜 × List 𝕜 :=
  Resolved.radiativeQ g.libm g.overrides g.opticallyThin nuem dsem h

/-- The polarized `radiativeQ(Inu, Qnu, ..., rVnu, nuem, nbnu, dsem, cph, co)`. -/
def radiativeQPolar (nuem : List 𝕜) (dsem : 𝕜) (h : HitState 𝕜) : List (Stokes 𝕜) :=
  Resolved.radiativeQPolar g.libm g.overrides g.opticallyThin nuem dsem h

end Generic

variable {𝕜 : Type} [LinearOrderedField 𝕜]

/-- `integrateEmission(I, boundaries, chaninds, nbnu, dsem, cph, co)` for the emission `f`:
channel `i` integrated between `boundaries[chaninds[2i]]` and `boundaries[chaninds[2i+1]]`,
each loop cut after `fuel` iterations. -/
def integrateEmissionVector (f : 𝕜 → 𝕜) (boundaries : List 𝕜) (chaninds : List Nat) (nbnu : Nat)
    (fuel : Nat) : Option (List 𝕜) :=
  (List.range nbnu).mapM fun i =>
    (integrateEmission f (boundaries.getD (chaninds.getD (2 * i) 0) 0)
      (boundaries.getD (chaninds.getD (2 * i + 1) 0) 0) fuel).map Prod.fst

/-- What a call of `processHitQuantities` computes before it touches the record: the hit, the
photon's `freqObs()` and spectrometer, `ggredm1` and `dsem`. -/
structure Frame (𝕜 : Type) where
  h : HitState 𝕜
  freqObs : 𝕜
  spr : Option (Spectrometer 𝕜)
  ggredm1 : 𝕜
  dsem : 𝕜

namespace Frame

variable (c : Frame 𝕜)

/-- `ggred = 1./ggredm1`, `nu_obs/nu_em`. -/
def ggred : 𝕜 := 1 / c.ggredm1

/-- `nbnuobs`: the spectrometer's `nSamples()`, `0` without one. -/
def nbnuobs : Nat := (c.spr.map fun s => s.midpoints.length).getD 0

/-- `nuobs`: the spectrometer's midpoints. -/
def nuobs : List 𝕜 := (c.spr.map Spectrometer.midpoints).getD []

/-- `nuem[ii] = nuobs[ii]*ggredm1`. -/
def nuem : List 𝕜 := c.nuobs.map (· * c.ggredm1)

end Frame

/-- The frame of a call on photon `ph` at hit `h` after the step `dt`. -/
def Generic.frame {Φ : Type} (g : Generic 𝕜) (P : PhotonOps Φ 𝕜) (ph : Φ) (h : HitState 𝕜)
    (dt : 𝕜) : Frame 𝕜 where
  h := h
  freqObs := P.freqObs ph
  spr := P.spectrometer ph
  ggredm1 := g.ggredm1 h
  dsem := g.dsem h dt

end Gyoto.Astrobj

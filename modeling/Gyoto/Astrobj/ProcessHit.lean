import Gyoto.Astrobj.Hit

/-!
# `Generic::processHitQuantities`

One crossing of the object by a photon: every requested slot of the record is updated, in the
order of the source, and the photon's transmissions are written back. The body is cut into the
blocks of the source, each a step `Run 𝕜 Φ → Except Fault (Run 𝕜 Φ)` under the call's `Frame`.

* `applyConverter`, `storeIfRequested`, `addIfRequested`: the guarded accesses the blocks share;
* `impactBlock`, `intensityBlock`, `binspectrumBlock`, `spectrumBlock`, `finalTransmit`;
* `processHitQuantities`, and `processHits`, the calls of a photon's successive crossings;
* `scalarBlocks_spec`, `foldlM_polarizedStep`: the blocks that never fail, and what they keep.
-/

set_option linter.unusedSectionVars false

namespace Gyoto.Astrobj

variable {𝕜 Φ : Type} [LinearOrderedField 𝕜]

/-- `#ifdef HAVE_UDUNITS if (converter) inc = (*converter)(inc);`. -/
def applyConverter (conv : Option (𝕜 → 𝕜)) (inc : 𝕜) : 𝕜 :=
  match conv with
  | some f => f inc
  | none => inc

namespace Run

/-- `if (data->s) data->s[i] = v;`. -/
def storeIfRequested (s : Slot) (i : Nat) (v : 𝕜) (r : Run 𝕜 Φ) : Except Fault (Run 𝕜 Φ) :=
  if (r.data.slot s).isSome then r.store s i v else .ok r

/-- `if (data->s) data->s[i] += inc;`. -/
def addIfRequested (s : Slot) (i : Nat) (inc : 𝕜) (r : Run 𝕜 Φ) : Except Fault (Run 𝕜 Φ) :=
  if (r.data.slot s).isSome then r.addTo s i inc else .ok r

/-- `ph -> transmit(i, v)`. -/
def transmit (P : PhotonOps Φ 𝕜) (i : Option Nat) (v : 𝕜) (r : Run 𝕜 Φ) : Run 𝕜 Φ :=
  { r with ph := P.transmit i v r.ph }

end Run

variable (g : Generic 𝕜) (P : PhotonOps Φ 𝕜) (c : Frame 𝕜)

/-- `if (data->impactcoords && data->impactcoords[0]==DBL_MAX)`: the first hit copies the 8
object and the 8 photon coordinates, and fails on a parallel-transported photon state. -/
def impactBlock (r : Run 𝕜 Φ) : Except Fault (Run 𝕜 Φ) :=
  match r.data.slot .impactcoords with
  | some buf =>
    if buf 0 = dblMax then
      if c.h.coordPh.length > 8 then
        .error (.error "ImpactCoords is incompatible with parallel transport")
      else
        .ok (r.setSlot .impactcoords fun j =>
          if j < 8 then c.h.coordObj.getD j 0 else if j < 16 then c.h.coordPh.getD (j - 8) 0
          else buf j)
    else .ok r
  | none => .ok r

/-- `if (data->intensity)`: the emission at `freqObs*ggredm1`, attenuated by the photon's overall
transmission and redshifted by `ggred³`. -/
def intensityBlock (r : Run 𝕜 Φ) : Except Fault (Run 𝕜 Φ) :=
  r.addIfRequested .intensity 0 <| applyConverter r.data.intensityConverter <|
    g.emission (c.freqObs * c.ggredm1) c.dsem c.h * P.getTransmission r.ph none *
      c.ggred * c.ggred * c.ggred

/-- One iteration of the binspectrum loop: the band integral `I[ii]` of channel `ii`, attenuated
by the channel's transmission and redshifted by `ggred⁴`, and unless `data->spectrum` is set,
the channel's transmission written back. -/
def binspectrumStep (I : List 𝕜) (r : Run 𝕜 Φ) (ii : Nat) : Except Fault (Run 𝕜 Φ) := do
  let r ← r.addTo .binspectrum (ii * r.data.offset) <|
    applyConverter r.data.binspectrumConverter <|
      I.getD ii 0 * P.getTransmission r.ph (some ii) * c.ggred * c.ggred * c.ggred * c.ggred
  if (r.data.slot .spectrum).isNone then
    .ok (r.transmit P (some ii) (g.transmission (c.nuobs.getD ii 0 * c.ggredm1) c.dsem c.h))
  else .ok r

/-- The band integrals `I` of the channels of the spectrometer `s`, over their boundaries
redshifted by `ggredm1`. -/
def bandIntegrals (s : Spectrometer 𝕜) (fuel : Nat) : Option (List 𝕜) :=
  integrateEmissionVector (fun nu => g.emission nu c.dsem c.h)
    (s.channelBoundaries.map (· * c.ggredm1)) s.channelIndices c.nbnuobs fuel

/-- `if (data->binspectrum)`: the band integrals of the channels, then one `binspectrumStep` per
channel. -/
def binspectrumBlock (fuel : Nat) (r : Run 𝕜 Φ) : Except Fault (Run 𝕜 Φ) :=
  if (r.data.slot .binspectrum).isSome then
    match c.spr with
    | none => .error .nullSpectrometer
    | some s =>
      match bandIntegrals g c s fuel with
      | none => .error .outOfFuel
      | some I => (List.range c.nbnuobs).foldlM (binspectrumStep g P c I) r
  else .ok r

/-- One iteration of the polarized loop: each of `spectrum`, `stokesQ`, `stokesU`, `stokesV`
that is requested gets its coefficient redshifted by `ggred³`. -/
def polarizedStep (s : List (Stokes 𝕜)) (r : Run 𝕜 Φ) (ii : Nat) : Except Fault (Run 𝕜 Φ) := do
  let x := s.getD ii ⟨0, 0, 0, 0, 0, 0, 0, 0, 0, 0, 0⟩
  let ggred3 := c.ggred * c.ggred * c.ggred
  let conv := applyConverter r.data.spectrumConverter
  let r ← r.addIfRequested .spectrum (ii * r.data.offset) (conv (x.Inu * ggred3))
  let r ← r.addIfRequested .stokesQ (ii * r.data.offset) (conv (x.Qnu * ggred3))
  let r ← r.addIfRequested .stokesU (ii * r.data.offset) (conv (x.Unu * ggred3))
  r.addIfRequested .stokesV (ii * r.data.offset) (conv (x.Vnu * ggred3))

/-- One iteration of the unpolarized loop: `Inu[ii]` attenuated by the channel's transmission and
redshifted by `ggred³` is added to `data->spectrum`, unguarded, then `Taunu[ii]` is written back. -/
def unpolarizedStep (Inu Taunu : List 𝕜) (r : Run 𝕜 Φ) (ii : Nat) : Except Fault (Run 𝕜 Φ) := do
  let r ← r.addTo .spectrum (ii * r.data.offset) <| applyConverter r.data.spectrumConverter <|
    Inu.getD ii 0 * P.getTransmission r.ph (some ii) * c.ggred * c.ggred * c.ggred
  .ok (r.transmit P (some ii) (Taunu.getD ii 0))

/-- `if (data->spectrum||data->stokesQ||data->stokesU||data->stokesV)`: with parallel transport,
the polarized `radiativeQ` handed to `ph->transfer` and the `polarizedStep`s; without, the
unpolarized `radiativeQ` and the `unpolarizedStep`s. -/
def spectrumBlock (r : Run 𝕜 Φ) : Except Fault (Run 𝕜 Φ) :=
  if (r.data.slot .spectrum).isSome || (r.data.slot .stokesQ).isSome ||
      (r.data.slot .stokesU).isSome || (r.data.slot .stokesV).isSome then
    if P.parallelTransport r.ph then
      let (s, ph) := P.transfer (g.radiativeQPolar c.nuem c.dsem c.h) r.ph
      (List.range c.nbnuobs).foldlM (polarizedStep c s) { r with ph := ph }
    else
      let (Inu, Taunu) := g.radiativeQ c.nuem c.dsem c.h
      (List.range c.nbnuobs).foldlM (unpolarizedStep P c Inu Taunu) r
  else .ok r

/-- `ph -> transmit(size_t(-1), transmission(freqObs*ggredm1, dsem, cph, co))`. -/
def finalTransmit (r : Run 𝕜 Φ) : Run 𝕜 Φ :=
  r.transmit P none (g.transmission (c.freqObs * c.ggredm1) c.dsem c.h)

/-- The blocks of the scalar slots, in order: `redshift`, `time`, `impactcoords`, `intensity`. -/
def scalarBlocks (r : Run 𝕜 Φ) : Except Fault (Run 𝕜 Φ) := do
  let r ← r.storeIfRequested .redshift 0 c.ggred
  let r ← r.storeIfRequested .time 0 (c.h.coordPh.getD 0 0)
  let r ← impactBlock c r
  intensityBlock g P c r

/-- `Generic::processHitQuantities(ph, coord_ph_hit, coord_obj_hit, dt, data)`, the band
integrals' loops cut after `fuel` iterations: the photon and the record after the call; nothing
happens when `data` is `NULL`. -/
def processHitQuantities (fuel : Nat) (ph : Φ) (h : HitState 𝕜) (dt : 𝕜)
    (data : Option (Properties 𝕜)) : Except Fault (Φ × Option (Properties 𝕜)) :=
  match data with
  | none => .ok (ph, none)
  | some d =>
    let c := g.frame P ph h dt
    (do
      let r ← scalarBlocks g P c ⟨d, ph⟩
      let r ← binspectrumBlock g P c fuel r
      let r ← spectrumBlock g P c r
      .ok (finalTransmit g P c r)).map fun r : Run 𝕜 Φ => (r.ph, some r.data)

/-- Successive crossings of the object by one photon, each hit `(coord_ph_hit, dt)` processed into
the same record by `processHitQuantities`, as the photon's integration makes them. -/
def processHits (fuel : Nat) (hits : List (HitState 𝕜 × 𝕜)) (ph : Φ) (data : Option (Properties 𝕜)) :
    Except Fault (Φ × Option (Properties 𝕜)) :=
  hits.foldlM (fun p x => processHitQuantities g P fuel p.1 x.1 x.2 p.2) (ph, data)

/-! ### The blocks, one equation each -/

namespace Run

variable {r : Run 𝕜 Φ} {s : Slot}

@[simp] theorem transmit_data (i : Option Nat) (v : 𝕜) (r : Run 𝕜 Φ) :
    (r.transmit P i v).data = r.data := rfl

@[simp] theorem transmit_ph (i : Option Nat) (v : 𝕜) (r : Run 𝕜 Φ) :
    (r.transmit P i v).ph = P.transmit i v r.ph := rfl

theorem storeIfRequested_of_none (h : r.data.slot s = none) (i : Nat) (v : 𝕜) :
    r.storeIfRequested s i v = .ok r := by
  simp [storeIfRequested, h]

theorem addIfRequested_of_none (h : r.data.slot s = none) (i : Nat) (inc : 𝕜) :
    r.addIfRequested s i inc = .ok r := by
  simp [addIfRequested, h]

theorem addIfRequested_of_slot {buf : Nat → 𝕜} (h : r.data.slot s = some buf) (i : Nat) (inc : 𝕜) :
    r.addIfRequested s i inc = .ok (r.setSlot s (Function.update buf i (buf i + inc))) := by
  simp [addIfRequested, h, addTo_of_slot h]

end Run

theorem Run.storeIfRequested_spec (s : Slot) (i : Nat) (v : 𝕜) (r : Run 𝕜 Φ) :
    ∃ r', r.storeIfRequested s i v = .ok r' ∧ r'.ph = r.ph ∧ r.data.SlotsOnly r'.data ∧
      ∀ t, t ≠ s → r'.data.slot t = r.data.slot t := by
  cases h : r.data.slot s with
  | none => exact ⟨r, Run.storeIfRequested_of_none h i v, rfl, .refl _, fun _ _ => rfl⟩
  | some buf =>
    refine ⟨r.setSlot s (Function.update buf i v), by simp [Run.storeIfRequested, Run.store, h], rfl,
      Run.slotsOnly_setSlot .., fun t ht => ?_⟩
    simp [Run.setSlot_slot, ht]

theorem Run.addIfRequested_spec (s : Slot) (i : Nat) (inc : 𝕜) (r : Run 𝕜 Φ) :
    ∃ r', r.addIfRequested s i inc = .ok r' ∧ r'.ph = r.ph ∧ r.data.SlotsOnly r'.data ∧
      (∀ t, t ≠ s → r'.data.slot t = r.data.slot t) ∧
      r'.data.slot s = (r.data.slot s).map fun buf => Function.update buf i (buf i + inc) := by
  cases h : r.data.slot s with
  | none => exact ⟨r, Run.addIfRequested_of_none h i inc, rfl, .refl _, fun _ _ => rfl, h⟩
  | some buf =>
    refine ⟨_, Run.addIfRequested_of_slot h i inc, rfl, Run.slotsOnly_setSlot .., fun t ht => ?_,
      by simp [Run.setSlot_slot]⟩
    simp [Run.setSlot_slot, ht]

theorem impactBlock_of_none {r : Run 𝕜 Φ} (h : r.data.slot .impactcoords = none) :
    impactBlock c r = .ok r := by
  simp [impactBlock, h]

theorem binspectrumBlock_of_none {r : Run 𝕜 Φ} (h : r.data.slot .binspectrum = none) (fuel : Nat) :
    binspectrumBlock g P c fuel r = .ok r := by
  simp [binspectrumBlock, h]

theorem spectrumBlock_of_none {r : Run 𝕜 Φ} (hs : r.data.slot .spectrum = none)
    (hq : r.data.slot .stokesQ = none) (hu : r.data.slot .stokesU = none)
    (hv : r.data.slot .stokesV = none) : spectrumBlock g P c r = .ok r := by
  simp [spectrumBlock, hs, hq, hu, hv]


/-! ### The blocks that never fail -/

theorem impactBlock_spec (r : Run 𝕜 Φ)
    (hlen : c.h.coordPh.length ≤ 8 ∨ r.data.slot .impactcoords = none) :
    ∃ r', impactBlock c r = .ok r' ∧ r'.ph = r.ph ∧ r.data.SlotsOnly r'.data ∧
      ∀ t, t ≠ .impactcoords → r'.data.slot t = r.data.slot t := by
  unfold impactBlock
  split
  · rename_i buf hbuf
    split_ifs with h0 h8
    · rcases hlen with hlen | hlen
      · omega
      · simp [hlen] at hbuf
    · exact ⟨_, rfl, rfl, Run.slotsOnly_setSlot .., fun t ht => by simp [Run.setSlot_slot, ht]⟩
    · exact ⟨r, rfl, rfl, .refl _, fun _ _ => rfl⟩
  · exact ⟨r, rfl, rfl, .refl _, fun _ _ => rfl⟩

/-- The blocks before the per-channel ones, on an 8-component photon state: they leave the photon,
all but the slots, and the per-channel slots as they were, and add the redshifted emission,
attenuated by the overall transmission, into `intensity` when it is requested. -/
theorem scalarBlocks_spec (r : Run 𝕜 Φ)
    (hlen : c.h.coordPh.length ≤ 8 ∨ r.data.slot .impactcoords = none) :
    ∃ r', scalarBlocks g P c r = .ok r' ∧ r'.ph = r.ph ∧ r.data.SlotsOnly r'.data ∧
      (∀ t, t.layout = .channel → r'.data.slot t = r.data.slot t) ∧
      r'.data.slot .intensity = (r.data.slot .intensity).map fun buf => Function.update buf 0
        (buf 0 + applyConverter r.data.intensityConverter
          (g.emission (c.freqObs * c.ggredm1) c.dsem c.h * P.getTransmission r.ph none *
            c.ggred * c.ggred * c.ggred)) := by
  obtain ⟨r1, h1, hp1, ho1, hs1⟩ := Run.storeIfRequested_spec .redshift 0 c.ggred r
  obtain ⟨r2, h2, hp2, ho2, hs2⟩ := Run.storeIfRequested_spec .time 0 (c.h.coordPh.getD 0 0) r1
  obtain ⟨r3, h3, hp3, ho3, hs3⟩ := impactBlock_spec c r2 (hlen.imp_right fun h => by
    rw [hs2 _ (by decide), hs1 _ (by decide), h])
  obtain ⟨r4, h4, hp4, ho4, hs4, hv4⟩ := Run.addIfRequested_spec .intensity 0
    (applyConverter r3.data.intensityConverter
      (g.emission (c.freqObs * c.ggredm1) c.dsem c.h * P.getTransmission r3.ph none *
        c.ggred * c.ggred * c.ggred)) r3
  have hs : ∀ t, t ≠ .redshift → t ≠ .time → t ≠ .impactcoords → r3.data.slot t = r.data.slot t :=
    fun t h1 h2 h3 => by rw [hs3 t h3, hs2 t h2, hs1 t h1]
  have hp : r3.ph = r.ph := by rw [hp3, hp2, hp1]
  have ho := ho1.trans (ho2.trans ho3)
  refine ⟨r4, ?_, hp4.trans hp, ho.trans ho4, fun t ht => ?_, ?_⟩
  · simp only [scalarBlocks, h1, h2, h3, intensityBlock, bind, Except.bind, h4]
  · have : ∀ s, s.layout ≠ .channel → t ≠ s := fun s hs h => hs (h ▸ ht)
    rw [hs4 t (this _ (by decide)), hs t (this _ (by decide)) (this _ (by decide))
      (this _ (by decide))]
  · rw [hv4, hs _ (by decide) (by decide) (by decide), hp, ho.converters_eq.1]

/-- `x` returns, with the photon `ph`. -/
def ReturnsWith (x : Except Fault (Run 𝕜 Φ)) (ph : Φ) : Prop :=
  ∃ r', x = .ok r' ∧ r'.ph = ph

theorem ReturnsWith.bind {x : Except Fault (Run 𝕜 Φ)} {ph : Φ}
    {f : Run 𝕜 Φ → Except Fault (Run 𝕜 Φ)} (hx : ReturnsWith x ph)
    (hf : ∀ r : Run 𝕜 Φ, r.ph = ph → ReturnsWith (f r) ph) : ReturnsWith (x >>= f) ph := by
  obtain ⟨r, rfl, hr⟩ := hx
  exact hf r hr

theorem returnsWith_addIfRequested (s : Slot) (i : Nat) (inc : 𝕜) (r : Run 𝕜 Φ) :
    ReturnsWith (r.addIfRequested s i inc) r.ph := by
  obtain ⟨r', h, hp, -⟩ := Run.addIfRequested_spec s i inc r
  exact ⟨r', h, hp⟩

theorem foldlM_polarizedStep (st : List (Stokes 𝕜)) :
    ∀ (l : List Nat) (r : Run 𝕜 Φ), ReturnsWith (l.foldlM (polarizedStep c st) r) r.ph
  | [], r => ⟨r, rfl, rfl⟩
  | ii :: l, r => by
    rw [List.foldlM_cons]
    refine ReturnsWith.bind ?_ fun r' hr' => hr' ▸ foldlM_polarizedStep st l r'
    unfold polarizedStep
    exact (returnsWith_addIfRequested _ _ _ _).bind fun r1 h1 =>
      (h1 ▸ returnsWith_addIfRequested _ _ _ _).bind fun r2 h2 =>
        (h2 ▸ returnsWith_addIfRequested _ _ _ _).bind fun r3 h3 =>
          h3 ▸ returnsWith_addIfRequested _ _ _ _

end Gyoto.Astrobj

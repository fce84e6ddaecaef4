import Gyoto.Astrobj.NullSpectrum

/-!
# What a record accumulates over a photon's crossings

A photon without parallel transport whose `transmit(i, tau)` multiplies transmission `i` by `tau`
(`attenuating`) crosses the object again and again (`processHits`). Each per-channel loop adds
into `S[ii*offset]` and attenuates channel `ii` (`ChannelStep`); with a nonzero stride no two
channels share a location, and the record adds up hit by hit (`Accumulated`).

* `foldlM_channelStep`: a per-channel loop over distinct channels;
* `processHitQuantities_attenuating`: one hit;
* **`accumulated_quantities`**: the sums a run leaves in `intensity`, `spectrum` and
  `binspectrum`, each hit weighted by the transmissions of the hits before it;
* `halfObject`, `accumulated_quantities_half`: three hits on an object of transmission `1/2`;
* `spectrum_stride_zero`: with the stride `0` the channels collide in `spectrum[0]`.
-/

set_option linter.unusedSectionVars false

namespace Gyoto.Astrobj

/-! ## A photon that multiplies its transmissions -/

/-- The transmissions of a photon: the overall one and one per channel. -/
structure Transmissions (𝕜 : Type) where
  overall : 𝕜
  channel : Nat → 𝕜

variable {𝕜 : Type} [LinearOrderedField 𝕜]

/-- A photon without parallel transport, observed at `freq` through the spectrometer `s`, whose
`transmit(i, tau)` multiplies transmission `i` by `tau`. -/
def attenuating (freq : 𝕜) (s : Spectrometer 𝕜) : PhotonOps (Transmissions 𝕜) 𝕜 where
  freqObs _ := freq
  spectrometer _ := some s
  parallelTransport _ := false
  getTransmission p i := match i with
    | none => p.overall
    | some i => p.channel i
  transmit i v p := match i with
    | none => { p with overall := p.overall * v }
    | some i => { p with channel := Function.update p.channel i (p.channel i * v) }
  transfer st p := (st, p)

/-! ## The per-channel loops -/

/-- What one step of a per-channel loop does, from a run where `Q` holds: `inc ii T` is added
into `S[ii*offset]`, `T` being channel `ii`'s transmission, and that transmission is multiplied by
`t ii`; the step keeps `Q`, the stride and every other slot. -/
def ChannelStep (S : Slot) (Q : Run 𝕜 (Transmissions 𝕜) → Prop) (inc : Nat → 𝕜 → 𝕜) (t : Nat → 𝕜)
    (f : Run 𝕜 (Transmissions 𝕜) → Nat → Except Fault (Run 𝕜 (Transmissions 𝕜))) : Prop :=
  ∀ r ii, Q r → ∃ r', f r ii = .ok r' ∧ Q r' ∧ r.data.SlotsOnly r'.data ∧
    (∀ u, u ≠ S → r'.data.slot u = r.data.slot u) ∧
    r'.data.slot S = (r.data.slot S).map (fun buf => Function.update buf (ii * r.data.offset)
      (buf (ii * r.data.offset) + inc ii (r.ph.channel ii))) ∧
    r'.ph = { r.ph with channel := Function.update r.ph.channel ii (r.ph.channel ii * t ii) }

/-- **A per-channel loop over distinct channels**: each channel `i` it visits gets `inc i` of its
transmission at the loop's start, and has that transmission multiplied by `t i`. -/
theorem foldlM_channelStep {S : Slot} {Q : Run 𝕜 (Transmissions 𝕜) → Prop} {inc : Nat → 𝕜 → 𝕜}
    {t : Nat → 𝕜} {f : Run 𝕜 (Transmissions 𝕜) → Nat → Except Fault (Run 𝕜 (Transmissions 𝕜))}
    (hf : ChannelStep S Q inc t f) :
    ∀ (l : List Nat) (r : Run 𝕜 (Transmissions 𝕜)), l.Nodup → Q r → 0 < r.data.offset →
      ∃ r', l.foldlM f r = .ok r' ∧ Q r' ∧ r.data.SlotsOnly r'.data ∧
        (∀ u, u ≠ S → r'.data.slot u = r.data.slot u) ∧
        (∀ i, (r'.data.slot S).map (· (i * r.data.offset)) = (r.data.slot S).map fun buf =>
          buf (i * r.data.offset) + if i ∈ l then inc i (r.ph.channel i) else 0) ∧
        r'.ph.overall = r.ph.overall ∧
        ∀ i, r'.ph.channel i = r.ph.channel i * if i ∈ l then t i else 1
  | [], r, _, hQ, _ => ⟨r, rfl, hQ, .refl _, fun _ _ => rfl, fun i => by cases r.data.slot S <;> simp,
      rfl, fun i => by simp⟩
  | ii :: l, r, hnd, hQ, hoff => by
    obtain ⟨hii, hnd⟩ := List.nodup_cons.1 hnd
    obtain ⟨r1, h1, hQ1, ho1, hs1, hv1, hph1⟩ := hf r ii hQ
    obtain ⟨r', h', hQ', ho', hs', hv', hov', hch'⟩ :=
      foldlM_channelStep hf l r1 hnd hQ1 (ho1.offset_eq ▸ hoff)
    have hch1 : ∀ i, r1.ph.channel i = if i = ii then r.ph.channel i * t i else r.ph.channel i :=
      fun i => by simp only [hph1, Function.update_apply]; split_ifs with hi <;> simp [hi]
    refine ⟨r', by rw [List.foldlM_cons, h1]; exact h', hQ', ho1.trans ho',
      fun u hu => (hs' u hu).trans (hs1 u hu), fun i => ?_, by rw [hov', hph1], fun i => ?_⟩
    · rw [← ho1.offset_eq, hv', hv1, ho1.offset_eq, Option.map_map]
      congr 1
      funext buf
      by_cases hi : i = ii
      · subst hi
        simp [hii]
      · have : i * r.data.offset ≠ ii * r.data.offset := fun h => hi (Nat.eq_of_mul_eq_mul_right hoff h)
        simp [hi, this, hch1, Function.update_apply]
    · rw [hch', hch1]
      by_cases hi : i = ii
      · subst hi
        simp [hii]
      · simp [hi]

@[simp] theorem applyConverter_none (inc : 𝕜) : applyConverter none inc = inc := rfl

variable (g : Generic 𝕜) (freq : 𝕜) (s : Spectrometer 𝕜) (c : Frame 𝕜)

theorem binspectrumStep_channelStep (I : List 𝕜) (sp : Bool) :
    ChannelStep .binspectrum
      (fun r => (r.data.slot .binspectrum).isSome ∧ (r.data.slot .spectrum).isSome = sp ∧
        r.data.binspectrumConverter = none)
      (fun ii T => I.getD ii 0 * T * c.ggred * c.ggred * c.ggred * c.ggred)
      (fun ii => if sp then 1 else g.transmission (c.nuobs.getD ii 0 * c.ggredm1) c.dsem c.h)
      (binspectrumStep g (attenuating freq s) c I) := by
  rintro r ii ⟨hb, hsp, hconv⟩
  obtain ⟨buf, hbuf⟩ := Option.isSome_iff_exists.1 hb
  have hn : (r.data.slot .spectrum).isNone = !sp := by rw [← hsp]; cases r.data.slot .spectrum <;> rfl
  unfold binspectrumStep
  rw [Run.addTo_of_slot hbuf]
  cases sp <;>
  · simp only [bind, Except.bind, Run.setSlot_slot, if_neg (by decide : Slot.spectrum ≠ .binspectrum),
      hn, Bool.not_false, Bool.not_true, Bool.false_eq_true, if_true, if_false, Except.ok.injEq,
      exists_eq_left']
    exact ⟨⟨by simp [Run.setSlot_slot], by simpa [Run.setSlot_slot] using hsp, hconv⟩, rfl,
      fun u hu => by simp [Run.setSlot_slot, hu], by simp [Run.setSlot_slot, hbuf, hconv, attenuating],
      by simp [attenuating]⟩

theorem unpolarizedStep_channelStep (Inu Taunu : List 𝕜) :
    ChannelStep .spectrum
      (fun r => (r.data.slot .spectrum).isSome ∧ r.data.spectrumConverter = none)
      (fun ii T => Inu.getD ii 0 * T * c.ggred * c.ggred * c.ggred) (fun ii => Taunu.getD ii 0)
      (unpolarizedStep (attenuating freq s) c Inu Taunu) := by
  rintro r ii ⟨hsp, hconv⟩
  obtain ⟨buf, hbuf⟩ := Option.isSome_iff_exists.1 hsp
  simp only [unpolarizedStep, Run.addTo_of_slot hbuf, bind, Except.bind, Except.ok.injEq,
    exists_eq_left']
  exact ⟨⟨by simp [Run.setSlot_slot], hconv⟩, rfl, fun u hu => by simp [Run.setSlot_slot, hu],
    by simp [Run.setSlot_slot, hbuf, hconv, attenuating], rfl⟩

/-! ## The blocks on the photon `attenuating` -/

theorem binspectrumBlock_attenuating (fuel : Nat) (hspr : c.spr = some s)
    (r : Run 𝕜 (Transmissions 𝕜)) (hoff : 0 < r.data.offset)
    (hconv : r.data.binspectrumConverter = none)
    (hI : (r.data.slot .binspectrum).isSome → (bandIntegrals g c s fuel).isSome) :
    ∃ r', binspectrumBlock g (attenuating freq s) c fuel r = .ok r' ∧ r.data.SlotsOnly r'.data ∧
      (∀ u, u ≠ .binspectrum → r'.data.slot u = r.data.slot u) ∧
      (∀ i, (r'.data.slot .binspectrum).map (· (i * r.data.offset)) =
        (r.data.slot .binspectrum).map fun buf => buf (i * r.data.offset) +
          if i < c.nbnuobs then ((bandIntegrals g c s fuel).getD []).getD i 0 * r.ph.channel i *
            c.ggred * c.ggred * c.ggred * c.ggred else 0) ∧
      r'.ph.overall = r.ph.overall ∧
      ∀ i, r'.ph.channel i = r.ph.channel i *
        if i < c.nbnuobs ∧ (r.data.slot .binspectrum).isSome ∧ (r.data.slot .spectrum).isNone then
          g.transmission (c.nuobs.getD i 0 * c.ggredm1) c.dsem c.h else 1 := by
  by_cases hb : (r.data.slot .binspectrum).isSome
  · obtain ⟨I, hI⟩ := Option.isSome_iff_exists.1 (hI hb)
    obtain ⟨r', h', -, ho', hs', hv', hov', hch'⟩ :=
      foldlM_channelStep (binspectrumStep_channelStep g freq s c I (r.data.slot .spectrum).isSome)
        (List.range c.nbnuobs) r (List.nodup_range _) ⟨hb, rfl, hconv⟩ hoff
    refine ⟨r', ?_, ho', hs', fun i => by simpa [hI] using hv' i, hov', fun i => ?_⟩
    · simp only [binspectrumBlock, if_pos hb, hspr, hI]
      exact h'
    · rw [hch' i]
      by_cases hi : i < c.nbnuobs <;> cases h : r.data.slot .spectrum <;> simp [hi, hb, h]
  · have hn := Option.not_isSome_iff_eq_none.1 hb
    refine ⟨r, binspectrumBlock_of_none g _ c hn fuel, .refl _, fun _ _ => rfl, fun i => by simp [hn],
      rfl, fun i => by simp [hb]⟩

theorem spectrumBlock_attenuating (r : Run 𝕜 (Transmissions 𝕜)) (hoff : 0 < r.data.offset)
    (hconv : r.data.spectrumConverter = none) (hq : r.data.slot .stokesQ = none)
    (hu : r.data.slot .stokesU = none) (hv : r.data.slot .stokesV = none) :
    ∃ r', spectrumBlock g (attenuating freq s) c r = .ok r' ∧ r.data.SlotsOnly r'.data ∧
      (∀ u, u ≠ .spectrum → r'.data.slot u = r.data.slot u) ∧
      (∀ i, (r'.data.slot .spectrum).map (· (i * r.data.offset)) =
        (r.data.slot .spectrum).map fun buf => buf (i * r.data.offset) +
          if i < c.nbnuobs then (g.radiativeQ c.nuem c.dsem c.h).1.getD i 0 * r.ph.channel i *
            c.ggred * c.ggred * c.ggred else 0) ∧
      r'.ph.overall = r.ph.overall ∧
      ∀ i, r'.ph.channel i = r.ph.channel i *
        if i < c.nbnuobs ∧ (r.data.slot .spectrum).isSome then
          (g.radiativeQ c.nuem c.dsem c.h).2.getD i 0 else 1 := by
  by_cases hsp : (r.data.slot .spectrum).isSome
  · obtain ⟨r', h', -, ho', hs', hv', hov', hch'⟩ :=
      foldlM_channelStep (unpolarizedStep_channelStep freq s c (g.radiativeQ c.nuem c.dsem c.h).1
        (g.radiativeQ c.nuem c.dsem c.h).2) (List.range c.nbnuobs) r (List.nodup_range _)
        ⟨hsp, hconv⟩ hoff
    refine ⟨r', ?_, ho', hs', fun i => by simpa using hv' i, hov', fun i => by simp [hch' i, hsp]⟩
    simp only [spectrumBlock, hsp, Bool.true_or, if_true]
    exact h'
  · have hn := Option.not_isSome_iff_eq_none.1 hsp
    refine ⟨r, spectrumBlock_of_none g _ c hn hq hu hv, .refl _, fun _ _ => rfl, fun i => by simp [hn],
      rfl, fun i => by simp [hsp]⟩

/-! ## One hit -/

/-- The frame of the hit `x = (coord_ph_hit, dt)` on the photon `attenuating freq s`: it does not
depend on the photon's transmissions. -/
def Generic.frameAt (x : HitState 𝕜 × 𝕜) : Frame 𝕜 :=
  g.frame (attenuating freq s) ⟨1, fun _ => 1⟩ x.1 x.2

theorem frame_attenuating (ph : Transmissions 𝕜) (x : HitState 𝕜 × 𝕜) :
    g.frame (attenuating freq s) ph x.1 x.2 = g.frameAt freq s x := rfl

namespace Frame

/-- `E`: the emission at `freqObs*ggredm1`, which `intensity` accumulates. -/
def emissionObs : 𝕜 := g.emission (c.freqObs * c.ggredm1) c.dsem c.h

/-- `tau`: the transmission at `freqObs*ggredm1`, which attenuates the overall transmission. -/
def transmissionObs : 𝕜 := g.transmission (c.freqObs * c.ggredm1) c.dsem c.h

/-- `I[i]`: the unpolarized `Inu` of channel `i`, at `nuobs[i]*ggredm1`. -/
def intensityAt (i : Nat) : 𝕜 := (g.radiativeQ c.nuem c.dsem c.h).1.getD i 0

/-- `B[i]`: the band integral of channel `i` of the spectrometer `s`. -/
def bandIntegralAt (fuel i : Nat) : 𝕜 := ((bandIntegrals g c s fuel).getD []).getD i 0

end Frame

/-- The transmission hit `c` writes back for channel `i`, the record requesting the slots of `d`:
`Taunu[i]` from the unpolarized block when `spectrum` is requested, else the binspectrum loop's
`transmission` when `binspectrum` is, else none (`1`). -/
def channelTransmission (d : Properties 𝕜) (i : Nat) : 𝕜 :=
  if (d.slot .spectrum).isSome then (g.radiativeQ c.nuem c.dsem c.h).2.getD i 0
  else if (d.slot .binspectrum).isSome then g.transmission (c.nuobs.getD i 0 * c.ggredm1) c.dsem c.h
  else 1

/-- **One hit on the photon `attenuating`**, with no converter and no Stokes slot, on an
8-component photon state, the band integrals returning: `intensity` gets `E` times the overall
transmission and `ggred³`; channel `i` of `spectrum` gets `I[i]` times the channel's transmission
and `ggred³`, and of `binspectrum` `B[i]` times the channel's transmission and `ggred⁴`; then the
overall transmission is multiplied by `tau`, and each channel's by `channelTransmission`. -/
theorem processHitQuantities_attenuating (fuel : Nat) (ph : Transmissions 𝕜) (x : HitState 𝕜 × 𝕜)
    (d : Properties 𝕜) (hoff : 0 < d.offset)
    (hconv : d.intensityConverter = none ∧ d.spectrumConverter = none ∧
      d.binspectrumConverter = none)
    (hq : d.slot .stokesQ = none) (hu : d.slot .stokesU = none) (hv : d.slot .stokesV = none)
    (hlen : x.1.coordPh.length ≤ 8)
    (hI : (d.slot .binspectrum).isSome → (bandIntegrals g (g.frameAt freq s x) s fuel).isSome) :
    ∃ ph' d', processHitQuantities g (attenuating freq s) fuel ph x.1 x.2 (some d) =
        .ok (ph', some d') ∧ d.SlotsOnly d' ∧
      (∀ u, u.layout = .channel → u ≠ .spectrum → u ≠ .binspectrum → d'.slot u = d.slot u) ∧
      d'.slot .intensity = (d.slot .intensity).map (fun buf => Function.update buf 0 (buf 0 +
        (g.frameAt freq s x).emissionObs g * ph.overall * (g.frameAt freq s x).ggred *
          (g.frameAt freq s x).ggred * (g.frameAt freq s x).ggred)) ∧
      (∀ i, (d'.slot .spectrum).map (· (i * d.offset)) = (d.slot .spectrum).map fun buf =>
        buf (i * d.offset) + if i < s.midpoints.length then
          (g.frameAt freq s x).intensityAt g i * ph.channel i * (g.frameAt freq s x).ggred *
            (g.frameAt freq s x).ggred * (g.frameAt freq s x).ggred else 0) ∧
      (∀ i, (d'.slot .binspectrum).map (· (i * d.offset)) = (d.slot .binspectrum).map fun buf =>
        buf (i * d.offset) + if i < s.midpoints.length then
          (g.frameAt freq s x).bandIntegralAt g s fuel i * ph.channel i * (g.frameAt freq s x).ggred *
            (g.frameAt freq s x).ggred * (g.frameAt freq s x).ggred * (g.frameAt freq s x).ggred
        else 0) ∧
      ph'.overall = ph.overall * (g.frameAt freq s x).transmissionObs g ∧
      ∀ i < s.midpoints.length,
        ph'.channel i = ph.channel i * channelTransmission g (g.frameAt freq s x) d i := by
  set c := g.frameAt freq s x with hc
  have hn : c.nbnuobs = s.midpoints.length := rfl
  obtain ⟨r4, h4, hp4, ho4, hs4, hv4⟩ := scalarBlocks_spec g (attenuating freq s) c ⟨d, ph⟩ (.inl hlen)
  obtain ⟨r5, h5, ho5, hs5, hv5, hov5, hch5⟩ := binspectrumBlock_attenuating g freq s c fuel rfl r4
    (ho4.offset_eq ▸ hoff) (ho4.converters_eq.2.2.trans hconv.2.2)
    (by rw [hs4 .binspectrum rfl]; exact hI)
  have hs45 : ∀ u, u.layout = .channel → u ≠ .binspectrum → r5.data.slot u = d.slot u :=
    fun u hl hb => (hs5 u hb).trans (hs4 u hl)
  obtain ⟨r6, h6, ho6, hs6, hv6, hov6, hch6⟩ := spectrumBlock_attenuating g freq s c r5
    (ho5.offset_eq ▸ ho4.offset_eq ▸ hoff) ((ho4.trans ho5).converters_eq.2.1.trans hconv.2.1)
    ((hs45 .stokesQ rfl (by decide)).trans hq) ((hs45 .stokesU rfl (by decide)).trans hu)
    ((hs45 .stokesV rfl (by decide)).trans hv)
  have hoff4 : r4.data.offset = d.offset := ho4.offset_eq
  have hoff5 : r5.data.offset = d.offset := ho5.offset_eq.trans hoff4
  have hsp5 : r5.data.slot .spectrum = d.slot .spectrum := hs45 _ rfl (by decide)
  have hbin4 : r4.data.slot .binspectrum = d.slot .binspectrum := hs4 _ rfl
  refine ⟨(finalTransmit g (attenuating freq s) c r6).ph, r6.data, ?_, ho4.trans (ho5.trans ho6),
    fun u hl hs hb => (hs6 u hs).trans (hs45 u hl hb), ?_, fun i => ?_, fun i => ?_, ?_, fun i hi => ?_⟩
  · simp only [processHitQuantities, frame_attenuating, ← hc, h4, h5, h6, bind, Except.bind,
      Except.map]
    rfl
  · rw [hs6 _ (by decide), hs5 _ (by decide), hv4]
    simp only [hconv.1]
    rfl
  · rw [← hoff5, hv6, hoff5, hsp5]
    cases hd : d.slot .spectrum
    · rfl
    · simp [hch5, hp4, hs4 .spectrum rfl, hd, hn, Frame.intensityAt]
  · rw [hs6 _ (by decide), ← hoff4, hv5, hoff4, hbin4, hp4, hn]
    rfl
  · simp [finalTransmit, attenuating, hov6, hov5, hp4, Frame.transmissionObs]
  · simp only [finalTransmit, Run.transmit_ph, attenuating]
    rw [hch6, hch5, hsp5, hs4 .spectrum rfl, hbin4, hp4, hn]
    simp only [channelTransmission, hi, true_and]
    cases d.slot .spectrum <;> cases d.slot .binspectrum <;> simp

/-! ## A run of hits -/

theorem map_add_of_map_eq {o o' : Option (Nat → 𝕜)} {j : Nat} {a x : 𝕜}
    (h : o.map (· j) = o'.map fun _ => a) : (o.map fun buf => buf j + x) = o'.map fun _ => a + x := by
  cases o <;> cases o' <;> simp_all

theorem map_sum_range_succ {o o' o'' : Option (Nat → 𝕜)} {j K n : Nat} {x w τ : Nat → 𝕜} {y : 𝕜}
    (hacc : o'.map (· j) = o.map fun _ =>
      ∑ k in Finset.range K, x k * w k ^ n * ∏ l in Finset.range k, τ l)
    (hstep : o''.map (· j) = o'.map fun buf => buf j + y)
    (hy : y = x K * w K ^ n * ∏ l in Finset.range K, τ l) :
    o''.map (· j) = o.map fun _ =>
      ∑ k in Finset.range (K + 1), x k * w k ^ n * ∏ l in Finset.range k, τ l := by
  rw [hstep, map_add_of_map_eq hacc, Finset.sum_range_succ, hy]

theorem channelTransmission_congr {d d' : Properties 𝕜}
    (hs : (d'.slot .spectrum).isSome = (d.slot .spectrum).isSome)
    (hb : (d'.slot .binspectrum).isSome = (d.slot .binspectrum).isSome) :
    channelTransmission g c d' = channelTransmission g c d := by
  funext i
  simp only [channelTransmission, hs, hb]

variable (fuel : Nat) (hit : Nat → HitState 𝕜 × 𝕜) (d : Properties 𝕜)

/-- What the record and the photon hold after the hits `0, ..., K - 1`, from a record `d` reset by
`init` and a photon whose transmissions are `1`. -/
structure Accumulated (K : Nat) (ph : Transmissions 𝕜) (d' : Properties 𝕜) : Prop where
  slotsOnly : (d.init s.midpoints.length).SlotsOnly d'
  isSome_channel : ∀ u, u.layout = .channel → (d'.slot u).isSome = (d.slot u).isSome
  intensity : (d'.slot .intensity).map (· 0) = (d.slot .intensity).map fun _ =>
    ∑ k in Finset.range K, (g.frameAt freq s (hit k)).emissionObs g *
      (g.frameAt freq s (hit k)).ggred ^ 3 *
      ∏ j in Finset.range k, (g.frameAt freq s (hit j)).transmissionObs g
  spectrum : ∀ i < s.midpoints.length, (d'.slot .spectrum).map (· (i * d.offset)) =
    (d.slot .spectrum).map fun _ =>
      ∑ k in Finset.range K, (g.frameAt freq s (hit k)).intensityAt g i *
        (g.frameAt freq s (hit k)).ggred ^ 3 *
        ∏ j in Finset.range k, channelTransmission g (g.frameAt freq s (hit j)) d i
  binspectrum : ∀ i < s.midpoints.length, (d'.slot .binspectrum).map (· (i * d.offset)) =
    (d.slot .binspectrum).map fun _ =>
      ∑ k in Finset.range K, (g.frameAt freq s (hit k)).bandIntegralAt g s fuel i *
        (g.frameAt freq s (hit k)).ggred ^ 4 *
        ∏ j in Finset.range k, channelTransmission g (g.frameAt freq s (hit j)) d i
  overall : ph.overall = ∏ k in Finset.range K, (g.frameAt freq s (hit k)).transmissionObs g
  channel : ∀ i < s.midpoints.length,
    ph.channel i = ∏ k in Finset.range K, channelTransmission g (g.frameAt freq s (hit k)) d i

theorem accumulated_zero : Accumulated g freq s fuel hit d 0 ⟨1, fun _ => 1⟩ (d.init s.midpoints.length) := by
  refine ⟨.refl _, fun u _ => by simp [Properties.init], ?_, fun i hi => ?_, fun i hi => ?_, by simp,
    fun i _ => by simp⟩
  · cases h : d.slot .intensity <;>
      simp [Properties.init, Properties.Resets, Slot.layout, Slot.initValue, h]
  all_goals
    have : ∃ ii < s.midpoints.length, i * d.offset = ii * d.offset := ⟨i, hi, rfl⟩
    simp only [Properties.init, Option.map_map]
    congr 1
    funext buf
    exact if_pos this

variable {g freq s fuel hit d}

theorem Accumulated.succ {K : Nat} {ph : Transmissions 𝕜} {d' : Properties 𝕜}
    (hacc : Accumulated g freq s fuel hit d K ph d') (hoff : 0 < d.offset)
    (hconv : d.intensityConverter = none ∧ d.spectrumConverter = none ∧
      d.binspectrumConverter = none)
    (hq : d.slot .stokesQ = none) (hu : d.slot .stokesU = none) (hv : d.slot .stokesV = none)
    (hlen : (hit K).1.coordPh.length ≤ 8)
    (hI : (d.slot .binspectrum).isSome → (bandIntegrals g (g.frameAt freq s (hit K)) s fuel).isSome) :
    ∃ ph' d'', processHitQuantities g (attenuating freq s) fuel ph (hit K).1 (hit K).2 (some d') =
        .ok (ph', some d'') ∧ Accumulated g freq s fuel hit d (K + 1) ph' d'' := by
  have hoff' : d'.offset = d.offset := hacc.slotsOnly.offset_eq
  have hconv' := hacc.slotsOnly.converters_eq
  have hnone : ∀ u, u.layout = .channel → d.slot u = none → d'.slot u = none := fun u hl h =>
    Option.not_isSome_iff_eq_none.1 (by rw [hacc.isSome_channel u hl, h]; simp)
  obtain ⟨ph', d'', hrun, ho, hs, hint, hsp, hbin, hov, hch⟩ :=
    processHitQuantities_attenuating g freq s fuel ph (hit K) d' (hoff' ▸ hoff)
      ⟨hconv'.1.trans hconv.1, hconv'.2.1.trans hconv.2.1, hconv'.2.2.trans hconv.2.2⟩
      (hnone _ rfl hq) (hnone _ rfl hu) (hnone _ rfl hv) hlen
      (by rw [hacc.isSome_channel .binspectrum rfl]; exact hI)
  have hτ := channelTransmission_congr g (g.frameAt freq s (hit K))
    (hacc.isSome_channel .spectrum rfl) (hacc.isSome_channel .binspectrum rfl)
  refine ⟨ph', d'', hrun, hacc.slotsOnly.trans ho, fun u hl => ?_, ?_, fun i hi => ?_,
    fun i hi => ?_, ?_, fun i hi => ?_⟩
  · rw [← hacc.isSome_channel u hl]
    by_cases hus : u = .spectrum
    · subst hus; simpa using congrArg Option.isSome (hsp 0)
    by_cases hub : u = .binspectrum
    · subst hub; simpa using congrArg Option.isSome (hbin 0)
    rw [hs u hl hus hub]
  · have h0 : (d''.slot .intensity).map (· 0) = (d'.slot .intensity).map fun buf => buf 0 +
        (g.frameAt freq s (hit K)).emissionObs g * ph.overall * (g.frameAt freq s (hit K)).ggred *
          (g.frameAt freq s (hit K)).ggred * (g.frameAt freq s (hit K)).ggred := by
      rw [hint, Option.map_map]
      simp [Function.comp_def]
    exact map_sum_range_succ hacc.intensity h0 (by rw [← hacc.overall]; ring)
  · have h0 := hsp i
    rw [hoff', if_pos hi] at h0
    exact map_sum_range_succ (hacc.spectrum i hi) h0 (by rw [← hacc.channel i hi]; ring)
  · have h0 := hbin i
    rw [hoff', if_pos hi] at h0
    exact map_sum_range_succ (hacc.binspectrum i hi) h0 (by rw [← hacc.channel i hi]; ring)
  · rw [hov, hacc.overall, Finset.prod_range_succ]
  · rw [hch i hi, hτ, hacc.channel i hi, Finset.prod_range_succ]

/-- The run of the hits `0, ..., K - 1` returns, with `Accumulated` after it. -/
theorem processHits_accumulated (hoff : 0 < d.offset)
    (hconv : d.intensityConverter = none ∧ d.spectrumConverter = none ∧
      d.binspectrumConverter = none)
    (hq : d.slot .stokesQ = none) (hu : d.slot .stokesU = none) (hv : d.slot .stokesV = none) :
    ∀ K, (∀ k < K, (hit k).1.coordPh.length ≤ 8) →
      ((d.slot .binspectrum).isSome → ∀ k < K, (bandIntegrals g (g.frameAt freq s (hit k)) s fuel).isSome) →
      ∃ ph d', processHits g (attenuating freq s) fuel ((List.range K).map hit) ⟨1, fun _ => 1⟩
          (some (d.init s.midpoints.length)) = .ok (ph, some d') ∧
        Accumulated g freq s fuel hit d K ph d'
  | 0, _, _ => ⟨_, _, rfl, accumulated_zero g freq s fuel hit d⟩
  | K + 1, hlen, hI => by
    obtain ⟨ph, d', hrun, hacc⟩ := processHits_accumulated hoff hconv hq hu hv K
      (fun k hk => hlen k (by omega)) (fun hb k hk => hI hb k (by omega))
    obtain ⟨ph', d'', h1, hacc'⟩ :=
      hacc.succ hoff hconv hq hu hv (hlen K (by omega)) (fun hb => hI hb K (by omega))
    refine ⟨ph', d'', ?_, hacc'⟩
    rw [processHits] at hrun ⊢
    rw [List.range_succ, List.map_append, List.foldlM_append, hrun]
    simp [bind, Except.bind, h1]; rfl

variable (g freq s fuel hit d)

/-- **Accumulation over a run of hits.** On a photon without parallel transport whose
transmissions start at `1` and that `transmit` multiplies, from a record reset by `init` with a
nonzero stride, no converter and no Stokes slot, over 8-component photon states with band
integrals that return, the run of the hits `0, ..., K - 1` returns with
`*intensity = Σ_k E_k g_k³ Π_{j<k} tau_j`, `spectrum[i*offset] = Σ_k I_k[i] g_k³ Π_{j<k} tau_j[i]`
and `binspectrum[i*offset] = Σ_k B_k[i] g_k⁴ Π_{j<k} tau_j[i]` for each requested slot and each
channel `i`, the photon's transmissions being the products of all the hits'. -/
theorem accumulated_quantities (K : Nat) (hoff : 0 < d.offset)
    (hconv : d.intensityConverter = none ∧ d.spectrumConverter = none ∧
      d.binspectrumConverter = none)
    (hstokes : d.slot .stokesQ = none ∧ d.slot .stokesU = none ∧ d.slot .stokesV = none)
    (hlen : ∀ k < K, (hit k).1.coordPh.length ≤ 8)
    (hI : (d.slot .binspectrum).isSome →
      ∀ k < K, (bandIntegrals g (g.frameAt freq s (hit k)) s fuel).isSome) :
    ∃ ph d', processHits g (attenuating freq s) fuel ((List.range K).map hit) ⟨1, fun _ => 1⟩
        (some (d.init s.midpoints.length)) = .ok (ph, some d') ∧
      (d'.slot .intensity).map (· 0) = (d.slot .intensity).map (fun _ =>
        ∑ k in Finset.range K, (g.frameAt freq s (hit k)).emissionObs g *
          (g.frameAt freq s (hit k)).ggred ^ 3 *
          ∏ j in Finset.range k, (g.frameAt freq s (hit j)).transmissionObs g) ∧
      (∀ i < s.midpoints.length, (d'.slot .spectrum).map (· (i * d.offset)) =
        (d.slot .spectrum).map fun _ =>
          ∑ k in Finset.range K, (g.frameAt freq s (hit k)).intensityAt g i *
            (g.frameAt freq s (hit k)).ggred ^ 3 *
            ∏ j in Finset.range k, channelTransmission g (g.frameAt freq s (hit j)) d i) ∧
      (∀ i < s.midpoints.length, (d'.slot .binspectrum).map (· (i * d.offset)) =
        (d.slot .binspectrum).map fun _ =>
          ∑ k in Finset.range K, (g.frameAt freq s (hit k)).bandIntegralAt g s fuel i *
            (g.frameAt freq s (hit k)).ggred ^ 4 *
            ∏ j in Finset.range k, channelTransmission g (g.frameAt freq s (hit j)) d i) ∧
      ph.overall = ∏ k in Finset.range K, (g.frameAt freq s (hit k)).transmissionObs g ∧
      ∀ i < s.midpoints.length,
        ph.channel i = ∏ k in Finset.range K, channelTransmission g (g.frameAt freq s (hit k)) d i := by
  obtain ⟨ph, d', hrun, hacc⟩ :=
    processHits_accumulated hoff hconv hstokes.1 hstokes.2.1 hstokes.2.2 K hlen hI
  exact ⟨ph, d', hrun, hacc.intensity, hacc.spectrum, hacc.binspectrum, hacc.overall, hacc.channel⟩

/-- `thickObject` with its scalar `transmission` reimplemented as the constant `1/2`. -/
def halfObject : Generic ℚ :=
  { thickObject with
    overrides := { Overrides.generic with transmission := some fun _ _ _ => 1 / 2 } }

theorem halfObject_ggredm1_restHit : halfObject.ggredm1 restHit = 1 := by
  simp [Generic.ggredm1, halfObject, thickObject]

theorem halfObject_bandIntegrals :
    bandIntegrals halfObject (halfObject.frameAt 1 Spectrometer.single (restHit, 1))
      Spectrometer.single 2 = some [1] :=
  bandIntegrals_single halfObject halfObject_ggredm1_restHit (Resolved.emission_of_none rfl rfl rfl)
    _ _ _ rfl

theorem halfObject_frameAt (d : Properties ℚ) (hd : (d.slot .spectrum).isSome) :
    (halfObject.frameAt 1 Spectrometer.single (restHit, 1)).ggred = 1 ∧
      (halfObject.frameAt 1 Spectrometer.single (restHit, 1)).emissionObs halfObject = 1 ∧
      (halfObject.frameAt 1 Spectrometer.single (restHit, 1)).transmissionObs halfObject = 1 / 2 ∧
      (halfObject.frameAt 1 Spectrometer.single (restHit, 1)).intensityAt halfObject 0 = 1 ∧
      (halfObject.frameAt 1 Spectrometer.single (restHit, 1)).bandIntegralAt halfObject
        Spectrometer.single 2 0 = 1 ∧
      channelTransmission halfObject (halfObject.frameAt 1 Spectrometer.single (restHit, 1)) d 0 =
        1 / 2 := by
  refine ⟨by simp [Generic.frameAt, Generic.frame, Frame.ggred, halfObject_ggredm1_restHit], rfl,
    rfl, rfl, ?_, ?_⟩
  · rw [Frame.bandIntegralAt, halfObject_bandIntegrals]
    rfl
  · rw [channelTransmission, if_pos hd]
    rfl

/-- Three hits at rest on `halfObject`, every slot that accumulates requested, one channel: each
hit adds `1`, attenuated by `1/2` for every hit before it, so that `intensity`, `spectrum` and
`binspectrum` hold `1 + 1/2 + 1/4` and both transmissions end at `1/8`. -/
theorem accumulated_quantities_half :
    0 < (requesting [.intensity, .spectrum, .binspectrum]).offset ∧
    ((requesting [.intensity, .spectrum, .binspectrum]).intensityConverter = none ∧
      (requesting [.intensity, .spectrum, .binspectrum]).spectrumConverter = none ∧
      (requesting [.intensity, .spectrum, .binspectrum]).binspectrumConverter = none) ∧
    ((requesting [.intensity, .spectrum, .binspectrum]).slot .stokesQ = none ∧
      (requesting [.intensity, .spectrum, .binspectrum]).slot .stokesU = none ∧
      (requesting [.intensity, .spectrum, .binspectrum]).slot .stokesV = none) ∧
    (∀ k < 3, ((fun _ => (restHit, 1)) k : HitState ℚ × ℚ).1.coordPh.length ≤ 8) ∧
    (((requesting [.intensity, .spectrum, .binspectrum]).slot .binspectrum).isSome →
      ∀ k < 3, (bandIntegrals halfObject (halfObject.frameAt 1 Spectrometer.single
        ((fun _ => (restHit, 1)) k)) Spectrometer.single 2).isSome) ∧
    ∃ ph d', processHits halfObject (attenuating 1 Spectrometer.single) 2
        ((List.range 3).map fun _ => (restHit, 1)) ⟨1, fun _ => 1⟩
        (some ((requesting [.intensity, .spectrum, .binspectrum]).init
          Spectrometer.single.midpoints.length)) = .ok (ph, some d') ∧
      (d'.slot .intensity).map (· 0) = some (7 / 4) ∧
      (d'.slot .spectrum).map (· 0) = some (7 / 4) ∧
      (d'.slot .binspectrum).map (· 0) = some (7 / 4) ∧
      ph.overall = 1 / 8 ∧ ph.channel 0 = 1 / 8 := by
  have hb : ∀ k < 3, (bandIntegrals halfObject (halfObject.frameAt 1 Spectrometer.single
      ((fun _ => (restHit, 1)) k)) Spectrometer.single 2).isSome := fun _ _ => by
    simp only [halfObject_bandIntegrals, Option.isSome_some]
  obtain ⟨ph, d', hrun, hI, hS, hB, hO, hC⟩ := accumulated_quantities halfObject 1
    Spectrometer.single 2 (fun _ => (restHit, 1)) (requesting [.intensity, .spectrum, .binspectrum])
    3 Nat.one_pos ⟨rfl, rfl, rfl⟩ ⟨rfl, rfl, rfl⟩ (fun _ _ => le_rfl) fun _ => hb
  obtain ⟨h1, h2, h3, h4, h5, h6⟩ :=
    halfObject_frameAt (requesting [.intensity, .spectrum, .binspectrum]) rfl
  have hS := hS 0 Nat.one_pos
  have hB := hB 0 Nat.one_pos
  have hC := hC 0 Nat.one_pos
  simp only [Finset.sum_range_succ, Finset.prod_range_succ, Finset.sum_range_zero,
    Finset.prod_range_zero, zero_mul, h1, h2, h3, h4, h5, h6] at hI hS hB hO hC
  refine ⟨Nat.one_pos, ⟨rfl, rfl, rfl⟩, ⟨rfl, rfl, rfl⟩, fun _ _ => le_rfl, fun _ => hb, ph, d',
    hrun, ?_, ?_, ?_, ?_, ?_⟩ <;> norm_num [hI, hS, hB, hO, hC, requesting]

/-- Two channels, around `1` and `2`. -/
def Spectrometer.pair : Spectrometer ℚ :=
  ⟨[1, 2], [1 / 2, 3 / 2, 5 / 2], [0, 1, 1, 2], rfl, by decide⟩

/-- With the stride `0`, one hit on `thickObject` adds the `Inu` of both channels into
`spectrum[0]`: it holds `2`, where the sum for channel `0` is `1`. -/
theorem spectrum_stride_zero :
    ∃ ph d', processHits thickObject (attenuating 1 Spectrometer.pair) 1
        ((List.range 1).map fun _ => (restHit, 1)) ⟨1, fun _ => 1⟩
        (some (({ requesting [.spectrum] with offset := 0 } : Properties ℚ).init
          Spectrometer.pair.midpoints.length)) = .ok (ph, some d') ∧
      (d'.slot .spectrum).map (· (0 * 0)) = some 2 ∧
      ∑ k in Finset.range 1,
        (thickObject.frameAt 1 Spectrometer.pair ((fun _ => (restHit, 1)) k)).intensityAt thickObject 0 *
        (thickObject.frameAt 1 Spectrometer.pair ((fun _ => (restHit, 1)) k)).ggred ^ 3 *
        ∏ j in Finset.range k, channelTransmission thickObject
          (thickObject.frameAt 1 Spectrometer.pair ((fun _ => (restHit, 1)) j))
          { requesting [.spectrum] with offset := 0 } 0 = 1 := by
  have hg : thickObject.ggredm1 restHit = 1 := thickObject_ggredm1_restHit
  have hq : ∀ nuem dsem (h : HitState ℚ), thickObject.radiativeQ nuem dsem h =
      (nuem.map fun _ => 1, nuem.map fun _ => 0) := fun nuem dsem h => by
    simp [Generic.radiativeQ, Resolved.radiativeQ, thickObject, Overrides.generic,
      Resolved.emissionVectorBelow, Resolved.emissionBelow, Resolved.transmissionBelow]
  refine ⟨_, _, rfl, ?_, ?_⟩
  · simp [processHits, processHitQuantities, scalarBlocks, Run.storeIfRequested, impactBlock,
      intensityBlock, Run.addIfRequested, binspectrumBlock, spectrumBlock, unpolarizedStep, requesting,
      Properties.init, Run.addTo, Run.setSlot, hq, Generic.frame, Frame.nuem, Frame.nuobs,
      Frame.nbnuobs, Spectrometer.pair, attenuating, Frame.ggred, hg, finalTransmit, Run.transmit,
      bind, Except.bind, Except.map, List.range_succ, Properties.Resets, Slot.layout, Slot.initValue,
      applyConverter, Resolved.emissionVectorBelow, Resolved.emissionBelow,
      show thickObject.overrides = Overrides.generic from rfl,
      show thickObject.opticallyThin = false from rfl, Overrides.generic]
    norm_num
  · simp [Frame.intensityAt, hq, Generic.frameAt, Generic.frame, Frame.nuem, Frame.nuobs,
      Spectrometer.pair, Frame.ggred, hg, attenuating]

end Gyoto.Astrobj

import Gyoto.Astrobj.NullSpectrum

/-!
# How often a call updates the photon's transmissions

The photon is logged (`PhotonOps.logged`): each `transmit` and `transfer` it receives is appended
to a list, and `updateCount i` counts the calls that update transmission `i`.

* `binspectrumBlock_logged`, `spectrumBlock_logged`: the calls each block makes;
* `transmission_updates`: a call updates each channel once per block that writes it back, and
  the overall transmission once;
* **`channels_updated_twice`**: with `binspectrum` and a Stokes slot but not `spectrum`, on a
  parallel-transported photon, the binspectrum loop and `transfer` both update every channel.
-/

namespace Gyoto.Astrobj

/-! ## The photon, logged -/

/-- A call that updates the photon's transmissions. -/
inductive PhotonCall (𝕜 : Type)
  | transmit (i : Option Nat) (v : 𝕜)
  | transfer

/-- Whether a call updates transmission `i` (`none`: the overall one); `transfer` updates every
channel. -/
def PhotonCall.updates {𝕜 : Type} (i : Option Nat) : PhotonCall 𝕜 → Bool
  | .transmit j _ => j == i
  | .transfer => i.isSome

variable {𝕜 Φ : Type}

/-- `P`, with the calls that update its transmissions logged in order. -/
def PhotonOps.logged (P : PhotonOps Φ 𝕜) : PhotonOps (Φ × List (PhotonCall 𝕜)) 𝕜 where
  freqObs p := P.freqObs p.1
  spectrometer p := P.spectrometer p.1
  parallelTransport p := P.parallelTransport p.1
  getTransmission p := P.getTransmission p.1
  transmit i v p := (P.transmit i v p.1, p.2 ++ [.transmit i v])
  transfer s p := ((P.transfer s p.1).1, ((P.transfer s p.1).2, p.2 ++ [.transfer]))

/-- How many calls of `log` update transmission `i`. -/
def updateCount (i : Option Nat) (log : List (PhotonCall 𝕜)) : Nat :=
  log.countP (PhotonCall.updates i)

theorem updateCount_append (i : Option Nat) (l l' : List (PhotonCall 𝕜)) :
    updateCount i (l ++ l') = updateCount i l + updateCount i l' :=
  List.countP_append _ _ _

theorem countP_range_eq (n i : Nat) :
    (List.range n).countP (fun j => j == i) = if i < n then 1 else 0 := by
  induction n with
  | zero => simp
  | succ n ih =>
    rw [List.range_succ, List.countP_append, ih]
    by_cases h : i = n
    · subst h; simp
    · have : (n == i) = false := by simpa [beq_iff_eq] using Ne.symm h
      simp [this]
      split_ifs <;> omega

@[simp] theorem updateCount_nil (i : Option Nat) : updateCount i ([] : List (PhotonCall 𝕜)) = 0 := rfl

@[simp] theorem updateCount_cons (i : Option Nat) (x : PhotonCall 𝕜) (l : List (PhotonCall 𝕜)) :
    updateCount i (x :: l) = updateCount i l + if x.updates i then 1 else 0 := by
  simp [updateCount, List.countP_cons]

@[simp] theorem updateCount_some_transmits (v : Nat → 𝕜) (n i : Nat) :
    updateCount (some i) ((List.range n).map fun ii => .transmit (some ii) (v ii)) =
      if i < n then 1 else 0 := by
  rw [updateCount, List.countP_map, ← countP_range_eq]
  rfl

@[simp] theorem updateCount_none_transmits (v : Nat → 𝕜) (n : Nat) :
    updateCount none ((List.range n).map fun ii => PhotonCall.transmit (some ii) (v ii)) = 0 := by
  simp [updateCount, List.countP_map, PhotonCall.updates]

/-- The updates of a call whose binspectrum loop transmits every channel when `b`, whose
per-channel block runs when `a`, with one `transfer` when `pt` and one `transmit` per channel
otherwise, and which ends with the overall transmission. -/
theorem updateCount_call (a b pt : Bool) (v w : Nat → 𝕜) (u : 𝕜) (n : Nat) :
    let log := (if b then (List.range n).map fun ii => .transmit (some ii) (v ii) else []) ++
      (if a then (if pt then [.transfer] else (List.range n).map fun ii => .transmit (some ii) (w ii))
        else []) ++ [.transmit none u]
    (∀ i < n, updateCount (some i) log = b.toNat + a.toNat) ∧ updateCount none log = 1 := by
  cases a <;> cases b <;> cases pt <;> refine ⟨fun i hi => ?_, ?_⟩ <;>
    simp [updateCount_append, PhotonCall.updates, *]

/-! ## The transmissions each block updates -/

variable [LinearOrderedField 𝕜] (g : Generic 𝕜) (P : PhotonOps Φ 𝕜) (c : Frame 𝕜)

theorem binspectrumStep_logged (I : List 𝕜)
    (hpt : ∀ i v φ, P.parallelTransport (P.transmit i v φ) = P.parallelTransport φ)
    (r : Run 𝕜 (Φ × List (PhotonCall 𝕜))) (ii : Nat) (hb : (r.data.slot .binspectrum).isSome) :
    ∃ r', binspectrumStep g P.logged c I r ii = .ok r' ∧
      r'.ph.2 = r.ph.2 ++ (if (r.data.slot .spectrum).isNone then [.transmit (some ii) (g.transmission (c.nuobs.getD ii 0 * c.ggredm1) c.dsem c.h)]
        else []) ∧
      (∀ t, t ≠ .binspectrum → r'.data.slot t = r.data.slot t) ∧
      (r'.data.slot .binspectrum).isSome ∧
      P.parallelTransport r'.ph.1 = P.parallelTransport r.ph.1 := by
  obtain ⟨buf, hbuf⟩ := Option.isSome_iff_exists.1 hb
  unfold binspectrumStep
  rw [Run.addTo_of_slot hbuf]
  simp only [bind, Except.bind, Run.setSlot_slot, if_neg (show Slot.spectrum ≠ .binspectrum by decide)]
  split_ifs with hn
  · exact ⟨_, rfl, by simp [PhotonOps.logged],
      fun t ht => by simp [Run.setSlot_slot, ht], by simp [Run.setSlot_slot],
      by simp [PhotonOps.logged, hpt]⟩
  · exact ⟨_, rfl, by simp, fun t ht => by simp [Run.setSlot_slot, ht], by simp [Run.setSlot_slot],
      rfl⟩

theorem foldlM_binspectrumStep_logged (I : List 𝕜)
    (hpt : ∀ i v φ, P.parallelTransport (P.transmit i v φ) = P.parallelTransport φ) :
    ∀ (l : List Nat) (r : Run 𝕜 (Φ × List (PhotonCall 𝕜))), (r.data.slot .binspectrum).isSome →
      ∃ r', l.foldlM (binspectrumStep g P.logged c I) r = .ok r' ∧
        r'.ph.2 = r.ph.2 ++ (if (r.data.slot .spectrum).isNone then l.map fun ii =>
          .transmit (some ii) (g.transmission (c.nuobs.getD ii 0 * c.ggredm1) c.dsem c.h)
          else []) ∧
        (∀ t, t ≠ .binspectrum → r'.data.slot t = r.data.slot t) ∧
        P.parallelTransport r'.ph.1 = P.parallelTransport r.ph.1
  | [], r, _ => ⟨r, rfl, by simp, fun _ _ => rfl, rfl⟩
  | ii :: l, r, hb => by
    obtain ⟨r1, h1, hl1, hs1, hb1, hpt1⟩ := binspectrumStep_logged g P c I hpt r ii hb
    obtain ⟨r', h', hl', hs', hpt'⟩ := foldlM_binspectrumStep_logged I hpt l r1 hb1
    refine ⟨r', by rw [List.foldlM_cons, h1]; exact h', ?_, fun t ht => by rw [hs' t ht, hs1 t ht],
      hpt'.trans hpt1⟩
    rw [hl', hl1, hs1 _ (by decide)]
    split_ifs <;> simp

theorem binspectrumBlock_logged (fuel : Nat)
    (hpt : ∀ i v φ, P.parallelTransport (P.transmit i v φ) = P.parallelTransport φ)
    (r : Run 𝕜 (Φ × List (PhotonCall 𝕜)))
    (hbin : (r.data.slot .binspectrum).isSome →
      ∃ s, c.spr = some s ∧ (bandIntegrals g c s fuel).isSome) :
    ∃ r', binspectrumBlock g P.logged c fuel r = .ok r' ∧
      r'.ph.2 = r.ph.2 ++
        (if (r.data.slot .binspectrum).isSome && (r.data.slot .spectrum).isNone then
          (List.range c.nbnuobs).map fun ii =>
            .transmit (some ii) (g.transmission (c.nuobs.getD ii 0 * c.ggredm1) c.dsem c.h) else []) ∧
      (∀ t, t ≠ .binspectrum → r'.data.slot t = r.data.slot t) ∧
      P.parallelTransport r'.ph.1 = P.parallelTransport r.ph.1 := by
  by_cases hb : (r.data.slot .binspectrum).isSome
  · obtain ⟨s, hs, hI⟩ := hbin hb
    obtain ⟨I, hI⟩ := Option.isSome_iff_exists.1 hI
    obtain ⟨r', h', hl', hs', hpt'⟩ :=
      foldlM_binspectrumStep_logged g P c I hpt (List.range c.nbnuobs) r hb
    refine ⟨r', ?_, by rw [hb, Bool.true_and]; exact hl', hs', hpt'⟩
    simp only [binspectrumBlock, if_pos hb, hs, hI]
    exact h'
  · rw [binspectrumBlock_of_none g P.logged c (Option.not_isSome_iff_eq_none.1 hb)]
    exact ⟨r, rfl, by simp [hb], fun _ _ => rfl, rfl⟩

theorem foldlM_unpolarizedStep_logged (Inu Taunu : List 𝕜) :
    ∀ (l : List Nat) (r : Run 𝕜 (Φ × List (PhotonCall 𝕜))), (r.data.slot .spectrum).isSome →
      ∃ r', l.foldlM (unpolarizedStep P.logged c Inu Taunu) r = .ok r' ∧
        r'.ph.2 = r.ph.2 ++ l.map fun ii => .transmit (some ii) (Taunu.getD ii 0)
  | [], r, _ => ⟨r, rfl, by simp⟩
  | ii :: l, r, hsp => by
    obtain ⟨buf, hbuf⟩ := Option.isSome_iff_exists.1 hsp
    obtain ⟨r', h', hl'⟩ := foldlM_unpolarizedStep_logged Inu Taunu l _
      (show ((r.setSlot .spectrum _).transmit P.logged (some ii) (Taunu.getD ii 0)).data.slot
        .spectrum |>.isSome by simp [Run.setSlot_slot])
    refine ⟨r', ?_, by simp [hl', PhotonOps.logged]⟩
    rw [List.foldlM_cons]
    simp only [unpolarizedStep, Run.addTo_of_slot hbuf, bind, Except.bind]
    exact h'

/-- The per-channel block on a logged photon: when the unpolarized branch has `spectrum` to write
to, it returns, having called `transfer` once (with parallel transport) or transmitted every
channel (without), if any of `spectrum`, `stokesQ`, `stokesU`, `stokesV` is requested. -/
theorem spectrumBlock_logged (r : Run 𝕜 (Φ × List (PhotonCall 𝕜)))
    (hnull : P.parallelTransport r.ph.1 = false → (r.data.slot .stokesQ).isSome ∨
      (r.data.slot .stokesU).isSome ∨ (r.data.slot .stokesV).isSome →
      (r.data.slot .spectrum).isSome) :
    ∃ r', spectrumBlock g P.logged c r = .ok r' ∧
      r'.ph.2 = r.ph.2 ++
        (if (r.data.slot .spectrum).isSome || (r.data.slot .stokesQ).isSome ||
            (r.data.slot .stokesU).isSome || (r.data.slot .stokesV).isSome then
          (if P.parallelTransport r.ph.1 then [.transfer]
          else (List.range c.nbnuobs).map fun ii =>
            .transmit (some ii) ((g.radiativeQ c.nuem c.dsem c.h).2.getD ii 0))
        else []) := by
  unfold spectrumBlock
  by_cases hany : ((r.data.slot .spectrum).isSome || (r.data.slot .stokesQ).isSome ||
      (r.data.slot .stokesU).isSome || (r.data.slot .stokesV).isSome) = true
  · rw [if_pos hany, if_pos hany]
    by_cases hpt : P.parallelTransport r.ph.1 = true
    · rw [if_pos (show P.logged.parallelTransport r.ph = true from hpt), if_pos hpt]
      obtain ⟨r', h', hp'⟩ := foldlM_polarizedStep c
        (P.logged.transfer (g.radiativeQPolar c.nuem c.dsem c.h) r.ph).1 (List.range c.nbnuobs)
        { r with ph := (P.logged.transfer (g.radiativeQPolar c.nuem c.dsem c.h) r.ph).2 }
      exact ⟨r', h', by simp [hp', PhotonOps.logged]⟩
    · rw [if_neg (show ¬P.logged.parallelTransport r.ph = true from hpt), if_neg hpt]
      have hsp : (r.data.slot .spectrum).isSome := by
        simp only [Bool.or_eq_true] at hany
        rcases hany with ((h | h) | h) | h
        · exact h
        all_goals exact hnull (by simpa using hpt) (by simp [h])
      exact foldlM_unpolarizedStep_logged P c _ _ (List.range c.nbnuobs) r hsp
  · rw [if_neg hany, if_neg hany]
    exact ⟨r, rfl, by simp⟩

/-! ## A whole call -/

/-- **How often a call updates the photon's transmissions.** On a photon whose parallel transport
`transmit` does not change, a call that can integrate its channels and that does not write into
a `NULL` `spectrum` returns, having updated each channel's transmission once in the binspectrum
loop when `binspectrum` is requested without `spectrum`, once more in the per-channel block when
any of `spectrum`, `stokesQ`, `stokesU`, `stokesV` is, and the overall transmission once. -/
theorem transmission_updates (fuel : Nat) (ph : Φ) (h : HitState 𝕜) (dt : 𝕜) (d : Properties 𝕜)
    (hpt : ∀ i v φ, P.parallelTransport (P.transmit i v φ) = P.parallelTransport φ)
    (hlen : h.coordPh.length ≤ 8 ∨ d.slot .impactcoords = none)
    (hbin : (d.slot .binspectrum).isSome →
      ∃ s, P.spectrometer ph = some s ∧ (bandIntegrals g (g.frame P ph h dt) s fuel).isSome)
    (hnull : P.parallelTransport ph = false → (d.slot .stokesQ).isSome ∨
      (d.slot .stokesU).isSome ∨ (d.slot .stokesV).isSome → (d.slot .spectrum).isSome) :
    ∃ ph' log d', processHitQuantities g P.logged fuel (ph, []) h dt (some d) =
        .ok ((ph', log), some d') ∧
      (∀ i < (g.frame P ph h dt).nbnuobs, updateCount (some i) log =
        ((d.slot .binspectrum).isSome && (d.slot .spectrum).isNone).toNat +
          ((d.slot .spectrum).isSome || (d.slot .stokesQ).isSome || (d.slot .stokesU).isSome ||
            (d.slot .stokesV).isSome).toNat) ∧
      updateCount none log = 1 := by
  set c := g.frame P ph h dt
  obtain ⟨r4, h4, hp4, -, hs4, -⟩ := scalarBlocks_spec g P.logged c ⟨d, (ph, [])⟩ hlen
  obtain ⟨r5, h5, hl5, hs5, hpt5⟩ := binspectrumBlock_logged g P c fuel hpt r4
    (by rw [hs4 .binspectrum rfl]; exact hbin)
  have hslot : ∀ u, u ≠ .binspectrum → u.layout = .channel → r5.data.slot u = d.slot u :=
    fun u hb hl => (hs5 u hb).trans (hs4 u hl)
  obtain ⟨r6, h6, hl6⟩ := spectrumBlock_logged g P c r5 (by
    simp only [hslot, Slot.layout, ne_eq, reduceCtorEq, not_false_eq_true, hpt5, hp4]
    exact hnull)
  have hc : g.frame P.logged (ph, []) h dt = c := rfl
  refine ⟨_, _, _, by simp only [processHitQuantities, hc, h4, h5, h6, bind, Except.bind, Except.map]; rfl,
    ?_⟩
  simp only [finalTransmit, Run.transmit_ph, PhotonOps.logged, hl6, hl5, hp4, hpt5, hslot,
    hs4, Slot.layout, ne_eq, reduceCtorEq, not_false_eq_true, List.nil_append]
  exact updateCount_call _ _ _ _ _ _ _

/-- **`binspectrum` and a Stokes slot without `spectrum`, on a parallel-transported photon**:
the binspectrum loop transmits every channel, `data->spectrum` being `NULL`, and the per-channel
block, entered for the Stokes slot, hands every channel to `transfer` as well, so that each
channel's transmission is updated twice. -/
theorem channels_updated_twice (fuel : Nat) (ph : Φ) (h : HitState 𝕜) (dt : 𝕜) (d : Properties 𝕜)
    (hpt : ∀ i v φ, P.parallelTransport (P.transmit i v φ) = P.parallelTransport φ)
    (hpt1 : P.parallelTransport ph = true) (himp : d.slot .impactcoords = none)
    (hbin : (d.slot .binspectrum).isSome)
    (hI : ∃ s, P.spectrometer ph = some s ∧ (bandIntegrals g (g.frame P ph h dt) s fuel).isSome)
    (hspec : d.slot .spectrum = none)
    (hstokes : (d.slot .stokesQ).isSome ∨ (d.slot .stokesU).isSome ∨ (d.slot .stokesV).isSome) :
    ∃ ph' log d', processHitQuantities g P.logged fuel (ph, []) h dt (some d) =
        .ok ((ph', log), some d') ∧
      ∀ i < (g.frame P ph h dt).nbnuobs, updateCount (some i) log = 2 := by
  obtain ⟨ph', log, d', hrun, hcount, -⟩ := transmission_updates g P fuel ph h dt d hpt (.inr himp)
    (fun _ => hI) (fun h0 => absurd (hpt1.symm.trans h0) (by decide))
  refine ⟨ph', log, d', hrun, fun i hi => ?_⟩
  rw [hcount i hi, hbin, hspec]
  rcases hstokes with h | h | h <;> simp [h]

/-- `binspectrum` and `stokesQ` on a parallel-transported photon with one channel. -/
theorem channels_updated_twice_stokesQ :
    (∀ i v φ, (plainPhoton true).parallelTransport ((plainPhoton true).transmit i v φ) =
      (plainPhoton true).parallelTransport φ) ∧
    (plainPhoton true).parallelTransport () = true ∧
    (requesting [.binspectrum, .stokesQ]).slot .impactcoords = none ∧
    ((requesting [.binspectrum, .stokesQ]).slot .binspectrum).isSome ∧
    (∃ s, (plainPhoton true).spectrometer () = some s ∧
      (bandIntegrals thickObject (thickObject.frame (plainPhoton true) () restHit 1) s 2).isSome) ∧
    (requesting [.binspectrum, .stokesQ]).slot .spectrum = none ∧
    (((requesting [.binspectrum, .stokesQ]).slot .stokesQ).isSome ∨
      ((requesting [.binspectrum, .stokesQ]).slot .stokesU).isSome ∨
      ((requesting [.binspectrum, .stokesQ]).slot .stokesV).isSome) ∧
    ∃ ph' log d', processHitQuantities thickObject (plainPhoton true).logged 2 ((), []) restHit 1
        (some (requesting [.binspectrum, .stokesQ])) = .ok ((ph', log), some d') ∧
      ∀ i < (thickObject.frame (plainPhoton true) () restHit 1).nbnuobs,
        updateCount (some i) log = 2 := by
  have hb : (bandIntegrals thickObject (thickObject.frame (plainPhoton true) () restHit 1)
      Spectrometer.single 2).isSome := by
    rw [bandIntegrals_single thickObject thickObject_ggredm1_restHit thickObject_emission
      (plainPhoton true) () 1 rfl]
    rfl
  exact ⟨fun _ _ _ => rfl, rfl, rfl, rfl, ⟨_, rfl, hb⟩, rfl, .inl rfl,
    channels_updated_twice thickObject (plainPhoton true) 2 () restHit 1 _ (fun _ _ _ => rfl) rfl rfl
      rfl ⟨_, rfl, hb⟩ rfl (.inl rfl)⟩

end Gyoto.Astrobj

import Gyoto.Astrobj.NullSpectrum

/-!
# What a call of `processHitQuantities` writes

A call writes through the record's pointers and nowhere else: the stride, `first_dmin_found` and
the converters stay, no slot becomes `NULL` or non-`NULL`, and a location changes only if the
block that owns it writes there (`WrittenIn`). Each block is a step that writes at given
locations (`Writes`); writes compose through `bind` and through the per-channel loops.

* `WrittenIn`, `Writes`, `Writes.bind`, `Writes.foldlM`: the frame of a step, and how it composes;
* `binspectrumBlock_writes`, `spectrumBlock_writes`, `scalarBlocks_writes`: each block writes
  only its own slots, at the channels `ii*offset`, `ii < nbnuobs`, or at its one `double`;
* **`processHits_writes`**: a run of calls writes only into the locations `init` resets in the
  slots a call computes, and never into `distance`, `first_dmin`, `nbcrosseqplane` or a user
  slot;
* `impactAfter`, **`processHits_impactcoords`**, **`impactcoords_first_hit`**: over a run, the
  impact coordinates are those of the first hit that finds the sentinel `DBL_MAX`, whatever the
  later hits.
-/

set_option linter.unusedSectionVars false

namespace Gyoto.Astrobj

variable {𝕜 Φ : Type} [LinearOrderedField 𝕜]

theorem bind_eq_ok {α β ε : Type} {x : Except ε α} {f : α → Except ε β} {b : β} :
    x >>= f = .ok b ↔ ∃ a, x = .ok a ∧ f a = .ok b := by
  cases x <;> simp [bind, Except.bind]

/-! ## The frame of a write -/

/-- `d'` is `d` after writes at the locations `L d.offset` only: the rest of the record, which
slots are `NULL`, and what every other location holds are those of `d`. -/
structure WrittenIn (L : Nat → Slot → Nat → Prop) (d d' : Properties 𝕜) : Prop where
  slotsOnly : d.SlotsOnly d'
  isSome_eq : ∀ t, (d'.slot t).isSome = (d.slot t).isSome
  frame : ∀ t j, ¬ L d.offset t j → (d'.slot t).map (· j) = (d.slot t).map (· j)

namespace WrittenIn

variable {L : Nat → Slot → Nat → Prop} {d d' d'' : Properties 𝕜}

theorem refl (L : Nat → Slot → Nat → Prop) (d : Properties 𝕜) : WrittenIn L d d :=
  ⟨.refl d, fun _ => rfl, fun _ _ _ => rfl⟩

theorem trans (h : WrittenIn L d d') (h' : WrittenIn L d' d'') : WrittenIn L d d'' :=
  ⟨h.slotsOnly.trans h'.slotsOnly, fun t => (h'.isSome_eq t).trans (h.isSome_eq t),
    fun t j hj => (h'.frame t j (by rwa [h.slotsOnly.offset_eq])).trans (h.frame t j hj)⟩

theorem mono {L' : Nat → Slot → Nat → Prop} (h : WrittenIn L d d') (hL : ∀ o t j, L o t j → L' o t j) :
    WrittenIn L' d d' :=
  ⟨h.slotsOnly, h.isSome_eq, fun t j hj => h.frame t j fun hl => hj (hL _ _ _ hl)⟩

theorem slot_eq (h : WrittenIn L d d') {t : Slot} (ht : ∀ j, ¬ L d.offset t j) :
    d'.slot t = d.slot t := by
  have hs := h.isSome_eq t
  cases h1 : d'.slot t <;> cases h2 : d.slot t <;> simp only [h1, h2, Option.isSome_none,
    Option.isSome_some, Bool.false_eq_true, Bool.true_eq_false] at hs ⊢
  congr 1
  funext j
  simpa [h1, h2] using h.frame t j (ht j)

end WrittenIn

/-- A step that, whenever it returns, has written at the locations `L` only. -/
def Writes (L : Nat → Slot → Nat → Prop) (f : Run 𝕜 Φ → Except Fault (Run 𝕜 Φ)) : Prop :=
  ∀ r r', f r = .ok r' → WrittenIn L r.data r'.data

namespace Writes

variable {L : Nat → Slot → Nat → Prop}

theorem ok : Writes L (Except.ok : Run 𝕜 Φ → Except Fault (Run 𝕜 Φ)) := fun r _ h => by
  cases h
  exact .refl L r.data

theorem bind {f g : Run 𝕜 Φ → Except Fault (Run 𝕜 Φ)} (hf : Writes L f) (hg : Writes L g) :
    Writes L (fun r => f r >>= g) := fun r r' h => by
  obtain ⟨r1, h1, h2⟩ := bind_eq_ok.1 h
  exact (hf r r1 h1).trans (hg r1 r' h2)

/-- **A loop writes what its iterations write.** -/
theorem foldlM {f : Run 𝕜 Φ → Nat → Except Fault (Run 𝕜 Φ)} :
    ∀ l : List Nat, (∀ ii ∈ l, Writes L fun r => f r ii) → Writes L fun r => l.foldlM f r
  | [], _ => ok
  | ii :: l, hf => by
    simp only [List.foldlM_cons]
    exact (hf ii (List.mem_cons_self _ _)).bind
      (foldlM l fun jj hj => hf jj (List.mem_cons_of_mem _ hj))

end Writes

/-! ## Writes through one pointer -/

namespace Run

variable {L : Nat → Slot → Nat → Prop} {r r' : Run 𝕜 Φ} {s : Slot} {i : Nat}

theorem writtenIn_setSlot {buf buf' : Nat → 𝕜} (h : r.data.slot s = some buf)
    (hbuf : ∀ j, ¬ L r.data.offset s j → buf' j = buf j) : WrittenIn L r.data (r.setSlot s buf').data where
  slotsOnly := slotsOnly_setSlot r s buf'
  isSome_eq t := by
    rw [setSlot_slot]
    split_ifs with ht
    · simp [ht, h]
    · rfl
  frame t j hj := by
    rw [setSlot_slot]
    split_ifs with ht
    · subst ht
      simp [h, hbuf j hj]
    · rfl

theorem writtenIn_store {v : 𝕜} (h : r.store s i v = .ok r') (hL : L r.data.offset s i) :
    WrittenIn L r.data r'.data := by
  unfold store at h
  split at h
  · cases h
  · rename_i buf hbuf
    cases h
    exact writtenIn_setSlot hbuf fun j hj => Function.update_noteq (by rintro rfl; exact hj hL) _ _

theorem writtenIn_addTo {inc : 𝕜} (h : r.addTo s i inc = .ok r') (hL : L r.data.offset s i) :
    WrittenIn L r.data r'.data := by
  unfold addTo at h
  split at h
  · cases h
  · rename_i buf hbuf
    cases h
    exact writtenIn_setSlot hbuf fun j hj => Function.update_noteq (by rintro rfl; exact hj hL) _ _

theorem writtenIn_storeIfRequested {v : 𝕜} (h : r.storeIfRequested s i v = .ok r')
    (hL : L r.data.offset s i) : WrittenIn L r.data r'.data := by
  unfold storeIfRequested at h
  split_ifs at h
  · exact writtenIn_store h hL
  · cases h
    exact .refl L r.data

theorem writtenIn_addIfRequested {inc : 𝕜} (h : r.addIfRequested s i inc = .ok r')
    (hL : L r.data.offset s i) : WrittenIn L r.data r'.data := by
  unfold addIfRequested at h
  split_ifs at h
  · exact writtenIn_addTo h hL
  · cases h
    exact .refl L r.data

end Run

/-! ## The blocks -/

variable (g : Generic 𝕜) (P : PhotonOps Φ 𝕜) (c : Frame 𝕜) {L : Nat → Slot → Nat → Prop}

/-- The impact coordinates a call at hit `h` leaves in `buf`: on the sentinel `DBL_MAX` at `[0]`,
the 8 object coordinates, then the 8 photon coordinates; otherwise what `buf` holds. -/
def impactAfter (h : HitState 𝕜) (buf : Nat → 𝕜) : Nat → 𝕜 :=
  if buf 0 = dblMax then fun j =>
    if j < 8 then h.coordObj.getD j 0 else if j < 16 then h.coordPh.getD (j - 8) 0 else buf j
  else buf

theorem impactAfter_of_ne {h : HitState 𝕜} {buf : Nat → 𝕜} (hb : buf 0 ≠ dblMax) :
    impactAfter h buf = buf :=
  if_neg hb

theorem impactAfter_zero (h : HitState 𝕜) (buf : Nat → 𝕜) :
    impactAfter h buf 0 = if buf 0 = dblMax then h.coordObj.getD 0 0 else buf 0 := by
  unfold impactAfter
  split_ifs <;> rfl

theorem impactBlock_slot {r r' : Run 𝕜 Φ} (h : impactBlock c r = .ok r') :
    r'.data.slot .impactcoords = (r.data.slot .impactcoords).map (impactAfter c.h) ∧
      WrittenIn (fun _ t j => t = .impactcoords ∧ j < 16) r.data r'.data := by
  unfold impactBlock at h
  split at h
  · rename_i buf hbuf
    split_ifs at h with h0 h8
    · cases h
      refine ⟨by simp [Run.setSlot_slot, hbuf, impactAfter, h0], Run.writtenIn_setSlot hbuf ?_⟩
      intro j hj
      simp only [true_and, not_lt] at hj
      simp [show ¬ j < 8 by omega, show ¬ j < 16 by omega]
    · cases h
      exact ⟨by simp [hbuf, impactAfter_of_ne h0], .refl _ _⟩
  · cases h
    rename_i hnone
    exact ⟨by simp [hnone], .refl _ _⟩

theorem impactBlock_writes (hL : ∀ o j, j < 16 → L o .impactcoords j) :
    Writes L (impactBlock c : Run 𝕜 Φ → Except Fault (Run 𝕜 Φ)) :=
  fun _ _ h => (impactBlock_slot c h).2.mono fun o _ j ⟨ht, hj⟩ => ht ▸ hL o j hj

theorem storeIfRequested_writes (s : Slot) (i : Nat) (v : 𝕜) (hL : ∀ o, L o s i) :
    Writes L (Run.storeIfRequested s i v : Run 𝕜 Φ → Except Fault (Run 𝕜 Φ)) :=
  fun _ _ h => Run.writtenIn_storeIfRequested h (hL _)

theorem scalarBlocks_writes
    (hL : ∀ o, L o .redshift 0 ∧ L o .time 0 ∧ L o .intensity 0 ∧ ∀ j < 16, L o .impactcoords j) :
    Writes L (scalarBlocks g P c) :=
  (storeIfRequested_writes _ _ _ fun o => (hL o).1).bind
    ((storeIfRequested_writes _ _ _ fun o => (hL o).2.1).bind
      ((impactBlock_writes c fun o j hj => (hL o).2.2.2 j hj).bind
        fun _ _ h => Run.writtenIn_addIfRequested h (hL _).2.2.1))

theorem binspectrumStep_writes (I : List 𝕜) (ii : Nat) (hL : ∀ o, L o .binspectrum (ii * o)) :
    Writes L fun r => binspectrumStep g P c I r ii := fun r r' h => by
  obtain ⟨r1, h1, h2⟩ := bind_eq_ok.1 h
  have hw := Run.writtenIn_addTo h1 (hL _)
  split_ifs at h2 <;> cases h2 <;> exact hw

theorem binspectrumBlock_writes (fuel : Nat)
    (hL : ∀ o, ∀ ii < c.nbnuobs, L o .binspectrum (ii * o)) :
    Writes L (binspectrumBlock g P c fuel) := fun r r' h => by
  unfold binspectrumBlock at h
  split_ifs at h
  · split at h
    · cases h
    · split at h
      · cases h
      · exact Writes.foldlM _ (fun ii hii => binspectrumStep_writes g P c _ ii
          fun o => hL o ii (List.mem_range.1 hii)) r r' h
  · cases h
    exact .refl L r.data

theorem polarizedStep_writes (st : List (Stokes 𝕜)) (ii : Nat)
    (hL : ∀ o, L o .spectrum (ii * o) ∧ L o .stokesQ (ii * o) ∧ L o .stokesU (ii * o) ∧
      L o .stokesV (ii * o)) :
    Writes L (fun r => polarizedStep c st r ii : Run 𝕜 Φ → Except Fault (Run 𝕜 Φ)) :=
  fun r r' h => by
    simp only [polarizedStep] at h
    obtain ⟨r1, h1, h⟩ := bind_eq_ok.1 h
    obtain ⟨r2, h2, h⟩ := bind_eq_ok.1 h
    obtain ⟨r3, h3, h4⟩ := bind_eq_ok.1 h
    exact (Run.writtenIn_addIfRequested h1 (hL _).1).trans
      ((Run.writtenIn_addIfRequested h2 (hL _).2.1).trans
        ((Run.writtenIn_addIfRequested h3 (hL _).2.2.1).trans
          (Run.writtenIn_addIfRequested h4 (hL _).2.2.2)))

theorem unpolarizedStep_writes (Inu Taunu : List 𝕜) (ii : Nat) (hL : ∀ o, L o .spectrum (ii * o)) :
    Writes L fun r => unpolarizedStep P c Inu Taunu r ii := fun r r' h => by
  obtain ⟨r1, h1, h2⟩ := bind_eq_ok.1 h
  cases h2
  exact (Run.writtenIn_addTo h1 (hL _) : WrittenIn L r.data r1.data)

theorem spectrumBlock_writes
    (hL : ∀ o, ∀ ii < c.nbnuobs, L o .spectrum (ii * o) ∧ L o .stokesQ (ii * o) ∧
      L o .stokesU (ii * o) ∧ L o .stokesV (ii * o)) :
    Writes L (spectrumBlock g P c) := fun r r' h => by
  unfold spectrumBlock at h
  split_ifs at h
  · rcases ht : P.transfer (g.radiativeQPolar c.nuem c.dsem c.h) r.ph with ⟨st, ph⟩
    rw [ht] at h
    exact Writes.foldlM _ (fun ii hii => polarizedStep_writes c st ii
      fun o => hL o ii (List.mem_range.1 hii)) { r with ph := ph } r' h
  · exact Writes.foldlM _ (fun ii hii => unpolarizedStep_writes P c _ _ ii
      fun o => (hL o ii (List.mem_range.1 hii)).1) r r' h
  · cases h
    exact .refl L r.data

/-! ## A call, and a run of calls -/

/-- The slots a call computes: all but `distance`, `first_dmin`, `nbcrosseqplane` and the user
slots, which are the caller's. -/
def Slot.computed : Slot → Bool
  | .redshift | .time | .impactcoords | .intensity | .spectrum | .stokesQ | .stokesU | .stokesV
  | .binspectrum => true
  | _ => false

/-- The locations a call with a spectrometer of `n` samples may write: those `init(n)` resets,
in the slots a call computes. -/
def callLocations (n o : Nat) (t : Slot) (j : Nat) : Prop :=
  t.computed ∧ Properties.Resets o n t j

theorem callLocations_mono {m n : Nat} (hmn : m ≤ n) {o : Nat} {t : Slot} {j : Nat}
    (h : callLocations m o t j) : callLocations n o t j := by
  refine ⟨h.1, ?_⟩
  have h2 := h.2
  unfold Properties.Resets at h2 ⊢
  split at h2
  · exact h2
  · obtain ⟨ii, hii, rfl⟩ := h2
    exact ⟨ii, by omega, rfl⟩
  · exact h2

theorem writes_ok_of_data {f : Run 𝕜 Φ → Run 𝕜 Φ} (hf : ∀ r, (f r).data = r.data) :
    Writes L fun r => .ok (f r) := fun r _ h => by
  cases h
  rw [hf]
  exact .refl L r.data

theorem callBody_writes (fuel : Nat) :
    Writes (callLocations c.nbnuobs) fun r : Run 𝕜 Φ => (do
      let r ← scalarBlocks g P c r
      let r ← binspectrumBlock g P c fuel r
      let r ← spectrumBlock g P c r
      .ok (finalTransmit g P c r)) := by
  refine (scalarBlocks_writes g P c fun o => ⟨?_, ?_, ?_, fun j hj => ?_⟩).bind
    ((binspectrumBlock_writes g P c fuel fun o ii hii => ?_).bind
      ((spectrumBlock_writes g P c fun o ii hii => ?_).bind (writes_ok_of_data fun _ => rfl)))
  · exact ⟨rfl, rfl⟩
  · exact ⟨rfl, rfl⟩
  · exact ⟨rfl, rfl⟩
  · exact ⟨rfl, hj⟩
  · exact ⟨rfl, ii, hii, rfl⟩
  · exact ⟨⟨rfl, ii, hii, rfl⟩, ⟨rfl, ii, hii, rfl⟩, ⟨rfl, ii, hii, rfl⟩, ⟨rfl, ii, hii, rfl⟩⟩

/-- **What a call writes.** A call that returns has written only into the locations
`init(nbnuobs)` resets, in the slots a call computes. -/
theorem processHitQuantities_writes (fuel : Nat) (ph : Φ) (h : HitState 𝕜) (dt : 𝕜)
    (d : Properties 𝕜) (ph' : Φ) (o : Option (Properties 𝕜))
    (hrun : processHitQuantities g P fuel ph h dt (some d) = .ok (ph', o)) :
    ∃ d', o = some d' ∧ WrittenIn (callLocations (g.frame P ph h dt).nbnuobs) d d' := by
  simp only [processHitQuantities, Except.map] at hrun
  split at hrun
  · cases hrun
  · rename_i r hr
    cases hrun
    exact ⟨r.data, rfl, callBody_writes g P _ fuel ⟨d, ph⟩ r hr⟩

theorem processHitQuantities_returns (fuel : Nat) (ph : Φ) (h : HitState 𝕜) (dt : 𝕜)
    (d : Properties 𝕜) (hlen : h.coordPh.length ≤ 8)
    (hch : ∀ s, s.layout = .channel → d.slot s = none) :
    ∃ ph' d', processHitQuantities g P fuel ph h dt (some d) = .ok (ph', some d') ∧
      ∀ s, s.layout = .channel → d'.slot s = none := by
  obtain ⟨r4, h4, -, -, hs4, -⟩ := scalarBlocks_spec g P (g.frame P ph h dt) ⟨d, ph⟩ (.inl hlen)
  have hn : ∀ s, s.layout = .channel → r4.data.slot s = none := fun s hs =>
    (hs4 s hs).trans (hch s hs)
  refine ⟨(finalTransmit g P (g.frame P ph h dt) r4).ph, r4.data, ?_, hn⟩
  simp only [processHitQuantities, h4, binspectrumBlock_of_none g P _ (hn _ rfl),
    spectrumBlock_of_none g P _ (hn _ rfl) (hn _ rfl) (hn _ rfl) (hn _ rfl), bind, Except.bind,
    Except.map]
  rfl

/-- A run on a record with no per-channel slot returns, over 8-component photon states. -/
theorem processHits_returns (fuel : Nat) :
    ∀ (hits : List (HitState 𝕜 × 𝕜)), (∀ x ∈ hits, x.1.coordPh.length ≤ 8) →
      ∀ (ph : Φ) (d : Properties 𝕜), (∀ s, s.layout = .channel → d.slot s = none) →
      ∃ ph' d', processHits g P fuel hits ph (some d) = .ok (ph', some d')
  | [], _, ph, d, _ => ⟨ph, d, rfl⟩
  | x :: hits, hlen, ph, d, hch => by
    obtain ⟨ph1, d1, h1, hch1⟩ :=
      processHitQuantities_returns g P fuel ph x.1 x.2 d (hlen x (List.mem_cons_self _ _)) hch
    obtain ⟨ph', d', h'⟩ := processHits_returns fuel hits
      (fun y hy => hlen y (List.mem_cons_of_mem _ hy)) ph1 d1 hch1
    refine ⟨ph', d', ?_⟩
    simp only [processHits, List.foldlM_cons, h1, bind, Except.bind]
    exact h'

theorem requesting_channel {ss : List Slot} (hss : ∀ s ∈ ss, s.layout ≠ .channel) :
    ∀ s, s.layout = .channel → (requesting ss).slot s = none :=
  fun s hs => if_neg fun hm => hss s hm hs

theorem processHits_writtenIn (fuel : Nat) (L : Nat → Slot → Nat → Prop)
    (hL : ∀ φ o t j, callLocations (((P.spectrometer φ).map fun s => s.midpoints.length).getD 0) o t j →
      L o t j) :
    ∀ (hits : List (HitState 𝕜 × 𝕜)) (ph : Φ) (d : Properties 𝕜) (ph' : Φ)
      (o : Option (Properties 𝕜)), processHits g P fuel hits ph (some d) = .ok (ph', o) →
      ∃ d', o = some d' ∧ WrittenIn L d d'
  | [], ph, d, ph', o, hrun => by
    cases hrun
    exact ⟨d, rfl, .refl _ _⟩
  | x :: hits, ph, d, ph', o, hrun => by
    simp only [processHits, List.foldlM_cons] at hrun
    obtain ⟨⟨ph1, o1⟩, h1, h2⟩ := bind_eq_ok.1 hrun
    obtain ⟨d1, rfl, w1⟩ := processHitQuantities_writes g P fuel ph x.1 x.2 d ph1 o1 h1
    obtain ⟨d', rfl, w2⟩ := processHits_writtenIn fuel L hL hits ph1 d1 ph' o h2
    exact ⟨d', rfl, (w1.mono (hL ph)).trans w2⟩

/-- **What a run of calls writes.** On a photon whose spectrometer never has more than `n`
samples, a run of calls that returns has written only into the locations `init(n)` resets, in
the slots a call computes: the stride, the converters, which slots are `NULL`, and every other
location, `distance`, `first_dmin`, `nbcrosseqplane` and the user slots among them, are as they
were. -/
theorem processHits_writes (fuel n : Nat)
    (hn : ∀ φ, ((P.spectrometer φ).map fun s => s.midpoints.length).getD 0 ≤ n)
    (hits : List (HitState 𝕜 × 𝕜)) (ph : Φ) (d : Properties 𝕜) (ph' : Φ)
    (o : Option (Properties 𝕜)) (hrun : processHits g P fuel hits ph (some d) = .ok (ph', o)) :
    ∃ d', o = some d' ∧ WrittenIn (callLocations n) d d' :=
  processHits_writtenIn g P fuel _ (fun φ _ _ _ => callLocations_mono (hn φ)) hits ph d ph' o hrun

/-- Two hits at rest on `thickObject`, `intensity` and `impactcoords` requested. -/
theorem processHits_writes_rest :
    (∀ φ, (((plainPhoton false).spectrometer φ).map fun s => s.midpoints.length).getD 0 ≤ 1) ∧
      ∃ ph' o, processHits thickObject (plainPhoton false) 2 [(restHit, 1), (restHit, 1)] ()
          (some (requesting [.intensity, .impactcoords])) = .ok (ph', o) ∧
        ∃ d', o = some d' ∧ WrittenIn (callLocations 1) (requesting [.intensity, .impactcoords]) d' := by
  obtain ⟨ph', d', h⟩ := processHits_returns thickObject (plainPhoton false) 2
    [(restHit, 1), (restHit, 1)] (by simp [restHit]) () (requesting [.intensity, .impactcoords])
    (requesting_channel (by decide))
  exact ⟨fun _ => le_rfl, ph', some d', h,
    processHits_writes thickObject (plainPhoton false) 2 1 (fun _ => le_rfl) _ _ _ _ _ h⟩

/-! ## The impact coordinates over a run -/

theorem WrittenIn.impactcoords_eq {d d' : Properties 𝕜}
    (w : WrittenIn (fun _ t _ => t ≠ .impactcoords) d d') :
    d'.slot .impactcoords = d.slot .impactcoords :=
  w.slot_eq fun _ h => h rfl

/-- **One call's impact coordinates.** A call that returns leaves in `impactcoords` what
`impactAfter` makes of them at its hit: only `impactBlock` writes there. -/
theorem processHitQuantities_impactcoords (fuel : Nat) (ph : Φ) (h : HitState 𝕜) (dt : 𝕜)
    (d : Properties 𝕜) (ph' : Φ) (d' : Properties 𝕜)
    (hrun : processHitQuantities g P fuel ph h dt (some d) = .ok (ph', some d')) :
    d'.slot .impactcoords = (d.slot .impactcoords).map (impactAfter h) := by
  simp only [processHitQuantities, Except.map] at hrun
  split at hrun
  · cases hrun
  · rename_i r hr
    cases hrun
    simp only [scalarBlocks, bind_assoc] at hr
    obtain ⟨r1, h1, hr⟩ := bind_eq_ok.1 hr
    obtain ⟨r2, h2, hr⟩ := bind_eq_ok.1 hr
    obtain ⟨r3, h3, hr⟩ := bind_eq_ok.1 hr
    obtain ⟨r4, h4, hr⟩ := bind_eq_ok.1 hr
    obtain ⟨r5, h5, hr⟩ := bind_eq_ok.1 hr
    obtain ⟨r6, h6, hr⟩ := bind_eq_ok.1 hr
    cases hr
    have w : WrittenIn (fun _ t _ => t ≠ .impactcoords) r3.data r6.data :=
      (Run.writtenIn_addIfRequested h4 nofun).trans
        ((binspectrumBlock_writes g P _ fuel (fun _ _ _ => nofun) r4 r5 h5).trans
          (spectrumBlock_writes g P _ (fun _ _ _ => ⟨nofun, nofun, nofun, nofun⟩) r5 r6 h6))
    have w' : WrittenIn (fun _ t _ => t ≠ .impactcoords) d r2.data :=
      (Run.writtenIn_storeIfRequested h1 nofun).trans (Run.writtenIn_storeIfRequested h2 nofun)
    calc r6.data.slot .impactcoords
        = r3.data.slot .impactcoords := w.impactcoords_eq
      _ = (r2.data.slot .impactcoords).map (impactAfter h) := (impactBlock_slot _ h3).1
      _ = (d.slot .impactcoords).map (impactAfter h) := by rw [w'.impactcoords_eq]

theorem foldl_impactAfter_of_ne {buf : Nat → 𝕜} (hb : buf 0 ≠ dblMax) :
    ∀ hits : List (HitState 𝕜 × 𝕜), hits.foldl (fun b x => impactAfter x.1 b) buf = buf
  | [] => rfl
  | x :: hits => by
    rw [List.foldl_cons, impactAfter_of_ne hb]
    exact foldl_impactAfter_of_ne hb hits

/-- **The impact coordinates over a run**: each hit in turn makes of them what `impactAfter`
says. -/
theorem processHits_impactcoords (fuel : Nat) :
    ∀ (hits : List (HitState 𝕜 × 𝕜)) (ph : Φ) (d : Properties 𝕜) (ph' : Φ) (d' : Properties 𝕜),
      processHits g P fuel hits ph (some d) = .ok (ph', some d') →
      d'.slot .impactcoords =
        (d.slot .impactcoords).map fun buf => hits.foldl (fun b x => impactAfter x.1 b) buf
  | [], ph, d, ph', d', hrun => by
    cases hrun
    simp
  | x :: hits, ph, d, ph', d', hrun => by
    simp only [processHits, List.foldlM_cons] at hrun
    obtain ⟨⟨ph1, o1⟩, h1, h2⟩ := bind_eq_ok.1 hrun
    obtain ⟨d1, rfl, -⟩ := processHitQuantities_writes g P fuel ph x.1 x.2 d ph1 o1 h1
    rw [processHits_impactcoords fuel hits ph1 d1 ph' d' h2,
      processHitQuantities_impactcoords g P fuel ph x.1 x.2 d ph1 d1 h1, Option.map_map]
    rfl

/-- **The snapshot is the first hit's.** On a record reset by `init`, whose `impactcoords` then
holds the sentinel `DBL_MAX`, a run that returns leaves the 8 object and the 8 photon
coordinates of its first hit, whatever the later hits, when the first hit's object time is not
`DBL_MAX`. -/
theorem impactcoords_first_hit (fuel n : Nat) (e : Properties 𝕜) (buf : Nat → 𝕜)
    (he : e.slot .impactcoords = some buf) (x : HitState 𝕜 × 𝕜) (hits : List (HitState 𝕜 × 𝕜))
    (ph ph' : Φ) (d' : Properties 𝕜) (hx : x.1.coordObj.getD 0 0 ≠ dblMax)
    (hrun : processHits g P fuel (x :: hits) ph (some (e.init n)) = .ok (ph', some d')) :
    d'.slot .impactcoords = some fun j =>
      if j < 8 then x.1.coordObj.getD j 0 else if j < 16 then x.1.coordPh.getD (j - 8) 0 else buf j := by
  have hinit : (e.init n).slot .impactcoords =
      some fun j => if Properties.Resets e.offset n .impactcoords j then dblMax else buf j := by
    simp [Properties.init, he, Slot.initValue]
  rw [processHits_impactcoords g P fuel _ ph _ ph' d' hrun, hinit, Option.map_some', List.foldl_cons]
  have h0 : impactAfter x.1 (fun j => if Properties.Resets e.offset n .impactcoords j then dblMax
      else buf j) 0 = x.1.coordObj.getD 0 0 := by
    rw [impactAfter_zero]
    simp [Properties.Resets, Slot.layout]
  rw [foldl_impactAfter_of_ne (h0 ▸ hx), impactAfter,
    if_pos (by simp [Properties.Resets, Slot.layout])]
  congr 1
  funext j
  by_cases h16 : j < 16
  · simp [h16]
  · simp [h16, show ¬ j < 8 by omega, Properties.Resets, Slot.layout]

theorem dblMax_ne_zero : (dblMax : 𝕜) ≠ 0 :=
  Nat.cast_ne_zero.2 (by norm_num)

/-- A hit elsewhere than `restHit`, and later. -/
def laterHit : HitState ℚ := ⟨[1, 2, 3, 4, 1, 0, 0, 0], [1, 5, 6, 7, 1, 0, 0, 0]⟩

/-- `restHit`, then `laterHit`, on a record reset by `init` that requests `impactcoords`: the
coordinates of the first stay. -/
theorem impactcoords_first_hit_later :
    (requesting [.impactcoords]).slot .impactcoords = some (fun _ => 0) ∧
      restHit.coordObj.getD 0 0 ≠ dblMax ∧
      ∃ ph' d', processHits thickObject (plainPhoton false) 2 [(restHit, 1), (laterHit, 1)] ()
          (some ((requesting [.impactcoords]).init 1)) = .ok (ph', some d') ∧
        d'.slot .impactcoords = some fun j =>
          if j < 8 then restHit.coordObj.getD j 0 else if j < 16 then restHit.coordPh.getD (j - 8) 0
          else 0 := by
  have hx : restHit.coordObj.getD 0 0 ≠ dblMax := dblMax_ne_zero.symm
  obtain ⟨ph', d', h⟩ := processHits_returns thickObject (plainPhoton false) 2
    [(restHit, 1), (laterHit, 1)] (by simp [restHit, laterHit]) () ((requesting [.impactcoords]).init 1)
    (fun s hs => by
      simp [Properties.init, (requesting_channel (by decide) s hs :
        (requesting [.impactcoords]).slot s = none)])
  exact ⟨rfl, hx, ph', d', h, impactcoords_first_hit thickObject (plainPhoton false) 2 1
    (requesting [.impactcoords]) (fun _ => 0) rfl (restHit, 1) [(laterHit, 1)] () ph' d' hx h⟩

end Gyoto.Astrobj

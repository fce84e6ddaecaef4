import Gyoto.Astrobj.Writes

/-!
# One record, many pixels

A caller traces one photon per pixel into interleaved buffers. Pixel `p` gets the record of
pixel `0` moved on by `p` (`operator+=`), the stride `offset` being the number of pixels, resets
it (`init`) and runs its photon's calls on it; the buffers are the memory behind the pointers of
pixel `0`'s record (`writeBack`). Each pixel owns the locations `init` resets from its pointers
(`Owns`), no two pixels own a location, and a pixel's calls write only there.

* `Properties.writeBack`, `writeBack_advance`: the memory after writes through moved pointers;
* `Owns`, `owns_disjoint`: the locations of a pixel, disjoint for distinct pixels;
* `pixel_writtenIn`, `writeBack_slot_apply`: what one pixel writes;
* `renderPixels`: the caller's loop over the pixels;
* **`renderPixels_pixel`**: after the whole image, the locations of each pixel hold what its own
  calls left there; later pixels never overwrite them.
-/

set_option linter.unusedSectionVars false

namespace Gyoto.Astrobj

variable {𝕜 Φ : Type} [LinearOrderedField 𝕜]

namespace Properties

/-- The record `D` once the record `d`, which holds the memory from the pointers of
`D.advance p` on, has been written through those pointers: location `J` of slot `s` is location
`J - s.stride * p` of `d` from pixel `p`'s pointer on, and `D`'s before it. -/
def writeBack (p : Nat) (D d : Properties 𝕜) : Properties 𝕜 where
  slot s := (D.slot s).map fun buf J =>
    if s.stride * p ≤ J then ((d.slot s).map (· (J - s.stride * p))).getD (buf J) else buf J
  firstDminFound := D.firstDminFound
  offset := D.offset
  intensityConverter := D.intensityConverter
  spectrumConverter := D.spectrumConverter
  binspectrumConverter := D.binspectrumConverter

theorem writeBack_advance (p : Nat) (D : Properties 𝕜) : D.writeBack p (D.advance p) = D := by
  cases D with
  | mk slot f o c1 c2 c3 =>
    simp only [writeBack, advance, Properties.mk.injEq, and_true]
    funext s
    cases slot s with
    | none => rfl
    | some buf =>
      simp only [Option.map_some', Option.getD_some]
      congr 1
      funext J
      split_ifs with h
      · rw [Nat.sub_add_cancel h]
      · rfl

theorem writeBack_slot_apply {p : Nat} {D d : Properties 𝕜} {s : Slot}
    (hs : (d.slot s).isSome = (D.slot s).isSome) (j : Nat) :
    ((D.writeBack p d).slot s).map (· (s.stride * p + j)) = (d.slot s).map (· j) := by
  cases h1 : D.slot s <;> cases h2 : d.slot s <;> simp_all [writeBack]

/-- Writing back a record that differs from what the moved pointers see at the locations `R`
only changes the memory at those locations, seen from pixel `p`'s pointers. -/
theorem writeBack_writtenIn {p : Nat} {D d : Properties 𝕜} {R : Nat → Slot → Nat → Prop}
    (hf : ∀ s j, ¬ R D.offset s j → (d.slot s).map (· j) = ((D.advance p).slot s).map (· j)) :
    WrittenIn (fun o s J => ∃ j, R o s j ∧ J = s.stride * p + j) D (D.writeBack p d) where
  slotsOnly := rfl
  isSome_eq _ := Option.isSome_map
  frame s J hJ := by
    cases h1 : D.slot s with
    | none => simp [writeBack, h1]
    | some buf =>
      simp only [writeBack, h1, Option.map_some', Option.some.injEq]
      split_ifs with hle
      · obtain ⟨j, rfl⟩ := Nat.exists_eq_add_of_le hle
        have := hf s j fun hj => hJ ⟨j, hj, rfl⟩
        cases h2 : d.slot s with
        | none => simp [h2]
        | some buf' =>
          simp only [h2, advance, h1, Option.map_some', Option.some.injEq] at this
          simp [this, Nat.add_comm]
      · rfl

end Properties

/-! ## The locations of a pixel -/

/-- The locations pixel `p` owns in an image with stride `N` and `n` channels: those `init(n)`
resets from its pointers, `s.stride * p + j`. -/
def Owns (n p N : Nat) (s : Slot) (J : Nat) : Prop :=
  ∃ j, Properties.Resets N n s j ∧ J = s.stride * p + j

theorem stride_eq_one {s : Slot} (h : s.layout ≠ .impact) : s.stride = 1 := by
  cases s <;> first | rfl | exact absurd rfl h

/-- **Distinct pixels own distinct locations**, when the stride is the number of pixels. -/
theorem owns_disjoint {n p q N : Nat} (hp : p < N) (hq : q < N) (hpq : p ≠ q) {s : Slot} {J : Nat}
    (h : Owns n p N s J) : ¬ Owns n q N s J := by
  rintro ⟨j', hj', rfl⟩
  obtain ⟨j, hj, he⟩ := h
  unfold Properties.Resets at hj hj'
  split at hj
  · rename_i hl
    simp only [hl] at hj'
    rw [stride_eq_one (by rw [hl]; decide), hj, hj'] at he
    omega
  · rename_i hl
    simp only [hl] at hj'
    obtain ⟨ii, -, rfl⟩ := hj
    obtain ⟨jj, -, rfl⟩ := hj'
    rw [stride_eq_one (by rw [hl]; decide)] at he
    have := congrArg (· % N) he
    simp only [one_mul, Nat.add_mul_mod_self_right, Nat.mod_eq_of_lt hp, Nat.mod_eq_of_lt hq] at this
    exact hpq this.symm
  · rename_i hl
    simp only [hl] at hj'
    have : s = .impactcoords := by cases s <;> first | rfl | exact absurd hl (by decide)
    subst this
    simp only [Slot.stride] at he
    omega

/-! ## One pixel -/

variable (g : Generic 𝕜) (P : PhotonOps Φ 𝕜)

/-- **One pixel**: its record reset by `init(n)` and its photon's calls, written back, change
the memory only at the locations it owns. -/
theorem pixel_writtenIn (fuel n p : Nat)
    (hn : ∀ φ, ((P.spectrometer φ).map fun s => s.midpoints.length).getD 0 ≤ n)
    (hits : List (HitState 𝕜 × 𝕜)) (ph ph' : Φ) (D d : Properties 𝕜)
    (hrun : processHits g P fuel hits ph (some ((D.advance p).init n)) = .ok (ph', some d)) :
    (∀ s, (d.slot s).isSome = (D.slot s).isSome) ∧
      WrittenIn (fun N s J => Owns n p N s J) D (D.writeBack p d) := by
  obtain ⟨d', he, w⟩ := processHits_writtenIn g P fuel (callLocations n)
    (fun φ _ _ _ => callLocations_mono (hn φ)) hits ph _ ph' _ hrun
  cases he
  have hs : ∀ s, (d.slot s).isSome = (D.slot s).isSome := fun s => by
    rw [w.isSome_eq, Properties.isSome_init_slot]
    simp [Properties.advance]
  refine ⟨hs, Properties.writeBack_writtenIn fun s j hj => ?_⟩
  rw [w.frame s j fun hc => hj hc.2, Properties.init_slot_map_of_not_resets
    (show ¬ Properties.Resets (D.advance p).offset n s j from hj)]

/-! ## The image -/

/-- The caller's loop over the pixels `(p, photon, hits)` of an image whose record for pixel `0`
is `D`: pixel `p`'s record is `D` moved on by `p` and reset by `init(n)`, its photon's calls run
on it, and what they leave is written back. -/
def renderPixels (fuel n : Nat) :
    List (Nat × Φ × List (HitState 𝕜 × 𝕜)) → Properties 𝕜 → Except Fault (Properties 𝕜)
  | [], D => .ok D
  | (p, ph, hits) :: px, D =>
    match processHits g P fuel hits ph (some ((D.advance p).init n)) with
    | .ok (_, some d) => renderPixels fuel n px (D.writeBack p d)
    | .ok (_, none) => renderPixels fuel n px D
    | .error e => .error e

theorem renderPixels_append (fuel n : Nat) :
    ∀ (px px' : List (Nat × Φ × List (HitState 𝕜 × 𝕜))) (D : Properties 𝕜),
      renderPixels g P fuel n (px ++ px') D = renderPixels g P fuel n px D >>= renderPixels g P fuel n px'
  | [], _, _ => rfl
  | (p, ph, hits) :: px, px', D => by
    simp only [List.cons_append, renderPixels]
    split <;> first | exact renderPixels_append fuel n px px' _ | rfl

theorem renderPixels_writtenIn (fuel n : Nat)
    (hn : ∀ φ, ((P.spectrometer φ).map fun s => s.midpoints.length).getD 0 ≤ n) :
    ∀ (px : List (Nat × Φ × List (HitState 𝕜 × 𝕜))) (D D' : Properties 𝕜),
      renderPixels g P fuel n px D = .ok D' →
      WrittenIn (fun N s J => ∃ q ∈ px.map Prod.fst, Owns n q N s J) D D'
  | [], D, D', h => by
    cases h
    exact .refl _ _
  | (p, ph, hits) :: px, D, D', h => by
    simp only [renderPixels] at h
    split at h
    · rename_i d hrun
      exact ((pixel_writtenIn g P fuel n p hn hits ph _ D d hrun).2.mono
        fun N s J hJ => ⟨p, List.mem_cons_self _ _, hJ⟩).trans
          ((renderPixels_writtenIn fuel n hn px _ D' h).mono
            fun N s J ⟨q, hq, hJ⟩ => ⟨q, List.mem_cons_of_mem _ hq, hJ⟩)
    · exact (renderPixels_writtenIn fuel n hn px D D' h).mono
        fun N s J ⟨q, hq, hJ⟩ => ⟨q, List.mem_cons_of_mem _ hq, hJ⟩
    · cases h

/-- **No pixel overwrites another.** In an image whose stride is at least the number of its
distinct pixels, with photons whose spectrometers have at most `n` samples, each pixel's
locations hold, after the whole image, what its own calls left there, from the memory the pixels
before it left. -/
theorem renderPixels_pixel (fuel n : Nat)
    (hn : ∀ φ, ((P.spectrometer φ).map fun s => s.midpoints.length).getD 0 ≤ n)
    (px px' : List (Nat × Φ × List (HitState 𝕜 × 𝕜))) (p : Nat) (ph : Φ)
    (hits : List (HitState 𝕜 × 𝕜)) (D D' : Properties 𝕜)
    (hlt : ∀ q ∈ (px ++ (p, ph, hits) :: px').map Prod.fst, q < D.offset)
    (hnd : ((px ++ (p, ph, hits) :: px').map Prod.fst).Nodup)
    (hrun : renderPixels g P fuel n (px ++ (p, ph, hits) :: px') D = .ok D') :
    ∃ D₁ ph' d, renderPixels g P fuel n px D = .ok D₁ ∧
      processHits g P fuel hits ph (some ((D₁.advance p).init n)) = .ok (ph', some d) ∧
      ∀ s j, Properties.Resets D.offset n s j →
        (D'.slot s).map (· (s.stride * p + j)) = (d.slot s).map (· j) := by
  rw [renderPixels_append] at hrun
  obtain ⟨D₁, h1, h2⟩ := bind_eq_ok.1 hrun
  have hoff : D₁.offset = D.offset :=
    (renderPixels_writtenIn g P fuel n hn px D D₁ h1).slotsOnly.offset_eq
  simp only [renderPixels] at h2
  split at h2
  · rename_i ph' d hp
    refine ⟨D₁, ph', d, h1, hp, fun s j hj => ?_⟩
    obtain ⟨hs, w1⟩ := pixel_writtenIn g P fuel n p hn hits ph ph' D₁ d hp
    have w2 := renderPixels_writtenIn g P fuel n hn px' _ D' h2
    have hmem : p ∉ px'.map Prod.fst := by
      simp only [List.map_append, List.map_cons] at hnd
      exact (List.nodup_cons.1 (List.nodup_append.1 hnd).2.1).1
    have hoff' : (D₁.writeBack p d).offset = D.offset := hoff
    have hnot : ¬ ∃ q ∈ px'.map Prod.fst,
        Owns n q (D₁.writeBack p d).offset s (s.stride * p + j) := by
      rintro ⟨q, hq, hown⟩
      rw [hoff'] at hown
      have hq' : q ∈ (px ++ (p, ph, hits) :: px').map Prod.fst := by
        rw [List.map_append, List.map_cons]
        exact List.mem_append_right _ (List.mem_cons_of_mem _ hq)
      exact owns_disjoint (hlt p (List.mem_map_of_mem Prod.fst
        (List.mem_append_right _ (List.mem_cons_self _ _)))) (hlt q hq') (fun e => hmem (e ▸ hq))
        ⟨j, hj, rfl⟩ hown
    rw [w2.frame s _ hnot, Properties.writeBack_slot_apply (hs s)]
  · rename_i hp
    obtain ⟨_, he, -⟩ := processHits_writtenIn g P fuel (fun _ _ _ => True)
      (fun _ _ _ _ _ => trivial) hits ph _ _ _ hp
    cases he
  · cases h2

/-- Two pixels at stride `2`, each with two hits at rest on `thickObject`, `intensity` and
`impactcoords` requested: pixel `0`'s locations keep what its calls left. -/
theorem renderPixels_pixel_two :
    (∀ φ, (((plainPhoton false).spectrometer φ).map fun s => s.midpoints.length).getD 0 ≤ 1) ∧
      (∀ q ∈ ([] ++ [(0, (), [(restHit, (1 : ℚ))]), (1, (), [(restHit, 1)])]).map Prod.fst,
        q < ({ requesting [.intensity, .impactcoords] with offset := 2 } : Properties ℚ).offset) ∧
      (([] ++ [(0, (), [(restHit, (1 : ℚ))]), (1, (), [(restHit, 1)])]).map Prod.fst).Nodup ∧
      ∃ D', renderPixels thickObject (plainPhoton false) 2 1
          ([] ++ [(0, (), [(restHit, 1)]), (1, (), [(restHit, 1)])])
          { requesting [.intensity, .impactcoords] with offset := 2 } = .ok D' ∧
        ∃ D₁ ph' d, renderPixels thickObject (plainPhoton false) 2 1 []
            { requesting [.intensity, .impactcoords] with offset := 2 } = .ok D₁ ∧
          processHits thickObject (plainPhoton false) 2 [(restHit, 1)] ()
            (some ((D₁.advance 0).init 1)) = .ok (ph', some d) ∧
          ∀ s j, Properties.Resets 2 1 s j →
            (D'.slot s).map (· (s.stride * 0 + j)) = (d.slot s).map (· j) := by
  have hch : ∀ D : Properties ℚ, (∀ s, s.layout = .channel → D.slot s = none) →
      ∀ p, ∀ s, s.layout = .channel → ((D.advance p).init 1).slot s = none := fun D hD p s hs => by
    simp [Properties.init, Properties.advance, hD s hs]
  have hreq : ∀ s, s.layout = .channel → (requesting [.intensity, .impactcoords]).slot s = none :=
    requesting_channel (by decide)
  have h0 : ∀ s, s.layout = .channel →
      ({ requesting [.intensity, .impactcoords] with offset := 2 } : Properties ℚ).slot s = none :=
    hreq
  obtain ⟨ph1, d1, h1⟩ := processHits_returns thickObject (plainPhoton false) 2 [(restHit, 1)]
    (by simp [restHit]) () _ (hch _ h0 0)
  obtain ⟨ph2, d2, h2⟩ := processHits_returns thickObject (plainPhoton false) 2 [(restHit, 1)]
    (by simp [restHit]) () _ (hch ((({ requesting [.intensity, .impactcoords] with offset := 2 } :
      Properties ℚ).writeBack 0 d1)) (fun s hs => by simp [Properties.writeBack, hreq s hs]) 1)
  have hr : renderPixels thickObject (plainPhoton false) 2 1
      ([] ++ [(0, (), [(restHit, 1)]), (1, (), [(restHit, 1)])])
      { requesting [.intensity, .impactcoords] with offset := 2 } =
        .ok ((({ requesting [.intensity, .impactcoords] with offset := 2 } : Properties ℚ).writeBack
          0 d1).writeBack 1 d2) := by
    simp only [List.nil_append, renderPixels, h1, h2]
  have hlt : ∀ q ∈ ([] ++ [(0, (), [(restHit, (1 : ℚ))]), (1, (), [(restHit, 1)])]).map Prod.fst,
      q < ({ requesting [.intensity, .impactcoords] with offset := 2 } : Properties ℚ).offset := by
    simp
  have hnd : (([] ++ [(0, (), [(restHit, (1 : ℚ))]), (1, (), [(restHit, 1)])]).map Prod.fst).Nodup := by
    simp
  exact ⟨fun _ => le_rfl, hlt, hnd, _, hr, renderPixels_pixel thickObject (plainPhoton false) 2 1
    (fun _ => le_rfl) [] [(1, (), [(restHit, 1)])] 0 () [(restHit, 1)] _ _ hlt hnd hr⟩

end Gyoto.Astrobj

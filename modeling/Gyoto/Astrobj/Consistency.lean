import Gyoto.Astrobj.Object

/-!
# One override gives consistent answers from all five primitives

A concrete type that reimplements one primitive, the one matching its physics, gets the other
four from `Generic`. On a fresh object every call returns the abstract answer
(`Call.resolves`), and the abstract answers agree with one another whenever at most one
primitive is overridden.

* `Overrides.count`: how many primitives a concrete type overrides;
* one lemma per agreement, each under the exclusions it needs;
* **`single_override_consistent`**.
-/

set_option linter.unusedSectionVars false

namespace Gyoto.Astrobj

variable {R H : Type} [Zero R] [One R] [Neg R] [LT R] [DecidableRel (· < · : R → R → Prop)]
  [OfScientific R]

/-- How many of the five primitives `o` overrides. -/
def Overrides.count (o : Overrides R H) : Nat :=
  o.emission.isSome.toNat + o.emissionVector.isSome.toNat + o.transmission.isSome.toNat +
    o.radiativeQ.isSome.toNat + o.radiativeQPolar.isSome.toNat

theorem eq_none_of_isSome_toNat {α β : Type} {a : Option α} {x : α} {b : Option β}
    (ha : a = some x) (h : a.isSome.toNat + b.isSome.toNat ≤ 1) : b = none := by
  cases b <;> simp_all

namespace Resolved

variable {L : Libm R} {o : Overrides R H} {thin : Bool} (nuem : List R) (nu dsem : R) (h : H)

theorem emissionVector_eq_radiativeQ_fst
    (hv : ∀ f, o.emissionVector = some f → o.radiativeQ = none ∧ o.radiativeQPolar = none) :
    emissionVector L o thin nuem dsem h = (radiativeQ L o thin nuem dsem h).1 := by
  unfold emissionVector
  split
  · rename_i f hf
    obtain ⟨hq, hp⟩ := hv f hf
    simp [radiativeQ_of_none hq hp, emissionVectorBelow, hf]
  · rfl

theorem length_emissionVector :
    (emissionVector L o thin nuem dsem h).length = nuem.length := by
  unfold emissionVector
  split
  · exact o.emissionVector_length _ (by assumption) _ _ _
  · exact (length_radiativeQ nuem dsem h).1

theorem emissionVector_singleton
    (he : ∀ f, o.emission = some f →
      o.emissionVector = none ∧ o.radiativeQ = none ∧ o.radiativeQPolar = none) :
    emissionVector L o thin [nu] dsem h = [emission L o thin nu dsem h] := by
  unfold emission
  split
  · rename_i f hf
    obtain ⟨hv, hq, hp⟩ := he f hf
    simp [emissionVector_of_none hq hp, emissionVectorBelow, emissionBelow, hv, hf]
  · have hl : (emissionVector L o thin [nu] dsem h).length = 1 := length_emissionVector [nu] dsem h
    match hx : emissionVector L o thin [nu] dsem h, hl with
    | [x], _ => rfl

theorem radiativeQ_snd_singleton
    (ht : ∀ f, o.transmission = some f → o.radiativeQ = none ∧ o.radiativeQPolar = none) :
    (radiativeQ L o thin [nu] dsem h).2 = [transmission L o thin nu dsem h] := by
  unfold transmission
  split
  · rename_i f hf
    obtain ⟨hq, hp⟩ := ht f hf
    simp [radiativeQ_of_none hq hp, transmissionBelow, hf]
  · have hl : (radiativeQ L o thin [nu] dsem h).2.length = 1 := (length_radiativeQ [nu] dsem h).2
    match hx : (radiativeQ L o thin [nu] dsem h).2, hl with
    | [x], _ => rfl

theorem radiativeQ_snd_of_polarized {g : List R → R → H → List (Stokes R)}
    (hq : o.radiativeQ = none) (hg : o.radiativeQPolar = some g) :
    (radiativeQ L o thin nuem dsem h).2 = (g nuem dsem h).map fun s => L.exp (-s.alphaInu) := by
  simp [radiativeQ, hq, hg]

theorem unpolarized_of_radiativeQPolar (hp : o.radiativeQPolar = none) :
    ∀ s ∈ radiativeQPolar L o thin nuem dsem h, s.Qnu = 0 ∧ s.Unu = 0 ∧ s.Vnu = 0 ∧
      s.alphaQnu = 0 ∧ s.alphaUnu = 0 ∧ s.alphaVnu = 0 ∧ s.rQnu = 0 ∧ s.rUnu = 0 ∧ s.rVnu = 0 := by
  simp only [radiativeQPolar, hp]
  generalize (radiativeQ L o thin nuem dsem h).1 = Inu
  generalize (radiativeQ L o thin nuem dsem h).2 = Taunu
  induction Inu generalizing Taunu with
  | nil => simp
  | cons a as ih =>
    cases Taunu with
    | nil => simp
    | cons b bs =>
      simp only [List.zipWith_cons_cons, List.mem_cons, forall_eq_or_imp]
      exact ⟨by simp [Stokes.unpolarized], ih bs⟩

theorem emission_fallback (he : o.emission = none) (hv : o.emissionVector = none)
    (hq : o.radiativeQ = none) (hp : o.radiativeQPolar = none) :
    emission L o thin nu dsem h = (if thin then dsem else 1) ∧
      emissionVector L o thin nuem dsem h = nuem.map fun _ => if thin then dsem else 1 := by
  rw [emission_of_none hq hp hv, emissionVector_of_none hq hp]
  simp [emissionBelow, emissionVectorBelow, he, hv]

theorem transmission_fallback (ht : o.transmission = none) (hq : o.radiativeQ = none)
    (hp : o.radiativeQPolar = none) :
    transmission L o thin nu dsem h = (if thin then 1 else 0) ∧
      (radiativeQ L o thin nuem dsem h).2 = nuem.map fun _ => if thin then 1 else 0 := by
  rw [transmission_of_none hq hp, radiativeQ_of_none hq hp]
  simp [transmissionBelow, ht]

end Resolved

variable (L : Libm R) (o : Overrides R H) (thin : Bool)

/-- How the answers of the five primitives of an object agree, at the frequencies `nuem` and
`nu`. -/
structure AnswersAgree (nuem : List R) (nu dsem : R) (h : H) : Prop where
  /-- On a fresh object every call returns the abstract answer. -/
  fresh : ∀ c : Call R H, (c.run L o thin 7 0).map Prod.fst = some (c.resolved L o thin)
  emissionVector_eq :
    Resolved.emissionVector L o thin nuem dsem h = (Resolved.radiativeQ L o thin nuem dsem h).1
  polarized_Inu_eq : (Resolved.radiativeQPolar L o thin nuem dsem h).map Stokes.Inu =
    (Resolved.radiativeQ L o thin nuem dsem h).1
  emission_eq : Resolved.emissionVector L o thin [nu] dsem h = [Resolved.emission L o thin nu dsem h]
  transmission_eq :
    (Resolved.radiativeQ L o thin [nu] dsem h).2 = [Resolved.transmission L o thin nu dsem h]
  transmission_of_polarized : ∀ g, o.radiativeQPolar = some g →
    (Resolved.radiativeQ L o thin nuem dsem h).2 = (g nuem dsem h).map fun s => L.exp (-s.alphaInu)
  unpolarized : o.radiativeQPolar = none → ∀ s ∈ Resolved.radiativeQPolar L o thin nuem dsem h,
    s.Qnu = 0 ∧ s.Unu = 0 ∧ s.Vnu = 0 ∧ s.alphaQnu = 0 ∧ s.alphaUnu = 0 ∧ s.alphaVnu = 0 ∧
      s.rQnu = 0 ∧ s.rUnu = 0 ∧ s.rVnu = 0
  emission_fallback : o.emission = none → o.emissionVector = none → o.radiativeQ = none →
    o.radiativeQPolar = none →
    Resolved.emission L o thin nu dsem h = (if thin then dsem else 1) ∧
      Resolved.emissionVector L o thin nuem dsem h = nuem.map fun _ => if thin then dsem else 1
  transmission_fallback : o.transmission = none → o.radiativeQ = none →
    o.radiativeQPolar = none →
    Resolved.transmission L o thin nu dsem h = (if thin then 1 else 0) ∧
      (Resolved.radiativeQ L o thin nuem dsem h).2 = nuem.map fun _ => if thin then 1 else 0

/-- **At most one override: the five primitives agree.** On a fresh object every call returns
the abstract answer; vector emission and both `radiativeQ` give the same `Inu`, scalar emission
and transmission are their single-frequency entries (the transmission `exp (-alphaInu)` of a
polarized override), a polarized `radiativeQ` that is not overridden carries no polarization,
and with nothing overridden to supply them, the emission is `dsem` (thin) or `1` and the
transmission `1` (thin) or `0`. -/
theorem single_override_consistent (hone : o.count ≤ 1) (nuem : List R) (nu dsem : R) (h : H) :
    AnswersAgree L o thin nuem nu dsem h := by
  unfold Overrides.count at hone
  have hv : ∀ f, o.emissionVector = some f → o.radiativeQ = none ∧ o.radiativeQPolar = none :=
    fun f hf => ⟨eq_none_of_isSome_toNat hf (by omega),
      eq_none_of_isSome_toNat hf (by omega)⟩
  have he : ∀ f, o.emission = some f →
      o.emissionVector = none ∧ o.radiativeQ = none ∧ o.radiativeQPolar = none :=
    fun f hf => ⟨eq_none_of_isSome_toNat hf (by omega),
      eq_none_of_isSome_toNat hf (by omega),
      eq_none_of_isSome_toNat hf (by omega)⟩
  have ht : ∀ f, o.transmission = some f → o.radiativeQ = none ∧ o.radiativeQPolar = none :=
    fun f hf => ⟨eq_none_of_isSome_toNat hf (by omega),
      eq_none_of_isSome_toNat hf (by omega)⟩
  have hqp : o.radiativeQ = none ∨ o.radiativeQPolar = none := by
    cases hq : o.radiativeQ
    · exact .inl rfl
    · exact .inr (eq_none_of_isSome_toNat hq (by omega))
  refine ⟨fun c => ?_, Resolved.emissionVector_eq_radiativeQ_fst nuem dsem h hv,
    Resolved.map_Inu_radiativeQPolar hqp nuem dsem h,
    Resolved.emissionVector_singleton nu dsem h he, Resolved.radiativeQ_snd_singleton nu dsem h ht,
    fun g hg => Resolved.radiativeQ_snd_of_polarized nuem dsem h
      (eq_none_of_isSome_toNat hg (by omega)) hg,
    Resolved.unpolarized_of_radiativeQPolar nuem dsem h,
    Resolved.emission_fallback nuem nu dsem h, Resolved.transmission_fallback nuem nu dsem h⟩
  obtain ⟨a, m', hx, ha⟩ := c.resolves L o thin (Nat.le_refl 7) 0
  simp [hx, (ha o.admissible_zero).1]

/-- A concrete object that reimplements the unpolarized `radiativeQ` only: `Inu = nu * dsem` and
`Taunu = 1/2` at every frequency. -/
def greyBody : Overrides ℚ Unit :=
  { Overrides.generic with
    radiativeQ := some fun nuem dsem _ => (nuem.map (· * dsem), nuem.map fun _ => 1 / 2)
    radiativeQ_length := by simp }

/-- `greyBody`, optically thin, at the frequencies `1` and `2`. -/
theorem single_override_consistent_greyBody :
    greyBody.count ≤ 1 ∧ AnswersAgree ⟨id, id, 0⟩ greyBody true [1, 2] 3 (1 / 2) () :=
  ⟨by decide, single_override_consistent ⟨id, id, 0⟩ greyBody true (by decide) _ _ _ _⟩

end Gyoto.Astrobj

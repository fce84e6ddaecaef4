import Gyoto.Astrobj.Dispatch

/-!
# What the radiative primitives compute

The abstract model of the five primitives: a pure function each, with no mask. A primitive the
concrete type overrides is its override. Otherwise the unpolarized `radiativeQ` takes its
answer from the polarized override, and failing that from the vector and scalar emission and
the transmission "below" it (their overrides, or the uniform fall-backs `dsem`/`1` and
`1`/`0`); every other primitive reads its answer off the unpolarized one.

* `Resolved.emission`, `Resolved.emissionVector`, `Resolved.transmission`,
  `Resolved.radiativeQ`, `Resolved.radiativeQPolar`, with their lengths.
-/

set_option linter.unusedSectionVars false

namespace Gyoto.Astrobj

variable {R H : Type} [Zero R] [One R] [Neg R] [LT R] [DecidableRel (· < · : R → R → Prop)]
  [OfScientific R]

theorem map_Inu_zipWith_unpolarized (L : Libm R) {Inu Taunu : List R}
    (h : Inu.length = Taunu.length) :
    (List.zipWith (Stokes.unpolarized L) Inu Taunu).map Stokes.Inu = Inu := by
  induction Inu generalizing Taunu with
  | nil => rfl
  | cons a as ih =>
    cases Taunu with
    | nil => simp at h
    | cons b bs => simp [Stokes.unpolarized, ih (Nat.succ.inj h)]

namespace Resolved

variable (L : Libm R) (o : Overrides R H) (thin : Bool)

/-- The scalar emission the loop of the vector body reaches. -/
def emissionBelow (nu dsem : R) (h : H) : R :=
  match o.emission with
  | some f => f nu dsem h
  | none => if thin then dsem else 1

/-- The transmission the unpolarized body reaches once it knows both `radiativeQ` are its own. -/
def transmissionBelow (nu dsem : R) (h : H) : R :=
  match o.transmission with
  | some f => f nu dsem h
  | none => if thin then 1 else 0

/-- The vector emission the unpolarized body reaches once it knows both `radiativeQ` are its
own. -/
def emissionVectorBelow (nuem : List R) (dsem : R) (h : H) : List R :=
  match o.emissionVector with
  | some f => f nuem dsem h
  | none => nuem.map fun nu => emissionBelow o thin nu dsem h

/-- What the unpolarized `radiativeQ` computes. -/
def radiativeQ (nuem : List R) (dsem : R) (h : H) : List R × List R :=
  match o.radiativeQ, o.radiativeQPolar with
  | some f, _ => f nuem dsem h
  | none, some g => ((g nuem dsem h).map Stokes.Inu, (g nuem dsem h).map fun x => L.exp (-x.alphaInu))
  | none, none =>
    (emissionVectorBelow o thin nuem dsem h, nuem.map fun nu => transmissionBelow o thin nu dsem h)

/-- What the polarized `radiativeQ` computes. -/
def radiativeQPolar (nuem : List R) (dsem : R) (h : H) : List (Stokes R) :=
  match o.radiativeQPolar with
  | some g => g nuem dsem h
  | none =>
    List.zipWith (Stokes.unpolarized L) (radiativeQ L o thin nuem dsem h).1
      (radiativeQ L o thin nuem dsem h).2

/-- What the vector emission computes. -/
def emissionVector (nuem : List R) (dsem : R) (h : H) : List R :=
  match o.emissionVector with
  | some f => f nuem dsem h
  | none => (radiativeQ L o thin nuem dsem h).1

/-- What the scalar emission computes. -/
def emission (nu dsem : R) (h : H) : R :=
  match o.emission with
  | some f => f nu dsem h
  | none => (emissionVector L o thin [nu] dsem h).headD 0

/-- What the scalar transmission computes. -/
def transmission (nu dsem : R) (h : H) : R :=
  match o.transmission with
  | some f => f nu dsem h
  | none => (radiativeQ L o thin [nu] dsem h).2.headD 0

variable {L o thin}

theorem length_emissionVectorBelow (nuem : List R) (dsem : R) (h : H) :
    (emissionVectorBelow o thin nuem dsem h).length = nuem.length := by
  unfold emissionVectorBelow
  split
  · exact o.emissionVector_length _ (by assumption) _ _ _
  · simp

theorem length_radiativeQ (nuem : List R) (dsem : R) (h : H) :
    (radiativeQ L o thin nuem dsem h).1.length = nuem.length ∧
      (radiativeQ L o thin nuem dsem h).2.length = nuem.length := by
  unfold radiativeQ
  split
  · exact o.radiativeQ_length _ (by assumption) _ _ _
  · simp [o.radiativeQPolar_length _ (by assumption)]
  · simp [length_emissionVectorBelow]

/-! ### When neither `radiativeQ` is overridden -/

section Unoverridden

variable (hq : o.radiativeQ = none) (hp : o.radiativeQPolar = none)
include hq hp

theorem radiativeQ_of_none (nuem : List R) (dsem : R) (h : H) :
    radiativeQ L o thin nuem dsem h =
      (emissionVectorBelow o thin nuem dsem h, nuem.map fun nu => transmissionBelow o thin nu dsem h) := by
  simp [radiativeQ, hq, hp]

theorem emissionVector_of_none (nuem : List R) (dsem : R) (h : H) :
    emissionVector L o thin nuem dsem h = emissionVectorBelow o thin nuem dsem h := by
  unfold emissionVector emissionVectorBelow
  split <;> simp [radiativeQ_of_none hq hp, emissionVectorBelow, *]

theorem transmission_of_none (nu dsem : R) (h : H) :
    transmission L o thin nu dsem h = transmissionBelow o thin nu dsem h := by
  unfold transmission
  split <;> simp [radiativeQ_of_none hq hp, transmissionBelow, *]

theorem emission_of_none (hv : o.emissionVector = none) (nu dsem : R) (h : H) :
    emission L o thin nu dsem h = emissionBelow o thin nu dsem h := by
  unfold emission
  split <;> simp [emissionVector_of_none hq hp, emissionVectorBelow, emissionBelow, *]

end Unoverridden

theorem map_Inu_radiativeQPolar (hqp : o.radiativeQ = none ∨ o.radiativeQPolar = none)
    (nuem : List R) (dsem : R) (h : H) :
    (radiativeQPolar L o thin nuem dsem h).map Stokes.Inu = (radiativeQ L o thin nuem dsem h).1 := by
  unfold radiativeQPolar
  split
  · rename_i g hg
    have hq : o.radiativeQ = none := hqp.resolve_right (by simp [hg])
    simp [radiativeQ, hq, hg]
  · have := @length_radiativeQ R H _ _ _ _ _ _ L o thin nuem dsem h
    exact map_Inu_zipWith_unpolarized L (this.1.trans this.2.symm)

end Resolved

end Gyoto.Astrobj

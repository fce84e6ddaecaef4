import Mathlib

/-!
# The capability mask and the radiative primitives

`Generic` reimplements five radiative primitives in terms of one another, and a concrete
`Astrobj` may override any of them. This module holds their data:

* `DefaultFeatures`: the three bits of `__defaultfeatures` (`__default_radiativeQ_polar`,
  `__default_radiativeQ`, `__default_emission_vector`), ordered bitwise;
* `Stokes`: what the polarized `radiativeQ` writes at one frequency;
* `Libm`: the `<cmath>` and `<limits>` functions the default bodies call on `double`s;
* `Overrides`: which primitives a concrete type reimplements, each a leaf that fills all the
  `nbnu` entries of its output arrays; `Overrides.Admissible`: the masks in which a bit is set
  only for a primitive that is not overridden.
-/

namespace Gyoto.Astrobj

/-- The bits of `__defaultfeatures`; a set bit means the primitive is known to be `Generic`'s
own body. -/
structure DefaultFeatures where
  radiativeQPolar : Bool
  radiativeQ : Bool
  emissionVector : Bool
deriving DecidableEq, Repr

namespace DefaultFeatures

/-- `__defaultfeatures(0)`, as every constructor sets it. -/
instance : Zero DefaultFeatures := ⟨⟨false, false, false⟩⟩

/-- The mask as a triple of bits. -/
def bits (m : DefaultFeatures) : Bool × Bool × Bool :=
  (m.radiativeQPolar, m.radiativeQ, m.emissionVector)

theorem bits_injective : Function.Injective bits := by
  rintro ⟨a, b, c⟩ ⟨a', b', c'⟩ h
  simp only [bits, Prod.mk.injEq] at h
  obtain ⟨rfl, rfl, rfl⟩ := h
  rfl

/-- Bitwise inclusion of masks. -/
instance : PartialOrder DefaultFeatures := PartialOrder.lift bits bits_injective

theorem le_def {m m' : DefaultFeatures} :
    m ≤ m' ↔ m.radiativeQPolar ≤ m'.radiativeQPolar ∧ m.radiativeQ ≤ m'.radiativeQ ∧
      m.emissionVector ≤ m'.emissionVector := Iff.rfl

instance : DecidableRel (· ≤ · : DefaultFeatures → DefaultFeatures → Prop) := fun _ _ =>
  decidable_of_iff _ le_def.symm

/-- `__defaultfeatures |= __default_radiativeQ_polar`. -/
def setRadiativeQPolar (m : DefaultFeatures) : DefaultFeatures := { m with radiativeQPolar := true }

/-- `__defaultfeatures |= __default_radiativeQ`. -/
def setRadiativeQ (m : DefaultFeatures) : DefaultFeatures := { m with radiativeQ := true }

/-- `__defaultfeatures |= __default_emission_vector`. -/
def setEmissionVector (m : DefaultFeatures) : DefaultFeatures := { m with emissionVector := true }

@[simp] theorem setRadiativeQPolar_radiativeQPolar (m : DefaultFeatures) :
    m.setRadiativeQPolar.radiativeQPolar = true := rfl
@[simp] theorem setRadiativeQPolar_radiativeQ (m : DefaultFeatures) :
    m.setRadiativeQPolar.radiativeQ = m.radiativeQ := rfl
@[simp] theorem setRadiativeQPolar_emissionVector (m : DefaultFeatures) :
    m.setRadiativeQPolar.emissionVector = m.emissionVector := rfl
@[simp] theorem setRadiativeQ_radiativeQPolar (m : DefaultFeatures) :
    m.setRadiativeQ.radiativeQPolar = m.radiativeQPolar := rfl
@[simp] theorem setRadiativeQ_radiativeQ (m : DefaultFeatures) :
    m.setRadiativeQ.radiativeQ = true := rfl
@[simp] theorem setRadiativeQ_emissionVector (m : DefaultFeatures) :
    m.setRadiativeQ.emissionVector = m.emissionVector := rfl
@[simp] theorem setEmissionVector_radiativeQPolar (m : DefaultFeatures) :
    m.setEmissionVector.radiativeQPolar = m.radiativeQPolar := rfl
@[simp] theorem setEmissionVector_radiativeQ (m : DefaultFeatures) :
    m.setEmissionVector.radiativeQ = m.radiativeQ := rfl
@[simp] theorem setEmissionVector_emissionVector (m : DefaultFeatures) :
    m.setEmissionVector.emissionVector = true := rfl

theorem le_setRadiativeQPolar (m : DefaultFeatures) : m ≤ m.setRadiativeQPolar := by
  simp [le_def]

theorem le_setRadiativeQ (m : DefaultFeatures) : m ≤ m.setRadiativeQ := by
  simp [le_def]

theorem le_setEmissionVector (m : DefaultFeatures) : m ≤ m.setEmissionVector := by
  simp [le_def]

theorem radiativeQPolar_mono {m m' : DefaultFeatures} (h : m ≤ m') :
    m.radiativeQPolar = true → m'.radiativeQPolar = true := fun hm => by
  have := (le_def.1 h).1; rw [hm] at this; exact Bool.eq_true_of_true_le this

theorem radiativeQ_mono {m m' : DefaultFeatures} (h : m ≤ m') :
    m.radiativeQ = true → m'.radiativeQ = true := fun hm => by
  have := (le_def.1 h).2.1; rw [hm] at this; exact Bool.eq_true_of_true_le this

theorem emissionVector_mono {m m' : DefaultFeatures} (h : m ≤ m') :
    m.emissionVector = true → m'.emissionVector = true := fun hm => by
  have := (le_def.1 h).2.2; rw [hm] at this; exact Bool.eq_true_of_true_le this

end DefaultFeatures

/-- What the polarized `radiativeQ` writes at one frequency: the emission `Inu`, `Qnu`, `Unu`,
`Vnu`, the absorption coefficients and the Faraday rotation coefficients. -/
structure Stokes (R : Type) where
  Inu : R
  Qnu : R
  Unu : R
  Vnu : R
  alphaInu : R
  alphaQnu : R
  alphaUnu : R
  alphaVnu : R
  rQnu : R
  rUnu : R
  rVnu : R
deriving DecidableEq, Repr

/-- The `<cmath>` functions `exp` and `log` and `std::numeric_limits<double>::infinity()`. -/
structure Libm (R : Type) where
  exp : R → R
  log : R → R
  infinity : R

/-- The primitives a concrete `Astrobj` reimplements (`none`: `Generic`'s body runs). Each
override is a leaf, a function of the frequencies, `dsem` and the hit states `H`, and a vector
override fills one entry per frequency, as the caller's arrays of `nbnu` doubles require. -/
structure Overrides (R H : Type) where
  emission : Option (R → R → H → R)
  emissionVector : Option (List R → R → H → List R)
  transmission : Option (R → R → H → R)
  radiativeQ : Option (List R → R → H → List R × List R)
  radiativeQPolar : Option (List R → R → H → List (Stokes R))
  emissionVector_length : ∀ f ∈ emissionVector, ∀ nu dsem h, (f nu dsem h).length = nu.length
  radiativeQ_length : ∀ f ∈ radiativeQ, ∀ nu dsem h,
    (f nu dsem h).1.length = nu.length ∧ (f nu dsem h).2.length = nu.length
  radiativeQPolar_length : ∀ f ∈ radiativeQPolar, ∀ nu dsem h, (f nu dsem h).length = nu.length

namespace Overrides

/-- `Generic` itself: nothing overridden. -/
def generic {R H : Type} : Overrides R H where
  emission := none
  emissionVector := none
  transmission := none
  radiativeQ := none
  radiativeQPolar := none
  emissionVector_length := by simp
  radiativeQ_length := by simp
  radiativeQPolar_length := by simp

/-- A bit of the mask is set only for a primitive that `o` does not override. -/
def Admissible {R H : Type} (o : Overrides R H) (m : DefaultFeatures) : Prop :=
  (m.radiativeQPolar = true → o.radiativeQPolar = none) ∧
    (m.radiativeQ = true → o.radiativeQ = none) ∧
    (m.emissionVector = true → o.emissionVector = none)

theorem admissible_zero {R H : Type} (o : Overrides R H) : o.Admissible 0 := by
  simp [Admissible, (rfl : (0 : DefaultFeatures) = ⟨false, false, false⟩)]

end Overrides

end Gyoto.Astrobj

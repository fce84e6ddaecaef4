import Mathlib

/-!
# `Gyoto::convert`

`convert(x, nelem, mass_sun, distance_kpc, unit)` converts the first `nelem` lengths of `x`,
given in geometrical units (`G M / c²` for a mass of `mass_sun` suns), to `unit`. It multiplies
each by one factor `fact`: the geometrical unit in metres, times what a metre is in `unit`, read
off a chain of string comparisons. Angles are seen from `distance_kpc`. `geometrical` returns at
once, and a unit the chain does not know throws `Unknown unit.` before the loop writes anything.

Doubles are exact field elements. The constants of `GyotoUtils.h` that the function reads
(`GYOTO_KPC`, `GYOTO_SUN_MASS`, `GYOTO_G_OVER_C_SQUARE`, `GYOTO_SUN_RADIUS`, `M_PI`) are not in
the source: they are the fields of `Constants`.

* `Constants`, `unitFact`, `scaleLoop`, `convert`: the code;
* `getElem?_scaleLoop`, `scaleLoop_eq`: the loop multiplies the entries it passes, and only
  those;
* **`convert_scales`**: `convert` throws exactly for the units outside `lengthUnits`, and
  otherwise multiplies the first `nelem` entries by one factor and leaves the others.
-/

namespace Gyoto

variable {𝕜 : Type} [Field 𝕜]

/-- The constants of `GyotoUtils.h` that `convert` reads. -/
structure Constants (𝕜 : Type) where
  /-- `GYOTO_KPC`, a kiloparsec in metres. -/
  kpc : 𝕜
  /-- `GYOTO_SUN_MASS`, in kilograms. -/
  sunMass : 𝕜
  /-- `GYOTO_G_OVER_C_SQUARE`, in metres per kilogram. -/
  gOverCSquare : 𝕜
  /-- `GYOTO_SUN_RADIUS`, in metres. -/
  sunRadius : 𝕜
  /-- `M_PI`. -/
  pi : 𝕜

variable (C : Constants 𝕜)

/-- The chain `if (!unit.compare("m")) ; else if (!unit.compare("km")) fact *= 1e-3; ...` of
`Gyoto::convert`, after `geometrical`: what `fact` becomes, `none` where it throws. -/
def unitFact (distance fact : 𝕜) (unit : String) : Option 𝕜 :=
  if unit = "m" then some fact
  else if unit = "km" then some (fact * 1e-3)
  else if unit = "sun radius" then some (fact * (1.0 / C.sunRadius))
  else if unit = "rad" then some (fact * (1.0 / distance))
  else if unit = "degree" then some (fact * (180.0 / (distance * C.pi)))
  else if unit = "arcmin" then some (fact * (1.08e4 / (distance * C.pi)))
  else if unit = "arcsec" then some (fact * (6.48e5 / (distance * C.pi)))
  else if unit = "mas" then some (fact * (6.48e8 / (distance * C.pi)))
  else if unit = "uas" then some (fact * (6.48e11 / (distance * C.pi)))
  else none

/-- `for (i=0; i<nelem; ++i) x[i] *= fact;`: `n` passes from `i`. -/
def scaleLoop (fact : 𝕜) : Nat → Nat → List 𝕜 → List 𝕜
  | 0, _, x => x
  | n + 1, i, x => scaleLoop fact n (i + 1) (x.modify (· * fact) i)

/-- `Gyoto::convert(x, nelem, mass_sun, distance_kpc, unit)`: the array `x` after the call,
`.error` where it throws. -/
def convert (x : List 𝕜) (nelem : Nat) (massSun distanceKpc : 𝕜) (unit : String) :
    Except String (List 𝕜) :=
  let distance := distanceKpc * C.kpc
  let fact := massSun * C.sunMass * C.gOverCSquare
  if unit = "geometrical" then .ok x
  else
    match unitFact C distance fact unit with
    | some fact => .ok (scaleLoop fact nelem 0 x)
    | none => .error "Unknown unit."

/-- The units `convert` knows. -/
def lengthUnits : List String :=
  ["geometrical", "m", "km", "sun radius", "rad", "degree", "arcmin", "arcsec", "mas", "uas"]

/-! ## The loop -/

theorem getElem?_scaleLoop (fact : 𝕜) (n i : Nat) (x : List 𝕜) (j : Nat) :
    (scaleLoop fact n i x)[j]? = if i ≤ j ∧ j < i + n then x[j]?.map (· * fact) else x[j]? := by
  induction n generalizing i x with
  | zero => rw [if_neg (by omega)]; rfl
  | succ n ih =>
    rw [scaleLoop, ih, List.getElem?_modify]
    by_cases hij : i = j
    · subst hij
      rw [if_neg (by omega), if_pos ⟨le_refl _, by omega⟩]
      cases x[i]? <;> simp
    · have hmap : ((fun a => if i = j then a * fact else a) <$> x[j]?) = x[j]? := by
        cases x[j]? <;> simp [hij]
      rw [hmap]
      split_ifs <;> first | rfl | omega

theorem scaleLoop_eq (fact : 𝕜) (nelem : Nat) (x : List 𝕜) :
    scaleLoop fact nelem 0 x = (x.take nelem).map (· * fact) ++ x.drop nelem := by
  refine List.ext_getElem? fun j => ?_
  rw [getElem?_scaleLoop, Nat.zero_add]
  by_cases hj : j < nelem
  · rw [if_pos ⟨Nat.zero_le _, hj⟩]
    by_cases hx : j < x.length
    · rw [List.getElem?_append_left (by simp; omega), List.getElem?_map, List.getElem?_take,
        if_pos hj]
    · rw [List.getElem?_eq_none (by omega), List.getElem?_eq_none (by simp; omega)]; rfl
  · rw [if_neg (by omega), List.getElem?_append_right (by simp; omega), List.getElem?_drop]
    by_cases hx : nelem ≤ x.length
    · congr 1
      simp only [List.length_map, List.length_take]
      omega
    · rw [List.getElem?_eq_none (by omega), List.getElem?_eq_none (by simp; omega)]

/-! ## The units -/

theorem unitFact_eq_none_iff (distance fact : 𝕜) (unit : String) :
    unitFact C distance fact unit = none ↔ unit ∉ lengthUnits.tail := by
  simp only [lengthUnits, List.tail_cons, List.mem_cons, List.mem_nil_iff, or_false, not_or]
  constructor
  · intro h
    refine ⟨?_, ?_, ?_, ?_, ?_, ?_, ?_, ?_, ?_⟩ <;> rintro rfl <;>
      simp only [unitFact, String.reduceEq, ↓reduceIte, reduceCtorEq] at h
  · rintro ⟨h1, h2, h3, h4, h5, h6, h7, h8, h9⟩
    simp only [unitFact, h1, h2, h3, h4, h5, h6, h7, h8, h9, ↓reduceIte]

/-- **`convert` scales by one factor or throws `Unknown unit.`**: for every array, count, mass,
distance and unit, it throws exactly when the unit is not one of `lengthUnits`, and otherwise
multiplies the first `nelem` entries by one factor and leaves the others as they were. -/
theorem convert_scales (x : List 𝕜) (nelem : Nat) (massSun distanceKpc : 𝕜) (unit : String) :
    (convert C x nelem massSun distanceKpc unit = .error "Unknown unit." ↔ unit ∉ lengthUnits) ∧
      (unit ∈ lengthUnits → ∃ f, convert C x nelem massSun distanceKpc unit =
        .ok ((x.take nelem).map (· * f) ++ x.drop nelem)) := by
  have hunits : unit ∈ lengthUnits ↔ unit = "geometrical" ∨ unit ∈ lengthUnits.tail :=
    List.mem_cons
  by_cases hg : unit = "geometrical"
  · subst hg
    exact ⟨iff_of_false (by simp [convert]) (by simp [lengthUnits]), fun _ => ⟨1, by simp [convert]⟩⟩
  · have hiff := unitFact_eq_none_iff C (distanceKpc * C.kpc)
      (massSun * C.sunMass * C.gOverCSquare) unit
    simp only [convert, if_neg hg, hunits, hg, false_or]
    cases h : unitFact C (distanceKpc * C.kpc) (massSun * C.sunMass * C.gOverCSquare) unit with
    | none => exact ⟨iff_of_true rfl (hiff.1 h), fun hm => absurd hm (hiff.1 h)⟩
    | some f =>
      exact ⟨iff_of_false nofun (fun hn => nomatch h.symm.trans (hiff.2 hn)),
        fun _ => ⟨f, congrArg Except.ok (scaleLoop_eq f nelem x)⟩⟩

end Gyoto

import Gyoto.Astrobj.Features

/-!
# The default bodies of the radiative primitives

`Generic::emission` (scalar and vector), `Generic::transmission` and both
`Generic::radiativeQ` call one another until they reach a primitive the concrete type
overrides, setting their own bit of `__defaultfeatures` first so that the search stops.
The five bodies are one mutual recursion over a depth budget: each nested call spends one
unit, the calls of a loop share the budget of their caller, and a call with no budget left
fails (`none`). The mask is passed into every call and returned with its result, in the order
of the source.

* `forEach`: a loop over the frequencies whose body calls the object;
* `emission`, `emissionVector`, `transmission`, `radiativeQ`, `radiativeQPolar`;
* `Stokes.unpolarized`: the entry the default polarized body derives from an unpolarized one.
-/

namespace Gyoto.Astrobj

variable {R H : Type} [Zero R] [One R] [Neg R] [LT R] [DecidableRel (· < · : R → R → Prop)]
  [OfScientific R]

/-- The entry of the default polarized `radiativeQ` at one frequency: no polarization, and an
absorption read off the unpolarized transmission `Taunu`. -/
def Stokes.unpolarized (L : Libm R) (Inu Taunu : R) : Stokes R where
  Inu := Inu
  Qnu := 0
  Unu := 0
  Vnu := 0
  alphaInu := if Taunu < 0.1 then -L.infinity else -L.log Taunu
  alphaQnu := 0
  alphaUnu := 0
  alphaVnu := 0
  rQnu := 0
  rUnu := 0
  rVnu := 0

/-- A `for (size_t i = 0; i < nbnu; ++i)` loop whose body calls the object: the mask is threaded
through the calls in order, and the loop fails if one call does. -/
def forEach {α β : Type} (f : α → DefaultFeatures → Option (β × DefaultFeatures)) :
    List α → DefaultFeatures → Option (List β × DefaultFeatures)
  | [], m => some ([], m)
  | a :: as, m => (f a m).bind fun (b, m) => (forEach f as m).map fun (bs, m) => (b :: bs, m)

variable (L : Libm R) (o : Overrides R H) (thin : Bool)

mutual

/-- `Generic::emission(double nuem, double dsem, cph, co)`; `thin` is `flag_radtransf_`. -/
def emission : Nat → R → R → H → DefaultFeatures → Option (R × DefaultFeatures)
  | 0, _, _, _, _ => none
  | n + 1, nuem, dsem, h, m =>
    match o.emission with
    | some f => some (f nuem dsem h, m)
    | none =>
      if !m.emissionVector then
        (emissionVector n [nuem] dsem h m).map fun (Inu, m) => (Inu.headD 0, m)
      else if !m.radiativeQ || !m.radiativeQPolar then
        (radiativeQ n [nuem] dsem h m).map fun ((Inu, _), m) => (Inu.headD 0, m)
      else
        some (if thin then dsem else 1, m)

/-- `Generic::emission(double * Inu, double const * nuem, size_t nbnu, dsem, cph, co)`. -/
def emissionVector : Nat → List R → R → H → DefaultFeatures → Option (List R × DefaultFeatures)
  | 0, _, _, _, _ => none
  | n + 1, nuem, dsem, h, m =>
    match o.emissionVector with
    | some f => some (f nuem dsem h, m)
    | none =>
      let m := m.setEmissionVector
      if !m.radiativeQ then
        (radiativeQ n nuem dsem h m).map fun ((Inu, _), m) => (Inu, m)
      else if !m.radiativeQPolar then
        (radiativeQPolar n nuem dsem h m).map fun (s, m) => (s.map Stokes.Inu, m)
      else
        forEach (fun nu => emission n nu dsem h) nuem m

/-- `Generic::transmission(double nuem, double dsem, coord_ph, coord_obj)`. -/
def transmission : Nat → R → R → H → DefaultFeatures → Option (R × DefaultFeatures)
  | 0, _, _, _, _ => none
  | n + 1, nuem, dsem, h, m =>
    match o.transmission with
    | some f => some (f nuem dsem h, m)
    | none =>
      if !m.radiativeQ || !m.radiativeQPolar then
        (radiativeQ n [nuem] dsem h m).map fun ((_, Taunu), m) => (Taunu.headD 0, m)
      else
        some (if thin then 1 else 0, m)

/-- The unpolarized `Generic::radiativeQ(Inu, Taunu, nuem, nbnu, dsem, cph, co)`. -/
def radiativeQ :
    Nat → List R → R → H → DefaultFeatures → Option ((List R × List R) × DefaultFeatures)
  | 0, _, _, _, _ => none
  | n + 1, nuem, dsem, h, m =>
    match o.radiativeQ with
    | some f => some (f nuem dsem h, m)
    | none =>
      let m := m.setRadiativeQ
      if !m.radiativeQPolar then
        (radiativeQPolar n nuem dsem h m).bind fun (s, m) =>
          if !m.radiativeQPolar then
            some ((s.map Stokes.Inu, s.map fun x => L.exp (-x.alphaInu)), m)
          else
            (forEach (fun nu => transmission n nu dsem h) nuem m).map fun (Taunu, m) =>
              ((s.map Stokes.Inu, Taunu), m)
      else
        (emissionVector n nuem dsem h m).bind fun (Inu, m) =>
          (forEach (fun nu => transmission n nu dsem h) nuem m).map fun (Taunu, m) =>
            ((Inu, Taunu), m)

/-- The polarized `Generic::radiativeQ(Inu, Qnu, ..., rVnu, nuem, nbnu, dsem, cph, co)`. -/
def radiativeQPolar :
    Nat → List R → R → H → DefaultFeatures → Option (List (Stokes R) × DefaultFeatures)
  | 0, _, _, _, _ => none
  | n + 1, nuem, dsem, h, m =>
    match o.radiativeQPolar with
    | some f => some (f nuem dsem h, m)
    | none =>
      (radiativeQ n nuem dsem h m.setRadiativeQPolar).map fun ((Inu, Taunu), m) =>
        (List.zipWith (Stokes.unpolarized L) Inu Taunu, m)

end

end Gyoto.Astrobj

import Gyoto.Astrobj.Refinement

/-!
# Calls on an object over its lifetime

The object as its callers see it: a call on one of the five primitives, and the history of calls
it has served since construction, which sets `__defaultfeatures` to `0`. The copy constructor
`Generic(const Generic&)` copies `__defaultfeatures`, so a copy carries on its original's
history.

* `Call`, `Answer`, `Call.run`, `Call.resolved`, `Call.history`;
* **`default_bodies_terminate`**: every call returns within depth 7, from every mask;
* **`results_independent_of_history`**: from an admissible mask every call returns the abstract
  answer and leaves an admissible mask, so no history changes what a call returns.
-/

set_option linter.unusedSectionVars false

namespace Gyoto.Astrobj

variable {R H : Type} [Zero R] [One R] [Neg R] [LT R] [DecidableRel (· < · : R → R → Prop)]
  [OfScientific R]

/-- A call on one of the five radiative primitives, with its inputs. -/
inductive Call (R H : Type) where
  | emission (nu dsem : R) (h : H)
  | emissionVector (nuem : List R) (dsem : R) (h : H)
  | transmission (nu dsem : R) (h : H)
  | radiativeQ (nuem : List R) (dsem : R) (h : H)
  | radiativeQPolar (nuem : List R) (dsem : R) (h : H)

/-- What a call hands back to its caller. -/
inductive Answer (R : Type) where
  | scalar (x : R)
  | vector (Inu : List R)
  | unpolarized (Inu Taunu : List R)
  | polarized (s : List (Stokes R))

namespace Call

variable (L : Libm R) (o : Overrides R H) (thin : Bool)

/-- The call made with depth budget `n` from mask `m`. -/
def run (n : Nat) : Call R H → DefaultFeatures → Option (Answer R × DefaultFeatures)
  | emission nu dsem h, m => (Astrobj.emission L o thin n nu dsem h m).map (Prod.map .scalar id)
  | emissionVector nuem dsem h, m =>
    (Astrobj.emissionVector L o thin n nuem dsem h m).map (Prod.map .vector id)
  | transmission nu dsem h, m =>
    (Astrobj.transmission L o thin n nu dsem h m).map (Prod.map .scalar id)
  | radiativeQ nuem dsem h, m =>
    (Astrobj.radiativeQ L o thin n nuem dsem h m).map (Prod.map (fun r => .unpolarized r.1 r.2) id)
  | radiativeQPolar nuem dsem h, m =>
    (Astrobj.radiativeQPolar L o thin n nuem dsem h m).map (Prod.map .polarized id)

/-- The answer of the abstract model. -/
def resolved : Call R H → Answer R
  | emission nu dsem h => .scalar (Resolved.emission L o thin nu dsem h)
  | emissionVector nuem dsem h => .vector (Resolved.emissionVector L o thin nuem dsem h)
  | transmission nu dsem h => .scalar (Resolved.transmission L o thin nu dsem h)
  | radiativeQ nuem dsem h =>
    .unpolarized (Resolved.radiativeQ L o thin nuem dsem h).1 (Resolved.radiativeQ L o thin nuem dsem h).2
  | radiativeQPolar nuem dsem h => .polarized (Resolved.radiativeQPolar L o thin nuem dsem h)

/-- The mask after the calls `hs`, made in order from `m`, each with the budget 7. -/
def history (hs : List (Call R H)) (m : DefaultFeatures) : Option DefaultFeatures :=
  hs.foldlM (fun m c => (c.run L o thin 7 m).map Prod.snd) m

end Call

theorem Resolves.map_fst {α β : Type} {o : Overrides R H} {x : Option (α × DefaultFeatures)}
    {m : DefaultFeatures} {v : α} (g : α → β) (hx : Resolves o x m v) :
    Resolves o (x.map (Prod.map g id)) m (g v) := by
  obtain ⟨a, m', rfl, ha⟩ := hx
  exact ⟨g a, m', rfl, fun hm => ⟨by rw [(ha hm).1], (ha hm).2⟩⟩

variable (L : Libm R) (o : Overrides R H) (thin : Bool)

theorem Call.resolves (c : Call R H) {n : Nat} (hn : 7 ≤ n) (m : DefaultFeatures) :
    Resolves o (c.run L o thin n m) m (c.resolved L o thin) := by
  obtain ⟨hE, hV, hT, hQ, hP⟩ := resolves_of_budget L o thin n
  cases c with
  | emission nu dsem h =>
    exact (hE nu dsem h m (Nat.le_trans DefaultFeatures.needEmission_le_seven hn)).map_fst _
  | emissionVector nuem dsem h =>
    exact (hV nuem dsem h m (by have := @DefaultFeatures.needEmissionVector_le_six m; omega)).map_fst _
  | transmission nu dsem h =>
    exact (hT nu dsem h m (by have := @DefaultFeatures.needTransmission_le_six m; omega)).map_fst _
  | radiativeQ nuem dsem h =>
    exact (hQ nuem dsem h m (by have := @DefaultFeatures.needRadiativeQ_le_five m; omega)).map_fst _
  | radiativeQPolar nuem dsem h => exact (hP nuem dsem h m (by omega)).map_fst _

/-- **The mutual recursion of the default bodies ends within depth 7**: for every set of leaf
overrides, from every mask, every call returns with the budget 7, whatever the number and the
values of the frequencies. -/
theorem default_bodies_terminate (m : DefaultFeatures) (c : Call R H) : (c.run L o thin 7 m).isSome := by
  obtain ⟨a, m', h, -⟩ := c.resolves L o thin (Nat.le_refl 7) m
  simp [h]

theorem history_admissible (hs : List (Call R H)) {m : DefaultFeatures} (hm : o.Admissible m) :
    ∃ m', Call.history L o thin hs m = some m' ∧ o.Admissible m' := by
  induction hs generalizing m with
  | nil => exact ⟨m, rfl, hm⟩
  | cons c hs ih =>
    obtain ⟨a, m₁, h₁, ha⟩ := c.resolves L o thin (Nat.le_refl 7) m
    obtain ⟨m', h', hm'⟩ := ih (ha hm).2
    exact ⟨m', by simp [Call.history, List.foldlM, h₁] at h' ⊢; exact h', hm'⟩

/-- **The results of the primitives do not depend on the mask**: from every admissible mask (a
bit set only for a primitive that is not overridden) every call, with any budget from 7 on,
returns the abstract answer and leaves an admissible mask; so after any history of calls on a
fresh object (or on the object it was copied from) a call returns the same answer. -/
theorem results_independent_of_history (c : Call R H) :
    (∀ n, 7 ≤ n → ∀ m, o.Admissible m →
      ∃ m', c.run L o thin n m = some (c.resolved L o thin, m') ∧ o.Admissible m') ∧
    ∀ hs : List (Call R H), ∃ m, Call.history L o thin hs 0 = some m ∧
      (c.run L o thin 7 m).map Prod.fst = some (c.resolved L o thin) := by
  refine ⟨fun n hn m hm => ?_, fun hs => ?_⟩
  · obtain ⟨a, m', h, ha⟩ := c.resolves L o thin hn m
    obtain ⟨rfl, hm'⟩ := ha hm
    exact ⟨m', h, hm'⟩
  · obtain ⟨m, h, hm⟩ := history_admissible L o thin hs o.admissible_zero
    obtain ⟨a, m', h', ha⟩ := c.resolves L o thin (Nat.le_refl 7) m
    exact ⟨m, h, by simp [h', (ha hm).1]⟩

end Gyoto.Astrobj

import Gyoto.Astrobj.Resolved

/-!
# Depth budgets, and the mask only grows

* `Grows`, `grows_dispatch`: a call that returns leaves a mask with at least the bits it started
  from: a bit of `__defaultfeatures` is set, never cleared;
* `radiativeQPolar_sets_bit`: the default polarized body leaves its own bit set;
* `DefaultFeatures.needEmission`, ..., `DefaultFeatures.needRadiativeQ`: the depth budget each
  primitive needs from a given mask, at most 7.
-/

set_option linter.unusedSectionVars false

namespace Gyoto.Astrobj

open DefaultFeatures

variable {R H : Type} [Zero R] [One R] [Neg R] [LT R] [DecidableRel (· < · : R → R → Prop)]
  [OfScientific R]

/-- A call made from `m` that returns leaves a mask with at least the bits of `m`. -/
def Grows {α : Type} (x : Option (α × DefaultFeatures)) (m : DefaultFeatures) : Prop :=
  ∀ a m', x = some (a, m') → m ≤ m'

theorem grows_some {α : Type} {a : α} {m m' : DefaultFeatures} (h : m ≤ m') : Grows (some (a, m')) m := by
  rintro _ _ ⟨⟩; exact h

theorem Grows.map {α β : Type} {x : Option (α × DefaultFeatures)} {m : DefaultFeatures}
    (hx : Grows x m) (g : α × DefaultFeatures → β × DefaultFeatures) (hg : ∀ p, (g p).2 = p.2) :
    Grows (x.map g) m := by
  intro b m' h
  obtain ⟨⟨a, m''⟩, h1, h2⟩ := Option.map_eq_some'.1 h
  have := hg (a, m''); rw [h2] at this; subst this
  exact hx _ _ h1

theorem Grows.bind {α β : Type} {x : Option (α × DefaultFeatures)} {m : DefaultFeatures}
    {g : α × DefaultFeatures → Option (β × DefaultFeatures)} (hx : Grows x m)
    (hg : ∀ a m', m ≤ m' → Grows (g (a, m')) m') : Grows (x.bind g) m := by
  intro b m' h
  obtain ⟨⟨a, m''⟩, h1, h2⟩ := Option.bind_eq_some.1 h
  exact le_trans (hx _ _ h1) (hg a m'' (hx _ _ h1) _ _ h2)

theorem Grows.of_le {α : Type} {x : Option (α × DefaultFeatures)} {m m₁ : DefaultFeatures}
    (hx : Grows x m₁) (h : m ≤ m₁) : Grows x m := fun a m' hx' => le_trans h (hx a m' hx')

theorem grows_forEach {α β : Type} {f : α → DefaultFeatures → Option (β × DefaultFeatures)}
    (hf : ∀ a m, Grows (f a m) m) (l : List α) (m : DefaultFeatures) : Grows (forEach f l m) m := by
  induction l generalizing m with
  | nil => exact grows_some le_rfl
  | cons a as ih =>
    exact (hf a m).bind fun b m' _ => ((ih m').map _ fun _ => rfl)

variable (L : Libm R) (o : Overrides R H) (thin : Bool)

/-- **Bits are set, never cleared**: every call that returns leaves a larger mask. -/
theorem grows_dispatch (n : Nat) :
    (∀ nu dsem h m, Grows (emission L o thin n nu dsem h m) m) ∧
    (∀ nuem dsem h m, Grows (emissionVector L o thin n nuem dsem h m) m) ∧
    (∀ nu dsem h m, Grows (transmission L o thin n nu dsem h m) m) ∧
    (∀ nuem dsem h m, Grows (radiativeQ L o thin n nuem dsem h m) m) ∧
    (∀ nuem dsem h m, Grows (radiativeQPolar L o thin n nuem dsem h m) m) := by
  induction n with
  | zero => refine ⟨?_, ?_, ?_, ?_, ?_⟩ <;> intros <;> rintro _ _ ⟨⟩
  | succ n ih =>
    obtain ⟨hE, hV, hT, hQ, hP⟩ := ih
    refine ⟨fun nu dsem h m => ?_, fun nuem dsem h m => ?_, fun nu dsem h m => ?_,
      fun nuem dsem h m => ?_, fun nuem dsem h m => ?_⟩
    · unfold emission
      split
      · exact grows_some le_rfl
      · split_ifs
        · exact (hV _ _ _ _).map _ fun _ => rfl
        · exact (hQ _ _ _ _).map _ fun _ => rfl
        all_goals exact grows_some le_rfl
    · unfold emissionVector
      split
      · exact grows_some le_rfl
      · refine Grows.of_le ?_ (le_setEmissionVector m)
        dsimp only
        split_ifs
        · exact (hQ _ _ _ _).map _ fun _ => rfl
        · exact (hP _ _ _ _).map _ fun _ => rfl
        · exact grows_forEach (fun nu m => hE nu dsem h m) _ _
    · unfold transmission
      split
      · exact grows_some le_rfl
      · split_ifs
        · exact (hQ _ _ _ _).map _ fun _ => rfl
        all_goals exact grows_some le_rfl
    · unfold radiativeQ
      split
      · exact grows_some le_rfl
      · refine Grows.of_le ?_ (le_setRadiativeQ m)
        dsimp only
        split_ifs
        · refine (hP _ _ _ _).bind fun s m' _ => ?_
          split_ifs
          · exact grows_some le_rfl
          · exact (grows_forEach (fun nu m => hT nu dsem h m) _ _).map _ fun _ => rfl
        · exact (hV _ _ _ _).bind fun _ m' _ =>
            (grows_forEach (fun nu m => hT nu dsem h m) _ _).map _ fun _ => rfl
    · unfold radiativeQPolar
      split
      · exact grows_some le_rfl
      · exact Grows.of_le ((hQ _ _ _ _).map _ fun _ => rfl) (le_setRadiativeQPolar m)

variable {L o thin} in
theorem radiativeQPolar_sets_bit (hf : o.radiativeQPolar = none) {nuem : List R} {dsem : R} {h : H}
    {n : Nat} {m m' : DefaultFeatures} {s : List (Stokes R)}
    (hx : radiativeQPolar L o thin n nuem dsem h m = some (s, m')) : m'.radiativeQPolar = true := by
  cases n with
  | zero => simp [radiativeQPolar] at hx
  | succ k =>
    simp only [radiativeQPolar, hf] at hx
    obtain ⟨⟨_, m''⟩, h₁, h₂⟩ := Option.map_eq_some'.1 hx
    cases h₂
    exact radiativeQPolar_mono ((grows_dispatch L o thin k).2.2.2.1 _ _ _ _ _ _ h₁) rfl

/-! ## Depth budgets

A nested call spends one unit of budget. From a mask, each primitive needs the budget below (the
polarized `radiativeQ` needs 4 from every mask); from the empty mask, scalar `emission` needs all
7: `emission`, `emission(double*)`, `radiativeQ`, polarized `radiativeQ`, `radiativeQ`,
`emission(double*)`, `emission`. -/

namespace DefaultFeatures

/-- The depth budget scalar `emission` needs from mask `m`. -/
def needEmission (m : DefaultFeatures) : Nat :=
  if m.radiativeQPolar ∧ m.radiativeQ ∧ m.emissionVector then 1 else 7

/-- The depth budget vector `emission` needs from mask `m`. -/
def needEmissionVector (m : DefaultFeatures) : Nat :=
  if m.radiativeQPolar ∧ m.radiativeQ then 2 else 6

/-- The depth budget `transmission` needs from mask `m`. -/
def needTransmission (m : DefaultFeatures) : Nat :=
  if m.radiativeQPolar ∧ m.radiativeQ then 1 else 6

/-- The depth budget the unpolarized `radiativeQ` needs from mask `m`. -/
def needRadiativeQ (m : DefaultFeatures) : Nat :=
  if m.radiativeQPolar then 3 else 5

variable {m : DefaultFeatures}

theorem needEmission_eq_seven
    (h : m.radiativeQPolar = false ∨ m.radiativeQ = false ∨ m.emissionVector = false) :
    m.needEmission = 7 := by
  unfold needEmission; rcases h with h | h | h <;> simp [h]

theorem needEmission_eq_one (hp : m.radiativeQPolar = true) (hq : m.radiativeQ = true)
    (hv : m.emissionVector = true) : m.needEmission = 1 := by
  simp [needEmission, hp, hq, hv]

theorem needEmissionVector_eq_six (h : m.radiativeQPolar = false ∨ m.radiativeQ = false) :
    m.needEmissionVector = 6 := by
  unfold needEmissionVector; rcases h with h | h <;> simp [h]

theorem needEmissionVector_eq_two (hp : m.radiativeQPolar = true) (hq : m.radiativeQ = true) :
    m.needEmissionVector = 2 := by
  simp [needEmissionVector, hp, hq]

theorem needTransmission_eq_six (h : m.radiativeQPolar = false ∨ m.radiativeQ = false) :
    m.needTransmission = 6 := by
  unfold needTransmission; rcases h with h | h <;> simp [h]

theorem needTransmission_eq_one (hp : m.radiativeQPolar = true) (hq : m.radiativeQ = true) :
    m.needTransmission = 1 := by
  simp [needTransmission, hp, hq]

theorem needRadiativeQ_eq_five (h : m.radiativeQPolar = false) : m.needRadiativeQ = 5 := by
  simp [needRadiativeQ, h]

theorem needRadiativeQ_eq_three (h : m.radiativeQPolar = true) : m.needRadiativeQ = 3 := by
  simp [needRadiativeQ, h]

theorem one_le_needEmission : 1 ≤ m.needEmission := by
  unfold needEmission; split_ifs <;> omega

theorem one_le_needTransmission : 1 ≤ m.needTransmission := by
  unfold needTransmission; split_ifs <;> omega

theorem needEmission_le_seven : m.needEmission ≤ 7 := by
  unfold needEmission; split_ifs <;> omega

theorem needTransmission_le_six : m.needTransmission ≤ 6 := by
  unfold needTransmission; split_ifs <;> omega

theorem needEmissionVector_le_six : m.needEmissionVector ≤ 6 := by
  unfold needEmissionVector; split_ifs <;> omega

theorem two_le_needEmissionVector : 2 ≤ m.needEmissionVector := by
  unfold needEmissionVector; split_ifs <;> omega

theorem needRadiativeQ_le_five : m.needRadiativeQ ≤ 5 := by
  unfold needRadiativeQ; split_ifs <;> omega

theorem three_le_needRadiativeQ : 3 ≤ m.needRadiativeQ := by
  unfold needRadiativeQ; split_ifs <;> omega

end DefaultFeatures

end Gyoto.Astrobj

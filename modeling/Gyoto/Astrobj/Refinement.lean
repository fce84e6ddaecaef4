import Gyoto.Astrobj.Budget

/-!
# The default bodies refine the abstract model

* `Resolves o x m v`: the call `x`, made from mask `m`, returns, and from a mask admissible for
  `o` it returns `v` and leaves an admissible mask;
* one step lemma per primitive (`emissionResolves_succ`, ..., `radiativeQPolarResolves_succ`):
  what the primitive resolves to with budget `n + 1`, from what the primitives it calls resolve to
  with budget `n`;
* **`resolves_of_budget`**: every call with the budget its mask needs returns, and from an
  admissible mask it returns what the abstract model (`Resolved`) says.
-/

set_option linter.unusedSectionVars false

namespace Gyoto.Astrobj

open DefaultFeatures

variable {R H : Type} [Zero R] [One R] [Neg R] [LT R] [DecidableRel (· < · : R → R → Prop)]
  [OfScientific R]

/-- The call made from `m` returns; from a mask admissible for `o` it returns `v` and leaves an
admissible mask. -/
def Resolves {α : Type} (o : Overrides R H) (x : Option (α × DefaultFeatures))
    (m : DefaultFeatures) (v : α) : Prop :=
  ∃ a m', x = some (a, m') ∧ (o.Admissible m → a = v ∧ o.Admissible m')

theorem resolves_some {α : Type} {o : Overrides R H} {a v : α} {m m' : DefaultFeatures}
    (h : o.Admissible m → a = v ∧ o.Admissible m') : Resolves o (some (a, m')) m v :=
  ⟨a, m', rfl, h⟩

theorem Resolves.weaken {α : Type} {o : Overrides R H} {x : Option (α × DefaultFeatures)}
    {m m₁ : DefaultFeatures} {v w : α} (hx : Resolves o x m₁ v)
    (h : o.Admissible m → o.Admissible m₁ ∧ v = w) : Resolves o x m w := by
  obtain ⟨a, m', hx, ha⟩ := hx
  exact ⟨a, m', hx, fun hm => by obtain ⟨h₁, rfl⟩ := h hm; exact ha h₁⟩

theorem resolves_forEach {α β : Type} {o : Overrides R H}
    {f : α → DefaultFeatures → Option (β × DefaultFeatures)} {g : α → β}
    (hgrow : ∀ a m, Grows (f a m) m) (l : List α) {m : DefaultFeatures}
    (hf : ∀ a ∈ l, ∀ m', m ≤ m' → Resolves o (f a m') m' (g a)) :
    Resolves o (forEach f l m) m (l.map g) := by
  induction l generalizing m with
  | nil => exact resolves_some fun hm => ⟨rfl, hm⟩
  | cons a as ih =>
    obtain ⟨b, m₁, h₁, hb⟩ := hf a (List.mem_cons_self _ _) m le_rfl
    have hm₁ := hgrow a m _ _ h₁
    obtain ⟨bs, m₂, h₂, hbs⟩ := ih fun a' ha' m' hm' =>
      hf a' (List.mem_cons_of_mem _ ha') m' (le_trans hm₁ hm')
    refine ⟨b :: bs, m₂, by simp [forEach, h₁, h₂], fun hm => ?_⟩
    obtain ⟨rfl, hm₁'⟩ := hb hm
    obtain ⟨rfl, hm₂⟩ := hbs hm₁'
    exact ⟨rfl, hm₂⟩

variable (L : Libm R) (o : Overrides R H) (thin : Bool)

/-- Scalar `emission` with budget `n` resolves from every mask it has the budget for. -/
def EmissionResolves (n : Nat) : Prop :=
  ∀ nu dsem h m, m.needEmission ≤ n →
    Resolves o (emission L o thin n nu dsem h m) m (Resolved.emission L o thin nu dsem h)

/-- Vector `emission` with budget `n` resolves from every mask it has the budget for. -/
def EmissionVectorResolves (n : Nat) : Prop :=
  ∀ nuem dsem h m, m.needEmissionVector ≤ n →
    Resolves o (emissionVector L o thin n nuem dsem h m) m (Resolved.emissionVector L o thin nuem dsem h)

/-- `transmission` with budget `n` resolves from every mask it has the budget for. -/
def TransmissionResolves (n : Nat) : Prop :=
  ∀ nu dsem h m, m.needTransmission ≤ n →
    Resolves o (transmission L o thin n nu dsem h m) m (Resolved.transmission L o thin nu dsem h)

/-- The unpolarized `radiativeQ` with budget `n` resolves from every mask it has the budget for. -/
def RadiativeQResolves (n : Nat) : Prop :=
  ∀ nuem dsem h m, m.needRadiativeQ ≤ n →
    Resolves o (radiativeQ L o thin n nuem dsem h m) m (Resolved.radiativeQ L o thin nuem dsem h)

/-- The polarized `radiativeQ` with budget `n ≥ 4` resolves from every mask. -/
def RadiativeQPolarResolves (n : Nat) : Prop :=
  ∀ nuem dsem h m, 4 ≤ n →
    Resolves o (radiativeQPolar L o thin n nuem dsem h m) m (Resolved.radiativeQPolar L o thin nuem dsem h)

variable {L o thin} {n : Nat}

theorem emissionResolves_succ (hV : EmissionVectorResolves L o thin n)
    (hQ : RadiativeQResolves L o thin n) : EmissionResolves L o thin (n + 1) := by
  intro nu dsem h m hn
  unfold emission
  split
  · rename_i f hf
    exact resolves_some fun hm => ⟨by simp [Resolved.emission, hf], hm⟩
  rename_i hf
  split_ifs with hv hqp
  · simp only [Bool.not_eq_true'] at hv
    rw [needEmission_eq_seven (.inr (.inr hv))] at hn
    obtain ⟨a, m', hx, ha⟩ := hV [nu] dsem h m (by have := @needEmissionVector_le_six m; omega)
    rw [hx]
    exact resolves_some fun hm => ⟨by rw [(ha hm).1]; simp [Resolved.emission, hf], (ha hm).2⟩
  · simp only [Bool.not_eq_true', Bool.not_eq_false, Bool.or_eq_true] at hv hqp
    rw [needEmission_eq_seven (hqp.elim (fun h => .inr (.inl h)) .inl)] at hn
    obtain ⟨a, m', hx, ha⟩ := hQ [nu] dsem h m (by have := @needRadiativeQ_le_five m; omega)
    rw [hx]
    refine resolves_some fun hm => ⟨?_, (ha hm).2⟩
    rw [(ha hm).1]
    simp [Resolved.emission, Resolved.emissionVector, hf, hm.2.2 hv]
  all_goals
    simp only [Bool.not_eq_true', Bool.or_eq_true, not_or, Bool.not_eq_false] at hv hqp
    refine resolves_some fun hm => ⟨?_, hm⟩
    rw [Resolved.emission_of_none (hm.2.1 hqp.1) (hm.1 hqp.2) (hm.2.2 hv)]
    simp [Resolved.emissionBelow, hf, *]

theorem emissionVectorResolves_succ (hE : EmissionResolves L o thin n)
    (hQ : RadiativeQResolves L o thin n) (hP : RadiativeQPolarResolves L o thin n) :
    EmissionVectorResolves L o thin (n + 1) := by
  intro nuem dsem h m hn
  unfold emissionVector
  split
  · rename_i f hf
    exact resolves_some fun hm => ⟨by simp [Resolved.emissionVector, hf], hm⟩
  rename_i hf
  have hadm : o.Admissible m → o.Admissible m.setEmissionVector :=
    fun hm => ⟨hm.1, hm.2.1, fun _ => hf⟩
  dsimp only
  split_ifs with hq hp
  · simp only [Bool.not_eq_true', setEmissionVector_radiativeQ] at hq
    rw [needEmissionVector_eq_six (.inr hq)] at hn
    obtain ⟨a, m', hx, ha⟩ := hQ nuem dsem h m.setEmissionVector
      (by have := @needRadiativeQ_le_five m.setEmissionVector; omega)
    rw [hx]
    exact resolves_some fun hm =>
      ⟨by rw [(ha (hadm hm)).1]; simp [Resolved.emissionVector, hf], (ha (hadm hm)).2⟩
  · simp only [Bool.not_eq_true', Bool.not_eq_false, setEmissionVector_radiativeQ,
      setEmissionVector_radiativeQPolar] at hq hp
    rw [needEmissionVector_eq_six (.inl hp)] at hn
    obtain ⟨s, m', hx, hs⟩ := hP nuem dsem h m.setEmissionVector (by omega)
    rw [hx]
    refine resolves_some fun hm => ⟨?_, (hs (hadm hm)).2⟩
    rw [(hs (hadm hm)).1, Resolved.map_Inu_radiativeQPolar (.inl (hm.2.1 hq))]
    simp [Resolved.emissionVector, hf]
  · simp only [Bool.not_eq_true', Bool.not_eq_false, setEmissionVector_radiativeQ,
      setEmissionVector_radiativeQPolar] at hq hp
    rw [needEmissionVector_eq_two hp hq] at hn
    refine (resolves_forEach (fun nu m => (grows_dispatch L o thin n).1 nu dsem h m) nuem
      fun nu _ m' hm' => (?_ : Resolves o _ m' (Resolved.emission L o thin nu dsem h))).weaken
      fun hm => ⟨hadm hm, ?_⟩
    · have hp' := radiativeQPolar_mono hm' hp
      have hq' := radiativeQ_mono hm' hq
      have hv' := emissionVector_mono hm' (setEmissionVector_emissionVector m)
      exact hE nu dsem h m' (by rw [needEmission_eq_one hp' hq' hv']; omega)
    · rw [Resolved.emissionVector_of_none (hm.2.1 hq) (hm.1 hp)]
      simp [Resolved.emissionVectorBelow, hf,
        Resolved.emission_of_none (hm.2.1 hq) (hm.1 hp) hf]

theorem transmissionResolves_succ (hQ : RadiativeQResolves L o thin n) :
    TransmissionResolves L o thin (n + 1) := by
  intro nu dsem h m hn
  unfold transmission
  split
  · rename_i f hf
    exact resolves_some fun hm => ⟨by simp [Resolved.transmission, hf], hm⟩
  rename_i hf
  split_ifs with hqp
  · simp only [Bool.or_eq_true, Bool.not_eq_true'] at hqp
    rw [needTransmission_eq_six hqp.symm] at hn
    obtain ⟨a, m', hx, ha⟩ := hQ [nu] dsem h m (by have := @needRadiativeQ_le_five m; omega)
    rw [hx]
    exact resolves_some fun hm =>
      ⟨by rw [(ha hm).1]; simp [Resolved.transmission, hf], (ha hm).2⟩
  all_goals
    simp only [Bool.or_eq_true, Bool.not_eq_true', not_or, Bool.not_eq_false] at hqp
    refine resolves_some fun hm => ⟨?_, hm⟩
    rw [Resolved.transmission_of_none (hm.2.1 hqp.1) (hm.1 hqp.2)]
    simp [Resolved.transmissionBelow, hf, *]

theorem radiativeQResolves_succ (hV : EmissionVectorResolves L o thin n)
    (hT : TransmissionResolves L o thin n) (hP : RadiativeQPolarResolves L o thin n) :
    RadiativeQResolves L o thin (n + 1) := by
  intro nuem dsem h m hn
  unfold radiativeQ
  split
  · rename_i f hf
    exact resolves_some fun hm => ⟨by simp [Resolved.radiativeQ, hf], hm⟩
  rename_i hf
  have hadm : o.Admissible m → o.Admissible m.setRadiativeQ :=
    fun hm => ⟨hm.1, fun _ => hf, hm.2.2⟩
  -- the loop of `transmission` calls, once both bits are known
  have hloop : ∀ m₂, m.setRadiativeQ ≤ m₂ → m₂.radiativeQPolar = true →
      Resolves o (forEach (fun nu => transmission L o thin n nu dsem h) nuem m₂) m₂
        (nuem.map fun nu => Resolved.transmission L o thin nu dsem h) := fun m₂ hm₂ hp₂ =>
    resolves_forEach (fun nu m => (grows_dispatch L o thin n).2.2.1 nu dsem h m) nuem
      fun nu _ m' hm' => hT nu dsem h m' (by
        rw [needTransmission_eq_one (radiativeQPolar_mono hm' hp₂)
          (radiativeQ_mono (le_trans hm₂ hm') (setRadiativeQ_radiativeQ m))]
        have := @three_le_needRadiativeQ m; omega)
  dsimp only
  split_ifs with hp
  · simp only [Bool.not_eq_true', setRadiativeQ_radiativeQPolar] at hp
    rw [needRadiativeQ_eq_five hp] at hn
    obtain ⟨s, m₂, hx, hs⟩ := hP nuem dsem h m.setRadiativeQ (by omega)
    have hm₂ := (grows_dispatch L o thin n).2.2.2.2 nuem dsem h _ _ _ hx
    rw [hx, Option.some_bind]
    dsimp only
    split_ifs with hp₂
    · refine resolves_some fun hm => ⟨?_, (hs (hadm hm)).2⟩
      simp only [Bool.not_eq_true'] at hp₂
      cases hg : o.radiativeQPolar with
      | none => simp [radiativeQPolar_sets_bit hg hx] at hp₂
      | some g => simp [(hs (hadm hm)).1, Resolved.radiativeQ, Resolved.radiativeQPolar, hf, hg]
    · simp only [Bool.not_eq_true', Bool.not_eq_false] at hp₂
      obtain ⟨T, m₃, hy, hT'⟩ := hloop m₂ hm₂ hp₂
      rw [hy]
      refine resolves_some fun hm => ?_
      obtain ⟨rfl, hm₂'⟩ := hs (hadm hm)
      obtain ⟨rfl, hm₃⟩ := hT' hm₂'
      refine ⟨?_, hm₃⟩
      have hg := hm₂'.1 hp₂
      rw [Resolved.map_Inu_radiativeQPolar (.inl hf), Resolved.radiativeQ_of_none hf hg]
      simp [Resolved.transmission_of_none hf hg]
  · simp only [Bool.not_eq_true', Bool.not_eq_false, setRadiativeQ_radiativeQPolar] at hp
    rw [needRadiativeQ_eq_three hp] at hn
    obtain ⟨Inu, m₂, hx, hI⟩ := hV nuem dsem h m.setRadiativeQ
      (by rw [needEmissionVector_eq_two (by simpa using hp) (setRadiativeQ_radiativeQ m)]; omega)
    have hm₂ := (grows_dispatch L o thin n).2.1 nuem dsem h _ _ _ hx
    rw [hx, Option.some_bind]
    obtain ⟨T, m₃, hy, hT'⟩ := hloop m₂ hm₂ (radiativeQPolar_mono hm₂ (by simpa using hp))
    rw [hy]
    refine resolves_some fun hm => ?_
    obtain ⟨rfl, hm₂'⟩ := hI (hadm hm)
    obtain ⟨rfl, hm₃⟩ := hT' hm₂'
    refine ⟨?_, hm₃⟩
    have hg := hm.1 hp
    rw [Resolved.emissionVector_of_none hf hg, Resolved.radiativeQ_of_none hf hg]
    simp [Resolved.transmission_of_none hf hg]

theorem radiativeQPolarResolves_succ (hQ : RadiativeQResolves L o thin n) :
    RadiativeQPolarResolves L o thin (n + 1) := by
  intro nuem dsem h m hn
  unfold radiativeQPolar
  split
  · rename_i f hf
    exact resolves_some fun hm => ⟨by simp [Resolved.radiativeQPolar, hf], hm⟩
  rename_i hf
  obtain ⟨⟨Inu, Taunu⟩, m', hx, ha⟩ := hQ nuem dsem h m.setRadiativeQPolar
    (by rw [needRadiativeQ_eq_three (setRadiativeQPolar_radiativeQPolar m)]; omega)
  rw [hx]
  refine resolves_some fun hm => ?_
  obtain ⟨he, hm'⟩ := ha ⟨fun _ => hf, hm.2.1, hm.2.2⟩
  refine ⟨?_, hm'⟩
  simp [Resolved.radiativeQPolar, hf, ← he]

variable (L o thin) in
/-- **Every call with the budget its mask needs returns**, and from an admissible mask it returns
the value of the abstract model and leaves an admissible mask. -/
theorem resolves_of_budget (n : Nat) :
    EmissionResolves L o thin n ∧ EmissionVectorResolves L o thin n ∧
      TransmissionResolves L o thin n ∧ RadiativeQResolves L o thin n ∧
      RadiativeQPolarResolves L o thin n := by
  induction n with
  | zero =>
    refine ⟨fun _ _ _ m hn => ?_, fun _ _ _ m hn => ?_, fun _ _ _ m hn => ?_,
      fun _ _ _ m hn => ?_, fun _ _ _ _ hn => ?_⟩
    · exact absurd hn (by have := @one_le_needEmission m; omega)
    · exact absurd hn (by have := @two_le_needEmissionVector m; omega)
    · exact absurd hn (by have := @one_le_needTransmission m; omega)
    · exact absurd hn (by have := @three_le_needRadiativeQ m; omega)
    · omega
  | succ n ih =>
    obtain ⟨hE, hV, hT, hQ, hP⟩ := ih
    exact ⟨emissionResolves_succ hV hQ, emissionVectorResolves_succ hE hQ hP,
      transmissionResolves_succ hQ, radiativeQResolves_succ hV hT hP,
      radiativeQPolarResolves_succ hQ⟩

end Gyoto.Astrobj

import Mathlib

/-!
# `Gyoto::debug` and `Gyoto::verbose`

Three globals of `Utils.C`: the debug mode `gyoto_debug`, the verbosity `gyoto_verbosity`, and
`gyoto_prev_verbosity`, which `debug(mode)` saves when it changes the mode to a non-zero one and
puts back when it changes it to `0`. On every change to a non-zero mode, also from another
non-zero mode, `debug` saves the verbosity and sets it to `GYOTO_DEBUG_VERBOSITY`; a change
between two non-zero modes so saves the debugging verbosity itself.

`GYOTO_DEBUG_VERBOSITY` and the other defaults come from a header that is not among the sources:
they are parameters.

* `Globals`, `Globals.initial`; `Call`, `debug`, `verbose`, `step`, `run`;
* `history`: the calls of a run with the globals before each; `verbosityBeforeLast`, the
  verbosity before the most recent call of a kind: `lastSwitchOnVerbosity` (from off to on),
  `lastSaveVerbosity` (to a new non-zero mode);
* `run_prevVerbosity`: the saved verbosity is the one before the last save;
* **`debug_off_restores`**: `debug(0)` puts back the verbosity from before the last change to a
  non-zero mode;
* **`debug_zero_after_mode_change`**: after a change between two non-zero modes, not the one from
  before the last switch from off to on.
-/

namespace Gyoto

/-- The globals that `debug` and `verbose` read and write. -/
structure Globals where
  gyotoDebug : Int
  gyotoVerbosity : Int
  gyotoPrevVerbosity : Int
deriving DecidableEq, Repr

/-- The static initialisers, from `GYOTO_DEFAULT_DEBUG_MODE`, `GYOTO_DEFAULT_VERBOSITY` and
`GYOTO_DEBUG_VERBOSITY`. -/
def Globals.initial (defaultDebugMode defaultVerbosity debugVerbosity : Int) : Globals :=
  if defaultDebugMode ≠ 0 then ⟨defaultDebugMode, debugVerbosity, debugVerbosity⟩
  else ⟨defaultDebugMode, defaultVerbosity, debugVerbosity⟩

/-- The calls that write the globals. -/
inductive Call
  | debug (mode : Int)
  | verbose (mode : Int)
deriving DecidableEq, Repr

/-- `Gyoto::verbose(mode)`. -/
def verbose (g : Globals) (mode : Int) : Globals := { g with gyotoVerbosity := mode }

variable (debugVerbosity : Int)

/-- `Gyoto::debug(mode)`, `debugVerbosity` for `GYOTO_DEBUG_VERBOSITY`. -/
def debug (g : Globals) (mode : Int) : Globals :=
  if mode ≠ g.gyotoDebug then
    let g := if mode ≠ 0 then verbose { g with gyotoPrevVerbosity := g.gyotoVerbosity } debugVerbosity
      else verbose g g.gyotoPrevVerbosity
    { g with gyotoDebug := mode }
  else g

/-- One call. -/
def step (g : Globals) : Call → Globals
  | .debug mode => debug debugVerbosity g mode
  | .verbose mode => verbose g mode

/-- A sequence of calls. -/
def run (g : Globals) (calls : List Call) : Globals := calls.foldl (step debugVerbosity) g

/-- The calls of a run, each with the globals just before it. -/
def history (g : Globals) : List Call → List (Globals × Call)
  | [] => []
  | c :: cs => (g, c) :: history (step debugVerbosity g c) cs

/-- `debug(mode)` switches debugging from off (`0`) to on. -/
def switchesOn (g : Globals) : Call → Bool
  | .debug mode => g.gyotoDebug == 0 && mode != 0
  | .verbose _ => false

/-- `debug(mode)` changes the mode to a non-zero one: the calls that save the verbosity. -/
def savesVerbosity (g : Globals) : Call → Bool
  | .debug mode => mode != g.gyotoDebug && mode != 0
  | .verbose _ => false

/-- The verbosity just before the most recent call of `calls` that `p` picks, if there is one. -/
def verbosityBeforeLast (p : Globals → Call → Bool) (g : Globals) (calls : List Call) :
    Option Int :=
  ((history debugVerbosity g calls).filter fun x => p x.1 x.2).getLast?.map
    fun x => x.1.gyotoVerbosity

/-- The verbosity just before the most recent call that switched debugging from off to on. -/
def lastSwitchOnVerbosity (g : Globals) (calls : List Call) : Option Int :=
  verbosityBeforeLast debugVerbosity switchesOn g calls

/-- The verbosity just before the most recent call that changed the mode to a non-zero one. -/
def lastSaveVerbosity (g : Globals) (calls : List Call) : Option Int :=
  verbosityBeforeLast debugVerbosity savesVerbosity g calls

/-! ## One call -/

@[simp] theorem run_nil (g : Globals) : run debugVerbosity g [] = g := rfl

@[simp] theorem run_cons (g : Globals) (c : Call) (cs : List Call) :
    run debugVerbosity g (c :: cs) = run debugVerbosity (step debugVerbosity g c) cs := rfl

theorem debug_zero_verbosity {g : Globals} (h : g.gyotoDebug ≠ 0) :
    (debug debugVerbosity g 0).gyotoVerbosity = g.gyotoPrevVerbosity := by
  simp [debug, verbose, Ne.symm h]

theorem step_prevVerbosity (g : Globals) (c : Call) :
    (step debugVerbosity g c).gyotoPrevVerbosity =
      if savesVerbosity g c then g.gyotoVerbosity else g.gyotoPrevVerbosity := by
  cases c with
  | debug mode => by_cases h₁ : mode = g.gyotoDebug <;> by_cases h₂ : mode = 0 <;>
      simp_all [step, debug, verbose, savesVerbosity]
  | verbose mode => rfl

theorem step_debug_of_not_saves {g : Globals} {c : Call} (hg : g.gyotoDebug = 0)
    (hc : savesVerbosity g c = false) : (step debugVerbosity g c).gyotoDebug = 0 := by
  cases c with
  | debug mode =>
    by_cases h : mode = g.gyotoDebug
    · simp [step, debug, h, hg]
    · simp_all [step, debug, savesVerbosity]
  | verbose mode => exact hg

theorem verbosityBeforeLast_cons (p : Globals → Call → Bool) (g : Globals) (c : Call)
    (cs : List Call) :
    verbosityBeforeLast debugVerbosity p g (c :: cs) =
      (verbosityBeforeLast debugVerbosity p (step debugVerbosity g c) cs).or
        (if p g c then some g.gyotoVerbosity else none) := by
  simp only [verbosityBeforeLast, history, List.filter_cons]
  generalize List.filter (fun x => p x.1 x.2)
    (history debugVerbosity (step debugVerbosity g c) cs) = l
  cases p g c <;> cases h : l.getLast? <;> simp [h, List.getLast?_cons]

/-! ## Whole runs -/

/-- **The saved verbosity is the one before the last save**, the first one if there is none. -/
theorem run_prevVerbosity (g : Globals) (calls : List Call) :
    (run debugVerbosity g calls).gyotoPrevVerbosity =
      (lastSaveVerbosity debugVerbosity g calls).getD g.gyotoPrevVerbosity := by
  induction calls generalizing g with
  | nil => rfl
  | cons c cs ih =>
    simp only [run_cons, ih, lastSaveVerbosity, verbosityBeforeLast_cons, step_prevVerbosity]
    cases verbosityBeforeLast debugVerbosity savesVerbosity (step debugVerbosity g c) cs <;>
      cases savesVerbosity g c <;> rfl

theorem run_debug_of_no_save {g : Globals} (hg : g.gyotoDebug = 0) {calls : List Call}
    (h : lastSaveVerbosity debugVerbosity g calls = none) :
    (run debugVerbosity g calls).gyotoDebug = 0 := by
  induction calls generalizing g with
  | nil => exact hg
  | cons c cs ih =>
    rw [lastSaveVerbosity, verbosityBeforeLast_cons, Option.or_eq_none] at h
    have hc : savesVerbosity g c = false := by simpa using h.2
    exact ih (step_debug_of_not_saves debugVerbosity hg hc) h.1

/-- **`debug(0)` while debugging is on puts back the verbosity from before the most recent
change of the mode to a non-zero one**, over every sequence of calls from debugging off. -/
theorem debug_off_restores (g : Globals) (hg : g.gyotoDebug = 0) (calls : List Call)
    (hon : (run debugVerbosity g calls).gyotoDebug ≠ 0) :
    some (debug debugVerbosity (run debugVerbosity g calls) 0).gyotoVerbosity =
      lastSaveVerbosity debugVerbosity g calls := by
  rw [debug_zero_verbosity debugVerbosity hon, run_prevVerbosity]
  cases h : lastSaveVerbosity debugVerbosity g calls with
  | none => exact absurd (run_debug_of_no_save debugVerbosity hg h) hon
  | some v => rfl

/-- After `debug(1)`, `verbose(5)`, `debug(2)` from debugging off, `debug(0)` puts back `5`. -/
theorem debug_off_restores_five :
    (run 3000 ⟨0, 1, 7⟩ [.debug 1, .verbose 5, .debug 2]).gyotoDebug ≠ 0 ∧
      some (debug 3000 (run 3000 ⟨0, 1, 7⟩ [.debug 1, .verbose 5, .debug 2]) 0).gyotoVerbosity =
        lastSaveVerbosity 3000 ⟨0, 1, 7⟩ [.debug 1, .verbose 5, .debug 2] ∧
      lastSaveVerbosity 3000 ⟨0, 1, 7⟩ [.debug 1, .verbose 5, .debug 2] = some 5 :=
  ⟨by decide, debug_off_restores 3000 ⟨0, 1, 7⟩ rfl _ (by decide), by decide⟩

/-! ## The last switch from off to on -/

/-- **`debug(0)` does not put back the verbosity from before the most recent switch from off to
on** once the mode has changed between two non-zero values: from debugging off, after
`debug(m₁); debug(m₂)` with `m₁ ≠ m₂` both non-zero, the most recent switch from off to on is
`debug(m₁)`, made at the first verbosity, but `debug(0)` sets the verbosity to
`GYOTO_DEBUG_VERBOSITY`, which `debug(m₂)` saved. -/
theorem debug_zero_after_mode_change (g : Globals) (hg : g.gyotoDebug = 0) (m₁ m₂ : Int)
    (h₁ : m₁ ≠ 0) (h₂ : m₂ ≠ 0) (h : m₂ ≠ m₁) :
    (run debugVerbosity g [.debug m₁, .debug m₂]).gyotoDebug ≠ 0 ∧
      lastSwitchOnVerbosity debugVerbosity g [.debug m₁, .debug m₂] = some g.gyotoVerbosity ∧
      (debug debugVerbosity (run debugVerbosity g [.debug m₁, .debug m₂]) 0).gyotoVerbosity =
        debugVerbosity := by
  simp [run, step, debug, verbose, lastSwitchOnVerbosity, verbosityBeforeLast, history,
    switchesOn, hg, h₁, h₂, h, Ne.symm h₁, Ne.symm h₂]

/-- From verbosity `1`, `debug(1); debug(2); debug(0)` leaves the verbosity at
`GYOTO_DEBUG_VERBOSITY` (here `3000`), not at `1`. -/
theorem debug_zero_after_mode_change_one_two :
    (⟨0, 1, 7⟩ : Globals).gyotoDebug = 0 ∧ (1 : Int) ≠ 0 ∧ (2 : Int) ≠ 0 ∧ (2 : Int) ≠ 1 ∧
      ((run 3000 ⟨0, 1, 7⟩ [.debug 1, .debug 2]).gyotoDebug ≠ 0 ∧
        lastSwitchOnVerbosity 3000 ⟨0, 1, 7⟩ [.debug 1, .debug 2] = some 1 ∧
        (debug 3000 (run 3000 ⟨0, 1, 7⟩ [.debug 1, .debug 2]) 0).gyotoVerbosity = 3000) :=
  ⟨rfl, by decide, by decide, by decide,
    debug_zero_after_mode_change 3000 ⟨0, 1, 7⟩ rfl 1 2 (by decide) (by decide) (by decide)⟩

/-! ## Debugging as a switch -/

theorem debug_gyotoDebug (g : Globals) (mode : Int) :
    (debug debugVerbosity g mode).gyotoDebug = mode := by
  unfold debug
  by_cases h : mode = g.gyotoDebug
  · rw [if_neg (not_not.2 h)]; exact h.symm
  · simp only [if_pos h]

/-- While debugging is switched between off and one mode `m`, a call saves the verbosity exactly
when it switches debugging on, and the mode stays off or `m`. -/
theorem savesVerbosity_eq_switchesOn {m : Int} {g : Globals}
    (hg : g.gyotoDebug = 0 ∨ g.gyotoDebug = m) {c : Call}
    (hc : ∀ mode, c = .debug mode → mode = 0 ∨ mode = m) :
    savesVerbosity g c = switchesOn g c ∧
      ((step debugVerbosity g c).gyotoDebug = 0 ∨ (step debugVerbosity g c).gyotoDebug = m) := by
  cases c with
  | verbose mode => exact ⟨rfl, hg⟩
  | debug mode =>
    refine ⟨?_, by rw [step, debug_gyotoDebug]; exact hc mode rfl⟩
    simp only [savesVerbosity, switchesOn]
    rcases hc mode rfl with rfl | rfl
    · simp
    · rcases hg with hg | hg <;> simp [hg]

/-- Over a run that switches debugging between off and one mode, the last save is the last switch
from off to on. -/
theorem lastSave_eq_lastSwitchOn {m : Int} {g : Globals}
    (hg : g.gyotoDebug = 0 ∨ g.gyotoDebug = m) {calls : List Call}
    (hcalls : ∀ mode, Call.debug mode ∈ calls → mode = 0 ∨ mode = m) :
    lastSaveVerbosity debugVerbosity g calls = lastSwitchOnVerbosity debugVerbosity g calls := by
  induction calls generalizing g with
  | nil => rfl
  | cons c cs ih =>
    obtain ⟨hs, hg'⟩ := savesVerbosity_eq_switchesOn debugVerbosity hg
      fun mode h => hcalls mode (h ▸ List.mem_cons_self _ _)
    have := ih hg' fun mode h => hcalls mode (List.mem_cons_of_mem _ h)
    simp only [lastSaveVerbosity, lastSwitchOnVerbosity, verbosityBeforeLast_cons, hs] at this ⊢
    rw [this]

/-- **Used as a switch, `debug(0)` puts back the verbosity from before the last switch on**: over
every sequence of calls from debugging off whose `debug` calls all set either `0` or one mode
`m`, `debug(0)` while debugging is on sets the verbosity it had just before the most recent
switch from off to on. -/
theorem debug_switch_restores (m : Int) (g : Globals) (hg : g.gyotoDebug = 0) (calls : List Call)
    (hcalls : ∀ mode, Call.debug mode ∈ calls → mode = 0 ∨ mode = m)
    (hon : (run debugVerbosity g calls).gyotoDebug ≠ 0) :
    some (debug debugVerbosity (run debugVerbosity g calls) 0).gyotoVerbosity =
      lastSwitchOnVerbosity debugVerbosity g calls := by
  rw [← lastSave_eq_lastSwitchOn debugVerbosity (Or.inl hg) hcalls,
    debug_zero_verbosity debugVerbosity hon, run_prevVerbosity]
  cases h : lastSaveVerbosity debugVerbosity g calls with
  | none => exact absurd (run_debug_of_no_save debugVerbosity hg h) hon
  | some v => rfl

/-- `debug(1)`, `verbose(5)`, `debug(0)`, `verbose(2)`, `debug(1)` from verbosity `1`: `debug(0)`
puts back `2`. -/
theorem debug_switch_restores_two :
    (⟨0, 1, 7⟩ : Globals).gyotoDebug = 0 ∧
      (∀ mode, Call.debug mode ∈ [.debug 1, .verbose 5, .debug 0, .verbose 2, .debug 1] →
        mode = 0 ∨ mode = 1) ∧
      (run 3000 ⟨0, 1, 7⟩ [.debug 1, .verbose 5, .debug 0, .verbose 2, .debug 1]).gyotoDebug ≠ 0 ∧
      some (debug 3000 (run 3000 ⟨0, 1, 7⟩
        [.debug 1, .verbose 5, .debug 0, .verbose 2, .debug 1]) 0).gyotoVerbosity =
        lastSwitchOnVerbosity 3000 ⟨0, 1, 7⟩ [.debug 1, .verbose 5, .debug 0, .verbose 2, .debug 1] ∧
      lastSwitchOnVerbosity 3000 ⟨0, 1, 7⟩
        [.debug 1, .verbose 5, .debug 0, .verbose 2, .debug 1] = some 2 := by
  have hcalls : ∀ mode, Call.debug mode ∈ [.debug 1, .verbose 5, .debug 0, .verbose 2, .debug 1] →
      mode = 0 ∨ mode = 1 := by
    intro mode h
    simp only [List.mem_cons, Call.debug.injEq, reduceCtorEq, List.mem_nil_iff, or_false,
      false_or] at h
    omega
  exact ⟨rfl, hcalls, by decide, debug_switch_restores 3000 1 ⟨0, 1, 7⟩ rfl _ hcalls (by decide),
    by decide⟩

end Gyoto

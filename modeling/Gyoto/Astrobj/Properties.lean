import Mathlib

/-!
# The output record `Astrobj::Properties`

Every quantity `processHitQuantities` may compute has a pointer slot in the record, `NULL` when
the quantity is not requested. A scalar slot points to one `double`, a per-channel slot to one
`double` per spectral channel at stride `offset`, `impactcoords` to 16 `double`s.

* `Slot`, `Slot.layout`, `Slot.initValue`, `dblMax`;
* `Properties`, `Properties.Resets` (the locations `init` resets), `Properties.init`,
  `Properties.SlotsOnly` (what writes through the slots leave alone);
* `Properties.advance` (`operator+=`, `operator++`) and `Properties.quantities`
  (`operator Quantity_t`);
* `Fault`, `Run`, `Run.store`, `Run.addTo`: a call under way and its writes through the record.
-/

namespace Gyoto.Astrobj

/-- The pointer slots of `Astrobj::Properties`. -/
inductive Slot
  | intensity | time | distance | firstDmin | redshift | nbcrosseqplane
  | spectrum | stokesQ | stokesU | stokesV | binspectrum | impactcoords
  | user1 | user2 | user3 | user4 | user5
deriving DecidableEq, Repr

/-- How a slot is laid out: one `double`, one per channel at stride `offset`, or the 16 impact
coordinates. -/
inductive Layout
  | scalar | channel | impact
deriving DecidableEq, Repr

/-- `DBL_MAX`, `(2 ^ 53 - 1) 2 ^ 971`. -/
def dblMax {𝕜 : Type} [NatCast 𝕜] : 𝕜 := ((2 ^ 53 - 1) * 2 ^ 971 : Nat)

namespace Slot

/-- The layout of each slot. -/
def layout : Slot → Layout
  | spectrum | stokesQ | stokesU | stokesV | binspectrum => .channel
  | impactcoords => .impact
  | _ => .scalar

variable {𝕜 : Type} [Zero 𝕜] [NatCast 𝕜]

/-- The value `Properties::init` writes into a slot: `DBL_MAX` for the times, distances and
impact coordinates, `0.` for the rest. -/
def initValue : Slot → 𝕜
  | time | distance | firstDmin | impactcoords => dblMax
  | _ => 0

/-- How far `operator+=(1)` moves the pointer of a slot: 16 `double`s for `impactcoords`, one
for the others. -/
def stride : Slot → Nat
  | impactcoords => 16
  | _ => 1

/-- The slots, in the order `operator Quantity_t()` tests them. -/
def all : List Slot :=
  [intensity, time, distance, firstDmin, redshift, nbcrosseqplane, spectrum, stokesQ, stokesU,
    stokesV, binspectrum, impactcoords, user1, user2, user3, user4, user5]

end Slot

/-- `Astrobj::Properties`: each pointer slot is `NULL` (`none`) or the memory from the pointer on;
`offset` is the stride of the per-channel slots; the unit converters are those of a
`HAVE_UDUNITS` build (`none`: `NULL`). Distinct slots point to distinct memory. -/
structure Properties (𝕜 : Type) where
  slot : Slot → Option (Nat → 𝕜)
  firstDminFound : Int
  offset : Nat
  intensityConverter : Option (𝕜 → 𝕜)
  spectrumConverter : Option (𝕜 → 𝕜)
  binspectrumConverter : Option (𝕜 → 𝕜)

namespace Properties

variable {𝕜 : Type}

/-- The locations of slot `s` that `init(nbnuobs)` resets: the `double` itself, the channels
`ii*offset` for `ii < nbnuobs`, or the 16 impact coordinates. -/
def Resets (offset nbnuobs : Nat) (s : Slot) (j : Nat) : Prop :=
  match s.layout with
  | .scalar => j = 0
  | .channel => ∃ ii < nbnuobs, j = ii * offset
  | .impact => j < 16

instance (offset nbnuobs : Nat) (s : Slot) : DecidablePred (Resets offset nbnuobs s) := fun j =>
  match h : s.layout with
  | .scalar => decidable_of_iff (j = 0) (by simp [Resets, h])
  | .channel => decidable_of_iff (∃ ii < nbnuobs, j = ii * offset) (by simp [Resets, h])
  | .impact => decidable_of_iff (j < 16) (by simp [Resets, h])

/-- `d'` differs from `d` in what its slots hold only: the stride, `first_dmin_found` and the
converters are `d`'s. -/
def SlotsOnly (d d' : Properties 𝕜) : Prop := d' = { d with slot := d'.slot }

theorem SlotsOnly.refl (d : Properties 𝕜) : SlotsOnly d d := rfl

theorem SlotsOnly.trans {d d' d'' : Properties 𝕜} (h : SlotsOnly d d') (h' : SlotsOnly d' d'') :
    SlotsOnly d d'' := by
  rw [SlotsOnly, h', h]

theorem SlotsOnly.offset_eq {d d' : Properties 𝕜} (h : SlotsOnly d d') : d'.offset = d.offset := by
  rw [h]

theorem SlotsOnly.converters_eq {d d' : Properties 𝕜} (h : SlotsOnly d d') :
    d'.intensityConverter = d.intensityConverter ∧ d'.spectrumConverter = d.spectrumConverter ∧
      d'.binspectrumConverter = d.binspectrumConverter := by
  rw [h]
  exact ⟨rfl, rfl, rfl⟩

/-- `operator+=(ofset)`: every non-`NULL` pointer moved on by `ofset` `double`s, `impactcoords`
by `16*ofset`; `operator++()` is `advance 1`. Only forward moves are modelled. -/
def advance (ofset : Nat) (d : Properties 𝕜) : Properties 𝕜 where
  slot s := (d.slot s).map fun buf j => buf (j + s.stride * ofset)
  firstDminFound := d.firstDminFound
  offset := d.offset
  intensityConverter := d.intensityConverter
  spectrumConverter := d.spectrumConverter
  binspectrumConverter := d.binspectrumConverter

@[simp] theorem advance_offset (ofset : Nat) (d : Properties 𝕜) : (d.advance ofset).offset = d.offset :=
  rfl

theorem advance_zero (d : Properties 𝕜) : d.advance 0 = d := by
  cases d
  simp [advance]

theorem advance_advance (a b : Nat) (d : Properties 𝕜) : (d.advance a).advance b = d.advance (a + b) := by
  simp only [advance, Option.map_map, Properties.mk.injEq, and_true]
  funext s
  congr 1
  funext buf j
  simp only [Function.comp_apply, Nat.mul_add, Nat.add_assoc, Nat.add_comm (_ * b)]

/-- `operator Quantity_t()`: `GYOTO_QUANTITY_NONE` (`0`) with the bit `bit s` of every
non-`NULL` slot or-ed in, in the order of the source. The `GYOTO_QUANTITY_*` values are not part
of this code: they are the parameter `bit`. -/
def quantities (bit : Slot → Nat) (d : Properties 𝕜) : Nat :=
  Slot.all.foldl (fun res s => if (d.slot s).isSome then res ||| bit s else res) 0

variable [Zero 𝕜] [NatCast 𝕜]

/-- `Properties::init(nbnuobs)`: every non-null slot gets its `initValue` at the locations it
resets, and `first_dmin_found` is cleared along with `first_dmin`. -/
def init (nbnuobs : Nat) (d : Properties 𝕜) : Properties 𝕜 where
  slot s := (d.slot s).map fun buf j => if Resets d.offset nbnuobs s j then s.initValue else buf j
  firstDminFound := if (d.slot .firstDmin).isSome then 0 else d.firstDminFound
  offset := d.offset
  intensityConverter := d.intensityConverter
  spectrumConverter := d.spectrumConverter
  binspectrumConverter := d.binspectrumConverter

@[simp] theorem init_offset (n : Nat) (d : Properties 𝕜) : (d.init n).offset = d.offset := rfl

@[simp] theorem isSome_init_slot (n : Nat) (d : Properties 𝕜) (s : Slot) :
    ((d.init n).slot s).isSome = (d.slot s).isSome := by
  simp [init]

theorem init_slot_map_of_not_resets {n : Nat} {d : Properties 𝕜} {s : Slot} {j : Nat}
    (hj : ¬ Resets d.offset n s j) : ((d.init n).slot s).map (· j) = (d.slot s).map (· j) := by
  cases h : d.slot s <;> simp [init, h, hj]

theorem init_slot_apply {n : Nat} {d : Properties 𝕜} {s : Slot} {buf : Nat → 𝕜}
    (h : d.slot s = some buf) {j : Nat} (hj : Resets d.offset n s j) :
    ((d.init n).slot s).map (· j) = some s.initValue := by
  simp [init, h, hj]

end Properties

/-- What ends a call of `processHitQuantities` early: a `NULL` slot or spectrometer dereferenced,
a `GYOTO_ERROR`, or a loop of the model cut by its fuel. -/
inductive Fault
  | nullSlot (s : Slot)
  | nullSpectrometer
  | error (msg : String)
  | outOfFuel
deriving DecidableEq, Repr

/-- A call of `processHitQuantities` under way: the record and the photon. -/
structure Run (𝕜 Φ : Type) where
  data : Properties 𝕜
  ph : Φ

namespace Run

variable {𝕜 Φ : Type}

/-- The record with slot `s` pointing to `buf`. -/
def setSlot (r : Run 𝕜 Φ) (s : Slot) (buf : Nat → 𝕜) : Run 𝕜 Φ :=
  { r with data := { r.data with slot := Function.update r.data.slot s (some buf) } }

/-- `data->s[i] = v`. -/
def store (s : Slot) (i : Nat) (v : 𝕜) (r : Run 𝕜 Φ) : Except Fault (Run 𝕜 Φ) :=
  match r.data.slot s with
  | none => .error (.nullSlot s)
  | some buf => .ok (r.setSlot s (Function.update buf i v))

theorem slotsOnly_setSlot (r : Run 𝕜 Φ) (s : Slot) (buf : Nat → 𝕜) :
    r.data.SlotsOnly (r.setSlot s buf).data := rfl

@[simp] theorem setSlot_ph (r : Run 𝕜 Φ) (s : Slot) (buf : Nat → 𝕜) : (r.setSlot s buf).ph = r.ph := rfl

@[simp] theorem setSlot_offset (r : Run 𝕜 Φ) (s : Slot) (buf : Nat → 𝕜) :
    (r.setSlot s buf).data.offset = r.data.offset := rfl

theorem setSlot_slot (r : Run 𝕜 Φ) (s t : Slot) (buf : Nat → 𝕜) :
    (r.setSlot s buf).data.slot t = if t = s then some buf else r.data.slot t := by
  by_cases h : t = s
  · subst h; simp [setSlot]
  · simp [setSlot, h, Function.update_noteq]

variable [Add 𝕜]

/-- `data->s[i] += inc`. -/
def addTo (s : Slot) (i : Nat) (inc : 𝕜) (r : Run 𝕜 Φ) : Except Fault (Run 𝕜 Φ) :=
  match r.data.slot s with
  | none => .error (.nullSlot s)
  | some buf => .ok (r.setSlot s (Function.update buf i (buf i + inc)))

theorem addTo_of_slot {s : Slot} {buf : Nat → 𝕜} {r : Run 𝕜 Φ} (h : r.data.slot s = some buf)
    (i : Nat) (inc : 𝕜) : r.addTo s i inc = .ok (r.setSlot s (Function.update buf i (buf i + inc))) := by
  simp [addTo, h]

theorem addTo_of_none {s : Slot} {r : Run 𝕜 Φ} (h : r.data.slot s = none) (i : Nat) (inc : 𝕜) :
    r.addTo s i inc = .error (.nullSlot s) := by
  simp [addTo, h]

end Run

end Gyoto.Astrobj

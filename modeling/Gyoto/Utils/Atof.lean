import Mathlib

/-!
# `Gyoto::atof`

`Gyoto::atof(str)` reads a `double` from a C string. It skips the leading white space and at
most one `-`, then compares the next characters with `DBL_M` by the chain of post-incremented
reads `str[offset++]=='D' && str[offset++]=='B' && ...`, which stops at the first mismatch; after
`DBL_M` it tests `AX`, then `IN`, and throws on anything else. A string that does not start so is
left, whole, to `std::atof` in the "C" numeric locale.

A C string is its characters before the terminating NUL, none of which is a NUL; a read `str[i]`
is `none` past the NUL, and so is a run of `atof` that makes such a read. `std::atof` is a
parameter, the C library's conversion. The `GYOTO_DEBUG` trace and the save and restore of the
locale around `std::atof` change no value the function returns and are left out.

* `CString`, `CString.read`, `isspace` (of the "C" locale);
* `skipSpace`, `readsEq`, `atof`: the code;
* `atofSpec`: what the function is for, read off prefixes of the string;
* `skipSpace_eq`, `readsEq_eq`: the loop and the chain of reads, by prefixes;
* **`atof_eq`**: `atof` reads nothing past the NUL and returns `atofSpec`.
-/

namespace Gyoto

/-- The NUL character. -/
def nul : Char := '\x00'

/-- A NUL-terminated C string: its characters before the terminating NUL. -/
structure CString where
  chars : List Char
  nul_not_mem : nul ∉ chars

namespace CString

/-- `str[i]`: the characters, then the terminating NUL; `none` for a read past the NUL. -/
def read (str : CString) (i : Nat) : Option Char := (str.chars ++ [nul])[i]?

theorem read_isSome_iff (str : CString) (i : Nat) :
    (str.read i).isSome ↔ i ≤ str.chars.length := by
  rw [read, Option.isSome_iff_ne_none, Ne, List.getElem?_eq_none_iff]
  simp only [List.length_append, List.length_singleton]
  omega

theorem read_of_le {str : CString} {i : Nat} (h : i ≤ str.chars.length) :
    str.read i = some ((str.chars.drop i).headD nul) := by
  rw [read, ← List.head?_drop, List.drop_append_of_le_length h]
  cases str.chars.drop i <;> rfl

end CString

/-- `isspace(c)` in the "C" locale: space, tab, newline, vertical tab, form feed, return. -/
def isspace (c : Char) : Bool :=
  c == ' ' || c == '\t' || c == '\n' || c == '\x0b' || c == '\x0c' || c == '\r'

/-- `while (isspace(str[offset])) ++offset;`: the offset of the first character from `offset` on
that is not white space. -/
def skipSpace (str : CString) (offset : Nat) : Option Nat :=
  match h : str.read offset with
  | none => none
  | some c => if isspace c then skipSpace str (offset + 1) else some offset
termination_by str.chars.length + 1 - offset
decreasing_by
  have := (str.read_isSome_iff offset).1 (by simp [h])
  omega

/-- `str[offset++]==c₀ && str[offset++]==c₁ && ...`: one read per comparison, none after the
first mismatch. -/
def readsEq (str : CString) (offset : Nat) : List Char → Option Bool
  | [] => some true
  | c :: cs => do
    if (← str.read offset) = c then readsEq str (offset + 1) cs else pure false

/-- `DBL_MAX`, the largest finite `double`. -/
def dblMax : Float := 1.7976931348623157e308

/-- `DBL_MIN`, the least positive normal `double`. -/
def dblMin : Float := 2.2250738585072014e-308

variable (stdAtof : CString → Float)

/-- The test that follows the sign in `Gyoto::atof(str)`, from `offset` on: `DBL_MAX`,
`DBL_MIN`, the error, or `std::atof(str)`. -/
def atofBody (str : CString) (positive : Bool) (offset : Nat) : Option (Except String Float) := do
  if ← readsEq str offset ['D', 'B', 'L', '_', 'M'] then
    let offset := offset + 5
    if ← readsEq str offset ['A', 'X'] then
      return .ok (if positive then dblMax else -dblMax)
    else if ← readsEq str offset ['I', 'N'] then
      return .ok (if positive then dblMin else -dblMin)
    else return .error "unrecognize double representation"
  else return .ok (stdAtof str)

/-- `Gyoto::atof(str)`, with `stdAtof` for `std::atof`: `none` if it reads past the NUL, `.error`
where it throws. -/
def atof (str : CString) : Option (Except String Float) := do
  let offset ← skipSpace str 0
  let (positive, offset) :=
    if (← str.read offset) = '-' then (false, offset + 1) else (true, offset)
  atofBody stdAtof str positive offset

/-- What `Gyoto::atof` is for, on the string `rest` left after the white space and the sign:
`DBL_MAX` or `DBL_MIN` with that sign, an error for `DBL_M` followed by anything else, and
otherwise `x`, what `std::atof` makes of the whole string. -/
def atofRestSpec (positive : Bool) (rest : List Char) (x : Float) : Except String Float :=
  if "DBL_MAX".toList <+: rest then .ok (if positive then dblMax else -dblMax)
  else if "DBL_MIN".toList <+: rest then .ok (if positive then dblMin else -dblMin)
  else if "DBL_M".toList <+: rest then .error "unrecognize double representation"
  else .ok x

/-- What `Gyoto::atof` is for: `atofRestSpec` after the leading white space and at most one
`-`, which makes the sign. -/
def atofSpec (s : CString) : Except String Float :=
  match s.chars.dropWhile isspace with
  | '-' :: rest => atofRestSpec false rest (stdAtof s)
  | r => atofRestSpec true r (stdAtof s)

/-! ## The reads, by prefixes of the string -/

namespace CString

variable {str : CString} {i : Nat}

theorem read_of_drop_eq_nil (h : i ≤ str.chars.length) (hd : str.chars.drop i = []) :
    str.read i = some nul := by
  rw [read_of_le h, hd]; rfl

theorem read_of_drop_eq_cons {c : Char} {rest : List Char} (hd : str.chars.drop i = c :: rest) :
    str.read i = some c ∧ str.chars.drop (i + 1) = rest ∧ i + 1 ≤ str.chars.length := by
  have hlen : i + 1 ≤ str.chars.length := by
    have := congrArg List.length hd
    simp only [List.length_drop, List.length_cons] at this
    omega
  exact ⟨by rw [read_of_le (by omega), hd]; rfl, by rw [← List.drop_drop, hd]; rfl, hlen⟩

end CString

theorem skipSpace_of_read {str : CString} {offset : Nat} {c : Char} (hr : str.read offset = some c) :
    skipSpace str offset = if isspace c then skipSpace str (offset + 1) else some offset := by
  rw [skipSpace]; split <;> simp_all

theorem skipSpace_eq (str : CString) {offset : Nat} (h : offset ≤ str.chars.length) :
    skipSpace str offset = some (offset + ((str.chars.drop offset).takeWhile isspace).length) := by
  generalize hl : str.chars.drop offset = l
  induction l generalizing offset with
  | nil => rw [skipSpace_of_read (CString.read_of_drop_eq_nil h hl)]; rfl
  | cons c rest ih =>
    obtain ⟨hr, hd, hlen⟩ := CString.read_of_drop_eq_cons hl
    rw [skipSpace_of_read hr, List.takeWhile_cons]
    by_cases hc : isspace c
    · simp [hc, ih hlen hd]; omega
    · simp [hc]

/-- **The chain of reads stays before the NUL**: compared with characters none of which is the
NUL, `str` is read no further than its NUL, and the chain tells whether they start the string
at `offset`. -/
theorem readsEq_eq (str : CString) {cs : List Char} (hcs : nul ∉ cs) {offset : Nat}
    (h : offset ≤ str.chars.length) :
    readsEq str offset cs = some (decide (cs <+: str.chars.drop offset)) := by
  induction cs generalizing offset with
  | nil => simp [readsEq]
  | cons c cs ih =>
    have hc : c ≠ nul := fun e => hcs (e ▸ List.mem_cons_self _ _)
    rcases hl : str.chars.drop offset with _ | ⟨d, rest⟩
    · simp [readsEq, CString.read_of_drop_eq_nil h hl, hc.symm]
    · obtain ⟨hr, hd, hlen⟩ := CString.read_of_drop_eq_cons hl
      by_cases hdc : d = c
      · subst hdc
        simp [readsEq, hr, ih (fun m => hcs (List.mem_cons_of_mem _ m)) hlen, hd]
      · simp [readsEq, hr, hdc, List.cons_prefix_cons, Ne.symm hdc]

theorem atofBody_eq (str : CString) (positive : Bool) {offset : Nat}
    (h : offset ≤ str.chars.length) :
    atofBody stdAtof str positive offset =
      some (atofRestSpec positive (str.chars.drop offset) (stdAtof str)) := by
  rw [atofBody, atofRestSpec, readsEq_eq str (by decide) h]
  simp only [show "DBL_MAX".toList = ['D', 'B', 'L', '_', 'M'] ++ ['A', 'X'] from rfl,
    show "DBL_MIN".toList = ['D', 'B', 'L', '_', 'M'] ++ ['I', 'N'] from rfl,
    show "DBL_M".toList = ['D', 'B', 'L', '_', 'M'] from rfl]
  by_cases hM : ['D', 'B', 'L', '_', 'M'] <+: str.chars.drop offset
  · obtain ⟨t, ht⟩ := id hM
    have hlen : offset + 5 ≤ str.chars.length := by
      have := congrArg List.length ht
      simp only [List.length_append, List.length_drop, List.length_cons, List.length_nil] at this
      omega
    have hdrop : str.chars.drop (offset + 5) = t := by rw [← List.drop_drop, ← ht]; rfl
    simp only [hM, decide_True]
    rw [readsEq_eq str (show nul ∉ ['A', 'X'] by decide) hlen,
      readsEq_eq str (show nul ∉ ['I', 'N'] by decide) hlen, hdrop]
    simp [← ht, List.prefix_append_right_inj]
    split_ifs <;> rfl
  · have hsub : ∀ l, ¬ ['D', 'B', 'L', '_', 'M'] ++ l <+: str.chars.drop offset :=
      fun l hl => hM ((List.prefix_append _ l).trans hl)
    simp only [hM, hsub, decide_False, if_false]
    rfl

/-- **`Gyoto::atof` reads no character past the NUL and returns `atofSpec`**, for every C
string: the white-space loop stops at the NUL at the latest, and the comparisons with `DBL_M`,
`AX` and `IN` read on only after a letter, so never past the NUL. -/
theorem atof_eq (s : CString) : atof stdAtof s = some (atofSpec stdAtof s) := by
  have hlen : (s.chars.takeWhile isspace).length ≤ s.chars.length :=
    (List.takeWhile_prefix _).length_le
  have hdrop : s.chars.drop (s.chars.takeWhile isspace).length = s.chars.dropWhile isspace := by
    have := List.drop_left (s.chars.takeWhile isspace) (s.chars.dropWhile isspace)
    rwa [List.takeWhile_append_dropWhile] at this
  rw [atof, atofSpec, skipSpace_eq s (Nat.zero_le _), List.drop_zero, Nat.zero_add]
  simp only [Option.bind_eq_bind, Option.some_bind, CString.read_of_le hlen, hdrop]
  rcases hr : s.chars.dropWhile isspace with _ | ⟨c, rest⟩
  · rw [← hdrop] at hr
    simp [atofBody_eq stdAtof s true hlen, hr, nul]
  · obtain ⟨-, hd, hlen'⟩ := CString.read_of_drop_eq_cons (hdrop.trans hr)
    by_cases hc : c = '-'
    · subst hc
      simp [atofBody_eq stdAtof s false hlen', hd]
    · simp [atofBody_eq stdAtof s true hlen, hdrop, hr, hc]

end Gyoto

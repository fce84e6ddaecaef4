import Mathlib

/-!
# `Gyoto::split`

`split(src, delim)` cuts a string at the characters of `delim`, scanning with
`find_first_of` from a position `pos` and pushing the run between `pos` and the next delimiter.
Positions are `size_t`s, so the `pos = fpos + 1` that follows the last token (`fpos = npos`)
wraps to `0`; the loop ends on `fpos` then.

* `StdString`, with `findFirstOf` and `substr`; `npos`;
* `splitLoop`, `split`: the code, the loop cut after `fuel` tests of its condition;
* `tokens`: the maximal non-empty runs of non-delimiters (`List.splitOnP`, empty pieces dropped),
  its three equations and `runs_induction`, the induction they follow;
* `Interleaves`, `tokens_spec`: what a list of tokens says about the string;
* **`split_eq_tokens`**;
* `tokens_intercalate`, **`split_intercalate`**: strings joined by a delimiter split back into
  themselves.
-/

namespace Gyoto

/-- `std::string::npos`, the largest `size_t`. -/
def npos : Nat := 2 ^ 64 - 1

/-- A `std::string`: its characters, fewer than `npos` of them (`max_size()` is below `npos`). -/
structure StdString where
  data : List Char
  length_lt : data.length < npos

namespace StdString

/-- `s.length()`. -/
def length (s : StdString) : Nat := s.data.length

/-- `s.find_first_of(delim, pos)`: the first position from `pos` on of a character of `delim`,
`npos` if there is none. -/
def findFirstOf (s delim : StdString) (pos : Nat) : Nat :=
  match (s.data.drop pos).findIdx? (fun c => decide (c ∈ delim.data)) with
  | some i => pos + i
  | none => npos

/-- `s.substr(pos, n)`, for `pos ≤ length`: at most `n` characters from `pos` on. -/
def substr (s : StdString) (pos n : Nat) : List Char := (s.data.drop pos).take n

end StdString

/-- The `while (fpos != string::npos && pos < sz)` loop of `Gyoto::split`, cut after `fuel`
tests of its condition; `res` holds the tokens pushed so far. `pos` and `fpos` are `size_t`s:
`++pos` and `fpos+1` wrap at `2 ^ 64`, and `fpos-pos` does not wrap since `fpos ≥ pos`. -/
def splitLoop (src delim : StdString) : Nat → Nat → Nat → List (List Char) → Option (List (List Char))
  | 0, _, _, _ => none
  | fuel + 1, pos, fpos, res =>
    if fpos ≠ npos ∧ pos < src.length then
      let fpos := src.findFirstOf delim pos
      if fpos = pos then splitLoop src delim fuel ((pos + 1) % 2 ^ 64) fpos res
      else splitLoop src delim fuel ((fpos + 1) % 2 ^ 64) fpos (res ++ [src.substr pos (fpos - pos)])
    else some res

/-- `Gyoto::split(src, delim)`, with room for `src.length() + 1` tests of the loop's condition. -/
def split (src delim : StdString) : Option (List (List Char)) :=
  splitLoop src delim (src.length + 1) 0 0 []

/-- The maximal non-empty runs of characters of `src` not in `delim`, in order. -/
def tokens (delim src : List Char) : List (List Char) :=
  (src.splitOnP fun c => decide (c ∈ delim)).filter fun t => !t.isEmpty

section Tokens

variable {delim : List Char}

@[simp] theorem tokens_nil : tokens delim [] = [] := rfl

theorem tokens_cons_of_mem {c : Char} (hc : c ∈ delim) (l : List Char) :
    tokens delim (c :: l) = tokens delim l := by
  simp [tokens, hc]

theorem tokens_append_cons {t l : List Char} {c : Char} (ht : t ≠ [])
    (hnd : ∀ x ∈ t, x ∉ delim) (hc : c ∈ delim) : tokens delim (t ++ c :: l) = t :: tokens delim l := by
  rw [tokens, List.splitOnP_first _ _ (by simpa using hnd) c (by simpa using hc)]
  simp [tokens, List.isEmpty_iff, ht]

theorem tokens_of_forall_not_mem {t : List Char} (ht : t ≠ []) (hnd : ∀ x ∈ t, x ∉ delim) :
    tokens delim t = [t] := by
  rw [tokens, List.splitOnP_eq_single _ _ (by simpa using hnd)]
  simp [List.isEmpty_iff, ht]

theorem tokens_intercalate {d : Char} (hd : d ∈ delim) : ∀ {ts : List (List Char)},
    (∀ t ∈ ts, t ≠ [] ∧ ∀ c ∈ t, c ∉ delim) → tokens delim ([d].intercalate ts) = ts
  | [], _ => rfl
  | [t], h => by
    rw [show [d].intercalate [t] = t by simp [List.intercalate]]
    exact tokens_of_forall_not_mem (h t (List.mem_singleton_self t)).1
      (h t (List.mem_singleton_self t)).2
  | t :: u :: ts, h => by
    have ht := h t (List.mem_cons_self _ _)
    rw [show [d].intercalate (t :: u :: ts) = t ++ d :: [d].intercalate (u :: ts) by
        simp [List.intercalate], tokens_append_cons ht.1 ht.2 hd,
      tokens_intercalate hd fun x hx => h x (List.mem_cons_of_mem _ hx)]

variable (delim) in
theorem exists_run : ∀ l : List Char, ∃ t rest, l = t ++ rest ∧ (∀ x ∈ t, x ∉ delim) ∧
    (rest = [] ∨ ∃ c l', rest = c :: l' ∧ c ∈ delim)
  | [] => ⟨[], [], rfl, by simp, .inl rfl⟩
  | x :: xs => by
    by_cases hx : x ∈ delim
    · exact ⟨[], x :: xs, rfl, by simp, .inr ⟨x, xs, rfl, hx⟩⟩
    · obtain ⟨t, rest, rfl, ht, hr⟩ := exists_run xs
      exact ⟨x :: t, rest, rfl, by simpa [hx] using ht, hr⟩

variable (delim) in
theorem runs_induction {motive : List Char → Prop} (nil : motive [])
    (sep : ∀ c l, c ∈ delim → motive l → motive (c :: l))
    (last : ∀ t, t ≠ [] → (∀ x ∈ t, x ∉ delim) → motive t)
    (token : ∀ t c l, t ≠ [] → (∀ x ∈ t, x ∉ delim) → c ∈ delim → motive l →
      motive (t ++ c :: l)) (l : List Char) : motive l := by
  obtain ⟨t, rest, rfl, ht, hr⟩ := exists_run delim l
  rcases hr with rfl | ⟨c, l', rfl, hc⟩
  · cases t with
    | nil => exact nil
    | cons x xs => simpa using last (x :: xs) (List.cons_ne_nil x xs) ht
  · have ih := runs_induction nil sep last token l'
    cases t with
    | nil => exact sep c l' hc ih
    | cons x xs => exact token (x :: xs) c l' (List.cons_ne_nil x xs) ht hc ih
termination_by l.length
decreasing_by simp_wf; subst_vars; simp only [List.length_append, List.length_cons]; omega

end Tokens

namespace StdString

variable {src delim : StdString} {pos : Nat} {t l : List Char}

theorem findFirstOf_of_drop_eq {c : Char} (h : src.data.drop pos = t ++ c :: l)
    (ht : ∀ x ∈ t, x ∉ delim.data) (hc : c ∈ delim.data) :
    src.findFirstOf delim pos = pos + t.length := by
  have hnone : t.findIdx? (fun c => decide (c ∈ delim.data)) = none := by simpa using ht
  simp [findFirstOf, h, hnone, hc]

theorem findFirstOf_eq_npos (h : src.data.drop pos = t) (ht : ∀ x ∈ t, x ∉ delim.data) :
    src.findFirstOf delim pos = npos := by
  have hnone : t.findIdx? (fun c => decide (c ∈ delim.data)) = none := by simpa using ht
  simp [findFirstOf, h, hnone]

end StdString

theorem npos_lt : npos < 2 ^ 64 := by decide

/-- **The loop from `pos`**: with one more test of its condition than characters left, it
pushes the tokens of the rest of the string after those pushed so far, whatever `fpos` is
as long as it is not `npos`. -/
theorem splitLoop_eq (src delim : StdString) (l : List Char) :
    ∀ pos fpos fuel res, src.data.drop pos = l → fpos ≠ npos → l.length < fuel →
      splitLoop src delim fuel pos fpos res = some (res ++ tokens delim.data l) := by
  have hsz : src.length < npos := src.length_lt
  have hnpos := npos_lt
  have hlen : ∀ {pos l}, src.data.drop pos = l → l.length = src.length - pos := fun h => by
    rw [← h, List.length_drop]; rfl
  induction l using runs_induction delim.data with
  | nil =>
    intro pos fpos fuel res h _ hf
    obtain ⟨fuel, rfl⟩ : ∃ f, fuel = f + 1 := ⟨fuel - 1, by omega⟩
    have : ¬ pos < src.length := not_lt.2 (List.drop_eq_nil_iff.1 h)
    simp [splitLoop, this]
  | sep c l hc ih =>
    intro pos fpos fuel res h hn hf
    obtain ⟨fuel, rfl⟩ : ∃ f, fuel = f + 1 := ⟨fuel - 1, by omega⟩
    have hl := hlen h
    simp only [List.length_cons] at hl hf
    have hff : src.findFirstOf delim pos = pos := by
      simpa using StdString.findFirstOf_of_drop_eq (show src.data.drop pos = [] ++ c :: l from h)
        (by simp) hc
    have hd : src.data.drop (pos + 1) = l := by rw [← List.drop_drop, h]; rfl
    rw [splitLoop, if_pos ⟨hn, by omega⟩]
    simp only [hff, if_true]
    rw [Nat.mod_eq_of_lt (show pos + 1 < 2 ^ 64 by omega),
      ih (pos + 1) pos fuel res hd (by omega) (by omega), tokens_cons_of_mem hc]
  | last t ht hnd =>
    intro pos fpos fuel res h hn hf
    have hl := hlen h
    have := List.length_pos.2 ht
    obtain ⟨fuel, rfl⟩ : ∃ f, fuel = f + 2 := ⟨fuel - 2, by omega⟩
    have hff := StdString.findFirstOf_eq_npos h hnd
    have hsub : src.substr pos (npos - pos) = t := by
      rw [StdString.substr, h, List.take_of_length_le (by omega)]
    rw [splitLoop, if_pos ⟨hn, by omega⟩]
    simp only [hff, show npos ≠ pos by omega, if_false, hsub, show (npos + 1) % 2 ^ 64 = 0 by decide]
    simp [splitLoop, tokens_of_forall_not_mem ht hnd]
  | token t c l ht hnd hc ih =>
    intro pos fpos fuel res h hn hf
    obtain ⟨fuel, rfl⟩ : ∃ f, fuel = f + 1 := ⟨fuel - 1, by omega⟩
    have hl := hlen h
    have := List.length_pos.2 ht
    simp only [List.length_append, List.length_cons] at hl hf
    have hff := StdString.findFirstOf_of_drop_eq h hnd hc
    have hsub : src.substr pos (pos + t.length - pos) = t := by
      rw [StdString.substr, h, Nat.add_sub_cancel_left, List.take_left']
      rfl
    have hd : src.data.drop (pos + t.length + 1) = l := by
      rw [← List.drop_drop, ← List.drop_drop, h, List.drop_left]; rfl
    rw [splitLoop, if_pos ⟨hn, by omega⟩]
    simp only [hff, show pos + t.length ≠ pos by omega, if_false, hsub]
    rw [Nat.mod_eq_of_lt (show pos + t.length + 1 < 2 ^ 64 by omega),
      ih (pos + t.length + 1) (pos + t.length) fuel _ hd (by omega) (by omega),
      tokens_append_cons ht hnd hc]
    simp

/-- `src` is `d₀ ++ t₁ ++ d₁ ++ ⋯ ++ tₙ ++ dₙ` for the tokens `tᵢ` and runs `dᵢ` of characters of
`delim`, those between two tokens non-empty. -/
def Interleaves (delim : List Char) : List Char → List (List Char) → Prop
  | src, [] => ∀ c ∈ src, c ∈ delim
  | src, [t] => ∃ d e, src = d ++ t ++ e ∧ (∀ c ∈ d, c ∈ delim) ∧ ∀ c ∈ e, c ∈ delim
  | src, t :: u :: ts => ∃ d c rest, src = d ++ t ++ c :: rest ∧ (∀ x ∈ d, x ∈ delim) ∧
      c ∈ delim ∧ Interleaves delim rest (u :: ts)

theorem Interleaves.cons_of_mem {delim : List Char} {c : Char} (hc : c ∈ delim) :
    ∀ {l ts}, Interleaves delim l ts → Interleaves delim (c :: l) ts
  | _, [], h => by simpa [Interleaves, hc] using h
  | _, [_], ⟨d, e, rfl, hd, he⟩ => ⟨c :: d, e, rfl, by simpa [hc] using hd, he⟩
  | _, _ :: _ :: _, ⟨d, c', rest, rfl, hd, hc', h⟩ => ⟨c :: d, c', rest, rfl, by simpa [hc] using hd, hc', h⟩

/-- **The tokens of a string**: each is non-empty and has no delimiter, and the string is the
tokens interleaved with the runs of delimiters between them. -/
theorem tokens_spec (delim src : List Char) :
    (∀ t ∈ tokens delim src, t ≠ [] ∧ ∀ c ∈ t, c ∉ delim) ∧ Interleaves delim src (tokens delim src) := by
  induction src using runs_induction delim with
  | nil => simp [Interleaves]
  | sep c l hc ih => rw [tokens_cons_of_mem hc]; exact ⟨ih.1, ih.2.cons_of_mem hc⟩
  | last t ht hnd =>
    rw [tokens_of_forall_not_mem ht hnd]
    exact ⟨by simpa using ⟨ht, hnd⟩, [], [], by simp, by simp, by simp⟩
  | token t c l ht hnd hc ih =>
    rw [tokens_append_cons ht hnd hc]
    refine ⟨by simpa using ⟨⟨ht, hnd⟩, ih.1⟩, ?_⟩
    obtain ⟨-, hi⟩ := ih
    generalize tokens delim l = ts at hi
    match ts, hi with
    | [], hi => exact ⟨[], c :: l, by simp, by simp, by simpa [hc] using hi⟩
    | _ :: _, hi => exact ⟨[], c, l, by simp, by simp, hc, hi⟩

/-- **`Gyoto::split` returns the tokens**: for every string and delimiter set it returns, within
`src.length() + 1` tests of its loop's condition, exactly the maximal non-empty runs of characters
of `src` not in `delim`, in order; each is non-empty and delimiter-free, and `src` is them
interleaved with the skipped runs of delimiters. The last token is found with `fpos = npos`,
after which `pos = fpos + 1` wraps to `0` and the loop ends on `fpos`. -/
theorem split_eq_tokens (src delim : StdString) :
    split src delim = some (tokens delim.data src.data) ∧
      (∀ t ∈ tokens delim.data src.data, t ≠ [] ∧ ∀ c ∈ t, c ∉ delim.data) ∧
      Interleaves delim.data src.data (tokens delim.data src.data) :=
  ⟨splitLoop_eq src delim src.data 0 0 _ [] rfl (by decide) (Nat.lt_succ_self _),
    tokens_spec delim.data src.data⟩

/-- **Joining with a delimiter, then splitting, gives the strings back**: for every list of
non-empty strings with no delimiter in them, `split` of the strings joined by one delimiter
returns that list. -/
theorem split_intercalate (src delim : StdString) {d : Char} (hd : d ∈ delim.data)
    (ts : List (List Char)) (hts : ∀ t ∈ ts, t ≠ [] ∧ ∀ c ∈ t, c ∉ delim.data)
    (hsrc : src.data = [d].intercalate ts) : split src delim = some ts := by
  rw [split, splitLoop_eq src delim src.data 0 0 (src.length + 1) [] rfl (by decide)
    (Nat.lt_succ_self _), hsrc, tokens_intercalate hd hts, List.nil_append]

/-- `ab` and `c` joined by a space split back into `ab` and `c`. -/
theorem split_intercalate_ab_c :
    ' ' ∈ [' '] ∧ (∀ t ∈ ["ab".toList, "c".toList], t ≠ [] ∧ ∀ c ∈ t, c ∉ [' ']) ∧
      "ab c".toList = [' '].intercalate ["ab".toList, "c".toList] ∧
      split ⟨"ab c".toList, by decide⟩ ⟨[' '], by decide⟩ = some ["ab".toList, "c".toList] :=
  ⟨by decide, by decide, by decide,
    split_intercalate ⟨"ab c".toList, by decide⟩ ⟨[' '], by decide⟩ (show ' ' ∈ [' '] by decide) _
      (by decide) (by decide)⟩

example : split ⟨"  ab c ".toList, by decide⟩ ⟨[' '], by decide⟩ = some ["ab".toList, "c".toList] := by decide

end Gyoto

import Gyoto.Utils.Split

/-!
# `Gyoto::help`

`help(class_name)` finds the class whose help text to print. It drops a leading `Gyoto::`, then
knows `Scenery`, `Screen` and `Photon` by name, and otherwise cuts the name at the first `::`
(`find("::")`) into a namespace and a class, which the namespace's subcontractor registry
resolves. The position is a `size_t`: without a `::`, `pos` is `npos` and the test
`pos+2==class_name.size()` compares `npos + 2`, wrapped to `1`, with the size.

The registries (`getSubcontractor`) and the help texts are not in this file: the model returns
the class whose `help()` is called.

* `StdString.find`, `stripGyoto`, `helpClass`, `help`: the code;
* `find_colons_eq`, `find_colons_eq_npos`: `find("::")` before a first `::`, and with none;
* **`help_qualified`**: a qualified name `[Gyoto::]ns::name` of one of the four namespaces
  reaches that namespace's registry with `name`, and an empty `name` is refused;
* **`help_unqualified`**: a name with no `::` is `Scenery`, `Screen`, `Photon` or refused, with
  `Not a valid class name` for one character, the wrap of `npos + 2`.
-/

namespace Gyoto

namespace StdString

/-- `s.find(t)`: the first position at which `t` starts in `s`, `npos` if there is none. -/
def find (s : StdString) (t : List Char) : Nat :=
  match s.data.tails.findIdx? (fun u => t.isPrefixOf u) with
  | some i => i
  | none => npos

/-- `s.substr(pos, n)`, as a `std::string`. -/
def substrString (s : StdString) (pos n : Nat) : StdString :=
  ⟨s.substr pos n,
    ((List.length_take_le' _ _).trans (List.drop_suffix _ _).length_le).trans_lt s.length_lt⟩

end StdString

/-- The namespaces whose classes `help` resolves through a registry. -/
inductive ClassNamespace
  | astrobj
  | metric
  | spectrum
  | spectrometer
  deriving DecidableEq, Repr

/-- A namespace's name in the source. -/
def ClassNamespace.name : ClassNamespace → String
  | .astrobj => "Astrobj"
  | .metric => "Metric"
  | .spectrum => "Spectrum"
  | .spectrometer => "Spectrometer"

/-- The class whose `help()` is called. -/
inductive HelpTarget
  | scenery
  | screen
  | photon
  /-- `(*getSubcontractor(className, plugins))(NULL, plugins)` of the namespace. -/
  | subcontractor (ns : ClassNamespace) (className : List Char)
  deriving DecidableEq, Repr

/-- `if (class_name.substr(0, 7)=="Gyoto::") class_name=class_name.substr(7);` -/
def stripGyoto (className : StdString) : StdString :=
  if className.substr 0 7 = "Gyoto::".toList then className.substrString 7 npos else className

/-- `Gyoto::help` after the `Gyoto::` prefix is gone. -/
def helpClass (className : StdString) : Except String HelpTarget :=
  if className.data = "Scenery".toList then .ok .scenery
  else if className.data = "Screen".toList then .ok .screen
  else if className.data = "Photon".toList then .ok .photon
  else
    let pos := className.find "::".toList
    if pos = 0 ∨ (pos + 2) % 2 ^ 64 = className.length then
      .error ("Not a valid class name: " ++ String.mk className.data)
    else if 0 < pos ∧ pos ≠ npos then
      let nspace := className.substr 0 pos
      let className := className.substr (pos + 2) npos
      if nspace = "Astrobj".toList then .ok (.subcontractor .astrobj className)
      else if nspace = "Metric".toList then .ok (.subcontractor .metric className)
      else if nspace = "Spectrum".toList then .ok (.subcontractor .spectrum className)
      else if nspace = "Spectrometer".toList then .ok (.subcontractor .spectrometer className)
      else .error ("Unrecognized namespace: " ++ String.mk nspace)
    else .error ("Help string not implemented (yet) for " ++ String.mk className.data)

/-- `Gyoto::help(class_name)`: `.error` where it throws. -/
def help (className : StdString) : Except String HelpTarget :=
  helpClass (stripGyoto className)

/-! ## `find("::")` -/

theorem colons_isPrefixOf_cons {c : Char} (hc : c ≠ ':') (l : List Char) :
    "::".toList.isPrefixOf (c :: l) = false := by
  simp [List.isPrefixOf, Ne.symm hc]

theorem findIdx_colons (a b : List Char) (ha : ':' ∉ a) (i : Nat) :
    (a ++ "::".toList ++ b).tails.findIdx? (fun u => "::".toList.isPrefixOf u) i =
      some (i + a.length) := by
  induction a generalizing i with
  | nil => simp [List.findIdx?_cons, List.isPrefixOf]
  | cons c a ih =>
    rw [List.mem_cons, not_or] at ha
    rw [List.cons_append, List.cons_append, List.tails, List.findIdx?_cons,
      colons_isPrefixOf_cons (Ne.symm ha.1), ih ha.2, List.length_cons, Nat.add_right_comm,
      Nat.add_assoc]
    rfl

theorem find_colons_eq {s : StdString} {a b : List Char} (ha : ':' ∉ a)
    (hs : s.data = a ++ "::".toList ++ b) : s.find "::".toList = a.length := by
  rw [StdString.find, hs, findIdx_colons a b ha, Nat.zero_add]

theorem find_colons_eq_npos {s : StdString} (h : ¬ "::".toList <:+: s.data) :
    s.find "::".toList = npos := by
  have : s.data.tails.findIdx? (fun u => "::".toList.isPrefixOf u) = none :=
    List.findIdx?_eq_none_iff.2 fun u hu => by
      rw [List.mem_tails] at hu
      exact Bool.eq_false_iff.2 fun hp =>
        h ((List.isPrefixOf_iff_prefix.1 hp).isInfix.trans hu.isInfix)
  rw [StdString.find, this]

/-! ## The `Gyoto::` prefix -/

theorem stripGyoto_data (s : StdString) :
    (stripGyoto s).data = if "Gyoto::".toList <+: s.data then s.data.drop 7 else s.data := by
  have : s.substr 0 7 = "Gyoto::".toList ↔ "Gyoto::".toList <+: s.data := by
    rw [List.prefix_iff_eq_take, StdString.substr, List.drop_zero, eq_comm]; rfl
  by_cases h : "Gyoto::".toList <+: s.data
  · rw [stripGyoto, if_pos (this.2 h), if_pos h]
    exact List.take_of_length_le ((List.drop_suffix _ _).length_le.trans s.length_lt.le)
  · rw [stripGyoto, if_neg (mt this.1 h), if_neg h]

/-! ## What `help` resolves -/

theorem helpClass_qualified (ns : ClassNamespace) (name : List Char) {s : StdString}
    (hs : s.data = ns.name.toList ++ "::".toList ++ name) :
    helpClass s = if name = [] then .error ("Not a valid class name: " ++ ns.name ++ "::")
      else .ok (.subcontractor ns name) := by
  have hns : ':' ∉ ns.name.toList ∧ ns.name.toList ≠ [] := by cases ns <;> decide
  have hlen : s.length = ns.name.toList.length + 2 + name.length := by
    rw [StdString.length, hs, List.length_append, List.length_append]; rfl
  have hlt : ns.name.toList.length + 2 + name.length < 2 ^ 64 :=
    hlen ▸ s.length_lt.trans (by decide)
  have h0 : ns.name.toList.length ≠ 0 := fun h => hns.2 (List.length_eq_zero.1 h)
  have hne : ∀ w : String, ':' ∉ w.toList → s.data ≠ w.toList := fun w hw e =>
    hw (e ▸ by rw [hs]; simp)
  rw [helpClass, if_neg (hne "Scenery" (by decide)), if_neg (hne "Screen" (by decide)),
    if_neg (hne "Photon" (by decide))]
  simp only [find_colons_eq hns.1 hs, Nat.mod_eq_of_lt ((Nat.le_add_right _ _).trans_lt hlt), hlen,
    h0, false_or]
  by_cases hn : name = []
  · subst hn
    simp only [List.length_nil, Nat.add_zero, if_true, hs, List.append_nil]
    rfl
  · have hnsp : s.substr 0 ns.name.toList.length = ns.name.toList := by
      simp [StdString.substr, hs]
    have hn' : name.length ≠ 0 := mt List.length_eq_zero.1 hn
    have hcls : s.substr (ns.name.toList.length + 2) npos = name := by
      have : s.data.drop (ns.name.toList.length + 2) = name := by
        rw [hs]; exact List.drop_left' (by rw [List.length_append]; rfl)
      rw [StdString.substr, this, List.take_of_length_le (by unfold npos; omega)]
    rw [if_neg (show ¬ (_ + 2 = _ + 2 + name.length) by omega),
      if_pos (show 0 < ns.name.toList.length ∧ _ ≠ npos by unfold npos; omega), if_neg hn, hnsp,
      hcls]
    cases ns <;> rfl

/-- **A qualified name reaches its namespace's registry**: for each of the four namespaces `ns`
and every `name`, with or without `Gyoto::` in front, `help("ns::name")` calls the `help()` of
what the registry of `ns` makes of `name`, and refuses `"ns::"`. -/
theorem help_qualified (pre : List Char) (hpre : pre = [] ∨ pre = "Gyoto::".toList)
    (ns : ClassNamespace) (name : List Char) (s : StdString)
    (hs : s.data = pre ++ (ns.name.toList ++ "::".toList ++ name)) :
    help s = if name = [] then .error ("Not a valid class name: " ++ ns.name ++ "::")
      else .ok (.subcontractor ns name) := by
  refine helpClass_qualified ns name ?_
  rw [stripGyoto_data, hs]
  rcases hpre with rfl | rfl
  · have hpre : ¬ "Gyoto::".toList <+: ns.name.toList ++ "::".toList := by cases ns <;> decide
    have hlong : "Gyoto::".toList.length ≤ (ns.name.toList ++ "::".toList).length := by
      cases ns <;> decide
    rw [List.nil_append, if_neg fun h =>
      hpre (List.prefix_of_prefix_length_le h (List.prefix_append _ _) hlong)]
  · rw [if_pos (List.prefix_append _ _), List.drop_left' (by rfl : "Gyoto::".toList.length = 7)]

/-- `Gyoto::Astrobj::Star` goes to the `Astrobj` registry with `Star`. -/
theorem help_qualified_star :
    ("Gyoto::".toList = [] ∨ "Gyoto::".toList = "Gyoto::".toList) ∧
      "Gyoto::Astrobj::Star".toList =
        "Gyoto::".toList ++ (ClassNamespace.astrobj.name.toList ++ "::".toList ++ "Star".toList) ∧
      help ⟨"Gyoto::Astrobj::Star".toList, by decide⟩ =
        if "Star".toList = [] then .error ("Not a valid class name: " ++ "Astrobj" ++ "::")
        else .ok (.subcontractor .astrobj "Star".toList) :=
  ⟨Or.inr rfl, by decide, help_qualified _ (Or.inr rfl) .astrobj _ _ (by decide)⟩

/-- **A name with no `::` never reaches a registry**: it is `Scenery`, `Screen` or `Photon`, or
refused; a one-character name with `Not a valid class name`, because `find` returns `npos` and
`npos + 2` wraps to `1`. -/
theorem help_unqualified (s : StdString) (h : ¬ "::".toList <:+: s.data) :
    help s = if s.data = "Scenery".toList then .ok .scenery
      else if s.data = "Screen".toList then .ok .screen
      else if s.data = "Photon".toList then .ok .photon
      else .error ((if s.length = 1 then "Not a valid class name: "
        else "Help string not implemented (yet) for ") ++ String.mk s.data) := by
  have hstrip : stripGyoto s = s := by
    rw [stripGyoto, if_neg]
    exact fun e => h ((show "::".toList <:+: "Gyoto::".toList from ⟨"Gyoto".toList, [], rfl⟩).trans
      (List.prefix_iff_eq_take.2 (e.symm.trans rfl)).isInfix)
  rw [help, hstrip, helpClass, find_colons_eq_npos h]
  simp only [show (npos + 2) % 2 ^ 64 = 1 by decide, show npos ≠ 0 by decide, false_or, ne_eq,
    not_true_eq_false, and_false, if_false, @eq_comm Nat 1 s.length]
  split_ifs <;> rfl

/-- `X` is refused as not a valid class name. -/
theorem help_unqualified_x :
    ¬ "::".toList <:+: ['X'] ∧
      help ⟨['X'], by decide⟩ = .error ("Not a valid class name: " ++ String.mk ['X']) :=
  ⟨by decide, (help_unqualified ⟨['X'], by decide⟩ (by decide)).trans rfl⟩

end Gyoto

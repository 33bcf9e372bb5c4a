import WorkTree.Proofs.Environment
import WorkTree.Proofs.Path
import WorkTree.Settings.Standard

set_option relaxedAutoImplicit false
set_option autoImplicit false

/-!
# What settings rely on

Settings rely on little of the library that finds and reads their values: what a caller gives for a
setting comes before the variables of the setting, the last of which counts, other names that are
given are told, and paths and integers are read as what they are. Nothing is relied on when a caller
gives something under a name that the library keeps for itself, or writes the name of a setting in
letters of another case.

## Main definitions

* `WorkTree.Given.IsPlain` — nothing but the names of settings has a meaning for the library.
* `WorkTree.Settings.Found.Follows` — what is found is what the caller and the variables give.
* `WorkTree.Settings.Library.IsConforming` — a library that settings can rely on.

## Main results

* `WorkTree.Settings.find_of_isPlain` — how values are found when no option is given.
* `WorkTree.Settings.Library.standard_isConforming` — the standard library can be relied on.
-/

namespace WorkTree

/-! ## What is relied on -/

/-- Nothing is given under a name that the library keeps for itself, and a name that is that of a
setting in letters of either case is the name of the setting. -/
structure Given.IsPlain (library : Settings.Library) (given : Given) : Prop where
  unreserved : ∀ name ∈ given.names, name ∉ library.reserved
  exact : ∀ name ∈ given.names, ∀ setting : Setting,
    setting.isCalled name = true → name = setting.name

namespace Settings

/-- What is found is what the caller and the variables give. The value that is given for a setting
comes first, then the last variable of the setting; and names that are no settings are told, which
the other variables are not. -/
structure Found.Follows (found : Found) (host : Host) (given : Given) : Prop where
  explicit : ∀ (setting : Setting) (value : Value), given.lookup setting.name = some value →
    found.value? setting = some value
  inherited : ∀ setting : Setting, given.lookup setting.name = none →
    found.value? setting =
      (host.environment.valuesOf setting.isVariable).getLast?.map Value.text
  unknown : found.unknownNames = given.names.filter fun name => name ∉ Setting.all.map Setting.name

/-- A library that settings can rely on. The names of settings are free, and values are found as
they are given (`Found.Follows`); every path that a value is read as is in normal form; and a path
in normal form and an integer are read as what they are. -/
structure Library.IsConforming (library : Library) : Prop where
  unreserved : ∀ setting : Setting, setting.name ∉ library.reserved
  found : ∀ (host : Host) {given : Given}, given.IsPlain library →
    ∃ found, library.find host given = .ok found ∧ found.Follows host given
  path_normal : ∀ {value : Value} {path : Path}, library.pathOf value = .ok path → path.IsNormal
  path_kept : ∀ {path : Path}, path.IsNormal → library.pathOf (.path path) = .ok path
  integer_kept : ∀ n : Int, library.integerOf (.int n) = .ok n

end Settings

/-! ## The standard library -/

namespace Given

/-- An option that is not given has the absent value. -/
lemma option_of_notMem {given : Given} {name : String} (h : name ∉ given.names) :
    given.option name = .null := by
  have hnone : given.lookup name = none := by
    refine List.lookup_eq_none_iff.2 fun entry hentry => bne_iff_ne.2 fun heq => h ?_
    rw [heq]
    exact List.mem_map_of_mem hentry
  rw [option, hnone]
  rfl

/-- The name of a setting is that of no other one. -/
lemma isCalled_name (setting other : Setting) :
    setting.isCalled other.name = decide (setting = other) := by
  cases setting <;> cases other <;> decide

namespace IsPlain

variable {library : Settings.Library} {given : Given} (h : given.IsPlain library)
include h

/-- The name of a setting is written in one way only. -/
lemma isCalled_iff {name : String} (hmem : name ∈ given.names) (setting : Setting) :
    setting.isCalled name = true ↔ name = setting.name := by
  refine ⟨h.exact name hmem setting, ?_⟩
  rintro rfl
  rw [isCalled_name]
  exact decide_eq_true rfl

/-- The value of a setting stands under its name. -/
lemma setting?_eq (setting : Setting) : given.setting? setting = given.lookup setting.name := by
  have hentries : ∀ entry ∈ given, setting.isCalled entry.1 = (setting.name == entry.1) := by
    intro entry hentry
    rw [Bool.eq_iff_iff, h.isCalled_iff (List.mem_map_of_mem hentry), beq_iff_eq, eq_comm]
  clear h
  induction given with
  | nil => rfl
  | cons entry rest ih =>
    obtain ⟨hentry, hrest⟩ := List.forall_mem_cons.1 hentries
    rw [setting?, List.find?_cons, List.lookup_cons, hentry]
    cases setting.name == entry.1
    · exact ih hrest
    · rfl

end IsPlain

end Given

namespace Settings

namespace Standard

section

variable {given : Given} (h : given.IsPlain .standard)
include h

/-- No option is given. -/
lemma option_eq_null {name : String} (hname : name ∈ Given.options) : given.option name = .null :=
  Given.option_of_notMem fun hmem => h.unreserved name hmem (List.mem_cons_of_mem _ hname)

/-- Without options, settings are looked for in the usual way. -/
lemma lookupFor?_of_isPlain (host : Host) : lookupFor? host given = .ok (some {}) := by
  have hself : selfName ∉ given.names := fun hmem =>
    h.unreserved _ hmem List.mem_cons_self
  have hline : CommandLine.ofGiven given = .ok [] := by
    rw [CommandLine.ofGiven, option_eq_null h (by decide)]
    rfl
  have hlookup : Lookup.ofGiven host given = .ok {} := by
    unfold Lookup.ofGiven Lookup.leadFor Lookup.usesLead Given.holds
    simp (disch := decide) only [option_eq_null h, hline]
    rfl
  rw [lookupFor?, Given.requireFree, if_neg hself, option_eq_null h (by decide), hlookup]
  rfl

/-- **Without options**, the value of a setting is the one that is given, or else the last variable
of the setting. -/
theorem find_of_isPlain (host : Host) :
    find host given = .ok ⟨({} : Lookup).value? host.environment given, given.unknownNames⟩ := by
  rw [find, lookupFor?_of_isPlain h]
  rfl

/-- Names that are not those of settings stand for nothing. -/
lemma unknownNames_of_isPlain :
    given.unknownNames = given.names.filter fun name => name ∉ Setting.all.map Setting.name := by
  refine List.filter_congr fun name hname => ?_
  have hoption : name ∉ Given.options := fun hmem =>
    h.unreserved name hname (List.mem_cons_of_mem _ hmem)
  have hcalled : (Setting.all.any fun setting => setting.isCalled name) =
      decide (name ∈ Setting.all.map Setting.name) := by
    rw [Bool.eq_iff_iff, List.any_eq_true, decide_eq_true_iff, List.mem_map]
    refine exists_congr fun setting => and_congr_right fun _ => ?_
    rw [h.isCalled_iff hname, eq_comm]
  rw [hcalled, List.contains_eq_mem, decide_eq_false hoption, Bool.false_or, decide_not]

end

/-- Where the usual way of looking has regard to a variable, it is one of the setting. -/
lemma inherited?_eq (environment : Environment) (setting : Setting) :
    ({} : Lookup).inherited? environment setting =
      (environment.valuesOf setting.isVariable).getLast?.map Value.text := by
  have hcounts : ∀ entry : String × String,
      (({} : Lookup).agree entry.1 (({} : Lookup).lead ++ setting.name) &&
        !(({} : Lookup).skipsEmpty && entry.2 == "")) = setting.isVariable entry.1 :=
    fun _ => Bool.and_true _
  rw [Lookup.inherited?, Environment.valuesOf, Environment.those, List.getLast?_eq_head?_reverse,
    ← List.map_reverse, ← List.filter_reverse, List.head?_map, List.head?_filter, Option.map_map]
  dsimp only
  rw [funext hcounts]
  rfl

/-- What is found without options is what the caller and the variables give. -/
lemma follows_of_isPlain {given : Given} (h : given.IsPlain .standard) (host : Host) :
    Found.Follows ⟨({} : Lookup).value? host.environment given, given.unknownNames⟩ host given where
  explicit setting value hgiven := by
    change ({} : Lookup).value? host.environment given setting = some value
    rw [Lookup.value?, h.setting?_eq, hgiven]
    rfl
  inherited setting hgiven := by
    change ({} : Lookup).value? host.environment given setting = _
    rw [Lookup.value?, h.setting?_eq, hgiven, inherited?_eq]
    rfl
  unknown := unknownNames_of_isPlain h

/-- A path is read in normal form, whether from a text or from a path. -/
lemma pathOf_isNormal {value : Value} {path : Path} (h : pathOf value = .ok path) :
    path.IsNormal := by
  cases value with
  | text s =>
    obtain rfl := Except.ok.inj h
    exact Path.ofString_isNormal s
  | path p =>
    obtain rfl := Except.ok.inj h
    exact Path.ofString_isNormal p.text
  | _ => cases h

end Standard

/-- **The standard library can be relied on.** -/
theorem Library.standard_isConforming : Library.standard.IsConforming where
  unreserved := by rintro (_ | _) <;> decide
  found host _ h := ⟨_, Standard.find_of_isPlain h host, Standard.follows_of_isPlain h host⟩
  path_normal := Standard.pathOf_isNormal
  path_kept h := congrArg Except.ok (Path.ofString_text h)
  integer_kept _ := rfl

end Settings

end WorkTree

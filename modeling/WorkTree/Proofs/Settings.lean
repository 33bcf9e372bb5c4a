import WorkTree.Proofs.Settings.Library
import WorkTree.Session.Call

set_option relaxedAutoImplicit false
set_option autoImplicit false

/-!
# Settings that are carried over

Settings that were checked describe a workspace by themselves: their directory is absolute, has no
parts that lead elsewhere and is located as it is on every host, and they can be given again, under
any environment, for the same directory and time limit. Whatever the directory was taken from, it
was located as a path in normal form, since no other paths are read.

## Main definitions

* `WorkTree.Settings.CarriesOver` — settings that can be given again.

## Main results

* `WorkTree.Settings.load_isLocated` — the directory of settings was located.
* `WorkTree.Settings.load_carriesOver` — settings carry over to any environment.
-/

namespace WorkTree

namespace Settings

variable {library : Library} {host : Host} {given : Given} {settings : Settings}

/-! ## The directory -/

/-- The directory that a value stands for was located. -/
lemma directoryOf_isLocated (hlibrary : library.IsConforming) (hhost : host.IsProper)
    {value : Value} {directory : Path}
    (hdirectory : directoryOf library host value = .ok (.ok directory)) :
    directory.IsLocated := by
  unfold directoryOf at hdirectory
  split at hdirectory
  · cases Except.ok.inj hdirectory
  · next path hpath =>
    split at hdirectory
    · next hlocate =>
      obtain rfl := Except.ok.inj (Except.ok.inj hdirectory)
      exact Host.locate_isLocated hhost (hlibrary.path_normal hpath) hlocate
    · cases Except.ok.inj hdirectory
    · cases hdirectory

/-- Values that are settings have a directory that was located. -/
lemma check_isLocated (hlibrary : library.IsConforming) (hhost : host.IsProper) {found : Found}
    (h : check library host found = .ok settings) : settings.projectPath.IsLocated := by
  unfold check at h
  dsimp only at h
  split at h
  · cases h
  · next directory hdirectory =>
    split at h
    · obtain rfl := Except.ok.inj h
      exact directoryOf_isLocated hlibrary hhost hdirectory
    · cases h

/-- Settings from what a caller gives have a directory that was located. -/
lemma build_isLocated (hlibrary : library.IsConforming) (hhost : host.IsProper)
    (h : build library host given = .ok settings) : settings.projectPath.IsLocated := by
  unfold build at h
  split at h
  · cases h
  · exact check_isLocated hlibrary hhost h

/-- Settings that are loaded are built in some environment. -/
lemma build_of_load {updates : List (String × Value)}
    (h : (load library host updates given).1 = .ok settings) :
    ∃ inner, build library { host with environment := inner } given.present = .ok settings := by
  unfold load Environment.during at h
  split at h
  · cases h
  · cases hset : host.environment.setAll updates with
    | mk answer inner =>
      rw [hset] at h
      cases answer with
      | error fault => cases h
      | ok _ => exact ⟨inner, h⟩

/-- With variables that can be set, settings are loaded as they are built in some environment. -/
lemma load_of_setAll (library : Library) {updates : List (String × Value)}
    (henv : "env" ∉ given.names) (hupdates : (host.environment.setAll updates).1 = .ok ()) :
    ∃ inner, (load library host updates given).1 =
      build library { host with environment := inner } given.present := by
  rw [load, Given.requireFree, if_neg henv, Environment.during]
  cases hset : host.environment.setAll updates with
  | mk answer inner =>
    rw [hset] at hupdates
    obtain rfl : answer = .ok () := hupdates
    exact ⟨inner, rfl⟩

/-- **The directory of settings was located**, whatever it was taken from. -/
theorem load_isLocated (hlibrary : library.IsConforming) (hhost : host.IsProper)
    {updates : List (String × Value)} (h : (load library host updates given).1 = .ok settings) :
    settings.projectPath.IsLocated := by
  obtain ⟨inner, hbuild⟩ := build_of_load h
  have hinner : Host.IsProper { host with environment := inner } := hhost
  exact build_isLocated hlibrary hinner hbuild

/-! ## Giving settings again -/

/-- Settings are given again under their names. -/
lemma names_given (projectPath timeout : Value) :
    (Workspace.given projectPath timeout).names = Setting.all.map Setting.name :=
  rfl

/-- Nothing but the two settings is given with them. -/
lemma isPlain_given (hlibrary : library.IsConforming) (projectPath timeout : Value) :
    (Workspace.given projectPath timeout).IsPlain library := by
  refine ⟨fun name hname => ?_, fun name hname setting hcalled => ?_⟩
  · obtain ⟨other, -, rfl⟩ := List.mem_map.1 (names_given projectPath timeout ▸ hname)
    exact hlibrary.unreserved other
  · obtain ⟨other, -, rfl⟩ := List.mem_map.1 (names_given projectPath timeout ▸ hname)
    rw [Given.isCalled_name, decide_eq_true_iff] at hcalled
    rw [hcalled]

/-- A positive integer is a time limit of settings. -/
lemma timeoutOf_int (hlibrary : library.IsConforming) {n : Nat} (h : 0 < n) :
    timeoutOf library (.int n) = .ok ⟨n, h⟩ := by
  simp [timeoutOf, hlibrary.integer_kept, h]

/-- A directory that was located stands for itself. -/
lemma directoryOf_path (hlibrary : library.IsConforming) {path : Path} (h : path.IsLocated)
    (host : Host) : directoryOf library host (.path path) = .ok (.ok path) := by
  rw [directoryOf, hlibrary.path_kept h.normal]
  dsimp only
  rw [Host.locate_of_isLocated h host]

/-- A directory that was located, and a positive time limit, are settings on every host. -/
lemma build_given (hlibrary : library.IsConforming) {projectPath : Path}
    (hpath : projectPath.IsLocated) {timeout : Nat} (htimeout : 0 < timeout) (host : Host) :
    build library host (Workspace.given (.path projectPath) (.int timeout)) =
      .ok ⟨projectPath, timeout, htimeout⟩ := by
  obtain ⟨found, hfound, hfollows⟩ :=
    hlibrary.found host (isPlain_given hlibrary (.path projectPath) (.int timeout))
  have hdirectory : found.value? .projectPath = some (.path projectPath) :=
    hfollows.explicit .projectPath _ rfl
  have hlimit : found.value? .timeout = some (.int timeout) := hfollows.explicit .timeout _ rfl
  have hunknown : found.unknownNames = [] := hfollows.unknown
  rw [build, hfound]
  dsimp only
  rw [check, hdirectory, hlimit, hunknown]
  dsimp only [Option.getD_some]
  rw [directoryOf_path hlibrary hpath, timeoutOf_int hlibrary htimeout]
  rfl

/-- Such settings open a workspace again on every host, whatever variables are set there and can be
set meanwhile. -/
lemma reopen_of_isLocated (hlibrary : library.IsConforming) (h : settings.projectPath.IsLocated)
    {host : Host} {updates : List (String × Value)}
    (hupdates : (host.environment.setAll updates).1 = .ok ()) :
    Workspace.reopen library host updates settings = .ok (.ofSettings host settings) := by
  obtain ⟨projectPath, timeout, timeout_pos⟩ := settings
  have henv : "env" ∉ (Workspace.given (.path projectPath) (.int timeout)).names := by
    rw [names_given]
    decide
  have hpresent : (Workspace.given (.path projectPath) (.int timeout)).present =
      Workspace.given (.path projectPath) (.int timeout) := rfl
  obtain ⟨inner, hload⟩ := load_of_setAll library henv hupdates
  rw [Workspace.reopen, Workspace.create, hload, hpresent, build_given hlibrary h timeout_pos]
  rfl

/-- Settings that can be given again. The time limit is positive; the directory is absolute and goes
down from the root directory only; it is located as it is on every host, also from its text; and on
every host, whatever variables are set there and can be set meanwhile, the settings open a workspace
with just this directory and time limit, which is what its runner is made of. -/
structure CarriesOver (library : Library) (settings : Settings) : Prop where
  timeout : 1 ≤ settings.timeout
  resolved : settings.projectPath.IsResolved
  located : ∀ host : Host, host.locate settings.projectPath = .ok settings.projectPath
  read : ∀ host : Host,
    host.locate (.ofString settings.projectPath.text) = .ok settings.projectPath
  reopened : ∀ (host : Host) (updates : List (String × Value)),
    (host.environment.setAll updates).1 = .ok () →
      ∃ w, Workspace.reopen library host updates settings = .ok w ∧ w.host = host ∧
        w.directory = settings.projectPath ∧ w.runner.limit.value = .int settings.timeout ∧
          Runner.create (.path settings.projectPath) (.int settings.timeout) = .ok w.runner

/-- **Settings carry over to any environment.** Settings that were loaded on a host with a proper
working directory, from any variables and anything that a caller gives, can be given again
(`Settings.CarriesOver`).

**Proof sketch.** The directory was located (`load_isLocated`). Such a path is located as it is on
every host (`Host.locate_of_isLocated`), and it is read as it is written (`Path.ofString_text`).
When the settings are given again, both values come from the caller, so that no variable is looked
at, and both pass their checks unchanged (`reopen_of_isLocated`). -/
theorem load_carriesOver (hlibrary : library.IsConforming) (hhost : host.IsProper)
    {updates : List (String × Value)} (h : (load library host updates given).1 = .ok settings) :
    settings.CarriesOver library := by
  have hlocated := load_isLocated hlibrary hhost h
  refine ⟨settings.timeout_pos, hlocated.resolved, Host.locate_of_isLocated hlocated, ?_, ?_⟩
  · intro host'
    rw [Path.ofString_text hlocated.normal]
    exact Host.locate_of_isLocated hlocated host'
  · intro host' updates' hupdates
    refine ⟨_, reopen_of_isLocated hlibrary hlocated hupdates, rfl, rfl, rfl, ?_⟩
    rw [Runner.create, TimeLimit.ofValue_int settings.timeout_pos]
    rfl

/-- A path in the home directory of the account of the process, since no variable names another one,
with parts that lead upwards, and a time limit from a variable, are carried over. -/
theorem load_carriesOver_home :
    let host : Host :=
      { workingDirectory := ["work"], environment := .empty, accounts := [("ann", "//home/ann/")]
        ownHome := some "/root", directories := [[]] }
    let given : Given := [("project_path", .text "~/.././x/../../y"), ("timeout", .null)]
    let updates : List (String × Value) :=
      [("GITCACHE_TIMEOUT", .text "5000"), ("GITCACHE_PROJECT_PATH", .text "/elsewhere")]
    let settings : Settings := ⟨⟨.absolute, ["y"]⟩, 5000, by decide⟩
    Library.standard.IsConforming ∧ host.IsProper ∧
      (load .standard host updates given).1 = .ok settings ∧ settings.CarriesOver .standard := by
  intro host given updates settings
  have hhost : host.IsProper := by
    refine ⟨⟨rfl, by decide⟩, fun part hpart => ?_, by decide⟩
    obtain rfl := List.mem_singleton.1 hpart
    exact ⟨by decide, by decide, by decide⟩
  have hload : (load .standard host updates given).1 = .ok settings := by decide
  exact ⟨Library.standard_isConforming, hhost, hload,
    load_carriesOver Library.standard_isConforming hhost hload⟩

end Settings

end WorkTree

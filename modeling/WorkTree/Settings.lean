import WorkTree.Settings.Library

set_option relaxedAutoImplicit false
set_option autoImplicit false

/-!
# Settings

A session has two settings, the directory it works in and the time limit for each command. Each is
taken from the caller if given, else from the environment, else it has a default. All settings are
checked before any problem is reported, and names that are no settings are problems too. Finding the
values and reading them is left to a library.

## Main definitions

* `WorkTree.Settings` — checked settings.
* `WorkTree.Settings.check` — settings from the values that are found.
* `WorkTree.Settings.build` — settings from what a caller gives, in a host's environment.
* `WorkTree.Settings.load` — the same with some environment variables set for the occasion and
  without the settings that are given as absent.
-/

namespace WorkTree

/-- Checked settings: an absolute directory and a positive time limit in milliseconds. -/
@[ext]
structure Settings where
  projectPath : Path
  timeout : Nat
  timeout_pos : 0 < timeout
  deriving Repr

/-- Equality of settings is decided on the directory and the time limit. -/
instance : DecidableEq Settings := fun a b =>
  decidable_of_iff (a.projectPath = b.projectPath ∧ a.timeout = b.timeout) Settings.ext_iff.symm

namespace Settings

/-- The time limit that holds when none is given. -/
def defaultTimeout : Nat :=
  30000

/-! ## Checking one setting -/

/-- The time limit that a value stands for, which has to be positive. -/
def timeoutOf (library : Library) (value : Value) : Except Reason { n : Nat // 0 < n } :=
  match library.integerOf value with
  | .error reason => .error reason
  | .ok n => if h : 0 < n.toNat then .ok ⟨n.toNat, h⟩ else .error .notPositive

/-- The directory that a value stands for. A home directory that is not known is a fault and not a
problem of the setting. -/
def directoryOf (library : Library) (host : Host) (value : Value) :
    Except Fault (Except Reason Path) :=
  match library.pathOf value with
  | .error reason => .ok (.error reason)
  | .ok path =>
    match host.locate path with
    | .ok directory => .ok (.ok directory)
    | .error .embeddedNul => .ok (.error .embeddedNul)
    | .error .homeUnknown => .error .homeUnknown

/-! ## All settings -/

/-- The problem of a setting, if its check found one. -/
def problemOf {α : Type} (setting : Setting) : Except Reason α → List Problem
  | .ok _ => []
  | .error reason => [⟨setting.name, reason⟩]

/-- Settings from the values that are found. The directory is checked first, then the time limit,
then the names that stand for nothing; without a value the directory is the working directory. -/
def check (library : Library) (host : Host) (found : Found) : Except Rejection Settings :=
  let defaultDirectory : Value := .path ⟨.absolute, host.workingDirectory⟩
  match directoryOf library host ((found.value? .projectPath).getD defaultDirectory) with
  | .error fault => .error (.interrupted fault)
  | .ok directory =>
    let timeout := timeoutOf library ((found.value? .timeout).getD (.int defaultTimeout))
    let unknown := found.unknownNames.map fun name => Problem.mk name .unknownName
    match directory, timeout, unknown with
    | .ok projectPath, .ok ⟨timeout, timeout_pos⟩, [] => .ok { projectPath, timeout, timeout_pos }
    | _, _, _ =>
      .error (.invalid (problemOf .projectPath directory ++ problemOf .timeout timeout ++ unknown))

/-- Settings from what a caller gives. -/
def build (library : Library) (host : Host) (given : Given) : Except Rejection Settings :=
  match library.find host given with
  | .error fault => .error (.interrupted fault)
  | .ok found => check library host found

/-- Settings from what a caller gives, with some environment variables set meanwhile. Settings that
are given as absent count as not given, and none has the name by which the variables are taken. The
environment that is left comes with the answer. -/
def load (library : Library) (host : Host) (updates : List (String × Value)) (given : Given) :
    Except Rejection Settings × Environment :=
  match given.requireFree "env" "load_config" with
  | .error fault => (.error (.interrupted fault), host.environment)
  | .ok () =>
    match host.environment.during updates fun environment =>
        build library { host with environment } given.present with
    | (.error fault, environment) => (.error (.interrupted fault), environment)
    | (.ok answer, environment) => (answer, environment)

end Settings

end WorkTree

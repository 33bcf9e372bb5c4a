import WorkTree.Host.Environment

set_option relaxedAutoImplicit false
set_option autoImplicit false

/-!
# The host

What a process finds around it: its working directory and environment, the home directories of the
accounts, its own among them, and the directories and devices that exist. There are no symbolic
links.

## Main definitions

* `WorkTree.Host` — the surroundings of a process.
* `WorkTree.Host.look` — what is found at the end of a path.
* `WorkTree.Host.expandHome` — a path with a leading `~` replaced by a home directory.
* `WorkTree.Host.locate` — the absolute path that a path means.
-/

namespace WorkTree

/-- The surroundings of a process. Accounts have home directories, and so has the account that the
process itself runs under, if it is a known one. Directories and devices are given by the names that
lead to them from the root directory. -/
structure Host where
  workingDirectory : List String
  environment : Environment
  accounts : List (String × String)
  ownHome : Option String := none
  directories : List (List String)
  devices : List (List String) := []

namespace Host

/-- The longest name that a file system accepts, in bytes. -/
def maxNameBytes : Nat :=
  255

/-- Paths have fewer bytes than this. -/
def pathBytesBound : Nat :=
  4096

/-! ## What exists -/

/-- What is found at the end of a path. -/
inductive Look where
  | directory
  | device
  | noDirectory
  | nameTooLong
  deriving DecidableEq, Repr

/-- Follows names from an existing directory. A name is looked at only when everything before it is
a directory that exists. -/
def walk (host : Host) (directory : List String) : List String → Look
  | [] => .directory
  | name :: rest =>
    if maxNameBytes < name.utf8ByteSize then .nameTooLong
    else
      let next := Path.follow directory name
      if next ∈ host.directories then host.walk next rest
      else if next ∈ host.devices ∧ rest = [] then .device
      else .noDirectory

/-- What is found at the end of a path. A path with the character U+0000 leads nowhere. -/
def look (host : Host) (path : Path) : Look :=
  if path.hasNul then .noDirectory
  else if pathBytesBound ≤ path.text.utf8ByteSize then .nameTooLong
  else host.walk (if path.root = .relative then host.workingDirectory else []) path.parts

/-! ## Locating a path -/

/-- Why a path cannot be located. -/
inductive LocateError where
  | homeUnknown
  | embeddedNul
  deriving DecidableEq, Repr

/-- The home directory of a named account. When no name is given it is the one of the environment,
or that of the account of the process where the environment has none. Slashes at its end are
dropped. -/
def home? (host : Host) (account : String) : Option String :=
  let entry :=
    if account = "" then (host.environment.get? "HOME").or host.ownHome
    else host.accounts.lookup account
  entry.map fun home =>
    let bare := (home.toList.reverse.dropWhile (· = '/')).reverse
    if bare = [] then "/" else String.ofList bare

/-- The path with a leading `~` or `~account` replaced by the home directory. A home directory that
begins with `~` itself is as good as none. -/
def expandHome (host : Host) (path : Path) : Except LocateError Path :=
  match path.root, path.parts.head?.map String.toList with
  | .relative, some ('~' :: account) =>
    if account.any (·.toNat == 0) then .error .embeddedNul
    else
      match host.home? (String.ofList account) with
      | none => .error .homeUnknown
      | some home =>
        if home.toList.head? = some '~' then .error .homeUnknown
        else
          let base := Path.ofString home
          .ok ⟨base.root, base.parts ++ path.parts.drop 1⟩
  | _, _ => .ok path

/-- The absolute path without `..` that a path means for this process. -/
def locate (host : Host) (path : Path) : Except LocateError Path :=
  match host.expandHome path with
  | .error e => .error e
  | .ok expanded =>
    if expanded.hasNul then .error .embeddedNul
    else .ok (expanded.resolveFrom host.workingDirectory)

end Host

end WorkTree

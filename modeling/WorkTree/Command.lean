import WorkTree.Value

set_option relaxedAutoImplicit false
set_option autoImplicit false

/-!
# Commands

The git commands that a session gives, and their arguments. A name that is an argument of its own is
passed on as it is given, and has to be a text by the time that git is started; a name that is part
of an argument goes in by its text.

## Main definitions

* `WorkTree.Command` — the commands.
* `WorkTree.Command.args` — the arguments that follow the name of the program.
* `WorkTree.Command.isLocal` — whether a command runs in the directory of the session.
* `WorkTree.Command.isReadOnly` — the commands that change nothing.
-/

namespace WorkTree

/-- The commands that a session gives. -/
inductive Command where
  | version
  | insideWorkTree
  | status
  | currentBranch
  | remotes
  | showBranch (name : String)
  | listRefs
  | listMerged (target : String)
  | createBranch (name : Value)
  | createAndCheckout (name : Value)
  | checkout (name : Value)
  | deleteBranch (name : Value) (force : Bool)
  | stageAll
  | stage (paths : List String)
  | commitStaged (message : String)
  | commitPaths (message : String) (paths : List String)
  | push (remote branch : Value)
  deriving DecidableEq, Repr

namespace Command

/-- Arguments that are texts. -/
def words (texts : List String) : List Value :=
  texts.map .text

/-- The question for the current branch. -/
def currentBranchWords : List String :=
  ["symbolic-ref", "--quiet", "--short", "HEAD"]

/-- The arguments of a command. -/
def args : Command → List Value
  | .version => words ["--version"]
  | .insideWorkTree => words ["rev-parse", "--is-inside-work-tree"]
  | .status => words ["status", "--porcelain"]
  | .currentBranch => words currentBranchWords
  | .remotes => words ["remote", "-v"]
  | .showBranch name => words ["show-ref", "--verify", "--quiet", "refs/heads/" ++ name]
  | .listRefs => words ["for-each-ref", "--format=%(refname)", "refs/heads", "refs/remotes"]
  | .listMerged target =>
    words ["for-each-ref", "--format=%(refname:short)", "--merged=" ++ target, "refs/heads"]
  | .createBranch name => words ["branch"] ++ [name]
  | .createAndCheckout name => words ["checkout", "-b"] ++ [name]
  | .checkout name => words ["checkout"] ++ [name] ++ words ["--"]
  | .deleteBranch name force => words ["branch", if force then "-D" else "-d"] ++ [name]
  | .stageAll => words ["add", "--all"]
  | .stage paths => words (["add", "--"] ++ paths)
  | .commitStaged message => words ["commit", "-m", message]
  | .commitPaths message paths => words (["commit", "-m", message, "--"] ++ paths)
  | .push remote branch => words ["push"] ++ [remote, branch]

/-- Every command but the question for the version runs in the directory of the session. -/
def isLocal : Command → Bool
  | .version => false
  | _ => true

/-- The commands that only ask. -/
def isReadOnly : Command → Bool
  | .version | .insideWorkTree | .status | .currentBranch | .remotes | .showBranch _ | .listRefs
  | .listMerged _ => true
  | _ => false

end Command

end WorkTree
